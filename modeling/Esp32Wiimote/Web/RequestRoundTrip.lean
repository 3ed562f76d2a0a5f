import Esp32Wiimote.Web.RequestPairs

/-!
# Serialized commands

A command that the buffers can hold is written as a JSON object, with the verb at any position,
any white space between the tokens, and quotes and backslashes escaped. The parser returns it
exactly when no value fills its buffer: a value of 255 characters has room, but the loop over
the characters ends in front of its closing quote.
-/

namespace Esp32Wiimote.Web

open CText
open JsonText (Item Member Pairs Space escapeText)

/-! ## Commands and their texts -/

/-- Printable ASCII. -/
def Printable (text : CString) : Prop := ∀ c ∈ text, 0x20 ≤ c ∧ c ≤ 0x7E

instance (text : CString) : Decidable (Printable text) :=
  inferInstanceAs (Decidable (∀ c ∈ text, 0x20 ≤ c ∧ c ≤ 0x7E))

/-- The command has the sizes of the buffers, and its verb stands under no other key. -/
structure Storable (cmd : WebParsedCommand) : Prop where
  verb_size : 1 ≤ cmd.verb.length ∧ cmd.verb.length ≤ 63
  verb_printable : Printable cmd.verb
  field_count : cmd.fieldCount ≤ kWebRequestMaxFieldCount
  key_size : ∀ field ∈ cmd.fields, field.key.length ≤ 63
  key_printable : ∀ field ∈ cmd.fields, Printable field.key
  key_ne : ∀ field ∈ cmd.fields, field.key ≠ ascii "command"
  value_size : ∀ field ∈ cmd.fields, field.value.length ≤ 255
  value_printable : ∀ field ∈ cmd.fields, Printable field.value

/-- The entry of a field. -/
def fieldEntry (field : WebParsedField) : Entry := (field.key, field.value)

/-- The body writes the verb somewhere among the fields, each string with its quotes and
backslashes escaped. -/
def Serializes (body : List UInt8) (cmd : WebParsedCommand) : Prop :=
  ∃ front behind, cmd.fields = front ++ behind ∧
    JsonText.IsObjectOf (fun items text => items = escapeText text) body
      (front.map fieldEntry ++ (ascii "command", cmd.verb) :: behind.map fieldEntry)

/-- A pair without white space. -/
def compactMember (entry : Entry) : Member :=
  ⟨JsonText.noSpace, escapeText entry.1, JsonText.noSpace, JsonText.noSpace, escapeText entry.2,
    JsonText.noSpace⟩

/-- Entries without white space. -/
def compactPairs : Entry → List Entry → Pairs
  | entry, [] => .last (compactMember entry)
  | entry, next :: rest => .more (compactMember entry) (compactPairs next rest)

/-- The verb and the fields behind it, without white space. -/
def compactBody (cmd : WebParsedCommand) : List UInt8 :=
  0x7B :: (compactPairs (ascii "command", cmd.verb) (cmd.fields.map fieldEntry)).render

/-- They have no comma behind the last. -/
theorem noTrailingComma_compactPairs (entry : Entry) (rest : List Entry) :
    (compactPairs entry rest).NoTrailingComma := by
  induction rest generalizing entry with
  | nil => exact trivial
  | cons next rest ih =>
    cases rest with
    | nil => exact trivial
    | cons => exact ih next

/-- Each member has the text of its entry. -/
theorem forall₂_compactPairs (entry : Entry) (rest : List Entry) :
    List.Forall₂ (fun m entry => m.key = escapeText entry.1 ∧ m.value = escapeText entry.2)
      (compactPairs entry rest).members (entry :: rest) := by
  induction rest generalizing entry with
  | nil => exact .cons ⟨rfl, rfl⟩ .nil
  | cons next rest ih => exact .cons ⟨rfl, rfl⟩ (ih next)

/-- Every command has a serialization. -/
theorem serializes_compactBody (cmd : WebParsedCommand) : Serializes (compactBody cmd) cmd := by
  refine ⟨[], cmd.fields, rfl, JsonText.noSpace, _, JsonText.noSpace, ?_,
    noTrailingComma_compactPairs _ _, forall₂_compactPairs _ _⟩
  rw [compactBody, JsonText.noSpace, List.append_nil, List.nil_append]

/-- A printable text has no control characters. -/
theorem Printable.le {text : CString} (h : Printable text) : ∀ c ∈ text, 0x20 ≤ c :=
  fun c hc => (h c hc).1

/-- A serialization of printable strings is a JSON object that stands for them. -/
theorem Serializes.isObject {body : List UInt8} {cmd : WebParsedCommand} (hbody : Serializes body cmd)
    (h : Storable cmd) : ∃ front behind, cmd.fields = front ++ behind ∧
      JsonText.IsObject body
        (front.map fieldEntry ++ (ascii "command", cmd.verb) :: behind.map fieldEntry) := by
  obtain ⟨front, behind, hfields, before, pairs, after, htext, hcomma, hentries⟩ := hbody
  refine ⟨front, behind, hfields, before, pairs, after, htext, hcomma, ?_⟩
  have hprintable : ∀ entry ∈ front.map fieldEntry ++ (ascii "command", cmd.verb) :: behind.map fieldEntry,
      Printable entry.1 ∧ Printable entry.2 := by
    have hfield (field : WebParsedField) (hmem : field ∈ cmd.fields) :
        Printable (fieldEntry field).1 ∧ Printable (fieldEntry field).2 :=
      ⟨h.key_printable field hmem, h.value_printable field hmem⟩
    intro entry hentry
    rcases List.mem_append.mp hentry with hmem | hmem
    · obtain ⟨field, hfront, rfl⟩ := List.mem_map.mp hmem
      exact hfield field (hfields ▸ List.mem_append_left behind hfront)
    · rcases List.mem_cons.mp hmem with rfl | hmem
      · have hkey : Printable (ascii "command") := by decide +kernel
        exact ⟨hkey, h.verb_printable⟩
      · obtain ⟨field, hbehind, rfl⟩ := List.mem_map.mp hmem
        exact hfield field (hfields ▸ List.mem_append_right front hbehind)
  generalize pairs.members = members at hentries ⊢
  generalize front.map fieldEntry ++ (ascii "command", cmd.verb) :: behind.map fieldEntry = entries
    at hentries hprintable ⊢
  induction hentries with
  | nil => exact .nil
  | @cons m entry members entries hentry _ ih =>
    refine .cons ⟨?_, ?_⟩ (ih fun entry hmem => hprintable entry (List.mem_cons_of_mem _ hmem))
    · rw [hentry.1]
      exact JsonText.decodes_escapeText (hprintable entry List.mem_cons_self).1.le
    · rw [hentry.2]
      exact JsonText.decodes_escapeText (hprintable entry List.mem_cons_self).2.le

/-! ## Strings that keep their characters -/

/-- An escaped text is read as the text. -/
theorem stringValue_escapeText (text : List UInt8) : stringValue (escapeText text) = text := by
  rw [stringValue, escapeText, List.map_map]
  have hchar (c : UInt8) : (itemValue ∘ Item.ofChar) c = c := by
    rw [Function.comp_apply, Item.ofChar]
    by_cases hescaped : c = 0x22 ∨ c = 0x5C
    · rw [dif_pos hescaped]
      rcases hescaped with rfl | rfl <;> rfl
    · rw [dif_neg hescaped]
      rfl
  rw [funext hchar]
  exact List.map_id' text

/-- A copy keeps a text that fits and has no NUL. -/
theorem copyKey_eq_self (size : ℕ) {text : List UInt8} (hsize : text.length ≤ size - 1)
    (hnul : 0 ∉ text) : copyKey size text = text := by
  rw [copyKey, takeWhile_ne_nul hnul, List.take_of_length_le hsize]

/-- Nor has it a NUL. -/
theorem Printable.zero_notMem {text : CString} (h : Printable text) : 0 ∉ text := by
  intro hzero
  exact absurd (h 0 hzero).1 (by decide)

/-- Members with the texts of entries are read as these. -/
theorem entriesOf_eq {pairs : Pairs} {entries : List Entry}
    (h : List.Forall₂ (fun m entry => m.key = escapeText entry.1 ∧ m.value = escapeText entry.2)
      pairs.members entries) : entriesOf pairs = entries := by
  rw [entriesOf]
  generalize pairs.members = members at h ⊢
  induction h with
  | nil => rfl
  | cons hentry _ ih =>
    rw [List.map_cons, ih, memberEntry, hentry.1, hentry.2, stringValue_escapeText,
      stringValue_escapeText]

/-- The fields of two lists are those of the first and then of the second. -/
theorem storedFields_append (front behind : List Entry) :
    storedFields (front ++ behind) = storedFields front ++ storedFields behind := by
  rw [storedFields, List.filter_append, List.map_append]
  rfl

section
variable {cmd : WebParsedCommand} (h : Storable cmd)
include h

/-- A key that can be stored is not cut. -/
theorem Storable.copyKey_key {field : WebParsedField} (hfield : field ∈ cmd.fields) :
    copyKey 64 field.key = field.key :=
  copyKey_eq_self 64 (h.key_size field hfield) (h.key_printable field hfield).zero_notMem

/-- Nor is it taken for the verb. -/
theorem Storable.not_isVerb {field : WebParsedField} (hfield : field ∈ cmd.fields) :
    isVerb (fieldEntry field) = false := by
  rw [isVerb, fieldEntry, h.copyKey_key hfield]
  exact decide_eq_false (h.key_ne field hfield)

/-- A field that can be stored is stored as it is. -/
theorem Storable.storedField_eq {field : WebParsedField} (hfield : field ∈ cmd.fields) :
    storedField (fieldEntry field) = field := by
  have hvalue := copyKey_eq_self kWebRequestMaxValueSize (h.value_size field hfield)
    (h.value_printable field hfield).zero_notMem
  rw [storedField, fieldEntry, h.copyKey_key hfield, h.copyKey_key hfield, hvalue]

/-- The fields are stored as they are. -/
theorem Storable.storedFields_eq {fields : List WebParsedField} (hfields : fields ⊆ cmd.fields) :
    storedFields (fields.map fieldEntry) = fields := by
  induction fields with
  | nil => rfl
  | cons field rest ih =>
    have hfield : field ∈ cmd.fields := hfields List.mem_cons_self
    rw [List.map_cons, storedFields_cons, h.not_isVerb hfield, if_neg (by decide),
      h.storedField_eq hfield, ih fun f hf => hfields (List.mem_cons_of_mem field hf)]

/-- No field is the verb. -/
theorem Storable.filter_isVerb {fields : List WebParsedField} (hfields : fields ⊆ cmd.fields) :
    (fields.map fieldEntry).filter isVerb = [] := by
  rw [List.filter_eq_nil_iff]
  intro entry hentry
  obtain ⟨field, hfield, rfl⟩ := List.mem_map.mp hentry
  rw [h.not_isVerb (hfields hfield)]
  decide

/-- The entries of a command are stored as the command. -/
theorem Storable.stored_eq {front behind : List WebParsedField} (verb : CString)
    (hfields : cmd.fields = front ++ behind) :
    (⟨storedVerb verb (front.map fieldEntry ++ (ascii "command", cmd.verb) :: behind.map fieldEntry),
      storedFields (front.map fieldEntry ++ (ascii "command", cmd.verb) :: behind.map fieldEntry)⟩ :
        WebParsedCommand) = cmd := by
  have hfront : front ⊆ cmd.fields := hfields ▸ List.subset_append_left front behind
  have hbehind : behind ⊆ cmd.fields := hfields ▸ List.subset_append_right front behind
  have hcommand : isVerb (ascii "command", cmd.verb) = true := rfl
  have hverb := copyKey_eq_self 64 h.verb_size.2 h.verb_printable.zero_notMem
  rw [storedVerb, List.filter_append, List.filter_cons, h.filter_isVerb hfront,
    h.filter_isVerb hbehind, storedFields_append, storedFields_cons, h.storedFields_eq hfront,
    h.storedFields_eq hbehind, if_pos hcommand, if_pos hcommand, ← hfields]
  simp only [List.nil_append, List.getLast?_singleton, Option.map_some, Option.getD_some, hverb]

end

/-- A command that is returned has no value that fills its buffer. -/
theorem Serializes.value_short {body : List UInt8} {cmd earlier : WebParsedCommand}
    (hbody : Serializes body cmd)
    (hok : (webRequestParse (some body) body.length earlier).1 = .Ok) :
    ∀ field ∈ cmd.fields, field.value.length ≤ 254 := by
  obtain ⟨front, behind, hfields, before, pairs, after, rfl, -, hentries⟩ := hbody
  obtain ⟨-, before', pairs', rest, htext, hfits, -⟩ := webRequestParse_ok_iff.mp ⟨hok, rfl⟩
  obtain ⟨rfl, -⟩ := JsonText.object_unique htext
  rw [entriesOf_eq hentries] at hfits
  intro field hfield
  have hentry : fieldEntry field ∈
      front.map fieldEntry ++ (ascii "command", cmd.verb) :: behind.map fieldEntry := by
    rw [hfields] at hfield
    rcases List.mem_append.mp hfield with hmem | hmem
    · exact List.mem_append_left _ (List.mem_map_of_mem hmem)
    · exact List.mem_append_right _ (List.mem_cons_of_mem _ (List.mem_map_of_mem hmem))
  exact (hfits _ hentry).2

/-- A serialized command is parsed as itself exactly when no value has 255 characters. -/
theorem webRequestParse_serialized_iff {body : List UInt8} {cmd earlier : WebParsedCommand}
    (h : Storable cmd) (hbody : Serializes body cmd) (hsize : body.length ≤ kWebRequestMaxBodySize) :
    ((webRequestParse (some body) body.length earlier).1 = .Ok ∧
        (webRequestParse (some body) body.length earlier).2.1 = cmd) ↔
      ∀ field ∈ cmd.fields, field.value.length ≤ 254 := by
  constructor
  · rintro ⟨hok, -⟩
    exact hbody.value_short hok
  · intro hshort
    obtain ⟨front, behind, hfields, before, pairs, after, hbody, -, hentries⟩ := hbody
    rw [webRequestParse_ok_iff]
    refine ⟨hsize, before, pairs, after.val, hbody, ?_⟩
    rw [entriesOf_eq hentries]
    have hstored := h.stored_eq earlier.verb hfields
    refine ⟨?_, ?_, ?_, ?_, hstored.symm⟩
    · intro entry hentry
      have hfieldFits (field : WebParsedField) (hfield : field ∈ cmd.fields) : Fits (fieldEntry field) :=
        ⟨Nat.le_trans (h.key_size field hfield) (by decide), hshort field hfield⟩
      rcases List.mem_append.mp hentry with hmem | hmem
      · obtain ⟨field, hfield, rfl⟩ := List.mem_map.mp hmem
        exact hfieldFits field (hfields ▸ List.mem_append_left behind hfield)
      · rcases List.mem_cons.mp hmem with rfl | hmem
        · have hkey : (ascii "command").length ≤ 254 := by decide
          exact ⟨hkey, Nat.le_trans h.verb_size.2 (by decide)⟩
        · obtain ⟨field, hfield, rfl⟩ := List.mem_map.mp hmem
          exact hfieldFits field (hfields ▸ List.mem_append_right front hfield)
    · have hfieldsEq := congrArg WebParsedCommand.fields hstored
      simp only at hfieldsEq
      rw [hfieldsEq]
      exact h.field_count
    · rw [List.any_append, List.any_cons]
      exact Bool.or_true _
    · intro hempty
      have hverb := h.verb_size.1
      rw [hempty, List.length_nil] at hverb
      exact absurd hverb (by decide)

/-- A command with the verb `a` and one field `k`. -/
def oneField (value : CString) : WebParsedCommand := ⟨[0x61], [⟨[0x6B], value⟩]⟩

/-- A command with one printable value of up to 255 bytes can be stored. -/
theorem storable_oneField {value : CString} (hsize : value.length ≤ 255) (hprintable : Printable value) :
    Storable (oneField value) := by
  have hfield (P : WebParsedField → Prop) (h : P ⟨[0x6B], value⟩) :
      ∀ field ∈ (oneField value).fields, P field := by
    intro field hmem
    rwa [List.mem_singleton.mp hmem]
  have hverb : Printable [0x61] := by decide +kernel
  have hkey : Printable [0x6B] := by decide +kernel
  have hne : ([0x6B] : CString) ≠ ascii "command" := by decide
  exact ⟨⟨Nat.le_refl 1, Nat.le_add_left 1 62⟩, hverb, Nat.le_add_left 1 15,
    hfield _ (Nat.le_add_left 1 62), hfield _ hkey, hfield _ hne, hfield _ hsize, hfield _ hprintable⟩

/-- A value of a quote and a backslash. -/
theorem webRequestParse_serialized_escapes :
    ((webRequestParse (some (compactBody (oneField [0x22, 0x5C]))) (compactBody (oneField [0x22, 0x5C])).length
        .empty).1 = .Ok ∧
      (webRequestParse (some (compactBody (oneField [0x22, 0x5C]))) (compactBody (oneField [0x22, 0x5C])).length
        .empty).2.1 = oneField [0x22, 0x5C]) ↔
      ∀ field ∈ (oneField [0x22, 0x5C]).fields, field.value.length ≤ 254 :=
  webRequestParse_serialized_iff (storable_oneField (by decide) (by decide +kernel)) (serializes_compactBody _)
    (by decide)

/-- A value of 255 characters has a serialization that is not parsed. -/
theorem serialized_not_always_parsed :
    ¬ ∀ (body : List UInt8) (cmd earlier : WebParsedCommand), Storable cmd → Serializes body cmd →
      body.length ≤ kWebRequestMaxBodySize →
        (webRequestParse (some body) body.length earlier).1 = .Ok ∧
          (webRequestParse (some body) body.length earlier).2.1 = cmd := by
  intro hclaim
  have hprintable : Printable (List.replicate 255 0x61) := by
    intro c hc
    rw [List.eq_of_mem_replicate hc]
    decide
  have hstorable := storable_oneField (Nat.le_of_eq List.length_replicate) hprintable
  have hserializes := serializes_compactBody (oneField (List.replicate 255 0x61))
  obtain ⟨hok, -⟩ := hclaim _ _ .empty hstorable hserializes (by decide +kernel)
  have hshort := hserializes.value_short hok _ List.mem_cons_self
  rw [List.length_replicate] at hshort
  exact absurd hshort (by decide)

end Esp32Wiimote.Web
