import Esp32Wiimote.Web.RequestRoundTrip

/-!
# What an accepted body says

An accepted body begins with an object of strings, one of whose keys is the verb. The parser
reads an escape without `\u`: `n`, `r` and `t` stand for control characters and every other
character for itself. The strings are stored as C strings, keys and verb cut to their buffers.
Where the escapes are those that the parser reads as JSON does and nothing is cut, the command
is the one that the JSON object says.
-/

namespace Esp32Wiimote.Web

open CText
open JsonText (Item Member Pairs Space Decodes)

/-- A character that the parser reads as JSON does. -/
def ReadAsJson : Item → Prop
  | .plain c _ _ => 0x20 ≤ c
  | .escaped c => c = 0x22 ∨ c = 0x5C ∨ c = 0x2F ∨ c = 0x6E ∨ c = 0x72 ∨ c = 0x74

/-- Both strings are read as JSON, and their copies are not cut. -/
structure Faithful (m : Member) : Prop where
  key_json : ∀ item ∈ m.key, ReadAsJson item
  value_json : ∀ item ∈ m.value, ReadAsJson item
  key_size : m.key.length ≤ 63
  verb_size : isVerb (memberEntry m) = true → m.value.length ≤ 63

/-- The body is a JSON object of strings, and the command is what the object says: the verb is
the value of its last key `command`, the fields are the other members in order. -/
def SaysExactly (body : List UInt8) (parsed : WebParsedCommand) : Prop :=
  ∃ entries : List Entry, JsonText.IsObject body entries ∧
    (entries.filter fun entry => entry.1 = ascii "command").getLast? =
      some (ascii "command", parsed.verb) ∧
    parsed.fields.map fieldEntry = entries.filter fun entry => entry.1 ≠ ascii "command"

/-! ## Decoding -/

/-- A string that is read as JSON stands for its value. -/
theorem decodes_stringValue {items : List Item} (h : ∀ item ∈ items, ReadAsJson item) :
    Decodes items (stringValue items) := by
  induction items with
  | nil => exact Decodes.nil
  | cons item items ih =>
    have hrest := ih fun next hnext => h next (List.mem_cons_of_mem item hnext)
    have hitem := h item List.mem_cons_self
    cases item with
    | plain c hquote hbackslash => exact Decodes.plain hitem hrest
    | escaped c => rcases hitem with rfl | rfl | rfl | rfl | rfl | rfl <;> exact Decodes.escape rfl hrest

/-- No character that is read as JSON is a NUL. -/
theorem zero_notMem_stringValue {items : List Item} (h : ∀ item ∈ items, ReadAsJson item) :
    0 ∉ stringValue items := by
  intro hzero
  obtain ⟨item, hitem, hvalue⟩ := List.mem_map.mp hzero
  have hjson := h item hitem
  cases item with
  | plain c hquote hbackslash =>
    have hprintable : 0x20 ≤ c := hjson
    rw [show c = 0 from hvalue] at hprintable
    exact absurd hprintable (by decide)
  | escaped c =>
    rcases hjson with rfl | rfl | rfl | rfl | rfl | rfl <;> exact absurd hvalue (by decide)

section
variable {m : Member} (h : Faithful m)
include h

/-- A faithful key is not cut. -/
theorem Faithful.copyKey_key : copyKey 64 (stringValue m.key) = stringValue m.key := by
  refine copyKey_eq_self 64 ?_ (zero_notMem_stringValue h.key_json)
  rw [length_stringValue]
  exact h.key_size

/-- It is the verb exactly when it is `command`. -/
theorem Faithful.isVerb_eq :
    isVerb (memberEntry m) = decide ((memberEntry m).1 = ascii "command") := by
  rw [isVerb, memberEntry, h.copyKey_key]

/-- A faithful member is stored as it is. -/
theorem Faithful.fieldEntry_storedField (hfits : Fits (memberEntry m)) :
    fieldEntry (storedField (memberEntry m)) = memberEntry m := by
  have hvalue := copyKey_eq_self kWebRequestMaxValueSize
    (Nat.le_trans hfits.2 (by decide)) (zero_notMem_stringValue h.value_json)
  rw [fieldEntry, storedField, memberEntry, h.copyKey_key, h.copyKey_key]
  exact congrArg (Prod.mk (stringValue m.key)) hvalue

/-- A faithful verb is not cut. -/
theorem Faithful.copyKey_value (hcommand : isVerb (memberEntry m) = true) :
    copyKey 64 (memberEntry m).2 = (memberEntry m).2 := by
  refine copyKey_eq_self 64 ?_ (zero_notMem_stringValue h.value_json)
  rw [memberEntry, length_stringValue]
  exact h.verb_size hcommand

end

/-! ## Accepted bodies -/

/-- The last verb of the members is the verb of the command. -/
theorem storedVerb_eq {entries : List Entry} (verb : CString) (hany : entries.any isVerb = true) :
    ∃ entry, (entries.filter isVerb).getLast? = some entry ∧
      storedVerb verb entries = copyKey 64 entry.2 := by
  cases hlast : (entries.filter isVerb).getLast? with
  | none =>
    rw [List.getLast?_eq_none_iff, List.filter_eq_nil_iff] at hlast
    obtain ⟨entry, hentry, hcommand⟩ := List.any_eq_true.mp hany
    exact absurd hcommand (hlast entry hentry)
  | some entry =>
    refine ⟨entry, rfl, ?_⟩
    rw [storedVerb, hlast, Option.map_some, Option.getD_some]

/-- The entries have a property exactly when the members do. -/
theorem forall_entriesOf {pairs : Pairs} {P : Entry → Prop} :
    (∀ entry ∈ entriesOf pairs, P entry) ↔ ∀ m ∈ pairs.members, P (memberEntry m) :=
  List.forall_mem_map

/-- A faithful object says the command that is stored. -/
theorem saysExactly_of_faithful {body : List UInt8} {before : Space} {pairs : Pairs}
    (behind : Space) (verb : CString) (hbody : body = before.val ++ 0x7B :: (pairs.render ++ behind.val))
    (hcomma : pairs.NoTrailingComma) (hfaithful : ∀ m ∈ pairs.members, Faithful m)
    (hfits : ∀ entry ∈ entriesOf pairs, Fits entry) (hany : (entriesOf pairs).any isVerb = true) :
    SaysExactly body ⟨storedVerb verb (entriesOf pairs), storedFields (entriesOf pairs)⟩ := by
  have hcommand : ∀ entry ∈ entriesOf pairs, isVerb entry = decide (entry.1 = ascii "command") :=
    forall_entriesOf.mpr fun m hm => (hfaithful m hm).isVerb_eq
  refine ⟨entriesOf pairs, ⟨before, pairs, behind, hbody, hcomma, ?_⟩, ?_, ?_⟩
  · rw [entriesOf, List.forall₂_map_right_iff, List.forall₂_same]
    intro m hm
    exact ⟨decodes_stringValue (hfaithful m hm).key_json, decodes_stringValue (hfaithful m hm).value_json⟩
  · obtain ⟨entry, hlast, hverb⟩ := storedVerb_eq verb hany
    rw [List.filter_congr fun entry hentry => (hcommand entry hentry).symm, hlast, hverb]
    obtain ⟨hentry, hisVerb⟩ := List.mem_filter.mp (List.mem_of_getLast? hlast)
    have hkey : entry.1 = ascii "command" := by
      rw [hcommand entry hentry] at hisVerb
      exact of_decide_eq_true hisVerb
    have hvalue : ∀ entry ∈ entriesOf pairs, isVerb entry = true → copyKey 64 entry.2 = entry.2 :=
      forall_entriesOf.mpr fun m hm => (hfaithful m hm).copyKey_value
    rw [hvalue entry hentry hisVerb, ← hkey]
  · have hfield : ∀ entry ∈ entriesOf pairs, Fits entry → fieldEntry (storedField entry) = entry :=
      forall_entriesOf.mpr fun m hm => (hfaithful m hm).fieldEntry_storedField
    rw [storedFields, List.map_map]
    have hkept : (entriesOf pairs).filter (fun entry => !isVerb entry) =
        (entriesOf pairs).filter fun entry => entry.1 ≠ ascii "command" := by
      apply List.filter_congr
      intro entry hentry
      rw [hcommand entry hentry, decide_not]
    rw [hkept]
    refine (List.map_congr_left ?_).trans (List.map_id _)
    intro entry hentry
    have hmem := (List.mem_filter.mp hentry).1
    exact hfield entry hmem (hfits entry hmem)

/-- An accepted body begins with an object of strings, which gives the verb and the fields under
the parser's reading. Where it is nothing else and read faithfully, JSON says the same. -/
theorem webRequestParse_sound {body : List UInt8} {cmd : WebParsedCommand}
    (hok : (webRequestParse (some body) body.length cmd).1 = .Ok) :
    ∃ (before : Space) (pairs : Pairs) (rest : List UInt8),
      body = before.val ++ 0x7B :: (pairs.render ++ rest) ∧
      (∃ entry, ((entriesOf pairs).filter isVerb).getLast? = some entry ∧
        (webRequestParse (some body) body.length cmd).2.1.verb = copyKey 64 entry.2) ∧
      (webRequestParse (some body) body.length cmd).2.1.fields = storedFields (entriesOf pairs) ∧
      ((∀ c ∈ rest, JsonText.isSpace c = true) → pairs.NoTrailingComma →
        (∀ m ∈ pairs.members, Faithful m) →
          SaysExactly body (webRequestParse (some body) body.length cmd).2.1) := by
  obtain ⟨-, before, pairs, rest, hbody, hfits, -, hany, -, hparsed⟩ :=
    webRequestParse_ok_iff.mp ⟨hok, rfl⟩
  refine ⟨before, pairs, rest, hbody, ?_, ?_, ?_⟩
  · rw [hparsed]
    exact storedVerb_eq cmd.verb hany
  · rw [hparsed]
  · intro hspace hcomma hfaithful
    rw [hparsed]
    exact saysExactly_of_faithful ⟨rest, hspace⟩ cmd.verb hbody hcomma hfaithful hfits hany

/-- A command with two fields, spaces around its tokens, and escapes in a value and in the verb. -/
def escapedBody : List UInt8 :=
  ascii " \x7b\"command\" : \"set\\/leds\", \"mask\":\"0x01\", \"note\":\"a \\\"b\\\" \\\\ c\\n\"\x7d "

/-- Its verb and its fields are the strings with the escapes taken out. -/
theorem webRequestParse_sound_escapedBody :
    (webRequestParse (some escapedBody) escapedBody.length .empty).2.1 =
        ⟨ascii "set/leds", [⟨ascii "mask", ascii "0x01"⟩, ⟨ascii "note", ascii "a \"b\" \\ c\n"⟩]⟩ ∧
      ∃ (before : Space) (pairs : Pairs) (rest : List UInt8),
        escapedBody = before.val ++ 0x7B :: (pairs.render ++ rest) ∧
        (∃ entry, ((entriesOf pairs).filter isVerb).getLast? = some entry ∧
          (webRequestParse (some escapedBody) escapedBody.length .empty).2.1.verb =
            copyKey 64 entry.2) ∧
        (webRequestParse (some escapedBody) escapedBody.length .empty).2.1.fields =
          storedFields (entriesOf pairs) ∧
        ((∀ c ∈ rest, JsonText.isSpace c = true) → pairs.NoTrailingComma →
          (∀ m ∈ pairs.members, Faithful m) →
            SaysExactly escapedBody
              (webRequestParse (some escapedBody) escapedBody.length .empty).2.1) :=
  ⟨by decide +kernel, webRequestParse_sound (by decide +kernel)⟩

/-! ## An escape that is stored as its letter -/

/-- The string `\b` stands for a backspace. -/
theorem decodes_backspace {items : List Item} {text : List UInt8} (h : Decodes items text)
    (hitems : items = [.escaped 0x62]) : text = [0x08] := by
  cases h with
  | nil => cases hitems
  | plain hprintable hrest => cases hitems
  | @escape e c rest text hescape hrest =>
    obtain ⟨he, rfl⟩ := List.cons.inj hitems
    obtain rfl := Item.escaped.inj he
    cases hrest
    obtain rfl : 0x08 = c := Option.some.inj hescape
    rfl
  | unicode => cases hitems
  | surrogates => cases hitems

/-- A body whose verb is an escaped backspace. -/
def backspaceBody : List UInt8 := 0x7B :: (Pairs.last ⟨JsonText.noSpace, JsonText.escapeText (ascii "command"),
  JsonText.noSpace, JsonText.noSpace, [.escaped 0x62], JsonText.noSpace⟩).render

/-- The body with the verb `\b` is accepted, and stores the letter. -/
theorem accepted_not_always_exact :
    ¬ ∀ (body : List UInt8) (cmd : WebParsedCommand), body.length ≤ kWebRequestMaxBodySize →
      (webRequestParse (some body) body.length cmd).1 = .Ok →
        SaysExactly body (webRequestParse (some body) body.length cmd).2.1 := by
  intro hclaim
  obtain ⟨entries, ⟨before, pairs, behind, hbody, -, hentries⟩, hverb, -⟩ :=
    hclaim backspaceBody .empty (by decide) (by decide)
  have htext : JsonText.noSpace.val ++ 0x7B :: ((Pairs.last _).render ++ []) = _ :=
    (congrArg (List.cons 0x7B) (List.append_nil _)).trans hbody
  obtain ⟨rfl, -⟩ := JsonText.object_unique htext
  obtain ⟨entry, hentry, rfl⟩ : ∃ entry : Entry, Decodes [.escaped 0x62] entry.2 ∧ entries = [entry] := by
    cases hentries with
    | cons hentry hrest =>
      cases hrest
      exact ⟨_, hentry.2, rfl⟩
  obtain ⟨hmem, -⟩ := List.mem_filter.mp (List.mem_of_getLast? hverb)
  rw [← List.mem_singleton.mp hmem] at hentry
  exact absurd (decodes_backspace hentry rfl) (by decide)

end Esp32Wiimote.Web
