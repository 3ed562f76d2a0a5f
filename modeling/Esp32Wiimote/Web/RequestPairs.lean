import Esp32Wiimote.Web.RequestReader

/-!
# The pairs of a request body

The loop over the pairs accepts exactly the texts of pairs whose strings have at most 254
characters and whose fields have room, and leaves in the command what storing the members one
after the other leaves there. What stands behind the closing brace is not looked at.
-/

namespace Esp32Wiimote.Web

open CText
open JsonText (Item Space Member Pairs)

/-- The values of the two string tokens of a member. -/
abbrev Entry := List UInt8 × List UInt8

/-- The strings of a member, as the parser reads them. -/
def memberEntry (m : Member) : Entry := (stringValue m.key, stringValue m.value)

/-- The key and value tokens in the order of the text. -/
def entriesOf (pairs : Pairs) : List Entry := pairs.members.map memberEntry

/-- The entries of each form of an object. -/
theorem entriesOf_close (before : Space) : entriesOf (.close before) = [] := rfl

/-- A last member is one entry. -/
theorem entriesOf_last (m : Member) : entriesOf (.last m) = [memberEntry m] := rfl

/-- A member in front of others comes first. -/
theorem entriesOf_more (m : Member) (next : Pairs) :
    entriesOf (.more m next) = memberEntry m :: entriesOf next := rfl

/-- The entry is the verb. -/
def isVerb (entry : Entry) : Bool := decide (copyKey 64 entry.1 = ascii "command")

/-- Both strings are tokens. -/
def Fits (entry : Entry) : Prop := entry.1.length ≤ 254 ∧ entry.2.length ≤ 254

/-- The strings of a member are tokens when neither is too long. -/
theorem fits_memberEntry {m : Member} :
    Fits (memberEntry m) ↔ m.key.length ≤ 254 ∧ m.value.length ≤ 254 := by
  rw [Fits, memberEntry, length_stringValue, length_stringValue]

/-! ## Storing the entries -/

/-- A field, cut to its buffers. -/
def storedField (entry : Entry) : WebParsedField :=
  ⟨copyKey 64 (copyKey 64 entry.1), copyKey kWebRequestMaxValueSize entry.2⟩

/-- The command with an entry stored, where there is room. -/
def storeEntry (cmd : WebParsedCommand) (entry : Entry) : Option WebParsedCommand :=
  if copyKey 64 entry.1 = ascii "command" then some { cmd with verb := copyKey 64 entry.2 }
  else if kWebRequestMaxFieldCount ≤ cmd.fieldCount then none
  else some { cmd with fields := cmd.fields ++ [storedField entry] }

/-- The command with the entries stored in order, where there is room for all. -/
def storeEntries : WebParsedCommand → List Entry → Option WebParsedCommand
  | cmd, [] => some cmd
  | cmd, entry :: rest => (storeEntry cmd entry).bind (storeEntries · rest)

/-- The fields of the entries. -/
def storedFields (entries : List Entry) : List WebParsedField :=
  (entries.filter fun entry => !isVerb entry).map storedField

/-- The last verb of the entries, and the one before them where they have none. -/
def storedVerb (verb : CString) (entries : List Entry) : CString :=
  ((entries.filter isVerb).getLast?.map fun entry => copyKey 64 entry.2).getD verb

/-- The verb is not stored as a field. -/
theorem storedFields_cons (entry : Entry) (rest : List Entry) :
    storedFields (entry :: rest) =
      if isVerb entry then storedFields rest else storedField entry :: storedFields rest := by
  rw [storedFields, List.filter_cons]
  cases isVerb entry <;> rfl

/-- A later verb replaces an earlier one. -/
theorem storedVerb_cons (verb : CString) (entry : Entry) (rest : List Entry) :
    storedVerb verb (entry :: rest) =
      storedVerb (if isVerb entry then copyKey 64 entry.2 else verb) rest := by
  rw [storedVerb, storedVerb, List.filter_cons]
  cases isVerb entry with
  | false => rfl
  | true =>
    simp only [if_true, List.getLast?_cons, Option.map_some, Option.getD_some]
    cases (rest.filter isVerb).getLast? with
    | none => rfl
    | some last => rfl

/-- Storing the entries appends their fields and keeps their last verb. -/
theorem storeEntries_eq_some_iff {cmd parsed : WebParsedCommand} {entries : List Entry}
    (hcount : cmd.fieldCount ≤ kWebRequestMaxFieldCount) :
    storeEntries cmd entries = some parsed ↔
      cmd.fieldCount + (storedFields entries).length ≤ kWebRequestMaxFieldCount ∧
        parsed = ⟨storedVerb cmd.verb entries, cmd.fields ++ storedFields entries⟩ := by
  induction entries generalizing cmd with
  | nil =>
    rw [storeEntries, storedFields, List.filter_nil, List.map_nil, List.append_nil, Option.some.injEq]
    exact ⟨fun heq => ⟨hcount, heq.symm⟩, fun heq => heq.2.symm⟩
  | cons entry rest ih =>
    rw [storeEntries, storedFields_cons, storedVerb_cons, storeEntry]
    by_cases hcommand : copyKey 64 entry.1 = ascii "command"
    · have hverb : isVerb entry = true := decide_eq_true hcommand
      have hstored : (⟨copyKey 64 entry.2, cmd.fields⟩ : WebParsedCommand).fieldCount ≤
          kWebRequestMaxFieldCount := hcount
      rw [if_pos hcommand, Option.bind_some, ih hstored, if_pos hverb, if_pos hverb]
      rfl
    · have hfield : ¬ isVerb entry = true := fun hverb => hcommand (of_decide_eq_true hverb)
      rw [if_neg hcommand, if_neg hfield, if_neg hfield, List.length_cons]
      by_cases hfull : kWebRequestMaxFieldCount ≤ cmd.fieldCount
      · rw [if_pos hfull, Option.bind_none]
        constructor
        · intro h
          cases h
        · rintro ⟨hroom, -⟩
          omega
      · rw [if_neg hfull, Option.bind_some]
        have hlength : (⟨cmd.verb, cmd.fields ++ [storedField entry]⟩ : WebParsedCommand).fieldCount =
            cmd.fieldCount + 1 := by
          rw [WebParsedCommand.fieldCount, List.length_append, List.length_singleton]
          rfl
        rw [ih (by omega), hlength, List.append_assoc, List.singleton_append, Nat.add_assoc,
          Nat.add_comm 1]

/-! ## One round of the loop -/

section
variable {fuel : ℕ} {found : Bool} {cmd : WebParsedCommand} {parser : JsonParser}

/-- A closing brace ends the pairs. -/
theorem parsePairs_close (hkey : parser.next.1.type = .ObjectEnd) :
    parsePairs (fuel + 1) found cmd parser = (.inr found, cmd, parser.next.2) := by
  rw [parsePairs]
  exact if_pos hkey

/-- A key, a colon and a value are one pair. -/
theorem parsePairs_member (hkey : parser.next.1.type = .String)
    (hcolon : parser.next.2.next.1.type = .Colon)
    (hvalue : parser.next.2.next.2.next.1.type = .String) :
    parsePairs (fuel + 1) found cmd parser =
      match storeEntry cmd (parser.next.1.value, parser.next.2.next.2.next.1.value) with
      | none => (.inl .BodyTooLarge, cmd, parser.next.2.next.2.next.2)
      | some stored =>
        let separator := parser.next.2.next.2.next.2.next
        let found' := found || isVerb (parser.next.1.value, parser.next.2.next.2.next.1.value)
        if separator.1.type = .ObjectEnd then (.inr found', stored, separator.2)
        else if separator.1.type = .Comma then parsePairs fuel found' stored separator.2
        else (.inl .MalformedJson, stored, separator.2) := by
  rw [parsePairs, storeEntry]
  simp only [hkey, hcolon, hvalue, isVerb, storedField, reduceCtorEq, ne_eq, not_true_eq_false, if_false]
  by_cases hcommand : copyKey 64 parser.next.1.value = ascii "command"
  · simp only [hcommand, not_true_eq_false, false_and, if_false, decide_true, if_true]
  · by_cases hfull : kWebRequestMaxFieldCount ≤ cmd.fieldCount
    · simp only [hcommand, hfull, not_false_eq_true, and_self, if_true, if_false]
    · simp only [hcommand, hfull, and_false, if_false, decide_false, Bool.false_eq_true]

/-- A round is at the closing brace, reads a member or ends in an error. -/
theorem parsePairs_tokens (fuel : ℕ) (found : Bool) (cmd : WebParsedCommand) (parser : JsonParser) :
    parser.next.1.type = .ObjectEnd ∨
      (parser.next.1.type = .String ∧ parser.next.2.next.1.type = .Colon ∧
        parser.next.2.next.2.next.1.type = .String) ∨
      ∃ error, error ≠ .Ok ∧ (parsePairs (fuel + 1) found cmd parser).1 = .inl error := by
  rw [parsePairs]
  by_cases hclose : parser.next.1.type = .ObjectEnd
  · exact Or.inl hclose
  by_cases hkey : parser.next.1.type = .String
  · by_cases hcolon : parser.next.2.next.1.type = .Colon
    · by_cases hvalue : parser.next.2.next.2.next.1.type = .String
      · exact Or.inr (Or.inl ⟨hkey, hcolon, hvalue⟩)
      · exact Or.inr (Or.inr ⟨.InvalidFieldType, by decide, by simp [hkey, hcolon, hvalue]⟩)
    · exact Or.inr (Or.inr ⟨.MalformedJson, by decide, by simp [hkey, hcolon]⟩)
  · exact Or.inr (Or.inr ⟨.MalformedJson, by decide, by simp [hclose, hkey]⟩)

/-- The loop ends at a brace or with an error. -/
theorem parsePairs_error {result : WebRequestParseResult}
    (hresult : (parsePairs fuel found cmd parser).1 = .inl result) : result ≠ .Ok := by
  induction fuel generalizing found cmd parser with
  | zero =>
    cases hresult
    decide
  | succ fuel ih =>
    rcases parsePairs_tokens fuel found cmd parser with
      hclose | ⟨hkey, hcolon, hvalue⟩ | ⟨error, hne, herror⟩
    · rw [parsePairs_close hclose] at hresult
      cases hresult
    · rw [parsePairs_member hkey hcolon hvalue] at hresult
      cases hstored : storeEntry cmd (parser.next.1.value, parser.next.2.next.2.next.1.value) with
      | none =>
        rw [hstored] at hresult
        cases hresult
        decide
      | some stored =>
        rw [hstored] at hresult
        simp only at hresult
        split_ifs at hresult with hend hcomma
        · exact ih hresult
        · cases hresult
          decide
    · rw [herror] at hresult
      exact Sum.inl.inj hresult ▸ hne

end

/-! ## Every accepted text -/

/-- The tokens of a member are the text of a member. -/
theorem member_of_tokens {parser : JsonParser} {text : List UInt8} {c : UInt8} (h : parser.At text)
    (hkey : parser.next.1.type = .String) (hcolon : parser.next.2.next.1.type = .Colon)
    (hvalue : parser.next.2.next.2.next.1.type = .String)
    (hc : punctuation parser.next.2.next.2.next.2.next.1.type = some c) :
    ∃ (m : Member) (rest : List UInt8), text = m.render ++ c :: rest ∧ Fits (memberEntry m) ∧
      (parser.next.1.value, parser.next.2.next.2.next.1.value) = memberEntry m ∧
      parser.next.2.next.2.next.2.next.2.At rest := by
  obtain ⟨before, key, behindKeyText, rfl, hkeyValue, hkeyFits, hafterKey⟩ := h.next_string hkey
  obtain ⟨behindKey, behindColonText, rfl, hafterColon⟩ :=
    hafterKey.next_punctuation (c := 0x3A) (by rw [hcolon]; rfl)
  obtain ⟨behindColon, value, behindText, rfl, hvalueValue, hvalueFits, hafterValue⟩ :=
    hafterColon.next_string hvalue
  obtain ⟨behind, rest, rfl, hrest⟩ := hafterValue.next_punctuation hc
  refine ⟨⟨before, key, behindKey, behindColon, value, behind⟩, rest, ?_,
    fits_memberEntry.mpr ⟨hkeyFits, hvalueFits⟩, ?_, hrest⟩
  · simp only [Member.render, List.append_assoc, List.cons_append]
  · rw [hkeyValue, hvalueValue, memberEntry]

/-- An accepted text is a text of pairs, and the command is what storing the members leaves. -/
theorem parsePairs_sound {fuel : ℕ} {found found' : Bool} {cmd : WebParsedCommand}
    {parser : JsonParser} {text : List UInt8} (h : parser.At text)
    (hresult : (parsePairs fuel found cmd parser).1 = .inr found') :
    ∃ (pairs : Pairs) (rest : List UInt8), text = pairs.render ++ rest ∧
      (∀ entry ∈ entriesOf pairs, Fits entry) ∧
      storeEntries cmd (entriesOf pairs) = some (parsePairs fuel found cmd parser).2.1 ∧
      found' = (found || (entriesOf pairs).any isVerb) := by
  induction fuel generalizing found cmd parser text with
  | zero => cases hresult
  | succ fuel ih =>
    rcases parsePairs_tokens fuel found cmd parser with hclose | ⟨hkey, hcolon, hvalue⟩ | ⟨error, -, herror⟩
    · rw [parsePairs_close hclose] at hresult ⊢
      obtain ⟨before, rest, rfl, -⟩ := h.next_punctuation (c := 0x7D) (by rw [hclose]; rfl)
      refine ⟨.close before, rest, (Pairs.render_close_append before rest).symm, ?_, rfl, ?_⟩
      · intro entry hentry
        cases hentry
      · rw [entriesOf_close, List.any_nil, Bool.or_false]
        exact (Sum.inr.inj hresult).symm
    · rw [parsePairs_member hkey hcolon hvalue] at hresult ⊢
      cases hstored : storeEntry cmd (parser.next.1.value, parser.next.2.next.2.next.1.value) with
      | none =>
        rw [hstored] at hresult
        cases hresult
      | some stored =>
        rw [hstored] at hresult
        simp only at hresult ⊢
        by_cases hend : parser.next.2.next.2.next.2.next.1.type = .ObjectEnd
        · -- the member is the last
          rw [if_pos hend] at hresult ⊢
          obtain ⟨m, rest, rfl, hfits, hentry, -⟩ :=
            member_of_tokens (c := 0x7D) h hkey hcolon hvalue (by rw [hend]; rfl)
          rw [hentry] at hstored hresult
          refine ⟨.last m, rest, (Pairs.render_last_append m rest).symm, ?_, ?_, ?_⟩
          · intro entry hmem
            rwa [List.mem_singleton.mp hmem]
          · rw [entriesOf_last, storeEntries, hstored]
            rfl
          · rw [entriesOf_last, List.any_cons, List.any_nil, Bool.or_false]
            exact (Sum.inr.inj hresult).symm
        · rw [if_neg hend] at hresult ⊢
          by_cases hcomma : parser.next.2.next.2.next.2.next.1.type = .Comma
          · rw [if_pos hcomma] at hresult ⊢
            obtain ⟨m, behind, rfl, hfits, hentry, hbehind⟩ :=
              member_of_tokens (c := 0x2C) h hkey hcolon hvalue (by rw [hcomma]; rfl)
            rw [hentry] at hstored hresult ⊢
            obtain ⟨next, rest, rfl, hnextFits, hnextStored, hfound⟩ := ih hbehind hresult
            refine ⟨.more m next, rest, (Pairs.render_more_append m next rest).symm, ?_, ?_, ?_⟩
            · intro entry hmem
              rcases List.mem_cons.mp hmem with rfl | hnext
              · exact hfits
              · exact hnextFits entry hnext
            · rw [entriesOf_more, storeEntries, hstored, Option.bind_some, hnextStored]
            · rw [hfound, entriesOf_more, List.any_cons, Bool.or_assoc]
          · rw [if_neg hcomma] at hresult
            cases hresult
    · rw [herror] at hresult
      cases hresult

/-! ## Every text with room is accepted -/

/-- The tokens of the text of a member. -/
theorem tokens_of_member {parser : JsonParser} {m : Member} {c : UInt8} {rest : List UInt8}
    {type : JsonTokenType}
    (h : parser.At (m.render ++ c :: rest)) (hfits : Fits (memberEntry m)) (hc : punctuation type = some c) :
    parser.next.1 = ⟨.String, stringValue m.key⟩ ∧ parser.next.2.next.1 = makeToken .Colon ∧
      parser.next.2.next.2.next.1 = ⟨.String, stringValue m.value⟩ ∧
      parser.next.2.next.2.next.2.next.1 = makeToken type ∧
      parser.next.2.next.2.next.2.next.2.At rest := by
  simp only [Member.render, List.append_assoc, List.cons_append] at h
  obtain ⟨hkeyFits, hvalueFits⟩ := fits_memberEntry.mp hfits
  obtain ⟨afterKey, hkey, hafterKey⟩ := h.next_of_string hkeyFits
  obtain ⟨afterColon, hcolon, hafterColon⟩ :=
    hafterKey.next_of_punctuation (show punctuation .Colon = some 0x3A from rfl)
  obtain ⟨afterValue, hvalue, hafterValue⟩ := hafterColon.next_of_string hvalueFits
  obtain ⟨after, hseparator, hafter⟩ := hafterValue.next_of_punctuation hc
  simp only [hkey, hcolon, hvalue, hseparator, true_and]
  exact hafter

/-- A round at a member that fits and has room. -/
theorem parsePairs_of_member (fuel : ℕ) (found : Bool) {cmd stored : WebParsedCommand}
    {parser : JsonParser} {m : Member} {c : UInt8} {rest : List UInt8} {type : JsonTokenType}
    (h : parser.At (m.render ++ c :: rest)) (hfits : Fits (memberEntry m)) (hc : punctuation type = some c)
    (hstored : storeEntry cmd (memberEntry m) = some stored) :
    ∃ after : JsonParser, after.At rest ∧ parsePairs (fuel + 1) found cmd parser =
      if type = .ObjectEnd then (.inr (found || isVerb (memberEntry m)), stored, after)
      else if type = .Comma then parsePairs fuel (found || isVerb (memberEntry m)) stored after
      else (.inl .MalformedJson, stored, after) := by
  obtain ⟨hkey, hcolon, hvalue, hseparator, hafter⟩ := tokens_of_member h hfits hc
  refine ⟨_, hafter, ?_⟩
  have hentry : (parser.next.1.value, parser.next.2.next.2.next.1.value) = memberEntry m := by
    rw [hkey, hvalue, memberEntry]
  rw [parsePairs_member (by rw [hkey]) (by rw [hcolon]; rfl) (by rw [hvalue]), hentry, hstored]
  simp only [hseparator, makeToken]

/-- A text of pairs that fit and have room is accepted, whatever stands behind it. -/
theorem parsePairs_complete {pairs : Pairs} {fuel : ℕ} (found : Bool) {cmd stored : WebParsedCommand}
    {parser : JsonParser} {rest : List UInt8} (h : parser.At (pairs.render ++ rest))
    (hfits : ∀ entry ∈ entriesOf pairs, Fits entry) (hstored : storeEntries cmd (entriesOf pairs) = some stored)
    (hfuel : pairs.render.length ≤ fuel) :
    (parsePairs fuel found cmd parser).1 = .inr (found || (entriesOf pairs).any isVerb) ∧
      (parsePairs fuel found cmd parser).2.1 = stored := by
  induction pairs generalizing fuel found cmd parser with
  | close before =>
    have hpos : 0 < fuel := by
      rw [Pairs.render, List.length_append, List.length_singleton] at hfuel
      omega
    obtain ⟨fuel, rfl⟩ := Nat.exists_eq_succ_of_ne_zero (Nat.pos_iff_ne_zero.mp hpos)
    rw [Pairs.render_close_append] at h
    obtain ⟨after, hnext, -⟩ := h.next_of_punctuation (show punctuation .ObjectEnd = some 0x7D from rfl)
    rw [Nat.succ_eq_add_one, parsePairs_close (by rw [hnext]; rfl), entriesOf_close, List.any_nil,
      Bool.or_false]
    exact ⟨rfl, Option.some.inj hstored⟩
  | last m =>
    have hpos : 0 < fuel := by
      rw [Pairs.render, List.length_append, List.length_singleton] at hfuel
      omega
    obtain ⟨fuel, rfl⟩ := Nat.exists_eq_succ_of_ne_zero (Nat.pos_iff_ne_zero.mp hpos)
    rw [Pairs.render_last_append] at h
    obtain ⟨stored', hpair, hrest⟩ := Option.bind_eq_some_iff.mp hstored
    obtain ⟨after, -, hround⟩ := parsePairs_of_member fuel found h
      (hfits (memberEntry m) List.mem_cons_self) (show punctuation .ObjectEnd = some 0x7D from rfl) hpair
    rw [Nat.succ_eq_add_one, hround, if_pos rfl, entriesOf_last, List.any_cons, List.any_nil,
      Bool.or_false]
    exact ⟨rfl, Option.some.inj hrest⟩
  | more m next ih =>
    rw [Pairs.render, List.length_append, List.length_cons] at hfuel
    have hpos : 0 < fuel := by omega
    obtain ⟨fuel, rfl⟩ := Nat.exists_eq_succ_of_ne_zero (Nat.pos_iff_ne_zero.mp hpos)
    rw [Pairs.render_more_append] at h
    obtain ⟨stored', hpair, hrest⟩ := Option.bind_eq_some_iff.mp hstored
    obtain ⟨after, hafter, hround⟩ := parsePairs_of_member fuel found h
      (hfits (memberEntry m) List.mem_cons_self) (show punctuation .Comma = some 0x2C from rfl) hpair
    have hroom : next.render.length ≤ fuel := by omega
    have hnext := ih (found || isVerb (memberEntry m)) hafter
      (fun entry hentry => hfits entry (List.mem_cons_of_mem (memberEntry m) hentry)) hrest hroom
    rw [Nat.succ_eq_add_one, hround, if_neg (by decide), if_pos rfl, entriesOf_more, List.any_cons,
      ← Bool.or_assoc]
    exact hnext

/-! ## The whole body -/

/-- A new parser is at the start of the body. -/
theorem start_at (body : List UInt8) : (⟨body, body.length, 0, true⟩ : JsonParser).At body :=
  ⟨rfl, List.drop_zero⟩

/-- Which bodies are accepted, and with which command. -/
theorem webRequestParse_ok_iff {body : List UInt8} {cmd parsed : WebParsedCommand} :
    ((webRequestParse (some body) body.length cmd).1 = .Ok ∧
        (webRequestParse (some body) body.length cmd).2.1 = parsed) ↔
      body.length ≤ kWebRequestMaxBodySize ∧
        ∃ (before : Space) (pairs : Pairs) (rest : List UInt8),
          body = before.val ++ 0x7B :: (pairs.render ++ rest) ∧ (∀ entry ∈ entriesOf pairs, Fits entry) ∧
          (storedFields (entriesOf pairs)).length ≤ kWebRequestMaxFieldCount ∧
          (entriesOf pairs).any isVerb = true ∧ parsed.verb ≠ [] ∧
          parsed = ⟨storedVerb cmd.verb (entriesOf pairs), storedFields (entriesOf pairs)⟩ := by
  rw [webRequestParse]
  by_cases hsize : body.length = 0 ∨ kWebRequestMaxBodySize < body.length
  · rw [if_pos hsize]
    constructor
    · rintro ⟨hok, -⟩
      cases hok
    · rintro ⟨hle, before, pairs, rest, rfl, -⟩
      rcases hsize with hempty | hlong
      · simp at hempty
      · exact absurd hlong (Nat.not_lt.mpr hle)
  rw [if_neg hsize]
  have hle : body.length ≤ kWebRequestMaxBodySize := Nat.not_lt.mp fun hlong => hsize (Or.inr hlong)
  have hat := start_at body
  have hstored_iff (entries : List Entry) (stored : WebParsedCommand) :
      storeEntries { cmd with fields := [] } entries = some stored ↔
        (storedFields entries).length ≤ kWebRequestMaxFieldCount ∧
          stored = ⟨storedVerb cmd.verb entries, storedFields entries⟩ := by
    rw [storeEntries_eq_some_iff (Nat.zero_le _)]
    change 0 + (storedFields entries).length ≤ _ ∧ _ ↔ _
    rw [Nat.zero_add, List.nil_append]
  constructor
  · rintro ⟨hok, hparsed⟩
    by_cases hopen : (⟨body, body.length, 0, true⟩ : JsonParser).next.1.type = .ObjectStart
    · simp only [hopen, ne_eq, not_true_eq_false, if_false] at hok hparsed
      obtain ⟨before, text, htext, htextAt⟩ := hat.next_punctuation (c := 0x7B) (by rw [hopen]; rfl)
      rcases hloop : parsePairs (body.length + 1) false { cmd with fields := [] }
        (⟨body, body.length, 0, true⟩ : JsonParser).next.2 with ⟨error | found, stored, after⟩
      · rw [hloop] at hok
        exact absurd hok (parsePairs_error (by rw [hloop]))
      · rw [hloop] at hok hparsed
        obtain ⟨pairs, rest, rfl, hfits, hstored, hfound⟩ := parsePairs_sound htextAt (by rw [hloop])
        rw [hloop] at hstored
        simp only at hok hparsed hstored
        by_cases hmissing : found = false ∨ stored.verb = []
        · rw [if_pos hmissing] at hok
          cases hok
        · rw [if_neg hmissing] at hparsed
          obtain ⟨hfoundTrue, hverb⟩ := not_or.mp hmissing
          rw [Bool.not_eq_false, hfound, Bool.false_or] at hfoundTrue
          cases hparsed
          obtain ⟨hcount, hparsedEq⟩ := (hstored_iff _ _).mp hstored
          exact ⟨hle, before, pairs, rest, htext, hfits, hcount, hfoundTrue, hverb, hparsedEq⟩
    · simp [hopen] at hok
  · rintro ⟨-, before, pairs, rest, hbody, hfits, hcount, hany, hverb, hparsedEq⟩
    have hstored := (hstored_iff _ _).mpr ⟨hcount, hparsedEq⟩
    have hatText : (⟨body, body.length, 0, true⟩ : JsonParser).At
        (before.val ++ 0x7B :: (pairs.render ++ rest)) := ⟨rfl, List.drop_zero.trans hbody⟩
    obtain ⟨after, hopen, hafter⟩ :=
      hatText.next_of_punctuation (show punctuation .ObjectStart = some 0x7B from rfl)
    have hroom : pairs.render.length ≤ body.length + 1 := by
      rw [hbody, List.length_append, List.length_cons, List.length_append]
      omega
    obtain ⟨hresult, hparsed⟩ := parsePairs_complete false hafter hfits hstored hroom
    rcases hloop : parsePairs (body.length + 1) false { cmd with fields := [] } after with
      ⟨error | found, stored, behind⟩
    · rw [hloop] at hresult
      cases hresult
    · rw [hloop] at hresult hparsed
      obtain rfl : stored = parsed := hparsed
      obtain rfl : found = true := by rw [Sum.inr.inj hresult, hany, Bool.or_true]
      rw [hopen]
      simp only [makeToken, ne_eq, not_true_eq_false, if_false, hloop]
      rw [if_neg (not_or.mpr ⟨by decide, hverb⟩)]
      exact ⟨rfl, rfl⟩

end Esp32Wiimote.Web
