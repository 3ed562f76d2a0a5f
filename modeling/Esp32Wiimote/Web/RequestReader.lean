import Esp32Wiimote.Library.JsonText
import Esp32Wiimote.Web.RequestParser

/-!
# The tokens of a request body

The tokenizer stands in front of a text, and each token takes its own text from the front:
white space and one of the four punctuation characters, or white space and a string in its
quotes. A string is a token exactly when it has at most 254 characters, because the loop over
the characters ends with the 255th and does not look at the quote behind it.
-/

namespace Esp32Wiimote.Web

open CText
open JsonText (Item Space isSpace quoted)

/-- The byte a character of a string is stored as. -/
def itemValue : Item → UInt8
  | .plain c _ _ => c
  | .escaped c => JsonParser.unescape c

/-- The value of a string token. -/
def stringValue (items : List Item) : List UInt8 := items.map itemValue

/-- A string has one byte for each of its characters. -/
theorem length_stringValue (items : List Item) : (stringValue items).length = items.length :=
  List.length_map itemValue

/-- The character of a token that is one character. -/
def punctuation : JsonTokenType → Option UInt8
  | .ObjectStart => some 0x7B
  | .ObjectEnd => some 0x7D
  | .Colon => some 0x3A
  | .Comma => some 0x2C
  | .String | .Eof | .Error => none

namespace JsonParser

/-- The parser stands in front of the text. -/
structure At (parser : JsonParser) (text : List UInt8) : Prop where
  len_eq : parser.len = parser.data.length
  drop_eq : parser.data.drop parser.pos = text

variable {parser : JsonParser} {text rest : List UInt8} {c : UInt8}

/-! ## One byte -/

/-- A read does not move the parser. -/
theorem At.access (h : parser.At text) (inside : Bool) : (parser.access inside).At text :=
  ⟨h.len_eq, h.drop_eq⟩

/-- Nor does looking at the next byte. -/
theorem At.read (h : parser.At text) : parser.read.At text := h.access _

/-- What is left of the body. -/
theorem At.length (h : parser.At text) : text.length = parser.len - parser.pos := by
  rw [← h.drop_eq, List.length_drop, h.len_eq]

/-- In front of a byte the parser is inside the body. -/
theorem At.pos_lt (h : parser.At (c :: rest)) : parser.pos < parser.len := by
  have hlength := h.length
  rw [List.length_cons] at hlength
  omega

/-- At the end it is not. -/
theorem At.len_le (h : parser.At []) : parser.len ≤ parser.pos := by
  have hlength := h.length
  rw [List.length_nil] at hlength
  omega

/-- It sees the next byte. -/
theorem At.peek_eq (h : parser.At (c :: rest)) : parser.peek = c := by
  have hpos := h.pos_lt
  rw [h.len_eq] at hpos
  have hdrop := h.drop_eq
  rw [List.drop_eq_getElem_cons hpos] at hdrop
  rw [peek, List.getD_eq_getElem?_getD, List.getElem?_eq_getElem hpos, Option.getD_some]
  exact (List.cons.inj hdrop).1

/-- It moves on behind it. -/
theorem At.advance (h : parser.At (c :: rest)) : parser.advance.At rest := by
  refine ⟨h.len_eq, ?_⟩
  change parser.data.drop (parser.pos + 1) = rest
  rw [← List.tail_drop, h.drop_eq, List.tail_cons]

/-! ## White space -/

/-- The parser skips the white space of JSON. -/
theorem isWhitespace_eq : isWhitespace = isSpace := rfl

/-- Skipping white space ends in front of the next other byte. -/
theorem skipWhitespace_at {fuel : ℕ} (h : parser.At text) (hfuel : text.length ≤ fuel) :
    (skipWhitespace fuel parser).At (text.dropWhile isSpace) := by
  induction fuel generalizing parser text with
  | zero =>
    rw [List.eq_nil_of_length_eq_zero (Nat.le_zero.mp hfuel)] at h ⊢
    exact h
  | succ fuel ih =>
    rw [skipWhitespace]
    cases text with
    | nil =>
      rw [if_neg (Nat.not_lt.mpr h.len_le)]
      exact h
    | cons c rest =>
      rw [if_pos h.pos_lt, h.peek_eq, isWhitespace_eq]
      by_cases hspace : isSpace c = true
      · rw [if_pos hspace, List.dropWhile_cons_of_pos hspace]
        exact ih h.read.advance (Nat.le_of_succ_le_succ hfuel)
      · rw [if_neg hspace, List.dropWhile_cons_of_neg hspace]
        exact h.read

/-- Where the tokenizer looks at the first character of a token. -/
theorem At.start (h : parser.At text) :
    (skipWhitespace (parser.len - parser.pos) parser).At (text.dropWhile isSpace) :=
  skipWhitespace_at h (Nat.le_of_eq h.length)

/-- A text is white space and what the tokenizer looks at. -/
theorem exists_space (text : List UInt8) :
    ∃ space : Space, text = space.val ++ text.dropWhile isSpace := by
  refine ⟨⟨text.takeWhile isSpace, ?_⟩, List.takeWhile_append_dropWhile.symm⟩
  intro c hc
  exact List.mem_takeWhile_imp hc

/-! ## Strings -/

/-- The loop ends with a full value, also in front of a quote. -/
theorem stringBody_full {fuel : ℕ} {value : List UInt8} (hfull : 255 ≤ value.length) :
    stringBody fuel value parser = (makeToken .Error, parser) := by
  cases fuel with
  | zero => rfl
  | succ fuel => rw [stringBody, if_neg (fun h => absurd h.2 (Nat.not_lt.mpr hfull))]

/-- A string without a closing quote is an error. -/
theorem stringBody_end {fuel : ℕ} {value : List UInt8} (h : parser.At []) :
    stringBody fuel value parser = (makeToken .Error, parser) := by
  cases fuel with
  | zero => rfl
  | succ fuel => rw [stringBody, if_neg (fun hlt => absurd hlt.1 (Nat.not_lt.mpr h.len_le))]

section
variable (fuel : ℕ) {value : List UInt8} (hroom : value.length < 255)
include hroom

/-- The quote ends the string. -/
theorem stringBody_quote (h : parser.At (0x22 :: rest)) :
    ∃ after, stringBody (fuel + 1) value parser = (⟨.String, value⟩, after) ∧ after.At rest := by
  refine ⟨_, ?_, (h.read.access (value.length < kWebRequestMaxValueSize)).advance⟩
  rw [stringBody, if_pos ⟨h.pos_lt, hroom⟩]
  simp only [h.peek_eq, if_true]

/-- A plain character is one byte of the value. -/
theorem stringBody_plain {hquote : c ≠ 0x22} {hbackslash : c ≠ 0x5C} (h : parser.At (c :: rest)) :
    ∃ after, stringBody (fuel + 1) value parser =
      stringBody fuel (value ++ [itemValue (.plain c hquote hbackslash)]) after ∧ after.At rest := by
  refine ⟨_, ?_, (h.read.access (value.length < kWebRequestMaxValueSize)).advance⟩
  rw [stringBody, if_pos ⟨h.pos_lt, hroom⟩]
  simp only [h.peek_eq, if_neg hquote, if_neg hbackslash, itemValue]

/-- So is an escaped one. -/
theorem stringBody_escaped (h : parser.At (0x5C :: c :: rest)) :
    ∃ after, stringBody (fuel + 1) value parser =
      stringBody fuel (value ++ [itemValue (.escaped c)]) after ∧ after.At rest := by
  have hbehind := h.read.advance
  refine ⟨_, ?_, (hbehind.read.access (value.length < kWebRequestMaxValueSize)).advance⟩
  rw [stringBody, if_pos ⟨h.pos_lt, hroom⟩]
  simp only [h.peek_eq, hbehind.peek_eq, if_neg (Nat.not_le.mpr hbehind.pos_lt), itemValue]
  rw [if_neg (by decide), if_true]

/-- A backslash at the end is an error. -/
theorem stringBody_backslash (h : parser.At [0x5C]) :
    (stringBody (fuel + 1) value parser).1 = makeToken .Error := by
  have hbehind := h.read.advance
  rw [stringBody, if_pos ⟨h.pos_lt, hroom⟩]
  simp only [h.peek_eq, if_pos hbehind.len_le]
  rw [if_neg (by decide), if_true]

end

/-- A string of at most 254 characters is read up to its closing quote. -/
theorem stringBody_of_short {fuel : ℕ} {value : List UInt8} {items : List Item}
    (h : parser.At (items.flatMap Item.render ++ 0x22 :: rest)) (hfuel : items.length < fuel)
    (hroom : value.length + items.length < 255) :
    ∃ after, stringBody fuel value parser = (⟨.String, value ++ stringValue items⟩, after) ∧
      after.At rest := by
  induction items generalizing fuel value parser with
  | nil =>
    obtain ⟨fuel, rfl⟩ := Nat.exists_eq_succ_of_ne_zero (Nat.pos_iff_ne_zero.mp hfuel)
    rw [stringValue, List.map_nil, List.append_nil]
    exact stringBody_quote fuel hroom h
  | cons item items ih =>
    obtain ⟨fuel, rfl⟩ := Nat.exists_eq_succ_of_ne_zero (Nat.ne_zero_of_lt hfuel)
    rw [List.length_cons] at hfuel hroom
    have hnext : ∃ after, stringBody (fuel + 1) value parser =
        stringBody fuel (value ++ [itemValue item]) after ∧
          after.At (items.flatMap Item.render ++ 0x22 :: rest) := by
      cases item with
      | plain c _ _ => exact stringBody_plain fuel (by omega) h
      | escaped c => exact stringBody_escaped fuel (by omega) h
    obtain ⟨after, hstep, hafter⟩ := hnext
    rw [Nat.succ_eq_add_one, hstep]
    have hlength : (value ++ [itemValue item]).length + items.length < 255 := by
      rw [List.length_append, List.length_singleton]
      omega
    obtain ⟨last, hlast, hrest⟩ := ih hafter (Nat.lt_of_succ_lt_succ hfuel) hlength
    refine ⟨last, ?_, hrest⟩
    rw [hlast, List.append_assoc, List.singleton_append]
    rfl

/-- A string token was read up to a closing quote, and had at most 254 characters. -/
theorem stringBody_string {fuel : ℕ} {value : List UInt8} (h : parser.At text)
    (htype : (stringBody fuel value parser).1.type = .String) :
    ∃ items rest, text = items.flatMap Item.render ++ 0x22 :: rest ∧
      (stringBody fuel value parser).1.value = value ++ stringValue items ∧
      value.length + items.length ≤ 254 ∧ (stringBody fuel value parser).2.At rest := by
  induction fuel generalizing value parser text with
  | zero => cases htype
  | succ fuel ih =>
    by_cases hfull : 255 ≤ value.length
    · rw [stringBody_full hfull] at htype
      cases htype
    have hroom : value.length < 255 := Nat.not_le.mp hfull
    -- one character at the front of the text, and the rest by induction
    have hitem (item : Item) (rest : List UInt8) (htext : text = item.render ++ rest)
        (hnext : ∃ after, stringBody (fuel + 1) value parser =
          stringBody fuel (value ++ [itemValue item]) after ∧ after.At rest) :
        ∃ items rest, text = items.flatMap Item.render ++ 0x22 :: rest ∧
          (stringBody (fuel + 1) value parser).1.value = value ++ stringValue items ∧
          value.length + items.length ≤ 254 ∧ (stringBody (fuel + 1) value parser).2.At rest := by
      obtain ⟨after, hstep, hafter⟩ := hnext
      rw [hstep] at htype ⊢
      obtain ⟨items, last, rfl, hvalue, hlength, hlast⟩ := ih hafter htype
      refine ⟨item :: items, last, ?_, ?_, ?_, hlast⟩
      · rw [htext, List.flatMap_cons, List.append_assoc]
      · rw [hvalue, List.append_assoc, List.singleton_append]
        rfl
      · rw [List.length_append, List.length_singleton] at hlength
        rw [List.length_cons]
        omega
    cases text with
    | nil =>
      rw [stringBody_end h] at htype
      cases htype
    | cons c rest =>
      by_cases hquote : c = 0x22
      · subst hquote
        obtain ⟨after, hstep, hafter⟩ := stringBody_quote fuel hroom h
        rw [hstep]
        exact ⟨[], rest, rfl, (List.append_nil value).symm, Nat.le_of_lt_succ hroom, hafter⟩
      by_cases hbackslash : c = 0x5C
      · subst hbackslash
        cases rest with
        | nil =>
          rw [stringBody_backslash fuel hroom h] at htype
          cases htype
        | cons c rest => exact hitem (.escaped c) rest rfl (stringBody_escaped fuel hroom h)
      · exact hitem (.plain c hquote hbackslash) rest rfl (stringBody_plain fuel hroom h)

/-- A string is a string token or an error. -/
theorem stringBody_type (fuel : ℕ) (value : List UInt8) (parser : JsonParser) :
    (stringBody fuel value parser).1.type = .String ∨
      (stringBody fuel value parser).1.type = .Error := by
  induction fuel generalizing value parser with
  | zero => exact Or.inr rfl
  | succ fuel ih =>
    rw [stringBody]
    by_cases hmore : parser.pos < parser.len ∧ value.length < kWebRequestMaxValueSize - 1
    · rw [if_pos hmore]
      by_cases hquote : parser.peek = 0x22
      · simp only [hquote, if_true, true_or]
      by_cases hbackslash : parser.peek = 0x5C
      · simp only [hbackslash, if_true]
        rw [if_neg (by decide)]
        by_cases hend : parser.read.advance.len ≤ parser.read.advance.pos
        · rw [if_pos hend]
          exact Or.inr rfl
        · rw [if_neg hend]
          exact ih _ _
      · simp only [if_neg hquote, if_neg hbackslash]
        exact ih _ _
    · rw [if_neg hmore]
      exact Or.inr rfl

/-! ## Tokens -/

/-- At the end there is no token. -/
theorem At.next_of_end (h : parser.At text) (htext : text.dropWhile isSpace = []) :
    parser.next.1 = makeToken .Eof := by
  have hstart := h.start
  rw [htext] at hstart
  rw [next]
  simp only [if_pos hstart.len_le]

/-- The token at the first character behind white space. -/
theorem At.next_eq (h : parser.At text) (htext : text.dropWhile isSpace = c :: rest) :
    ∃ start : JsonParser, start.At (c :: rest) ∧
      parser.next =
        if c = 0x7B then (makeToken .ObjectStart, start.advance)
        else if c = 0x7D then (makeToken .ObjectEnd, start.advance)
        else if c = 0x3A then (makeToken .Colon, start.advance)
        else if c = 0x2C then (makeToken .Comma, start.advance)
        else if c = 0x22 then parseString start
        else (makeToken .Error, start) := by
  have hstart := h.start
  rw [htext] at hstart
  refine ⟨_, hstart.read, ?_⟩
  rw [next]
  simp only [if_neg (Nat.not_le.mpr hstart.pos_lt), hstart.peek_eq]

/-- A character is punctuation or none of the four. -/
theorem punctuation_cases (c : UInt8) :
    (∃ type, punctuation type = some c) ∨ (c ≠ 0x7B ∧ c ≠ 0x7D ∧ c ≠ 0x3A ∧ c ≠ 0x2C) := by
  by_cases hopen : c = 0x7B
  · exact Or.inl ⟨.ObjectStart, hopen ▸ rfl⟩
  by_cases hclose : c = 0x7D
  · exact Or.inl ⟨.ObjectEnd, hclose ▸ rfl⟩
  by_cases hcolon : c = 0x3A
  · exact Or.inl ⟨.Colon, hcolon ▸ rfl⟩
  by_cases hcomma : c = 0x2C
  · exact Or.inl ⟨.Comma, hcomma ▸ rfl⟩
  exact Or.inr ⟨hopen, hclose, hcolon, hcomma⟩

/-- Punctuation is no white space. -/
theorem isSpace_punctuation {type : JsonTokenType} (hc : punctuation type = some c) :
    isSpace c = false := by
  cases type with
  | ObjectStart | ObjectEnd | Colon | Comma =>
    cases hc
    rfl
  | String | Eof | Error => cases hc

/-- A token of one byte. -/
theorem At.next_of_head {type : JsonTokenType} (h : parser.At text) (hc : punctuation type = some c)
    (htext : text.dropWhile isSpace = c :: rest) :
    ∃ after, parser.next = (makeToken type, after) ∧ after.At rest := by
  obtain ⟨start, hstart, hnext⟩ := h.next_eq htext
  refine ⟨start.advance, ?_, hstart.advance⟩
  rw [hnext]
  cases type with
  | ObjectStart | ObjectEnd | Colon | Comma =>
    cases hc
    rfl
  | String | Eof | Error => cases hc

/-- A punctuation character behind white space is its token. -/
theorem At.next_of_punctuation {type : JsonTokenType} {space : Space}
    (h : parser.At (space.val ++ c :: rest)) (hc : punctuation type = some c) :
    ∃ after, parser.next = (makeToken type, after) ∧ after.At rest :=
  h.next_of_head hc (JsonText.dropWhile_space space (isSpace_punctuation hc) rest)

/-- At a quote the token is the string. -/
theorem At.next_of_quote (h : parser.At text) (htext : text.dropWhile isSpace = 0x22 :: rest) :
    ∃ fuel behind, parser.next = stringBody fuel [] behind ∧ behind.At rest ∧ rest.length < fuel := by
  obtain ⟨start, hstart, hnext⟩ := h.next_eq htext
  refine ⟨start.len + 1, start.read.advance, ?_, hstart.read.advance, ?_⟩
  · rw [hnext]
    change parseString start = _
    rw [parseString, if_neg (not_not.mpr hstart.peek_eq)]
  · have hlength := hstart.length
    rw [List.length_cons] at hlength
    omega

/-- A string of at most 254 characters behind white space is a token. -/
theorem At.next_of_string {space : Space} {items : List Item}
    (h : parser.At (space.val ++ (quoted items ++ rest))) (hshort : items.length ≤ 254) :
    ∃ after, parser.next = (⟨.String, stringValue items⟩, after) ∧ after.At rest := by
  rw [JsonText.quoted_append] at h
  obtain ⟨fuel, behind, hnext, hbehind, hfuel⟩ :=
    h.next_of_quote (JsonText.dropWhile_space space (by decide) _)
  have hitems := JsonText.length_le_render items
  rw [List.length_append] at hfuel
  have hfuel' : items.length < fuel := by omega
  have hroom : ([] : List UInt8).length + items.length < 255 := by
    rw [List.length_nil]
    omega
  obtain ⟨after, hbody, hafter⟩ := stringBody_of_short hbehind hfuel' hroom
  exact ⟨after, hnext.trans hbody, hafter⟩

/-- A token that is one character was that character behind white space. -/
theorem At.next_punctuation (h : parser.At text) (hc : punctuation parser.next.1.type = some c) :
    ∃ (space : Space) (rest : List UInt8),
      text = space.val ++ c :: rest ∧ parser.next.2.At rest := by
  obtain ⟨space, htext⟩ := exists_space text
  cases hhead : text.dropWhile isSpace with
  | nil =>
    rw [h.next_of_end hhead] at hc
    cases hc
  | cons head rest =>
    rcases punctuation_cases head with ⟨type, hhead'⟩ | ⟨hopen, hclose, hcolon, hcomma⟩
    · obtain ⟨after, hnext, hafter⟩ := h.next_of_head hhead' hhead
      rw [hnext] at hc ⊢
      obtain rfl : head = c := Option.some.inj (hhead'.symm.trans hc)
      exact ⟨space, rest, hhead ▸ htext, hafter⟩
    · obtain ⟨start, -, hnext⟩ := h.next_eq hhead
      rw [if_neg hopen, if_neg hclose, if_neg hcolon, if_neg hcomma] at hnext
      by_cases hquote : head = 0x22
      · obtain ⟨fuel, behind, hbody, -, -⟩ := h.next_of_quote (hquote ▸ hhead)
        rw [hbody] at hc
        rcases stringBody_type fuel [] behind with htype | htype <;> rw [htype] at hc <;> cases hc
      · rw [hnext, if_neg hquote] at hc
        cases hc

/-- A string token was a string of at most 254 characters behind white space. -/
theorem At.next_string (h : parser.At text) (htype : parser.next.1.type = .String) :
    ∃ (space : Space) (items : List Item) (rest : List UInt8),
      text = space.val ++ (quoted items ++ rest) ∧ parser.next.1.value = stringValue items ∧
        items.length ≤ 254 ∧ parser.next.2.At rest := by
  obtain ⟨space, htext⟩ := exists_space text
  cases hhead : text.dropWhile isSpace with
  | nil =>
    rw [h.next_of_end hhead] at htype
    cases htype
  | cons head rest =>
    rcases punctuation_cases head with ⟨type, hhead'⟩ | ⟨hopen, hclose, hcolon, hcomma⟩
    · obtain ⟨after, hnext, -⟩ := h.next_of_head hhead' hhead
      rw [hnext] at htype
      rw [show type = .String from htype] at hhead'
      cases hhead'
    · obtain ⟨start, -, hnext⟩ := h.next_eq hhead
      rw [if_neg hopen, if_neg hclose, if_neg hcolon, if_neg hcomma] at hnext
      by_cases hquote : head = 0x22
      · subst hquote
        obtain ⟨fuel, behind, hbody, hbehind, -⟩ := h.next_of_quote hhead
        rw [hbody] at htype ⊢
        obtain ⟨items, last, rfl, hvalue, hlength, hlast⟩ := stringBody_string hbehind htype
        rw [List.length_nil, Nat.zero_add] at hlength
        refine ⟨space, items, last, ?_, hvalue, hlength, hlast⟩
        rw [JsonText.quoted_append, ← hhead]
        exact htext
      · rw [hnext, if_neg hquote] at htype
        cases htype

end JsonParser

end Esp32Wiimote.Web
