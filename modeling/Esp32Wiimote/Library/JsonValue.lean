import Esp32Wiimote.Library.DecimalText
import Mathlib.Data.List.Basic

/-!
# JSON values and their texts

The values of JSON that are made of printable ASCII strings, whole numbers and truth values, the
compact text of each, and a reader of texts. The reader is strict: it knows no white space between
tokens and only the escapes of a quote and of a backslash, no zero in front of a number, no comma in
front of a bracket and nothing behind the value. So a text that it accepts is JSON and stands for
the value that it reads; and what is written is read again.
-/

namespace JsonValue

open CText DecimalText

/-! ## Values -/

/-- The printable characters of ASCII. -/
def isPrintable (c : UInt8) : Bool := 0x20 ≤ c && c < 0x7F

/-- A printable text. -/
abbrev JsonString := {text : List UInt8 // ∀ c ∈ text, isPrintable c = true}

/-- A text that is checked is printable. -/
theorem printable_of_all {text : List UInt8} (h : text.all isPrintable = true) :
    ∀ c ∈ text, isPrintable c = true := List.all_eq_true.mp h

/-- A JSON value; a member may stand twice in an object. -/
inductive Json
  | bool (b : Bool)
  | number (n : ℤ)
  | string (s : JsonString)
  | array (elements : List Json)
  | object (members : List (JsonString × Json))

/-! ## Writing -/

/-- Quote and backslash are escaped. -/
def writeChar (c : UInt8) : List UInt8 := if c = 0x22 ∨ c = 0x5C then [0x5C, c] else [c]

/-- A string in its quotes. -/
def writeString (s : JsonString) : List UInt8 := 0x22 :: (s.val.flatMap writeChar ++ [0x22])

/-- `true`. -/
def trueText : List UInt8 := [0x74, 0x72, 0x75, 0x65]

/-- `false`. -/
def falseText : List UInt8 := [0x66, 0x61, 0x6C, 0x73, 0x65]

/-- One of the two words. -/
def writeBool (b : Bool) : List UInt8 := if b then trueText else falseText

/-- The decimal number, with its sign. -/
def writeNumber (n : ℤ) : List UInt8 := if n < 0 then 0x2D :: decimal n.natAbs else decimal n.natAbs

mutual

/-- The compact text of a value. -/
def Json.write : Json → List UInt8
  | .bool b => writeBool b
  | .number n => writeNumber n
  | .string s => writeString s
  | .array elements => 0x5B :: (writeElements elements ++ [0x5D])
  | .object members => 0x7B :: (writeMembers members ++ [0x7D])

/-- The elements of an array, with commas between them. -/
def writeElements : List Json → List UInt8
  | [] => []
  | [value] => value.write
  | value :: next :: rest => value.write ++ 0x2C :: writeElements (next :: rest)

/-- The members of an object, with commas between them. -/
def writeMembers : List (JsonString × Json) → List UInt8
  | [] => []
  | [(key, value)] => writeString key ++ 0x3A :: value.write
  | (key, value) :: next :: rest =>
    writeString key ++ 0x3A :: (value.write ++ 0x2C :: writeMembers (next :: rest))

end

/-- The text of a member: its key and its value. -/
def writeMember (m : JsonString × Json) : List UInt8 := writeString m.1 ++ 0x3A :: m.2.write

/-- The members are written with commas between them. -/
theorem writeMembers_eq (members : List (JsonString × Json)) :
    writeMembers members = List.intercalate [0x2C] (members.map writeMember) := by
  induction members with
  | nil => rfl
  | cons m rest ih =>
    cases rest with
    | nil =>
      rw [writeMembers, List.map_singleton, List.intercalate_singleton]
      rfl
    | cons next rest =>
      rw [writeMembers, ih]
      simp only [List.map_cons, List.intercalate_cons_cons, writeMember, List.append_assoc, List.cons_append,
        List.nil_append]

/-! ## Reading -/

/-- The string without characters. -/
def emptyString : JsonString := ⟨[], fun _ hd => absurd hd List.not_mem_nil⟩

/-- The string with a character in front. -/
def consChar (c : UInt8) (h : isPrintable c = true) (s : JsonString) : JsonString :=
  ⟨c :: s.val, fun d hd => (List.mem_cons.mp hd).elim (fun heq => heq ▸ h) (s.property d)⟩

/-- The rest of a string behind its opening quote, or behind a backslash, and the text behind the
string. -/
def readChars : Bool → List UInt8 → Option (JsonString × List UInt8)
  | _, [] => none
  | true, c :: rest =>
    if h : isPrintable c = true ∧ (c = 0x22 ∨ c = 0x5C) then
      (readChars false rest).map fun read => (consChar c h.1 read.1, read.2)
    else none
  | false, c :: rest =>
    if c = 0x22 then some (emptyString, rest)
    else if c = 0x5C then readChars true rest
    else if h : isPrintable c = true then
      (readChars false rest).map fun read => (consChar c h read.1, read.2)
    else none

/-- A string in quotes, and what is behind it. -/
def readString : List UInt8 → Option (JsonString × List UInt8)
  | [] => none
  | c :: rest => if c = 0x22 then readChars false rest else none

/-- Zero stands alone, and any other number does not begin with a zero. -/
def readNatural : List UInt8 → Option (ℕ × List UInt8)
  | [] => none
  | c :: rest =>
    if c = 0x30 then some (0, rest)
    else if isdigit c then some (readDigits 10 0 (c :: rest))
    else none

/-- A number, and what is behind it. -/
def readNumber : List UInt8 → Option (ℤ × List UInt8)
  | [] => none
  | c :: rest =>
    if c = 0x2D then (readNatural rest).map fun read => (-(read.1 : ℤ), read.2)
    else (readNatural (c :: rest)).map fun read => ((read.1 : ℤ), read.2)

/-- A character that has to stand in front. -/
def expect (c : UInt8) : List UInt8 → Option (List UInt8)
  | [] => none
  | d :: rest => if d = c then some rest else none

mutual

/-- The value in front of a text, and the text behind it. The fuel bounds the depth and the length of
the nested lists. -/
def readValue : ℕ → List UInt8 → Option (Json × List UInt8)
  | 0, _ => none
  | fuel + 1, text =>
    if text.head? = some 0x22 then (readString text).map fun read => (.string read.1, read.2)
    else if text.head? = some 0x5B then
      if text.tail.head? = some 0x5D then some (.array [], text.tail.tail)
      else (readElements fuel text.tail).map fun read => (.array read.1, read.2)
    else if text.head? = some 0x7B then
      if text.tail.head? = some 0x7D then some (.object [], text.tail.tail)
      else (readMembers fuel text.tail).map fun read => (.object read.1, read.2)
    else if text.take 4 = trueText then some (.bool true, text.drop 4)
    else if text.take 5 = falseText then some (.bool false, text.drop 5)
    else (readNumber text).map fun read => (.number read.1, read.2)

/-- Elements up to the closing bracket. -/
def readElements : ℕ → List UInt8 → Option (List Json × List UInt8)
  | 0, _ => none
  | fuel + 1, text =>
    (readValue fuel text).bind fun read =>
      if read.2.head? = some 0x2C then
        (readElements fuel read.2.tail).map fun rest => (read.1 :: rest.1, rest.2)
      else if read.2.head? = some 0x5D then some ([read.1], read.2.tail)
      else none

/-- Members up to the closing brace. -/
def readMembers : ℕ → List UInt8 → Option (List (JsonString × Json) × List UInt8)
  | 0, _ => none
  | fuel + 1, text =>
    (readString text).bind fun key =>
      (expect 0x3A key.2).bind fun behind =>
        (readValue fuel behind).bind fun read =>
          if read.2.head? = some 0x2C then
            (readMembers fuel read.2.tail).map fun rest => ((key.1, read.1) :: rest.1, rest.2)
          else if read.2.head? = some 0x7D then some ([(key.1, read.1)], read.2.tail)
          else none

end

/-- The value that a whole text stands for. -/
def readJson (text : List UInt8) : Option Json :=
  (readValue text.length text).bind fun read => if read.2 = [] then some read.1 else none

/-! ## What is written is read again -/

section RoundTrip

/-- The text does not go on with a digit, as none does behind a value. -/
def Delimited (rest : List UInt8) : Prop := ∀ c ∈ rest.head?, isdigit c = false

variable {rest : List UInt8}

/-- Nothing follows at the end. -/
theorem delimited_nil : Delimited [] := fun _ hc => by cases hc

variable (rest) in

/-- No digit follows in front of another character. -/
theorem delimited_cons {c : UInt8} (hc : isdigit c = false) : Delimited (c :: rest) := by
  intro d hd
  cases hd
  exact hc

/-- The characters of a string are read back up to its closing quote. -/
theorem readChars_write (text : List UInt8) (h : ∀ c ∈ text, isPrintable c = true) :
    readChars false (text.flatMap writeChar ++ 0x22 :: rest) = some (⟨text, h⟩, rest) := by
  induction text with
  | nil => rfl
  | cons c text ih =>
    have hc := h c List.mem_cons_self
    have hread := ih fun d hd => h d (List.mem_cons_of_mem c hd)
    rw [List.flatMap_cons, List.append_assoc]
    by_cases hescaped : c = 0x22 ∨ c = 0x5C
    · rw [writeChar, if_pos hescaped, List.cons_append, readChars, if_neg (by decide), if_pos rfl,
        List.cons_append, readChars, dif_pos ⟨hc, hescaped⟩, List.nil_append, hread]
      rfl
    · rw [writeChar, if_neg hescaped, List.cons_append, readChars, if_neg fun hq => hescaped (.inl hq),
        if_neg fun hb => hescaped (.inr hb), dif_pos hc, List.nil_append, hread]
      rfl

/-- A string is read back. -/
theorem readString_write (s : JsonString) : readString (writeString s ++ rest) = some (s, rest) := by
  rw [writeString, List.cons_append, readString, if_pos rfl, List.append_assoc]
  exact readChars_write s.val s.property

/-- A natural number is read back in front of anything but a digit. -/
theorem readNatural_write (n : ℕ) (h : Delimited rest) :
    readNatural (decimal n ++ rest) = some (n, rest) := by
  by_cases hzero : n = 0
  · subst hzero
    rfl
  · obtain ⟨c, digits, heq⟩ := List.exists_cons_of_ne_nil (isNumeral_decimal n).1
    have hdigit : isdigit c = true := (isNumeral_decimal n).2 c (heq ▸ List.mem_cons_self)
    have hfirst : c ≠ 0x30 := by
      rintro rfl
      exact head_decimal_ne_zero hzero (heq ▸ rfl)
    have hread := readDigits_decimal n h
    rw [heq, List.cons_append] at hread ⊢
    rw [readNatural, if_neg hfirst, if_pos hdigit, hread]

/-- A number begins with a digit. -/
theorem isdigit_head_decimal (n : ℕ) : ∃ c digits, decimal n = c :: digits ∧ isdigit c = true := by
  obtain ⟨c, digits, heq⟩ := List.exists_cons_of_ne_nil (isNumeral_decimal n).1
  exact ⟨c, digits, heq, (isNumeral_decimal n).2 c (heq ▸ List.mem_cons_self)⟩

/-- An integer is read back in front of anything but a digit. -/
theorem readNumber_write (n : ℤ) (h : Delimited rest) :
    readNumber (writeNumber n ++ rest) = some (n, rest) := by
  unfold writeNumber
  split
  case isTrue hneg =>
    rw [List.cons_append, readNumber, if_pos rfl, readNatural_write n.natAbs h]
    change some (-(n.natAbs : ℤ), rest) = _
    rw [Int.ofNat_natAbs_of_nonpos hneg.le, neg_neg]
  case isFalse hpos =>
    obtain ⟨c, digits, heq, hdigit⟩ := isdigit_head_decimal n.natAbs
    have hread := readNatural_write n.natAbs h
    have hminus : c ≠ 0x2D := by
      rintro rfl
      cases hdigit
    rw [heq, List.cons_append] at hread ⊢
    rw [readNumber, if_neg hminus, hread]
    change some ((n.natAbs : ℤ), rest) = _
    rw [Int.natAbs_of_nonneg (not_lt.mp hpos)]

mutual

/-- The fuel that a value takes. -/
def Json.weight : Json → ℕ
  | .array elements => 1 + elementsWeight elements
  | .object members => 1 + membersWeight members
  | _ => 1

/-- The fuel that elements need. -/
def elementsWeight : List Json → ℕ
  | [] => 0
  | value :: rest => 1 + value.weight + elementsWeight rest

/-- The fuel that members need. -/
def membersWeight : List (JsonString × Json) → ℕ
  | [] => 0
  | (_, value) :: rest => 1 + value.weight + membersWeight rest

end

/-- A number is not written as nothing. -/
theorem length_writeNumber_pos (n : ℤ) : 0 < (writeNumber n).length := by
  unfold writeNumber
  split
  · exact Nat.succ_pos _
  · exact List.length_pos_iff.mpr (isNumeral_decimal _).1

mutual

/-- The text of a value is as long as the fuel it takes. -/
theorem Json.weight_le : ∀ value : Json, value.weight ≤ value.write.length
  | .bool b => by cases b <;> decide
  | .number n => length_writeNumber_pos n
  | .string s => Nat.succ_pos _
  | .array elements => by
    have h := elementsWeight_le elements
    rw [Json.weight, Json.write, List.length_cons, List.length_append, List.length_singleton]
    omega
  | .object members => by
    have h := membersWeight_le members
    rw [Json.weight, Json.write, List.length_cons, List.length_append, List.length_singleton]
    omega

/-- The text of the elements has enough fuel for them. -/
theorem elementsWeight_le : ∀ elements, elementsWeight elements ≤ (writeElements elements).length + 1
  | [] => Nat.zero_le _
  | [value] => by
    have h := value.weight_le
    rw [elementsWeight, elementsWeight, writeElements]
    omega
  | value :: next :: rest => by
    have h := value.weight_le
    have hrest := elementsWeight_le (next :: rest)
    rw [elementsWeight, writeElements, List.length_append, List.length_cons]
    omega

/-- So has the text of the members. -/
theorem membersWeight_le : ∀ members, membersWeight members ≤ (writeMembers members).length + 1
  | [] => Nat.zero_le _
  | [(key, value)] => by
    have h := value.weight_le
    rw [membersWeight, membersWeight, writeMembers, List.length_append, List.length_cons]
    omega
  | (key, value) :: next :: rest => by
    have h := value.weight_le
    have hrest := membersWeight_le (next :: rest)
    rw [membersWeight, writeMembers, List.length_append, List.length_cons, List.length_append,
      List.length_cons]
    omega

end

/-- A value does not begin with a closing bracket. -/
theorem Json.write_head (value : Json) : ∃ c text, value.write = c :: text ∧ c ≠ 0x5D := by
  cases value with
  | bool b => cases b <;> exact ⟨_, _, rfl, by decide⟩
  | number n =>
    obtain ⟨c, digits, heq, hdigit⟩ := isdigit_head_decimal n.natAbs
    rw [Json.write, writeNumber, heq]
    split
    · exact ⟨_, _, rfl, by decide⟩
    · refine ⟨c, digits, rfl, fun hc => ?_⟩
      rw [hc] at hdigit
      cases hdigit
  | string s => exact ⟨_, _, rfl, by decide⟩
  | array elements => exact ⟨_, _, rfl, by decide⟩
  | object members => exact ⟨_, _, rfl, by decide⟩

section Heads

/-- A word is read back. -/
theorem readValue_bool (fuel : ℕ) (b : Bool) (rest : List UInt8) :
    readValue (fuel + 1) (writeBool b ++ rest) = some (.bool b, rest) := by
  cases b <;> rfl

/-- A string is read back as a value. -/
theorem readValue_string (fuel : ℕ) (s : JsonString) (rest : List UInt8) :
    readValue (fuel + 1) (writeString s ++ rest) = some (.string s, rest) := by
  have hhead : (writeString s ++ rest).head? = some 0x22 := rfl
  rw [readValue, if_pos hhead, readString_write]
  rfl

/-- A number is read back as a value. -/
theorem readValue_number (fuel : ℕ) (n : ℤ) (h : Delimited rest) :
    readValue (fuel + 1) (writeNumber n ++ rest) = some (.number n, rest) := by
  have hread := readNumber_write n h
  have hhead : ∃ c text, writeNumber n ++ rest = c :: text ∧ (c = 0x2D ∨ isdigit c = true) := by
    obtain ⟨c, digits, heq, hdigit⟩ := isdigit_head_decimal n.natAbs
    rw [writeNumber, heq]
    split
    · exact ⟨_, _, rfl, .inl rfl⟩
    · exact ⟨_, _, rfl, .inr hdigit⟩
  obtain ⟨c, text, heq, hc⟩ := hhead
  rw [heq] at hread ⊢
  have hother (d : UInt8) (hd : d ≠ 0x2D ∧ isdigit d = false) : c ≠ d := by
    rintro rfl
    rcases hc with rfl | hdigit
    · exact hd.1 rfl
    · exact Bool.false_ne_true (hd.2.symm.trans hdigit)
  have hhead (d : UInt8) (hd : d ≠ 0x2D ∧ isdigit d = false) : (c :: text).head? ≠ some d :=
    fun h => hother d hd (Option.some.inj h)
  have htrue : (c :: text).take 4 ≠ trueText := fun h => hother 0x74 (by decide) (List.cons.inj h).1
  have hfalse : (c :: text).take 5 ≠ falseText := fun h => hother 0x66 (by decide) (List.cons.inj h).1
  rw [readValue, if_neg (hhead 0x22 (by decide)), if_neg (hhead 0x5B (by decide)),
    if_neg (hhead 0x7B (by decide)), if_neg htrue, if_neg hfalse, hread]
  rfl

/-- An array that is not empty is read by its elements. -/
theorem readValue_array {fuel : ℕ} {elements : List Json} {text rest : List UInt8} {c : UInt8}
    (hc : c ≠ 0x5D) (h : readElements fuel (c :: text) = some (elements, rest)) :
    readValue (fuel + 1) (0x5B :: c :: text) = some (.array elements, rest) := by
  have hclose : (c :: text).head? ≠ some 0x5D := fun h => hc (Option.some.inj h)
  rw [readValue, List.head?_cons, if_neg (by decide), if_pos rfl, List.tail_cons, if_neg hclose, h]
  rfl

/-- An object that is not empty is read by its members. -/
theorem readValue_object {fuel : ℕ} {members : List (JsonString × Json)} {text rest : List UInt8}
    {c : UInt8} (hc : c ≠ 0x7D) (h : readMembers fuel (c :: text) = some (members, rest)) :
    readValue (fuel + 1) (0x7B :: c :: text) = some (.object members, rest) := by
  have hclose : (c :: text).head? ≠ some 0x7D := fun h => hc (Option.some.inj h)
  rw [readValue, List.head?_cons, if_neg (by decide), if_neg (by decide), if_pos rfl, List.tail_cons,
    if_neg hclose, h]
  rfl

end Heads

/-- Fuel for a value is fuel for one step, and for what is inside. -/
theorem fuel_pos {weight fuel : ℕ} (h : 1 + weight ≤ fuel) : ∃ less, fuel = less + 1 ∧ weight ≤ less :=
  ⟨fuel - 1, by omega, by omega⟩

mutual

/-- The value is read off its text, whatever stands behind it. -/
theorem readValue_write : ∀ (value : Json) {fuel : ℕ} {rest : List UInt8}, value.weight ≤ fuel →
    Delimited rest → readValue fuel (value.write ++ rest) = some (value, rest)
  | .bool b, fuel, rest, hfuel, _ => by
    obtain ⟨less, rfl, -⟩ := fuel_pos (show 1 + 0 ≤ fuel from hfuel)
    exact readValue_bool less b rest
  | .number n, fuel, rest, hfuel, hrest => by
    obtain ⟨less, rfl, -⟩ := fuel_pos (show 1 + 0 ≤ fuel from hfuel)
    exact readValue_number less n hrest
  | .string s, fuel, rest, hfuel, _ => by
    obtain ⟨less, rfl, -⟩ := fuel_pos (show 1 + 0 ≤ fuel from hfuel)
    exact readValue_string less s rest
  | .array [], fuel, rest, hfuel, _ => by
    obtain ⟨less, rfl, -⟩ := fuel_pos hfuel
    rfl
  | .array (first :: others), fuel, rest, hfuel, _ => by
    obtain ⟨less, rfl, hless⟩ := fuel_pos hfuel
    have hread := readElements_write (first :: others) rest (List.cons_ne_nil _ _) hless
    obtain ⟨c, text, heq, hc⟩ := first.write_head
    rw [Json.write, List.cons_append, List.append_assoc, List.singleton_append]
    cases others with
    | nil =>
      rw [writeElements, heq] at hread ⊢
      exact readValue_array hc hread
    | cons next others =>
      rw [writeElements, heq] at hread ⊢
      exact readValue_array hc hread
  | .object [], fuel, rest, hfuel, _ => by
    obtain ⟨less, rfl, -⟩ := fuel_pos hfuel
    rfl
  | .object ((key, value) :: others), fuel, rest, hfuel, _ => by
    obtain ⟨less, rfl, hless⟩ := fuel_pos hfuel
    have hread := readMembers_write ((key, value) :: others) rest (List.cons_ne_nil _ _) hless
    rw [Json.write, List.cons_append, List.append_assoc, List.singleton_append]
    cases others with
    | nil =>
      rw [writeMembers, writeString] at hread ⊢
      exact readValue_object (by decide) hread
    | cons next others =>
      rw [writeMembers, writeString] at hread ⊢
      exact readValue_object (by decide) hread

/-- The elements of an array are read back. -/
theorem readElements_write : ∀ (elements : List Json) {fuel : ℕ} (rest : List UInt8), elements ≠ [] →
    elementsWeight elements ≤ fuel →
    readElements fuel (writeElements elements ++ 0x5D :: rest) = some (elements, rest)
  | [], fuel, rest, hne, _ => absurd rfl hne
  | [value], fuel, rest, _, hfuel => by
    obtain ⟨less, rfl, hless⟩ := fuel_pos ((Nat.add_assoc ..).symm.trans_le hfuel)
    have hread := readValue_write value ((Nat.le_add_right _ _).trans hless)
      (delimited_cons rest (by decide : isdigit 0x5D = false))
    rw [readElements, writeElements, hread]
    rfl
  | value :: next :: others, fuel, rest, _, hfuel => by
    obtain ⟨less, rfl, hless⟩ := fuel_pos ((Nat.add_assoc ..).symm.trans_le hfuel)
    have hothers := readElements_write (next :: others) rest (List.cons_ne_nil _ _)
      ((Nat.le_add_left _ _).trans hless)
    have hread := readValue_write value ((Nat.le_add_right _ _).trans hless)
      (delimited_cons (writeElements (next :: others) ++ 0x5D :: rest) (by decide : isdigit 0x2C = false))
    rw [readElements, writeElements, List.append_assoc, List.cons_append, hread, Option.bind_some]
    dsimp only
    rw [List.head?_cons, if_pos rfl, List.tail_cons, hothers]
    rfl

/-- The members of an object are read back. -/
theorem readMembers_write : ∀ (members : List (JsonString × Json)) {fuel : ℕ} (rest : List UInt8),
    members ≠ [] → membersWeight members ≤ fuel →
    readMembers fuel (writeMembers members ++ 0x7D :: rest) = some (members, rest)
  | [], fuel, rest, hne, _ => absurd rfl hne
  | [(key, value)], fuel, rest, _, hfuel => by
    obtain ⟨less, rfl, hless⟩ := fuel_pos ((Nat.add_assoc ..).symm.trans_le hfuel)
    have hread := readValue_write value ((Nat.le_add_right _ _).trans hless)
      (delimited_cons rest (by decide : isdigit 0x7D = false))
    rw [readMembers, writeMembers, List.append_assoc, List.cons_append, readString_write,
      Option.bind_some, expect, if_pos rfl, Option.bind_some, hread]
    rfl
  | (key, value) :: next :: others, fuel, rest, _, hfuel => by
    obtain ⟨less, rfl, hless⟩ := fuel_pos ((Nat.add_assoc ..).symm.trans_le hfuel)
    have hothers := readMembers_write (next :: others) rest (List.cons_ne_nil _ _)
      ((Nat.le_add_left _ _).trans hless)
    have hread := readValue_write value ((Nat.le_add_right _ _).trans hless)
      (delimited_cons (writeMembers (next :: others) ++ 0x7D :: rest) (by decide : isdigit 0x2C = false))
    rw [readMembers, writeMembers, List.append_assoc, List.cons_append, readString_write,
      Option.bind_some, expect, if_pos rfl, Option.bind_some, List.append_assoc, List.cons_append, hread,
      Option.bind_some]
    dsimp only
    rw [List.head?_cons, if_pos rfl, List.tail_cons, hothers]
    rfl

end

/-- Reading takes back writing. -/
theorem readJson_write (value : Json) : readJson value.write = some value := by
  have hread := readValue_write value value.weight_le delimited_nil
  rw [List.append_nil] at hread
  rw [readJson, hread]
  rfl

end RoundTrip

end JsonValue
