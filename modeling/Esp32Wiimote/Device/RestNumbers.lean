import Esp32Wiimote.Device.ArgumentReadings
import Esp32Wiimote.Library.DecimalText

/-!
# The numbers of the web API

Both numbers of a request are read by `strtoul`, with a check of the range behind it. The byte of an
argument is read with what `strtoul` passes in front of the digits, and a minus makes a large numeral
small. The identifier in a path is checked to be digits, and where `unsigned long` has 32 bits the check
of its range can never fail: a numeral behind the range is read as the end of it.
-/

namespace Esp32Wiimote.Device

open CText DecimalText Web

/-! ## Bytes -/

/-- The text is read as the number it denotes where that is a byte, and not at all elsewhere. -/
def ReadsByteExactly (text : CString) : Prop :=
  ∀ value, parseU8 text = some value ↔
    IsNumeral text ∧ numeralValue text ≤ 255 ∧ value.toNat = numeralValue text

/-- A magnitude of which the sign makes a byte in `unsigned long`. -/
def IsByteOf (negative : Bool) (value : ℕ) : Prop :=
  if negative then value = 0 ∨ 2 ^ 32 - 255 ≤ value ∧ value < 2 ^ 32 else value ≤ 255

/-- Blanks or a sign, and behind them a numeral of which the sign makes a byte. -/
def MisreadByte (text : CString) : Prop :=
  ∃ blanks sign digits negative, text = blanks ++ (sign ++ digits) ∧
    (∀ c ∈ blanks, isspace c = true) ∧ IsSign negative sign ∧ IsNumeral digits ∧
    blanks ++ sign ≠ [] ∧ IsByteOf negative (numeralValue digits)

/-- A numeral is read as its value, to its end. -/
theorem readInteger_of_isNumeral {text : CString} (h : IsNumeral text) :
    readInteger 10 text = (some (false, numeralValue text), []) :=
  readInteger_ten_iff.mpr ⟨[], [], text, rfl, fun _ hc => absurd hc List.not_mem_nil, Or.inl rfl, h, rfl⟩

/-- A numeral that is a byte is read as it is. -/
theorem parseU8_of_isNumeral {text : CString} (h : IsNumeral text) (hbyte : numeralValue text ≤ 255) :
    parseU8 text = some (UInt8.ofNat (numeralValue text)) := by
  rw [parseU8_of_whole (readInteger_of_isNumeral h), if_neg (by omega), if_neg Bool.false_ne_true,
    if_neg (Nat.not_lt.mpr hbyte)]

/-- A whole number is read where its sign makes it a byte. -/
theorem isSome_parseU8_of_whole {text : CString} {negative : Bool} {value : ℕ}
    (h : readInteger 10 text = (some (negative, value), [])) :
    (parseU8 text).isSome = true ↔ IsByteOf negative value := by
  rw [parseU8_of_whole h]
  cases negative with
  | false =>
    change _ ↔ value ≤ 255
    by_cases hbyte : value ≤ 255
    · rw [if_neg (by omega), if_neg Bool.false_ne_true, if_neg (Nat.not_lt.mpr hbyte)]
      exact iff_of_true rfl hbyte
    · rw [if_neg Bool.false_ne_true, if_pos (Nat.not_le.mp hbyte), ite_self]
      exact iff_of_false Bool.false_ne_true hbyte
  | true =>
    change _ ↔ value = 0 ∨ 2 ^ 32 - 255 ≤ value ∧ value < 2 ^ 32
    by_cases hhuge : 2 ^ 32 ≤ value
    · rw [if_pos hhuge]
      exact iff_of_false Bool.false_ne_true (by omega)
    rw [if_neg hhuge, if_pos rfl]
    by_cases hbetween : value ≠ 0 ∧ value < 2 ^ 32 - 255
    · rw [if_pos hbetween]
      exact iff_of_false Bool.false_ne_true (by omega)
    · rw [if_neg hbetween]
      exact iff_of_true rfl (by omega)

/-- A byte is read where blanks and a sign are followed by a numeral of which the sign makes one. -/
theorem parseU8_isSome_iff (text : CString) :
    (parseU8 text).isSome = true ↔
      ∃ negative value, readInteger 10 text = (some (negative, value), []) ∧ IsByteOf negative value := by
  constructor
  · intro hsome
    by_cases hwhole : ∃ number, readInteger 10 text = (some number, [])
    · obtain ⟨⟨negative, value⟩, hread⟩ := hwhole
      exact ⟨negative, value, hread, (isSome_parseU8_of_whole hread).mp hsome⟩
    · rw [parseU8_of_not_whole fun number hread => hwhole ⟨number, hread⟩] at hsome
      cases hsome
  · rintro ⟨negative, value, hread, hbyte⟩
    exact (isSome_parseU8_of_whole hread).mpr hbyte

/-- Bytes are read exactly but for the numerals with something in front. -/
theorem readsByteExactly_iff_not_misread (text : CString) :
    ReadsByteExactly text ↔ ¬MisreadByte text := by
  constructor
  · rintro hexact ⟨blanks, sign, digits, negative, rfl, hblanks, hsign, hdigits, hfront, hbyte⟩
    have hsome := (parseU8_isSome_iff (blanks ++ (sign ++ digits))).mpr ⟨negative, _,
      readInteger_ten_iff.mpr ⟨blanks, sign, digits, rfl, hblanks, hsign, hdigits, rfl⟩, hbyte⟩
    obtain ⟨value, hvalue⟩ := Option.isSome_iff_exists.mp hsome
    exact not_isNumeral_of_front hblanks hsign hfront ((hexact value).mp hvalue).1
  · intro hgood value
    constructor
    · intro hvalue
      obtain ⟨negative, number, hread, hbyte⟩ :=
        (parseU8_isSome_iff text).mp (Option.isSome_iff_exists.mpr ⟨value, hvalue⟩)
      obtain ⟨blanks, sign, digits, rfl, hblanks, hsign, hdigits, rfl⟩ := readInteger_ten_iff.mp hread
      have hfront : blanks ++ sign = [] := by
        by_contra hfront
        exact hgood ⟨blanks, sign, digits, negative, rfl, hblanks, hsign, hdigits, hfront, hbyte⟩
      obtain ⟨rfl, rfl⟩ := List.append_eq_nil_iff.mp hfront
      obtain rfl : negative = false := by
        cases negative with
        | true => cases hsign
        | false => rfl
      rw [List.nil_append, List.nil_append] at hvalue ⊢
      rw [parseU8_of_isNumeral hdigits hbyte] at hvalue
      cases hvalue
      refine ⟨hdigits, hbyte, ?_⟩
      rw [UInt8.toNat_ofNat']
      exact Nat.mod_eq_of_lt (Nat.lt_succ_of_le hbyte)
    · rintro ⟨hnumeral, hbyte, hvalue⟩
      rw [parseU8_of_isNumeral hnumeral hbyte, ← hvalue, UInt8.ofNat_toNat]

/-! ## Identifiers -/

/-- The path of the status of a command. -/
def commandStatusPath (digits : CString) : CString :=
  ascii "/api/commands/" ++ (digits ++ ascii "/status")

/-- A path is read as the identifier in it where that is a positive number of 32 bits in at most ten
digits, and as none elsewhere. -/
def ReadsIdExactly (path : CString) : Prop :=
  ∀ id, parseCommandStatusPath path = some (some id) ↔
    ∃ digits, path = commandStatusPath digits ∧ IsNumeral digits ∧ digits.length ≤ 10 ∧
      1 ≤ numeralValue digits ∧ numeralValue digits < 2 ^ 32 ∧ id.toNat = numeralValue digits

/-- A path with a numeral that 32 bits do not hold. -/
def SaturatedId (path : CString) : Prop :=
  ∃ digits, path = commandStatusPath digits ∧ IsNumeral digits ∧ digits.length ≤ 10 ∧
    2 ^ 32 ≤ numeralValue digits

/-- `strtoul` gives its value, and the greatest number where that is too large. -/
theorem strtoul_of_isNumeral {digits : CString} (h : IsNumeral digits) :
    strtoul digits 10 = (min (numeralValue digits) (2 ^ 32 - 1), []) := by
  rw [strtoul, readInteger_of_isNumeral h]
  dsimp only
  by_cases hhuge : 2 ^ 32 ≤ numeralValue digits
  · rw [if_pos hhuge, Nat.min_eq_right (by omega)]
  · rw [if_neg hhuge, if_neg Bool.false_ne_true, Nat.min_eq_left (by omega)]

/-- The lengths of what stands before and behind the number. -/
theorem length_front : (ascii "/api/commands/").length = 14 := rfl

theorem length_back : (ascii "/status").length = 7 := rfl

/-- What is done with the text of the identifier. -/
def parseIdText (idBuf : CString) : Option UInt32 :=
  if 10 < idBuf.length ∨ idBuf.all isdigit = false then none
  else
    let parsed := strtoul idBuf 10
    if parsed.2 = idBuf ∨ parsed.2 ≠ [] ∨ parsed.1 = 0 ∨ 0xFFFFFFFF < parsed.1 then none
    else some (UInt32.ofNat parsed.1)

/-- On a path of the form, the text between the two ends is read. -/
theorem parseCommandStatusPath_commandStatusPath {digits : CString} (h : digits ≠ []) :
    parseCommandStatusPath (commandStatusPath digits) = some (parseIdText digits) := by
  have hpos : 0 < digits.length := List.length_pos_of_ne_nil h
  have hlength : (commandStatusPath digits).length = 14 + (digits.length + 7) := by
    rw [commandStatusPath, List.length_append, List.length_append, length_front, length_back]
  have hfront : (commandStatusPath digits).take 14 = ascii "/api/commands/" := List.take_left' length_front
  have hback : (commandStatusPath digits).drop (14 + (digits.length + 7) - 7) = ascii "/status" := by
    rw [commandStatusPath, ← List.append_assoc, List.drop_left']
    rw [List.length_append, length_front]
    omega
  have hbehind : (commandStatusPath digits).drop 14 = digits ++ ascii "/status" :=
    List.drop_left' length_front
  have hid : 14 + (digits.length + 7) - 14 - 7 = digits.length := by omega
  rw [parseCommandStatusPath, parseIdText]
  dsimp only
  rw [length_front, length_back, hlength, if_neg (by omega), if_neg (not_not.mpr hfront),
    if_neg (not_not.mpr hback), hid, hbehind, List.take_left' rfl]
  by_cases hlong : 10 < digits.length
  · rw [if_pos (Or.inr hlong), if_pos (Or.inl hlong)]
  rw [if_neg (by omega)]
  by_cases hall : digits.all isdigit = false
  · rw [if_pos hall, if_pos (Or.inr hall)]
  have htext : ¬(10 < digits.length ∨ digits.all isdigit = false) := not_or.mpr ⟨hlong, hall⟩
  rw [if_neg hall, if_neg htext]
  by_cases hread : (strtoul digits 10).2 = digits ∨ (strtoul digits 10).2 ≠ [] ∨
      (strtoul digits 10).1 = 0 ∨ 0xFFFFFFFF < (strtoul digits 10).1
  · rw [if_pos hread, if_pos hread]
  · rw [if_neg hread, if_neg hread]

/-- A path that is read is of the form. -/
theorem eq_commandStatusPath {path : CString} {id : Option UInt32}
    (h : parseCommandStatusPath path = some id) :
    ∃ digits, digits ≠ [] ∧ path = commandStatusPath digits := by
  rw [parseCommandStatusPath] at h
  dsimp only at h
  rw [length_front, length_back] at h
  split at h
  · cases h
  rename_i hlength
  split at h
  · cases h
  rename_i hfront
  split at h
  · cases h
  rename_i hback
  clear h
  have hlong : 22 ≤ path.length := by omega
  refine ⟨(path.drop 14).take (path.length - 21), ?_, ?_⟩
  · apply List.ne_nil_of_length_pos
    rw [List.length_take, List.length_drop]
    omega
  · have hend : 14 + (path.length - 21) = path.length - 7 := by omega
    rw [commandStatusPath, ← not_not.mp hfront, ← not_not.mp hback, ← hend, ← List.drop_drop,
      List.take_append_drop, List.take_append_drop]

/-- The identifier is the numeral, at most the end of the range. -/
theorem parseIdText_eq_iff {digits : CString} {id : UInt32} (h : digits ≠ []) :
    parseIdText digits = some id ↔
      IsNumeral digits ∧ digits.length ≤ 10 ∧ 1 ≤ numeralValue digits ∧
        id = UInt32.ofNat (min (numeralValue digits) (2 ^ 32 - 1)) := by
  rw [parseIdText]
  by_cases htext : 10 < digits.length ∨ digits.all isdigit = false
  · rw [if_pos htext]
    refine iff_of_false (fun hnone => by cases hnone) ?_
    rintro ⟨hnumeral, hlength, -, -⟩
    rcases htext with hlong | hall
    · omega
    · rw [List.all_eq_true.mpr hnumeral.2] at hall
      cases hall
  · rw [not_or, Nat.not_lt, Bool.not_eq_false, List.all_eq_true] at htext
    have hnumeral : IsNumeral digits := ⟨h, htext.2⟩
    rw [if_neg (by rw [not_or, Nat.not_lt, Bool.not_eq_false, List.all_eq_true]; exact htext),
      strtoul_of_isNumeral hnumeral]
    dsimp only
    by_cases hzero : numeralValue digits = 0
    · rw [hzero, Nat.zero_min, if_pos (Or.inr (Or.inr (Or.inl rfl)))]
      exact iff_of_false (fun hnone => by cases hnone) fun hid => absurd hid.2.2.1 (by decide)
    · rw [if_neg]
      · constructor
        · rintro ⟨⟩
          exact ⟨hnumeral, htext.1, Nat.one_le_iff_ne_zero.mpr hzero, rfl⟩
        · rintro ⟨-, -, -, rfl⟩
          rfl
      · rintro (hstart | hrest | hnone | hlarge)
        · exact h hstart.symm
        · exact hrest rfl
        · omega
        · omega

/-- What is read of a path. -/
theorem parseCommandStatusPath_eq_iff {path : CString} {id : UInt32} :
    parseCommandStatusPath path = some (some id) ↔
      ∃ digits, path = commandStatusPath digits ∧ IsNumeral digits ∧ digits.length ≤ 10 ∧
        1 ≤ numeralValue digits ∧ id = UInt32.ofNat (min (numeralValue digits) (2 ^ 32 - 1)) := by
  constructor
  · intro h
    obtain ⟨digits, hdigits, rfl⟩ := eq_commandStatusPath h
    rw [parseCommandStatusPath_commandStatusPath hdigits] at h
    exact ⟨digits, rfl, (parseIdText_eq_iff hdigits).mp (Option.some.inj h)⟩
  · rintro ⟨digits, rfl, hid⟩
    rw [parseCommandStatusPath_commandStatusPath hid.1.1, (parseIdText_eq_iff hid.1.1).mpr hid]

/-- The path tells the number. -/
theorem commandStatusPath_injective {digits other : CString}
    (h : commandStatusPath digits = commandStatusPath other) : digits = other :=
  List.append_cancel_right (List.append_cancel_left h)

/-- Identifiers are read exactly but for the numerals that 32 bits do not hold. -/
theorem readsIdExactly_iff_not_saturated (path : CString) :
    ReadsIdExactly path ↔ ¬SaturatedId path := by
  constructor
  · rintro hexact ⟨digits, rfl, hnumeral, hlength, hhuge⟩
    have hread := parseCommandStatusPath_eq_iff.mpr
      ⟨digits, rfl, hnumeral, hlength, by omega, rfl⟩
    obtain ⟨other, hpath, -, -, -, hsmall, -⟩ := (hexact _).mp hread
    rw [← commandStatusPath_injective hpath] at hsmall
    omega
  · intro hgood id
    rw [parseCommandStatusPath_eq_iff]
    refine exists_congr fun digits => and_congr_right fun hpath => and_congr_right fun hnumeral =>
      and_congr_right fun hlength => and_congr_right fun _ => ?_
    have hsmall : numeralValue digits < 2 ^ 32 := by
      by_contra hhuge
      exact hgood ⟨digits, hpath, hnumeral, hlength, Nat.not_lt.mp hhuge⟩
    rw [and_iff_right hsmall, Nat.min_eq_left (by omega)]
    constructor
    · rintro rfl
      rw [UInt32.toNat_ofNat', Nat.mod_eq_of_lt hsmall]
    · intro hid
      rw [← hid, UInt32.ofNat_toNat]

/-! ## Both numbers -/

/-- Each number is read exactly but for the texts of one kind. -/
theorem restNumbers_exact_iff (text path : CString) :
    (ReadsByteExactly text ↔ ¬MisreadByte text) ∧ (ReadsIdExactly path ↔ ¬SaturatedId path) :=
  ⟨readsByteExactly_iff_not_misread text, readsIdExactly_iff_not_saturated path⟩

/-- A minus in front of a large numeral is read as the byte 1, a blank in front of a numeral is passed,
and the largest numeral of ten digits is read as the end of the range. -/
theorem restNumbers_not_exact :
    ¬ReadsByteExactly (ascii "-4294967295") ∧ ¬ReadsByteExactly (ascii " 5") ∧
      ¬ReadsIdExactly (ascii "/api/commands/9999999999/status") := by
  refine ⟨fun hexact => ?_, fun hexact => ?_, fun hexact => ?_⟩
  · have hread : parseU8 (ascii "-4294967295") = some 1 := by decide +kernel
    exact absurd ((hexact 1).mp hread).1 (by decide)
  · have hread : parseU8 (ascii " 5") = some 5 := by decide +kernel
    exact absurd ((hexact 5).mp hread).1 (by decide)
  · have hpath : ascii "/api/commands/9999999999/status" = commandStatusPath (ascii "9999999999") := by
      decide +kernel
    rw [hpath] at hexact
    have hread : parseCommandStatusPath (commandStatusPath (ascii "9999999999")) =
        some (some 4294967295) := by
      decide +kernel
    obtain ⟨digits, hdigits, -, -, -, hsmall, -⟩ := (hexact _).mp hread
    rw [← commandStatusPath_injective hdigits] at hsmall
    exact absurd hsmall (by decide +kernel)

end Esp32Wiimote.Device
