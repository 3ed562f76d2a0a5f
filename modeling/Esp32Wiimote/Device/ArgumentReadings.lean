import Esp32Wiimote.Serial.CommandMeaning
import Esp32Wiimote.Web.RouteHandlers

/-!
# The readings of an argument

Each surface reads a byte and a boolean out of a text by itself. Both go over the digits of a
number alike. The serial line also reads hexadecimal bytes, and a minus sign makes a byte of the
web API out of a number just below `2 ^ 32`. The serial line refuses a text that is no boolean,
where the web API takes it for false, `on` included.
-/

namespace Esp32Wiimote.Device

open CText Serial Web

/-! ## Bytes -/

/-- A byte in hexadecimal behind `0x`. -/
def HexByte (text : CString) : Prop :=
  numberBase text = 16 ∧ ∃ value, readInteger 16 text = (some (false, value), []) ∧ value ≤ 255

/-- A minus sign and a magnitude whose negation is a byte of `unsigned long`, other than zero. -/
def WrappedNegative (text : CString) : Prop :=
  ∃ value, readInteger 10 text = (some (true, value), []) ∧ 2 ^ 32 - 255 ≤ value ∧ value < 2 ^ 32

/-- `strtoul` stops where the reading of the integer does. -/
theorem strtoul_snd (text : CString) (base : ℕ) :
    (strtoul text base).2 = (readInteger base text).2 := by
  rw [strtoul]
  split
  · rename_i hread
    rw [hread]
    split_ifs <;> rfl
  · rename_i hread
    rw [hread]

/-- The web API reads a whole number that `unsigned long` makes at most 255. -/
theorem parseU8_of_whole {text : CString} {negative : Bool} {value : ℕ}
    (h : readInteger 10 text = (some (negative, value), [])) :
    parseU8 text =
      if 2 ^ 32 ≤ value then none
      else
        if negative = true then
          if value ≠ 0 ∧ value < 2 ^ 32 - 255 then none
          else some (UInt8.ofNat ((2 ^ 32 - value) % 2 ^ 32))
        else if 255 < value then none else some (UInt8.ofNat value) := by
  have hne := ne_nil_of_readInteger h
  rw [parseU8, strtoul, h]
  by_cases hhuge : 2 ^ 32 ≤ value
  · rw [if_pos hhuge]
    simp only [if_pos hhuge]
    rw [if_pos (Or.inr (Or.inr (by decide)))]
  rw [if_neg hhuge]
  simp only [if_neg hhuge]
  cases negative with
  | true =>
    simp only [if_true]
    by_cases hbetween : value ≠ 0 ∧ value < 2 ^ 32 - 255
    · rw [if_pos hbetween, if_pos (Or.inr (Or.inr (by omega)))]
    · rw [if_neg hbetween, if_neg]
      rintro (heq | hrest | hlarge)
      · exact hne heq.symm
      · exact hrest rfl
      · omega
  | false =>
    simp only [Bool.false_eq_true, if_false]
    by_cases hlarge : 255 < value
    · rw [if_pos hlarge, if_pos (Or.inr (Or.inr hlarge))]
    · rw [if_neg hlarge, if_neg]
      rintro (heq | hrest | hbyte)
      · exact hne heq.symm
      · exact hrest rfl
      · exact hlarge hbyte

/-- A text that is no whole decimal number is not read by the web API. -/
theorem parseU8_of_not_whole {text : CString} (h : ∀ number, readInteger 10 text ≠ (some number, [])) :
    parseU8 text = none := by
  refine if_pos ?_
  rw [strtoul_snd, ← or_assoc]
  exact Or.inl (end_of_not_whole h)

/-- A number is read in base ten, or in base sixteen behind `0x`. -/
theorem numberBase_cases (text : CString) :
    numberBase text = 10 ∨
      numberBase text = 16 ∧ ∃ x rest, text = 0x30 :: x :: rest ∧ (x = 0x78 ∨ x = 0x58) := by
  unfold numberBase
  split
  · rename_i x rest
    by_cases hx : x = 0x78 ∨ x = 0x58
    · rw [if_pos hx]
      exact Or.inr ⟨rfl, x, rest, rfl, hx⟩
    · rw [if_neg hx]
      exact Or.inl rfl
  · exact Or.inl rfl

/-- In decimal, a text behind `0x` is the number zero and a rest. -/
theorem readInteger_hex {x : UInt8} {rest : CString} (hx : x = 0x78 ∨ x = 0x58) :
    readInteger 10 (0x30 :: x :: rest) = (some (false, 0), x :: rest) := by
  rcases hx with rfl | rfl <;> cases rest <;> rfl

/-- A whole decimal integer wraps into a byte exactly when it is negative and that close to 2^32. -/
theorem wrappedNegative_of_whole {text : CString} {negative : Bool} {value : ℕ}
    (h : readInteger 10 text = (some (negative, value), [])) :
    WrappedNegative text ↔ negative = true ∧ 2 ^ 32 - 255 ≤ value ∧ value < 2 ^ 32 := by
  constructor
  · rintro ⟨value', hread, hrange⟩
    rw [h] at hread
    cases hread
    exact ⟨rfl, hrange⟩
  · rintro ⟨rfl, hrange⟩
    exact ⟨value, h, hrange⟩

/-- In decimal the surfaces differ in the negations that wrap to a byte. -/
theorem decimal_eq_iff {text : CString} (hbase : numberBase text = 10) :
    serialParseUint8 text = parseU8 text ↔ ¬WrappedNegative text := by
  by_cases hwhole : ∃ number, readInteger 10 text = (some number, [])
  · obtain ⟨⟨negative, value⟩, hread⟩ := hwhole
    rw [serialParseUint8_of_whole (by rw [hbase]; exact hread), parseU8_of_whole hread,
      wrappedNegative_of_whole hread]
    cases negative with
    | false =>
      simp only [Bool.false_eq_true, false_and, false_or, if_false, not_false_eq_true, iff_true]
      by_cases hlarge : 255 < value
      · rw [if_pos hlarge, ite_self]
      · rw [if_neg hlarge, if_neg (by omega)]
    | true =>
      simp only [true_and, if_true]
      by_cases hzero : value = 0
      · subst hzero
        simp
      · rw [if_pos (Or.inl hzero)]
        by_cases hhuge : 2 ^ 32 ≤ value
        · rw [if_pos hhuge]
          exact iff_of_true rfl (fun hrange => absurd hrange.2 (Nat.not_lt.mpr hhuge))
        · rw [if_neg hhuge]
          by_cases hbetween : value < 2 ^ 32 - 255
          · rw [if_pos ⟨hzero, hbetween⟩]
            exact iff_of_true rfl (fun hrange => absurd hbetween (Nat.not_lt.mpr hrange.1))
          · rw [if_neg (fun h => hbetween h.2)]
            refine iff_of_false (fun h => nomatch h) (not_not.mpr ?_)
            exact ⟨Nat.not_lt.mp hbetween, Nat.not_le.mp hhuge⟩
  · have hnot : ∀ number, readInteger 10 text ≠ (some number, []) := fun number hread =>
      hwhole ⟨number, hread⟩
    rw [serialParseUint8_of_not_whole (by rw [hbase]; exact hnot), parseU8_of_not_whole hnot]
    refine iff_of_true rfl ?_
    rintro ⟨value, hread, -⟩
    exact hnot _ hread

/-- A text that starts with a digit has no sign. -/
theorem positive_of_zero {base : ℕ} {rest : CString} {negative : Bool} {value : ℕ}
    (h : readInteger base (0x30 :: rest) = (some (negative, value), [])) : negative = false := by
  unfold readInteger at h
  have hsign : readSign ((0x30 :: rest).dropWhile isspace) = (false, 0x30 :: rest) := rfl
  rw [hsign] at h
  dsimp only at h
  split at h
  · split at h
    · exact (Prod.mk.inj (Option.some.inj (Prod.mk.inj h).1)).1.symm
    · cases h
  · cases h

/-- Behind `0x` the web API reads nothing, and the serial line the hexadecimal bytes. -/
theorem hexadecimal_eq_iff {rest : CString} (hbase : numberBase (0x30 :: rest) = 16)
    (hweb : ∀ number, readInteger 10 (0x30 :: rest) ≠ (some number, [])) :
    serialParseUint8 (0x30 :: rest) = parseU8 (0x30 :: rest) ↔ ¬HexByte (0x30 :: rest) := by
  rw [parseU8_of_not_whole hweb]
  by_cases hwhole : ∃ number, readInteger 16 (0x30 :: rest) = (some number, [])
  · obtain ⟨⟨negative, value⟩, hread⟩ := hwhole
    obtain rfl := positive_of_zero hread
    rw [serialParseUint8_of_whole (by rw [hbase]; exact hread)]
    by_cases hlarge : 255 < value
    · rw [if_pos (Or.inr hlarge)]
      refine iff_of_true rfl ?_
      rintro ⟨-, value', hread', hbyte⟩
      rw [hread] at hread'
      cases hread'
      exact absurd hbyte (Nat.not_le.mpr hlarge)
    · rw [if_neg (by simpa using hlarge)]
      refine iff_of_false (fun h => nomatch h) (not_not.mpr ?_)
      exact ⟨hbase, value, hread, Nat.not_lt.mp hlarge⟩
  · rw [serialParseUint8_of_not_whole fun number hread => hwhole ⟨number, by rwa [hbase] at hread⟩]
    refine iff_of_true rfl ?_
    rintro ⟨-, value, hread, -⟩
    exact hwhole ⟨_, hread⟩

/-- Both surfaces read the same byte, or none, but for the two kinds of numbers. -/
theorem serialParseUint8_eq_parseU8_iff (text : CString) :
    serialParseUint8 text = parseU8 text ↔ ¬HexByte text ∧ ¬WrappedNegative text := by
  rcases numberBase_cases text with hbase | ⟨hbase, x, rest, rfl, hx⟩
  · have hhex : ¬HexByte text := by
      rintro ⟨hbase', -⟩
      rw [hbase] at hbase'
      exact absurd hbase' (by decide)
    rw [decimal_eq_iff hbase]
    exact (and_iff_right hhex).symm
  · have hweb : ∀ number, readInteger 10 (0x30 :: x :: rest) ≠ (some number, []) := by
      intro number hread
      rw [readInteger_hex hx] at hread
      cases hread
    have hwrapped : ¬WrappedNegative (0x30 :: x :: rest) := by
      rintro ⟨value, hread, -⟩
      exact hweb _ hread
    rw [hexadecimal_eq_iff hbase hweb]
    exact (and_iff_left hwrapped).symm

/-! ## Booleans -/

/-- The booleans that both surfaces read alike. -/
def plainBooleans : List CString :=
  [ascii "true", ascii "1", ascii "off", ascii "false", ascii "0"]

/-- The web API has a boolean for every text, and the serial line the same one for five. -/
theorem serialParseBool_eq_parseBool_iff (text : CString) :
    serialParseBool text = some (parseBool text) ↔ text ∈ plainBooleans := by
  by_cases hon : text = ascii "on"
  · subst hon
    decide +kernel
  by_cases htrue : text = ascii "true" ∨ text = ascii "1"
  · rcases htrue with rfl | rfl <;> decide +kernel
  by_cases hfalse : text = ascii "off" ∨ text = ascii "false" ∨ text = ascii "0"
  · rcases hfalse with rfl | rfl | rfl <;> decide +kernel
  have hnone : serialParseBool text = none := by
    rw [serialParseBool, if_neg (not_or.mpr ⟨hon, htrue⟩), if_neg hfalse]
  rw [hnone]
  refine iff_of_false (fun h => nomatch h) ?_
  intro hmem
  simp only [plainBooleans, List.mem_cons, List.not_mem_nil, or_false] at hmem
  rcases hmem with h | h | h | h | h
  · exact htrue (Or.inl h)
  · exact htrue (Or.inr h)
  · exact hfalse (Or.inl h)
  · exact hfalse (Or.inr (Or.inl h))
  · exact hfalse (Or.inr (Or.inr h))

end Esp32Wiimote.Device
