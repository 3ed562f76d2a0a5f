import Mathlib.Data.List.Basic
import Mathlib.Data.List.TakeWhile
import Mathlib.Data.UInt
import Mathlib.Tactic.Common

/-!
# C strings and their library functions

A C string is the list of its bytes before the terminating NUL. The functions are
those of the C library on a 32-bit target: comparison and prefixes are the ones of
lists, a number is read by `strtol` and `strtoul` with saturation at the bounds of a
32-bit `long`, and `snprintf` stores what fits in front of the NUL.
-/

namespace CText

/-- The bytes of a C string in front of its NUL. -/
abbrev CString := List UInt8

/-- The C string of a literal. -/
def ascii (text : String) : CString := text.toList.map fun c => c.toNat.toUInt8

/-- The C string that starts at an offset of a buffer. -/
def cStringAt (buf : List UInt8) (offset : ℕ) : CString :=
  (buf.drop offset).takeWhile (· != 0)

/-- Bytes without a NUL are a C string as they stand. -/
theorem takeWhile_ne_nul {text : List UInt8} (h : 0 ∉ text) : text.takeWhile (· != 0) = text := by
  rw [List.takeWhile_eq_self_iff]
  intro c hc
  exact bne_iff_ne.mpr fun hzero => h (hzero ▸ hc)

/-! ## Character classes -/

/-- The white space of the C locale. -/
def isspace (c : UInt8) : Bool := c == 0x20 || (0x09 ≤ c && c ≤ 0x0D)

/-- The decimal digits. -/
def isdigit (c : UInt8) : Bool := 0x30 ≤ c && c ≤ 0x39

/-- Capital letters become small. -/
def tolower (c : UInt8) : UInt8 := if 0x41 ≤ c && c ≤ 0x5A then c + 0x20 else c

/-- The value of an alphanumeric character as a digit. -/
def digitValue (c : UInt8) : Option ℕ :=
  if 0x30 ≤ c && c ≤ 0x39 then some (c.toNat - 0x30)
  else if 0x41 ≤ c && c ≤ 0x5A then some (c.toNat - 0x41 + 10)
  else if 0x61 ≤ c && c ≤ 0x7A then some (c.toNat - 0x61 + 10)
  else none

/-- The character is a digit of the base. -/
def isDigitOf (base : ℕ) (c : UInt8) : Bool :=
  match digitValue c with
  | some d => d < base
  | none => false

/-! ## Numbers -/

/-- The value of a run of digits, and the text behind the run. -/
def readDigits (base : ℕ) : ℕ → CString → ℕ × CString
  | value, [] => (value, [])
  | value, c :: rest =>
    match digitValue c with
    | some d => if d < base then readDigits base (value * base + d) rest else (value, c :: rest)
    | none => (value, c :: rest)

/-- The optional `0x` in front of hexadecimal digits. -/
def skipHexPrefix (base : ℕ) : CString → CString
  | 0x30 :: x :: d :: rest =>
    if base = 16 ∧ (x = 0x78 ∨ x = 0x58) ∧ isDigitOf 16 d then d :: rest
    else 0x30 :: x :: d :: rest
  | text => text

/-- The optional sign: whether it is a minus, and the text behind it. -/
def readSign : CString → Bool × CString
  | 0x2D :: rest => (true, rest)
  | 0x2B :: rest => (false, rest)
  | text => (false, text)

/-- Leading blanks, a sign and a magnitude. The text left is the whole text where there are
no digits. -/
def readInteger (base : ℕ) (text : CString) : Option (Bool × ℕ) × CString :=
  let signed := readSign (text.dropWhile isspace)
  match skipHexPrefix base signed.2 with
  | c :: rest =>
    if isDigitOf base c then
      let digits := readDigits base 0 (c :: rest)
      (some (signed.1, digits.1), digits.2)
    else (none, text)
  | [] => (none, text)

/-- `strtol` with a 32-bit `long`: the value, saturated, and the text at the end pointer. -/
def strtol (text : CString) (base : ℕ) : ℤ × CString :=
  match readInteger base text with
  | (some (true, value), rest) => (max (-2147483648) (-(value : ℤ)), rest)
  | (some (false, value), rest) => (min 2147483647 (value : ℤ), rest)
  | (none, rest) => (0, rest)

/-- `strtoul` with a 32-bit `unsigned long`: a minus negates in the unsigned type. -/
def strtoul (text : CString) (base : ℕ) : ℕ × CString :=
  match readInteger base text with
  | (some (negative, value), rest) =>
    if 2 ^ 32 ≤ value then (2 ^ 32 - 1, rest)
    else if negative then ((2 ^ 32 - value) % 2 ^ 32, rest)
    else (value, rest)
  | (none, rest) => (0, rest)

/-- Without digits nothing is read. -/
theorem readInteger_none {base : ℕ} {text rest : CString} (h : readInteger base text = (none, rest)) :
    rest = text := by
  unfold readInteger at h
  dsimp only at h
  split at h
  · split at h
    · cases h
    · exact (Prod.mk.inj h).2.symm
  · exact (Prod.mk.inj h).2.symm

/-- No integer is read from an empty text. -/
theorem ne_nil_of_readInteger {base : ℕ} {text rest : CString} {number : Bool × ℕ}
    (h : readInteger base text = (some number, rest)) : text ≠ [] := by
  rintro rfl
  cases h

/-- `strtol` stops where the reading of the integer does. -/
theorem strtol_snd (text : CString) (base : ℕ) : (strtol text base).2 = (readInteger base text).2 := by
  rw [strtol]
  split <;> rename_i hread <;> rw [hread]

/-- Where a text is no whole number, the end pointer is at its start or in front of a rest. -/
theorem end_of_not_whole {base : ℕ} {text : CString}
    (h : ∀ number, readInteger base text ≠ (some number, [])) :
    (readInteger base text).2 = text ∨ (readInteger base text).2 ≠ [] := by
  rcases hread : readInteger base text with ⟨_ | number, rest⟩
  · exact Or.inl (readInteger_none hread)
  · refine Or.inr ?_
    rintro rfl
    exact h number hread

/-! ## Formatting -/

/-- What `snprintf` returns and stores for a text: the full length, and the part that fits. -/
def snprintf (outSize : ℕ) (text : CString) : ℤ × CString := (text.length, text.take (outSize - 1))

/-- The decimal digits of `%u` and `%lu`. -/
def decimal (n : ℕ) : CString := (Nat.toDigits 10 n).map fun c => c.toNat.toUInt8

/-- A decimal digit is no NUL. -/
theorem zero_notMem_decimal (n : ℕ) : 0 ∉ decimal n := by
  intro h
  obtain ⟨c, hc, hzero⟩ := List.mem_map.mp h
  have hdigit := Nat.isDigit_of_mem_toDigits (by decide) (by decide) hc
  simp only [Char.isDigit, Bool.and_eq_true, decide_eq_true_eq, UInt32.le_iff_toNat_le] at hdigit
  have hnat := congrArg UInt8.toNat hzero
  have hlow : 48 ≤ c.toNat := hdigit.1
  have hhigh : c.toNat ≤ 57 := hdigit.2
  rw [Nat.toUInt8, UInt8.toNat_ofNat', UInt8.toNat_zero] at hnat
  omega

/-- The hexadecimal digits of `%lx` with zeroes in front, as in `%08lx`. -/
def hexPadded (width n : ℕ) : CString :=
  let digits := (Nat.toDigits 16 n).map fun c => c.toNat.toUInt8
  List.replicate (width - digits.length) 0x30 ++ digits

end CText
