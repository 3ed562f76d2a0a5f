import Esp32Wiimote.Library.CText
import Mathlib.Data.Nat.Digits.Defs
import Mathlib.Tactic.IntervalCases

/-!
# Decimal numbers in a text

What the conversions of the C library read as a whole in base ten: blanks, a sign and a numeral. A
numeral is a run of digits, and the number it denotes is the one of its digits.
-/

namespace DecimalText

open CText

/-- A run of decimal digits that is not empty. -/
def IsNumeral (text : CString) : Prop := text ≠ [] ∧ ∀ c ∈ text, isdigit c = true

instance : DecidablePred IsNumeral := fun text =>
  inferInstanceAs (Decidable (text ≠ [] ∧ ∀ c ∈ text, isdigit c = true))

/-- The number that a run of digits denotes. -/
def numeralValue (digits : CString) : ℕ :=
  Nat.ofDigits 10 (digits.reverse.map fun c => c.toNat - 0x30)

/-- A sign in front of a numeral: a minus, or a plus or nothing. -/
def IsSign (negative : Bool) (sign : CString) : Prop :=
  if negative then sign = [0x2D] else sign = [] ∨ sign = [0x2B]

/-- The first digit has the highest power. -/
theorem numeralValue_cons (c : UInt8) (rest : CString) :
    numeralValue (c :: rest) = (c.toNat - 0x30) * 10 ^ rest.length + numeralValue rest := by
  rw [numeralValue, List.reverse_cons, List.map_append, Nat.ofDigits_append, List.length_map,
    List.length_reverse, List.map_singleton, Nat.ofDigits_singleton, Nat.add_comm, Nat.mul_comm]
  rfl

section Digits

variable {c : UInt8} {text : CString}

/-- The value of a decimal digit. -/
theorem digitValue_of_isdigit (h : isdigit c = true) : digitValue c = some (c.toNat - 0x30) :=
  if_pos h

/-- It is less than ten. -/
theorem digit_lt (h : isdigit c = true) : c.toNat - 0x30 < 10 := by
  rw [isdigit, Bool.and_eq_true, decide_eq_true_eq, decide_eq_true_eq, UInt8.le_iff_toNat_le,
    UInt8.le_iff_toNat_le] at h
  have hhigh : c.toNat ≤ 0x39 := h.2
  omega

/-- The letters are no digits in base ten. -/
theorem isdigit_of_digitValue {d : ℕ} (h : digitValue c = some d) (hd : d < 10) : isdigit c = true := by
  unfold digitValue at h
  split at h
  · rename_i hdigit
    exact hdigit
  · split at h
    · cases h
      omega
    · split at h
      · cases h
        omega
      · cases h

/-- The digits of base ten are the decimal digits. -/
theorem isDigitOf_ten (c : UInt8) : isDigitOf 10 c = isdigit c := by
  by_cases hdigit : isdigit c = true
  · rw [hdigit, isDigitOf, digitValue_of_isdigit hdigit]
    exact decide_eq_true (digit_lt hdigit)
  · rw [Bool.eq_false_iff.mpr hdigit, isDigitOf]
    split
    · rename_i d hd
      exact decide_eq_false fun hlt => hdigit (isdigit_of_digitValue hd hlt)
    · rfl

/-- A run of digits is read to its end. -/
theorem readDigits_eq (value : ℕ) (h : ∀ c ∈ text, isdigit c = true) :
    readDigits 10 value text = (value * 10 ^ text.length + numeralValue text, []) := by
  induction text generalizing value with
  | nil =>
    rw [readDigits, List.length_nil, Nat.pow_zero, Nat.mul_one]
    rfl
  | cons c rest ih =>
    have hdigit := h c List.mem_cons_self
    rw [readDigits, digitValue_of_isdigit hdigit]
    dsimp only
    rw [if_pos (digit_lt hdigit), ih _ fun d hd => h d (List.mem_cons_of_mem c hd), numeralValue_cons,
      List.length_cons, Nat.pow_succ]
    congr 1
    ring

/-- A text that is read to its end is a run of digits. -/
theorem isdigit_of_readDigits {value : ℕ} (h : (readDigits 10 value text).2 = []) :
    ∀ c ∈ text, isdigit c = true := by
  induction text generalizing value with
  | nil => exact fun c hc => absurd hc List.not_mem_nil
  | cons c rest ih =>
    rw [readDigits] at h
    split at h
    · rename_i d hd
      split at h
      · rename_i hlt
        intro e he
        rcases List.mem_cons.mp he with rfl | he
        · exact isdigit_of_digitValue hd hlt
        · exact ih h e he
      · cases h
    · cases h

end Digits

/-! ## A number with its blanks and its sign -/

/-- There is no prefix to skip in base ten. -/
theorem skipHexPrefix_ten (text : CString) : skipHexPrefix 10 text = text := by
  unfold skipHexPrefix
  split
  · exact if_neg fun h => absurd h.1 (by decide)
  · rfl

/-- A sign is what `readSign` takes off. -/
theorem readSign_eq {text rest : CString} {negative : Bool} (h : readSign text = (negative, rest)) :
    ∃ sign, IsSign negative sign ∧ text = sign ++ rest := by
  unfold readSign at h
  split at h
  · cases h
    exact ⟨[0x2D], rfl, rfl⟩
  · cases h
    exact ⟨[0x2B], Or.inr rfl, rfl⟩
  · cases h
    exact ⟨[], Or.inl rfl, rfl⟩

/-- A digit is no white space. -/
theorem isspace_of_isdigit {c : UInt8} (h : isdigit c = true) : isspace c = false := by
  rw [isdigit, Bool.and_eq_true, decide_eq_true_eq, UInt8.le_iff_toNat_le] at h
  have hlow : 0x30 ≤ c.toNat := h.1
  by_contra hspace
  rw [Bool.not_eq_false, isspace, Bool.or_eq_true, beq_iff_eq, Bool.and_eq_true, decide_eq_true_eq,
    decide_eq_true_eq, UInt8.le_iff_toNat_le, UInt8.le_iff_toNat_le] at hspace
  rcases hspace with rfl | ⟨-, hhigh⟩
  · exact absurd hlow (by decide)
  · change c.toNat ≤ 0x0D at hhigh
    omega

/-- A digit is no sign. -/
theorem readSign_of_isNumeral {digits : CString} (h : IsNumeral digits) :
    readSign digits = (false, digits) := by
  unfold readSign
  split
  · exact absurd (h.2 0x2D List.mem_cons_self) (by decide)
  · exact absurd (h.2 0x2B List.mem_cons_self) (by decide)
  · rfl

/-- A numeral does not begin with white space. -/
theorem dropWhile_isspace_of_isNumeral {digits : CString} (h : IsNumeral digits) :
    digits.dropWhile isspace = digits := by
  obtain ⟨c, rest, rfl⟩ := List.exists_cons_of_ne_nil h.1
  rw [List.dropWhile_cons_of_neg]
  rw [isspace_of_isdigit (h.2 c List.mem_cons_self)]
  exact Bool.false_ne_true

/-- A sign and a numeral are taken apart again. -/
theorem readSign_append {blanks sign digits : CString} {negative : Bool}
    (hblanks : ∀ c ∈ blanks, isspace c = true) (hsign : IsSign negative sign)
    (hdigits : IsNumeral digits) :
    readSign ((blanks ++ (sign ++ digits)).dropWhile isspace) = (negative, digits) := by
  rw [List.dropWhile_append_of_pos hblanks]
  cases negative with
  | true =>
    obtain rfl : sign = [0x2D] := hsign
    rfl
  | false =>
    obtain rfl | rfl : sign = [] ∨ sign = [0x2B] := hsign
    · rw [List.nil_append, dropWhile_isspace_of_isNumeral hdigits, readSign_of_isNumeral hdigits]
    · rfl

/-- A numeral has nothing in front. -/
theorem not_isNumeral_of_front {blanks sign digits : CString} {negative : Bool}
    (hblanks : ∀ c ∈ blanks, isspace c = true) (hsign : IsSign negative sign)
    (hfront : blanks ++ sign ≠ []) : ¬IsNumeral (blanks ++ (sign ++ digits)) := by
  rintro ⟨-, hdigits⟩
  cases blanks with
  | cons c rest =>
    have hdigit := isspace_of_isdigit (hdigits c List.mem_cons_self)
    rw [hblanks c List.mem_cons_self] at hdigit
    cases hdigit
  | nil =>
    have hmark : sign = [0x2D] ∨ sign = [0x2B] := by
      cases negative with
      | true => exact Or.inl hsign
      | false => exact Or.inr (hsign.resolve_left hfront)
    rcases hmark with rfl | rfl <;> exact absurd (hdigits _ List.mem_cons_self) (by decide)

/-- What is read as a whole number is blanks, a sign and a numeral. -/
theorem readInteger_ten_iff {text : CString} {negative : Bool} {value : ℕ} :
    readInteger 10 text = (some (negative, value), []) ↔
      ∃ blanks sign digits, text = blanks ++ (sign ++ digits) ∧ (∀ c ∈ blanks, isspace c = true) ∧
        IsSign negative sign ∧ IsNumeral digits ∧ numeralValue digits = value := by
  constructor
  · intro h
    rw [readInteger] at h
    rcases hread : readSign (text.dropWhile isspace) with ⟨minus, behind⟩
    obtain ⟨sign, hsign, hsigned⟩ := readSign_eq hread
    rw [hread] at h
    dsimp only at h
    rw [skipHexPrefix_ten] at h
    split at h
    · rename_i c rest
      split at h
      · rename_i hdigit
        obtain ⟨hnumber, hrest⟩ := Prod.mk.inj h
        have hdigits := isdigit_of_readDigits hrest
        rw [readDigits_eq 0 hdigits] at hnumber
        cases hnumber
        refine ⟨text.takeWhile isspace, sign, c :: rest, ?_, fun d => List.mem_takeWhile_imp, hsign,
          ⟨List.cons_ne_nil c rest, hdigits⟩, ?_⟩
        · rw [← hsigned, List.takeWhile_append_dropWhile]
        · rw [Nat.zero_mul, Nat.zero_add]
      · cases h
    · cases h
  · rintro ⟨blanks, sign, digits, rfl, hblanks, hsign, hdigits, rfl⟩
    obtain ⟨c, rest, rfl⟩ := List.exists_cons_of_ne_nil hdigits.1
    have hfirst : isDigitOf 10 c = true := by
      rw [isDigitOf_ten]
      exact hdigits.2 c List.mem_cons_self
    rw [readInteger, readSign_append hblanks hsign hdigits]
    dsimp only
    rw [skipHexPrefix_ten]
    dsimp only
    rw [if_pos hfirst, readDigits_eq 0 hdigits.2, Nat.zero_mul, Nat.zero_add]

/-! ## The digits of a number -/

section Decimal

/-- A number below ten is one digit. -/
theorem decimal_of_lt {n : ℕ} (h : n < 10) : decimal n = [n.toUInt8 + 0x30] := by
  rw [decimal, Nat.toDigits_of_lt_base h]
  interval_cases n <;> rfl

/-- The last digit is the remainder. -/
theorem decimal_of_le {n : ℕ} (h : 10 ≤ n) : decimal n = decimal (n / 10) ++ decimal (n % 10) := by
  rw [decimal, Nat.toDigits_of_base_le (by decide) h, List.map_append, decimal, decimal,
    Nat.toDigits_of_lt_base (Nat.mod_lt n (by decide)), List.map_singleton]

/-- A number is written as a numeral. -/
theorem isNumeral_decimal (n : ℕ) : IsNumeral (decimal n) := by
  induction n using Nat.strong_induction_on with
  | _ n ih =>
    rcases Nat.lt_or_ge n 10 with h | h
    · rw [decimal_of_lt h]
      refine ⟨List.cons_ne_nil _ _, List.forall_mem_singleton.mpr ?_⟩
      interval_cases n <;> rfl
    · obtain ⟨-, hfront⟩ := ih (n / 10) (Nat.div_lt_self (by omega) (by decide))
      obtain ⟨hne, hlast⟩ := ih (n % 10) (by omega)
      rw [decimal_of_le h]
      refine ⟨List.append_ne_nil_of_right_ne_nil _ hne, fun c hc => ?_⟩
      exact (List.mem_append.mp hc).elim (hfront c) (hlast c)

/-- The digits in front count by the power of those behind. -/
theorem numeralValue_append (digits last : CString) :
    numeralValue (digits ++ last) = numeralValue digits * 10 ^ last.length + numeralValue last := by
  rw [numeralValue, List.reverse_append, List.map_append, Nat.ofDigits_append, List.length_map,
    List.length_reverse, Nat.add_comm, Nat.mul_comm]
  rfl

/-- The digits of a number denote it. -/
theorem numeralValue_decimal (n : ℕ) : numeralValue (decimal n) = n := by
  induction n using Nat.strong_induction_on with
  | _ n ih =>
    rcases Nat.lt_or_ge n 10 with h | h
    · rw [decimal_of_lt h]
      interval_cases n <;> rfl
    · have hlast : (decimal (n % 10)).length = 1 := by
        rw [decimal_of_lt (Nat.mod_lt n (by decide))]
        rfl
      rw [decimal_of_le h, numeralValue_append, hlast, ih (n / 10) (Nat.div_lt_self (by omega) (by decide)),
        ih (n % 10) (by omega)]
      omega

/-- A number other than zero does not begin with a zero. -/
theorem head_decimal_ne_zero {n : ℕ} (h : n ≠ 0) : (decimal n).head? ≠ some 0x30 := by
  induction n using Nat.strong_induction_on with
  | _ n ih =>
    rcases Nat.lt_or_ge n 10 with hlt | hle
    · rw [decimal_of_lt hlt]
      interval_cases n <;> simp_all
    · have hfront := ih (n / 10) (Nat.div_lt_self (by omega) (by decide)) (by omega)
      rw [decimal_of_le hle, List.head?_append_of_ne_nil _ (isNumeral_decimal _).1]
      exact hfront

/-- A run of digits is read, and the rest is read on from its value. -/
theorem readDigits_append {digits : CString} (h : ∀ c ∈ digits, isdigit c = true) (value : ℕ)
    (rest : CString) : readDigits 10 value (digits ++ rest) =
      readDigits 10 (value * 10 ^ digits.length + numeralValue digits) rest := by
  induction digits generalizing value with
  | nil =>
    rw [List.nil_append, List.length_nil, Nat.pow_zero, Nat.mul_one]
    rfl
  | cons c digits ih =>
    have hdigit := h c List.mem_cons_self
    rw [List.cons_append, readDigits, digitValue_of_isdigit hdigit]
    dsimp only
    rw [if_pos (digit_lt hdigit), ih (fun d hd => h d (List.mem_cons_of_mem c hd)), numeralValue_cons,
      List.length_cons, Nat.pow_succ]
    congr 1
    ring

/-- Reading stops in front of what is no digit. -/
theorem readDigits_stop {rest : CString} (h : ∀ c ∈ rest.head?, isdigit c = false) (value : ℕ) :
    readDigits 10 value rest = (value, rest) := by
  cases rest with
  | nil => rfl
  | cons c rest =>
    have hstop := h c rfl
    rw [readDigits]
    cases hvalue : digitValue c with
    | none => rfl
    | some d =>
      refine if_neg fun hlt => ?_
      rw [isdigit_of_digitValue hvalue hlt] at hstop
      cases hstop

/-- A number is read off its digits. -/
theorem readDigits_decimal (n : ℕ) {rest : CString} (h : ∀ c ∈ rest.head?, isdigit c = false) :
    readDigits 10 0 (decimal n ++ rest) = (n, rest) := by
  rw [readDigits_append (isNumeral_decimal n).2, Nat.zero_mul, Nat.zero_add, numeralValue_decimal,
    readDigits_stop h]

end Decimal

end DecimalText
