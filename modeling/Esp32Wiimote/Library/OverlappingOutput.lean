import Esp32Wiimote.Library.CText
import Mathlib.Logic.Function.Basic

/-!
# Formatting into the array an argument lies in

A formatter writes its characters from left to right into an array of `size` bytes, counts those
that do not fit and keeps the last byte for the NUL. It copies an argument that starts where the
output starts, so once anything was written in front, every character it reads inside of the array is
one it wrote before: the copy never meets a NUL there.
-/

namespace OverlappingOutput

open CText

/-- The memory from the start of the array on, and the characters counted so far. -/
structure Output where
  memory : ℕ → UInt8
  count : ℕ

/-- The largest `int`. -/
def intMax : ℕ := 2147483647

variable (size : ℕ)

/-- One byte, written where there is room for it and a NUL. -/
def emit (s : Output) (c : UInt8) : Output where
  memory := if s.count + 1 < size then Function.update s.memory s.count c else s.memory
  count := s.count + 1

/-- The bytes of a text. -/
def emitText (s : Output) (text : CString) : Output := text.foldl (emit size) s

/-- Copy the string at the start of the array, from its `k`-th character on. -/
def emitArray : ℕ → ℕ → Output → Output
  | 0, _, s => s
  | fuel + 1, k, s =>
    if s.memory k = 0 then s else emitArray fuel (k + 1) (emit size s (s.memory k))

/-- The text in front, the string at the start of the array, and the text behind: the number of
characters, negative where an `int` does not hold it, and the memory with its NUL. -/
def emitAround (memory : ℕ → UInt8) (before after : CString) : ℤ × (ℕ → UInt8) :=
  let s := emitText size ⟨memory, 0⟩ before
  let s := emitArray size (intMax + 1) 0 s
  let s := emitText size s after
  (if s.count ≤ intMax then s.count else -1,
    Function.update s.memory (min s.count (size - 1)) 0)

/-! ## Nothing that was written is a NUL -/

/-- What was written and lies in the array is no NUL. -/
def Filled (s : Output) : Prop := ∀ i, i < s.count → i + 1 < size → s.memory i ≠ 0

variable {size} {s : Output}

/-- The bytes are counted whether or not there is room. -/
@[simp] theorem count_emit (c : UInt8) : (emit size s c).count = s.count + 1 := rfl

@[simp] theorem count_emitText (text : CString) :
    (emitText size s text).count = s.count + text.length := by
  induction text generalizing s with
  | nil => rfl
  | cons c rest ih =>
    rw [emitText, List.foldl_cons]
    exact ih.trans (by rw [count_emit, List.length_cons]; omega)

/-- A byte that is no NUL leaves the output filled. -/
theorem Filled.emit (h : Filled size s) {c : UInt8} (hc : c ≠ 0) : Filled size (emit size s c) := by
  intro i hi hin
  rw [count_emit] at hi
  rw [OverlappingOutput.emit]
  by_cases heq : i = s.count
  · subst heq
    simpa only [if_pos hin, Function.update_self] using hc
  · have hold := h i (Nat.lt_of_le_of_ne (Nat.le_of_lt_succ hi) heq) hin
    dsimp only
    split
    · rw [Function.update_of_ne heq]
      exact hold
    · exact hold

/-- So does a text without one. -/
theorem Filled.emitText (h : Filled size s) {text : CString} (htext : 0 ∉ text) :
    Filled size (emitText size s text) := by
  induction text generalizing s with
  | nil => exact h
  | cons c rest ih =>
    rw [List.mem_cons, not_or] at htext
    exact ih (h.emit (Ne.symm htext.1)) htext.2

/-- The copy meets a NUL behind the array, or none at all. -/
theorem size_le_of_emitArray (fuel : ℕ) {k : ℕ} (hfilled : Filled size s) (hahead : k < s.count) :
    size ≤ (emitArray size fuel k s).count ∨ s.count + fuel ≤ (emitArray size fuel k s).count := by
  induction fuel generalizing k s with
  | zero => exact .inr (Nat.le_refl _)
  | succ fuel ih =>
    rw [emitArray]
    split
    next hnul =>
      by_contra hlt
      exact hfilled k hahead (by omega) hnul
    next hchar =>
      have hrest := ih (hfilled.emit hchar) (show k + 1 < _ by rw [count_emit]; omega)
      rw [count_emit] at hrest
      omega

/-- A text of which anything stands in front of the copied array does not fit the array. -/
theorem emitAround_not_fits (size : ℕ) (memory : ℕ → UInt8) {before : CString} (hbefore : 0 ∉ before)
    (hpos : before ≠ []) (after : CString) :
    ¬(0 < (emitAround size memory before after).1 ∧ (emitAround size memory before after).1 < size) := by
  have hfilled : Filled size (emitText size ⟨memory, 0⟩ before) :=
    Filled.emitText (fun i hi _ => absurd hi (Nat.not_lt_zero i)) hbefore
  have hahead : 0 < (emitText size ⟨memory, 0⟩ before).count := by
    rw [count_emitText]
    exact Nat.add_pos_right 0 (List.length_pos_of_ne_nil hpos)
  have hcopied := size_le_of_emitArray (intMax + 1) hfilled hahead
  rintro ⟨hpositive, hfits⟩
  simp only [emitAround, count_emitText] at hpositive hfits
  split at hfits
  · rw [count_emitText] at hcopied hahead
    omega
  next hlong =>
    rw [if_neg hlong] at hpositive
    exact absurd hpositive (by decide)

end OverlappingOutput
