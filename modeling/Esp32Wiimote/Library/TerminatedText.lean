import Esp32Wiimote.Library.CText

/-!
# C strings that are read where they lie

A pointer into an object is the list of the object's bytes from there on, its NUL included. A read
behind the object has no result, so a function that has one stayed inside of every object it was
given. On an object that ends with its NUL each function is the one of C strings.
-/

namespace TerminatedText

open CText

/-- The object of a C string. -/
abbrev terminated (text : CString) : List UInt8 := text ++ [0]

/-- `strlen`. -/
def strlen : List UInt8 → Option ℕ
  | [] => none
  | c :: rest => if c = 0 then some 0 else (strlen rest).map (· + 1)

/-- The bytes that a `memcpy` of `count` bytes reads. -/
def loadBytes (count : ℕ) (object : List UInt8) : Option (List UInt8) :=
  if count ≤ object.length then some (object.take count) else none

/-- Whether `strcmp` finds no difference. -/
def strcmpEqual : List UInt8 → List UInt8 → Option Bool
  | c :: a, d :: b =>
    if c ≠ d then some false else if c = 0 then some true else strcmpEqual a b
  | _, _ => none

/-- Advance a pointer while the character is kept. -/
def skipWhile (keep : UInt8 → Bool) : List UInt8 → Option (List UInt8)
  | [] => none
  | c :: rest => if keep c then skipWhile keep rest else some (c :: rest)

/-- The length of a terminated text. -/
theorem strlen_terminated {text : CString} (htext : 0 ∉ text) :
    strlen (terminated text) = some text.length := by
  induction text with
  | nil => rfl
  | cons c rest ih =>
    rw [List.mem_cons, not_or] at htext
    change (if c = 0 then some 0 else (strlen (terminated rest)).map (· + 1)) = _
    rw [if_neg (Ne.symm htext.1), ih htext.2, Option.map_some, List.length_cons]

/-- The whole object is read. -/
theorem loadBytes_terminated (text : CString) :
    loadBytes (text.length + 1) (terminated text) = some (terminated text) := by
  have hlength : text.length + 1 = (terminated text).length := by simp
  rw [loadBytes, if_pos hlength.le, hlength, List.take_length]

/-- Terminated texts compare as the texts do. -/
theorem strcmpEqual_terminated {a b : CString} (ha : 0 ∉ a) (hb : 0 ∉ b) :
    strcmpEqual (terminated a) (terminated b) = some (decide (a = b)) := by
  induction a generalizing b with
  | nil =>
    cases b with
    | nil => rfl
    | cons d b =>
      rw [List.mem_cons, not_or] at hb
      exact if_pos hb.1
  | cons c a ih =>
    rw [List.mem_cons, not_or] at ha
    cases b with
    | nil => exact if_pos (Ne.symm ha.1)
    | cons d b =>
      rw [List.mem_cons, not_or] at hb
      change (if c ≠ d then some false else if c = 0 then some true
        else strcmpEqual (terminated a) (terminated b)) = _
      by_cases hcd : c = d
      · subst hcd
        rw [if_neg (not_not.mpr rfl), if_neg (Ne.symm ha.1), ih ha.2 hb.2]
        simp only [List.cons.injEq, true_and]
      · rw [if_pos hcd]
        simp [hcd]

/-- The pointer stops at the NUL at the latest. -/
theorem skipWhile_terminated {keep : UInt8 → Bool} (hkeep : keep 0 = false) (text : CString) :
    skipWhile keep (terminated text) = some (terminated (text.dropWhile keep)) := by
  induction text with
  | nil =>
    change (if keep 0 then skipWhile keep [] else some [0]) = _
    rw [if_neg (by rw [hkeep]; exact Bool.false_ne_true)]
    rfl
  | cons c rest ih =>
    change (if keep c then skipWhile keep (terminated rest) else some (terminated (c :: rest))) = _
    by_cases hc : keep c = true
    · rw [if_pos hc, ih, List.dropWhile_cons_of_pos hc]
    · rw [if_neg hc, List.dropWhile_cons_of_neg hc]

end TerminatedText
