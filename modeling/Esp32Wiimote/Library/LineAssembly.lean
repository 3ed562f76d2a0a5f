import Mathlib.Data.List.Basic
import Mathlib.Tactic.Common

/-!
# Assembling lines of bounded length

Entries of a stream come one by one, and a terminator ends a line. A buffer stores a line up to
a limit, and remembers that the line went on. What the buffer holds is a function of the line
read so far, and the complete lines of a stream are those in front of its terminators, however
the stream is cut.
-/

namespace LineAssembly

variable {α : Type*}

/-! ## The buffer -/

/-- The start of a line, and whether the line was longer. -/
@[ext] structure LineBuffer (α : Type*) where
  stored : List α
  overflow : Bool

/-- The buffer of a line read so far. -/
def LineBuffer.ofLine (limit : ℕ) (line : List α) : LineBuffer α :=
  ⟨line.take limit, decide (limit < line.length)⟩

/-- An entry is stored where there is room; an entry that is not makes the line too long. -/
def LineBuffer.push (limit : ℕ) (buffer : LineBuffer α) (entry : α) : LineBuffer α :=
  if buffer.overflow then buffer
  else if buffer.stored.length < limit then { buffer with stored := buffer.stored ++ [entry] }
  else { buffer with overflow := true }

/-- A line that fits is in the buffer. -/
theorem LineBuffer.ofLine_of_le {limit : ℕ} {line : List α} (h : line.length ≤ limit) :
    ofLine limit line = ⟨line, false⟩ := by
  rw [ofLine, List.take_of_length_le h, decide_eq_false (Nat.not_lt.mpr h)]

/-- Of a line that does not fit the front is in the buffer. -/
theorem LineBuffer.ofLine_of_lt {limit : ℕ} {line : List α} (h : limit < line.length) :
    ofLine limit line = ⟨line.take limit, true⟩ := by
  rw [ofLine, decide_eq_true h]

/-- An entry that is pushed comes behind the line. -/
theorem LineBuffer.push_ofLine (limit : ℕ) (line : List α) (entry : α) :
    (ofLine limit line).push limit entry = ofLine limit (line ++ [entry]) := by
  rcases Nat.lt_trichotomy line.length limit with hlt | heq | hgt
  · -- there is room
    rw [ofLine_of_le (Nat.le_of_lt hlt), ofLine_of_le (by rw [List.length_append]; exact hlt)]
    simp only [push, Bool.false_eq_true, if_false, if_pos hlt]
  · -- the entry is the first without room
    have hlong : limit < (line ++ [entry]).length := by
      rw [List.length_append, heq]
      exact Nat.lt_succ_self limit
    rw [ofLine_of_le (Nat.le_of_eq heq), ofLine_of_lt hlong,
      List.take_append_of_le_length (Nat.le_of_eq heq.symm), List.take_of_length_le (Nat.le_of_eq heq)]
    simp only [push, Bool.false_eq_true, if_false, if_neg (Nat.not_lt.mpr (Nat.le_of_eq heq.symm))]
  · have hlong : limit < (line ++ [entry]).length := by
      rw [List.length_append]
      exact Nat.lt_add_right 1 hgt
    rw [ofLine_of_lt hgt, ofLine_of_lt hlong, List.take_append_of_le_length (Nat.le_of_lt hgt)]
    rfl

/-! ## Complete lines -/

variable [BEq α] [LawfulBEq α] {terminator : α}

/-- The lines of a stream that are terminated, without their terminators. -/
def completeLines (terminator : α) (stream : List α) : List (List α) :=
  (stream.splitOn terminator).dropLast

/-- Without a terminator no line is complete. -/
theorem completeLines_of_not_mem {line : List α} (h : terminator ∉ line) :
    completeLines terminator line = [] := by
  rw [completeLines, List.splitOn_eq_singleton h]
  rfl

/-- The first line of a stream, and those behind it. -/
theorem completeLines_append_cons {line : List α} (h : terminator ∉ line) (rest : List α) :
    completeLines terminator (line ++ terminator :: rest) =
      line :: completeLines terminator rest := by
  rw [completeLines, List.splitOn_append_cons_self_of_not_mem h, completeLines,
    List.dropLast_cons_of_ne_nil (List.splitOn_ne_nil _ _)]

/-- What follows the last terminator completes no line. -/
theorem completeLines_append_of_not_mem (stream : List α) {rest : List α} (h : terminator ∉ rest) :
    completeLines terminator (stream ++ rest) = completeLines terminator stream := by
  induction hn : stream.length using Nat.strongRecOn generalizing stream with
  | ind n ih =>
    by_cases hmem : terminator ∈ stream
    · obtain ⟨line, later, hstream, hline⟩ := List.eq_append_cons_of_mem hmem
      subst hstream
      have hlength : later.length < n := by
        rw [← hn, List.length_append, List.length_cons]
        omega
      rw [List.append_assoc, List.cons_append, completeLines_append_cons hline,
        completeLines_append_cons hline, ih later.length hlength later rfl]
    · rw [completeLines_of_not_mem hmem, completeLines_of_not_mem]
      rw [List.mem_append, not_or]
      exact ⟨hmem, h⟩

end LineAssembly
