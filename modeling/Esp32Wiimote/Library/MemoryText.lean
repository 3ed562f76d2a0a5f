import Esp32Wiimote.Library.CText
import Esp32Wiimote.Library.LoggedMemory

/-!
# C strings in a memory

An array of characters holds a C string: what is in front of the first NUL of its cells. The bounded
copies of the C library store inside the array, and leave what fits of the string.
-/

namespace MemoryText

open CText LoggedMemory Memory StateProgram

/-- The C string in an array of that size. -/
def cString (size : ℕ) (m : Memory UInt8) : CString := (m.load size).takeWhile (· != 0)

/-- A NUL ends the string inside of the array. -/
abbrev IsTerminated (size : ℕ) (m : Memory UInt8) : Prop := 0 ∈ m.load size

/-- The characters in front of the first NUL, and NULs up to the count. -/
def padded (count : ℕ) (text : List UInt8) : List UInt8 :=
  let front := (text.takeWhile (· != 0)).take count
  front ++ List.replicate (count - front.length) 0

/-- `strncpy` of all characters but one, and a NUL in the last one. -/
def copyText (size : ℕ) (dest src : Memory UInt8) : Memory UInt8 :=
  (dest.storeAll 0 (padded (size - 1) (src.load (size - 1)))).store (size - 1 : ℕ) 0

section Cells

variable {m : Memory UInt8} {n size : ℕ}

/-- What is behind a NUL is not part of the string. -/
theorem takeWhile_append_nul (text rest : List UInt8) :
    (text ++ 0 :: rest).takeWhile (· != 0) = text.takeWhile (· != 0) := by
  rw [List.takeWhile_append]
  split
  · rename_i hall
    have hself : text.takeWhile (· != 0) = text :=
      (List.takeWhile_prefix _).eq_of_length hall
    rw [List.takeWhile_cons_of_neg (by simp), List.append_nil, hself]
  · rfl

/-- Cells that hold a text with a NUL behind it hold that string. -/
theorem cString_of_load {text : List UInt8} (hlength : text.length < size)
    (hload : m.load (text.length + 1) = text ++ [0]) : cString size m = text.takeWhile (· != 0) := by
  have hsplit := (m.load size).take_append_drop (text.length + 1)
  rw [load_take m hlength, hload, List.append_assoc, List.singleton_append] at hsplit
  rw [cString, ← hsplit, takeWhile_append_nul]

/-- There is no NUL in the string of an array. -/
theorem nul_not_mem_cString (size : ℕ) (m : Memory UInt8) : 0 ∉ cString size m := by
  intro h
  have hne := List.mem_takeWhile_imp h
  simp at hne

/-- The string of the front is the front of the string. -/
theorem cString_take (m : Memory UInt8) (h : n ≤ size) : cString n m = (cString size m).take n := by
  rw [cString, cString, ← load_take m h, List.take_takeWhile]

/-- The string is empty when its first character is the NUL. -/
theorem cString_eq_nil_iff (m : Memory UInt8) (hsize : 0 < size) :
    cString size m = [] ↔ m.cell 0 = 0 := by
  obtain ⟨rest, hload⟩ : ∃ rest, m.load size = m.cell 0 :: rest := by
    obtain ⟨last, rfl⟩ := Nat.exists_eq_succ_of_ne_zero hsize.ne'
    rw [Memory.load, List.range_succ_eq_map, List.map_cons]
    exact ⟨_, rfl⟩
  rw [cString, hload, List.takeWhile_cons]
  split
  · rename_i hne
    exact iff_of_false (List.cons_ne_nil _ _) (bne_iff_ne.mp hne)
  · rename_i heq
    exact iff_of_true rfl (by simpa using heq)

end Cells

section Copy

variable {size : ℕ} (dest src : Memory UInt8)

/-- A padded text has the length asked for. -/
theorem length_padded (count : ℕ) (text : List UInt8) : (padded count text).length = count := by
  rw [padded, List.length_append, List.length_replicate]
  have hfront := List.length_take_le count (text.takeWhile (· != 0))
  omega

/-- Padding does not change the string, but for its end. -/
theorem takeWhile_padded (count : ℕ) (text : List UInt8) :
    (padded count text ++ [0]).takeWhile (· != 0) = (text.takeWhile (· != 0)).take count := by
  have hfront : ∀ c ∈ (text.takeWhile (· != 0)).take count, (c != 0) = true := fun c hc =>
    List.mem_takeWhile_imp (p := (· != 0)) (List.mem_of_mem_take hc)
  rw [padded, List.append_assoc, List.takeWhile_append_of_pos hfront]
  cases count - ((text.takeWhile (· != 0)).take count).length with
  | zero => exact List.append_nil _
  | succ k => exact List.append_nil _

variable (hsize : 0 < size)
include hsize

/-- The array after a copy. -/
theorem load_copyText :
    (copyText size dest src).load size = padded (size - 1) (src.load (size - 1)) ++ [0] := by
  obtain ⟨last, rfl⟩ := Nat.exists_eq_succ_of_ne_zero hsize.ne'
  have hlength := length_padded last (src.load last)
  rw [copyText, Nat.succ_eq_add_one, Nat.add_sub_cancel, load_store_self]
  have hcells := load_storeAll dest (padded last (src.load last))
  rw [hlength] at hcells
  rw [hcells]

/-- The string after a copy is the front of the source's. -/
theorem cString_copyText {capacity : ℕ} (hcapacity : size - 1 ≤ capacity) :
    cString size (copyText size dest src) = (cString capacity src).take (size - 1) := by
  rw [cString, load_copyText dest src hsize, takeWhile_padded, ← cString_take src hcapacity, cString,
    List.take_of_length_le]
  exact (List.takeWhile_prefix _).length_le.trans (length_load src _).le

/-- The copy is terminated. -/
theorem isTerminated_copyText : IsTerminated size (copyText size dest src) := by
  rw [IsTerminated, load_copyText dest src hsize]
  exact List.mem_append_right _ List.mem_cons_self

/-- A copy stores inside its array. -/
theorem storesInside_copyText : StoresInside size dest (copyText size dest src) := by
  have hlength := length_padded (size - 1) (src.load (size - 1))
  refine trans_of _ (dest.storesInside_storeAll 0 _ (Int.le_refl 0) ?_)
    (Memory.storesInside_store _ _ 0 ?_)
  · rw [hlength]
    omega
  · omega

end Copy

end MemoryText
