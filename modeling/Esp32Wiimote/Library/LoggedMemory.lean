import Esp32Wiimote.Library.StateProgram
import Mathlib.Data.Int.Init
import Mathlib.Logic.Function.Basic
import Mathlib.Data.List.Basic

/-!
# Memory that records where it was written

Cells are addressed by their offset from a base, which may lie on either side of it, so a store
outside the object at the base is an ordinary store and shows in the record.
-/

namespace LoggedMemory

open StateProgram

variable {α : Type}

/-- A memory that records where it was stored to. -/
structure Memory (α : Type) where
  cell : ℤ → α
  /-- The offsets that were stored to, in order. -/
  stores : List ℤ

/-- Only offsets of an object of `size` cells at the base were stored to. -/
abbrev StoresInside (size : ℕ) : Memory α → Memory α → Prop :=
  Grown Memory.stores fun i => 0 ≤ i ∧ i < size

namespace Memory

/-- Store to one cell. -/
def store (m : Memory α) (i : ℤ) (a : α) : Memory α where
  cell := Function.update m.cell i a
  stores := m.stores ++ [i]

/-- Store to consecutive cells. -/
def storeAll (m : Memory α) (i : ℤ) : List α → Memory α
  | [] => m
  | a :: rest => (m.store i a).storeAll (i + 1) rest

/-- The first `n` cells of the object. -/
def load (m : Memory α) (n : ℕ) : List α := (List.range n).map fun k : ℕ => m.cell k

variable (m : Memory α) (i : ℤ)

/-- The cell has the value that was stored. -/
@[simp] theorem cell_store_self (a : α) : (m.store i a).cell i = a := Function.update_self ..

/-- Every other cell is as it was. -/
theorem cell_store_ne {j : ℤ} (a : α) (h : j ≠ i) : (m.store i a).cell j = m.cell j :=
  Function.update_of_ne h ..

/-- Cells in front of the stored ones and behind them keep their contents. -/
theorem cell_storeAll_outside {j : ℤ} (values : List α) (h : j < i ∨ i + values.length ≤ j) :
    (m.storeAll i values).cell j = m.cell j := by
  induction values generalizing m i with
  | nil => rfl
  | cons a rest ih =>
    rw [List.length_cons] at h
    rw [storeAll, ih _ _ (by omega), cell_store_ne]
    omega

/-- The stored cells hold the values in order. -/
theorem cell_storeAll_inside (values : List α) (k : ℕ) (hk : k < values.length) :
    (m.storeAll i values).cell (i + k) = values[k] := by
  induction values generalizing m i k with
  | nil => exact absurd hk (Nat.not_lt_zero k)
  | cons a rest ih =>
    rw [storeAll]
    cases k with
    | zero => rw [cell_storeAll_outside _ _ _ (by omega)]; simp
    | succ k =>
      have hshift : i + ((k + 1 : ℕ) : ℤ) = i + 1 + k := by omega
      rw [hshift, ih _ _ k (Nat.lt_of_succ_lt_succ hk), List.getElem_cons_succ]

/-- A store within the array is inside. -/
theorem storesInside_store {size : ℕ} (a : α) (h : 0 ≤ i ∧ i < size) :
    StoresInside size m (m.store i a) :=
  ⟨[i], rfl, by simpa using h⟩

/-- So is a list of stores that ends within it. -/
theorem storesInside_storeAll {size : ℕ} (values : List α) (hlow : 0 ≤ i)
    (hhigh : i + values.length ≤ size) : StoresInside size m (m.storeAll i values) := by
  induction values generalizing m i with
  | nil => exact refl_of _ m
  | cons a rest ih =>
    rw [List.length_cons] at hhigh
    exact trans_of _ (storesInside_store m i a (by omega)) (ih _ _ (by omega) (by omega))

/-- The second list is stored behind the first. -/
theorem storeAll_append (first second : List α) :
    m.storeAll i (first ++ second) = (m.storeAll i first).storeAll (i + first.length) second := by
  induction first generalizing m i with
  | nil =>
    rw [List.nil_append, List.length_nil, Int.natCast_zero, Int.add_zero]
    rfl
  | cons a rest ih =>
    have hshift : i + 1 + (rest.length : ℤ) = i + ((a :: rest).length : ℕ) := by
      rw [List.length_cons]
      omega
    rw [List.cons_append, storeAll, storeAll, ih, hshift]

/-- Consecutive offsets are recorded. -/
theorem stores_storeAll (values : List α) :
    (m.storeAll i values).stores =
      m.stores ++ (List.range values.length).map fun k : ℕ => i + k := by
  induction values generalizing m i with
  | nil => exact (List.append_nil m.stores).symm
  | cons a rest ih =>
    have hshift : (fun k : ℕ => i + k) ∘ Nat.succ = fun k : ℕ => i + 1 + k := by
      funext k
      simp only [Function.comp_apply]
      omega
    rw [storeAll, ih, List.length_cons, List.range_succ_eq_map, List.map_cons, List.map_map, hshift,
      Int.natCast_zero, Int.add_zero, List.append_cons m.stores]
    rfl

/-- What is loaded is what the cells hold. -/
theorem load_eq_of_cell {values : List α}
    (h : ∀ k (hk : k < values.length), m.cell k = values[k]) : m.load values.length = values := by
  apply List.ext_getElem
  · simp [load]
  · intro k _ hk
    rw [← h k hk]
    simp [load]

section Load

variable {n size : ℕ}

/-- As much is loaded as was asked for. -/
theorem length_load (n : ℕ) : (m.load n).length = n := by
  rw [load, List.length_map, List.length_range]

/-- One more cell is loaded last. -/
theorem load_succ (n : ℕ) : m.load (n + 1) = m.load n ++ [m.cell n] := by
  rw [load, List.range_succ, List.map_append]
  rfl

/-- The front of what is loaded. -/
theorem load_take (h : n ≤ size) : (m.load size).take n = m.load n := by
  rw [load, ← List.map_take, List.take_range, Nat.min_eq_left h]
  rfl

/-- A store behind the loaded cells does not change them. -/
theorem load_store_of_le {i : ℕ} (a : α) (h : n ≤ i) : (m.store i a).load n = m.load n := by
  rw [load, load]
  refine List.map_congr_left fun k hk => ?_
  rw [List.mem_range] at hk
  exact m.cell_store_ne i a (by omega)

/-- A store behind the front is loaded behind it. -/
theorem load_store_self (a : α) (n : ℕ) : (m.store n a).load (n + 1) = m.load n ++ [a] := by
  rw [load_succ, m.load_store_of_le a (Nat.le_refl n), cell_store_self]

/-- What was stored from the start is loaded. -/
theorem load_storeAll (values : List α) : (m.storeAll 0 values).load values.length = values := by
  refine load_eq_of_cell _ fun k hk => ?_
  have hcell := m.cell_storeAll_inside 0 values k hk
  rwa [Int.zero_add] at hcell

/-- Values that are stored behind the loaded cells. -/
theorem load_storeAll_end (values : List α) (n : ℕ) :
    (m.storeAll n values).load (n + values.length) = m.load n ++ values := by
  induction values generalizing m n with
  | nil => exact (List.append_nil _).symm
  | cons a rest ih =>
    have hrest := ih (m.store n a) (n + 1)
    rw [load_store_self, List.append_assoc, List.singleton_append, Int.natCast_add, Int.natCast_one] at hrest
    rw [storeAll, List.length_cons, ← hrest, Nat.add_assoc, Nat.add_comm 1]

/-- Values that are stored in front of others. -/
theorem load_storeAll_front (front back : List α) :
    ((m.storeAll front.length back).storeAll 0 front).load (front ++ back).length = front ++ back := by
  refine load_eq_of_cell _ fun k hk => ?_
  by_cases hfront : k < front.length
  · have hcell := (m.storeAll front.length back).cell_storeAll_inside 0 front k hfront
    rw [Int.zero_add] at hcell
    rw [hcell, List.getElem_append_left hfront]
  · rw [List.length_append] at hk
    obtain ⟨j, rfl⟩ := Nat.exists_eq_add_of_le (Nat.not_lt.mp hfront)
    rw [cell_storeAll_outside _ _ _ (by omega), Int.natCast_add,
      cell_storeAll_inside _ _ _ j (by omega), List.getElem_append_right (Nat.not_lt.mp hfront)]
    simp only [Nat.add_sub_cancel_left]

end Load

end Memory

end LoggedMemory
