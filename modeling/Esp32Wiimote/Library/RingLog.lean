import Mathlib.Algebra.GroupWithZero.Nat
import Mathlib.Data.List.Basic
import Mathlib.Tactic.Common

/-!
# Rings that keep the latest entries of a log

A ring of fixed capacity holds its entries in `count` slots from `head` on, wrapping at the
end. Pushing to a full ring drops the oldest entry, so a ring that only grows by pushes holds
the latest entries of the log of all that was pushed.
-/

namespace RingLog

/-! ## The end of a list -/

/-- The last `n` entries of a list, or all of them. -/
def latest {α : Type*} (n : ℕ) (log : List α) : List α := log.drop (log.length - n)

section Latest

variable {α β : Type*} {n : ℕ} {log : List α}

/-- There are as many latest entries as asked for, or all of them. -/
@[simp] theorem length_latest : (latest n log).length = min n log.length := by
  simp only [latest, List.length_drop]
  omega

/-- Of a short log all entries are the latest. -/
theorem latest_of_le (h : log.length ≤ n) : latest n log = log := by
  rw [latest, Nat.sub_eq_zero_of_le h, List.drop_zero]

/-- Mapping does not change which entries are the latest. -/
@[simp] theorem map_latest (f : α → β) : (latest n log).map f = latest n (log.map f) := by
  simp only [latest, List.map_drop, List.length_map]

/-- With room left, an entry is added. -/
theorem latest_append_of_lt (h : log.length < n) (x : α) : latest n (log ++ [x]) = latest n log ++ [x] := by
  rw [latest_of_le (Nat.le_of_lt h), latest_of_le (by rw [List.length_append]; exact h)]

/-- With no room left, an entry takes the place of the oldest. -/
theorem latest_append_of_le (hpos : 0 < n) (h : n ≤ log.length) (x : α) :
    latest n (log ++ [x]) = (latest n log).tail ++ [x] := by
  have hlength : (log ++ [x]).length = log.length + 1 := by simp
  rw [latest, hlength, latest, List.tail_drop, List.drop_append_of_le_length (by omega)]
  congr 2
  omega

end Latest

/-! ## Rings -/

/-- A ring buffer: the slots, the oldest entry and the number of entries. -/
structure Ring (α : Type*) (capacity : ℕ) where
  slots : Vector α capacity
  head : ℕ
  count : ℕ

namespace Ring

variable {α : Type*} {capacity : ℕ} [NeZero capacity]

/-- The slot at an offset from the head. -/
def slot (r : Ring α capacity) (offset : ℕ) : Fin capacity := Fin.ofNat capacity (r.head + offset)

/-- The entry at an offset from the oldest. -/
def entry (r : Ring α capacity) (offset : ℕ) : α := r.slots[r.slot offset]

/-- The entries, oldest first. -/
def contents (r : Ring α capacity) : List α := (List.range r.count).map r.entry

/-- The oldest entry is given up. -/
def dropOldest (r : Ring α capacity) : Ring α capacity :=
  { r with head := (r.head + 1) % capacity, count := r.count - 1 }

/-- Write into the slot behind the newest entry. -/
def insert (r : Ring α capacity) (x : α) : Ring α capacity :=
  { r with slots := r.slots.set (r.slot r.count) x, count := r.count + 1 }

/-- A new entry, for which a full ring gives up its oldest. -/
def push (r : Ring α capacity) (x : α) : Ring α capacity :=
  if r.count = capacity then r.dropOldest.insert x else r.insert x

section Contents

variable {r : Ring α capacity}

/-- There are as many contents as the count says. -/
@[simp] theorem length_contents : r.contents.length = r.count := by simp [contents]

/-- The contents are the entries in order. -/
theorem getElem?_contents {offset : ℕ} (h : offset < r.count) : r.contents[offset]? = some (r.entry offset) := by
  simp [contents, h]

/-- Offsets less than a capacity apart have slots of their own. -/
theorem slot_ne {i j : ℕ} (hij : i < j) (hj : j < i + capacity) : r.slot j ≠ r.slot i := by
  intro heq
  have hmod : (r.head + j) % capacity = (r.head + i) % capacity := congrArg Fin.val heq
  have hzero : (r.head + j - (r.head + i)) % capacity = 0 := Nat.sub_mod_eq_zero_of_mod_eq hmod
  rw [Nat.mod_eq_of_lt (by omega)] at hzero
  omega

/-- Without the oldest the entries move up. -/
theorem entry_dropOldest (offset : ℕ) : r.dropOldest.entry offset = r.entry (offset + 1) := by
  have hslot : r.dropOldest.slot offset = r.slot (offset + 1) := by
    apply Fin.ext
    change ((r.head + 1) % capacity + offset) % capacity = (r.head + (offset + 1)) % capacity
    rw [Nat.mod_add_mod, Nat.add_assoc, Nat.add_comm 1]
  exact congrArg (fun i : Fin capacity => r.slots[i]) hslot

/-- Dropping the oldest entry leaves the others. -/
theorem contents_dropOldest : r.dropOldest.contents = r.contents.tail := by
  have hrange : (List.range r.count).tail = (List.range (r.count - 1)).map (· + 1) := by
    cases r.count with
    | zero => rfl
    | succ n => simp [List.range_succ_eq_map]
  rw [contents, contents, ← List.map_tail, hrange, List.map_map]
  exact List.map_congr_left fun offset _ => entry_dropOldest offset

/-- An insert leaves the entries that were there. -/
theorem entry_insert_of_lt {x : α} {offset : ℕ} (hroom : r.count < capacity) (h : offset < r.count) :
    (r.insert x).entry offset = r.entry offset := by
  have hne : (r.slot r.count).val ≠ (r.slot offset).val := fun heq =>
    slot_ne h (by omega) (Fin.ext heq)
  exact Vector.getElem_set_ne (r.slot r.count).isLt (r.slot offset).isLt hne

/-- Inserting where there is room adds an entry at the end. -/
theorem contents_insert {x : α} (hroom : r.count < capacity) : (r.insert x).contents = r.contents ++ [x] := by
  have hlast : (r.insert x).entry r.count = x := Vector.getElem_set_self (r.slot r.count).isLt
  have hbefore : (List.range r.count).map (r.insert x).entry = r.contents :=
    List.map_congr_left fun offset h => entry_insert_of_lt hroom (List.mem_range.mp h)
  change (List.range (r.count + 1)).map (r.insert x).entry = _
  rw [List.range_succ, List.map_append, hbefore, List.map_singleton, hlast]

end Contents

/-! ## The log of a ring -/

/-- The ring holds the latest entries of the log. -/
structure Keeps (r : Ring α capacity) (log : List α) : Prop where
  count_le : r.count ≤ capacity
  contents_eq : r.contents = latest capacity log

section Keeps

variable {r : Ring α capacity} {log : List α}

/-- An empty ring keeps an empty log. -/
theorem keeps_nil (h : r.count = 0) : r.Keeps [] where
  count_le := by omega
  contents_eq := by simp [contents, h, latest]

/-- The count is the length of the log, or the capacity. -/
theorem Keeps.count_eq (h : r.Keeps log) : r.count = min capacity log.length := by
  rw [← length_contents, h.contents_eq, length_latest]

/-- A push to the ring is a push to the log. -/
theorem Keeps.push (h : r.Keeps log) (x : α) : (r.push x).Keeps (log ++ [x]) := by
  have hpos : 0 < capacity := Nat.pos_of_neZero capacity
  have hcount := h.count_eq
  rw [Ring.push]
  split
  next hfull =>
    have hroom : r.dropOldest.count < capacity := by
      change r.count - 1 < capacity
      omega
    refine ⟨hroom, ?_⟩
    rw [contents_insert hroom, contents_dropOldest, h.contents_eq,
      latest_append_of_le hpos (by omega)]
  next hfull =>
    have hroom : r.count < capacity := Nat.lt_of_le_of_ne h.count_le hfull
    refine ⟨hroom, ?_⟩
    rw [contents_insert hroom, h.contents_eq, latest_append_of_lt (by omega)]

end Keeps

end Ring

end RingLog
