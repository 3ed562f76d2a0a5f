import Mathlib.Data.List.Basic
import Mathlib.Tactic.Common

/-!
# First-in first-out queues of bounded capacity

A sender finds room in the queue or waits, which leaves the queue as it is. What was taken
off a queue, followed by what is still in it, is what was put into it.
-/

/-- The items in front come out first. -/
structure BoundedQueue (α : Type*) where
  capacity : ℕ
  items : List α
  fits : items.length ≤ capacity

namespace BoundedQueue

variable {α : Type*}

/-- A queue with nothing in it. -/
def create (α : Type*) (capacity : ℕ) : BoundedQueue α := ⟨capacity, [], Nat.zero_le capacity⟩

/-- `none` while the queue is full: the sender waits. -/
def send? (q : BoundedQueue α) (x : α) : Option (BoundedQueue α) :=
  if h : q.items.length < q.capacity then
    some ⟨q.capacity, q.items ++ [x], by rw [List.length_append]; exact h⟩
  else none

/-- `none` where there is nothing to take. -/
def receive? (q : BoundedQueue α) : Option (α × BoundedQueue α) :=
  match h : q.items with
  | [] => none
  | x :: rest =>
    some (x, ⟨q.capacity, rest, by
      have hfits := q.fits
      rw [h, List.length_cons] at hfits
      omega⟩)

/-- Send one item after the other. The rest is what was not sent: its first item waits. -/
def sendAll (q : BoundedQueue α) : List α → BoundedQueue α × List α
  | [] => (q, [])
  | x :: rest =>
    match q.send? x with
    | some q' => q'.sendAll rest
    | none => (q, x :: rest)

section Send

variable {q q' : BoundedQueue α} {x : α}

/-- With room the item comes last. -/
theorem send?_of_room (h : q.items.length < q.capacity) :
    ∃ q', q.send? x = some q' ∧ q'.items = q.items ++ [x] ∧ q'.capacity = q.capacity :=
  ⟨_, dif_pos h, rfl, rfl⟩

/-- Without room nothing is sent. -/
theorem send?_of_full (h : q.items.length = q.capacity) : q.send? x = none :=
  dif_neg (by omega)

/-- Only a full queue makes a sender wait. -/
theorem send?_eq_none_iff : q.send? x = none ↔ q.items.length = q.capacity := by
  constructor
  · intro hnone
    by_contra hne
    obtain ⟨q', hsome, -⟩ := send?_of_room (x := x) (Nat.lt_of_le_of_ne q.fits hne)
    rw [hsome] at hnone
    exact nomatch hnone
  · exact send?_of_full

/-- What a send that succeeded did. -/
theorem send?_eq_some (h : q.send? x = some q') :
    q.items.length < q.capacity ∧ q'.items = q.items ++ [x] ∧ q'.capacity = q.capacity := by
  have hroom : q.items.length < q.capacity := by
    apply Nat.lt_of_le_of_ne q.fits
    intro hfull
    rw [send?_of_full hfull] at h
    exact nomatch h
  obtain ⟨q'', hsome, hitems, hcapacity⟩ := send?_of_room (x := x) hroom
  cases h.symm.trans hsome
  exact ⟨hroom, hitems, hcapacity⟩

/-- What a receive that succeeded did. -/
theorem receive?_eq_some (h : q.receive? = some (x, q')) :
    q.items = x :: q'.items ∧ q'.capacity = q.capacity := by
  obtain ⟨capacity, items, fits⟩ := q
  cases items with
  | nil => exact nomatch h
  | cons y rest =>
    cases h
    exact ⟨rfl, rfl⟩

/-- Taking an item takes the one in front. -/
theorem items_receive (q : BoundedQueue α) : ((q.receive?.map Prod.snd).getD q).items = q.items.tail := by
  obtain ⟨capacity, items, fits⟩ := q
  cases items <;> rfl

end Send

section SendAll

variable (q : BoundedQueue α) (xs : List α)

/-- Sending keeps the capacity. -/
theorem sendAll_capacity : (q.sendAll xs).1.capacity = q.capacity := by
  induction xs generalizing q with
  | nil => rfl
  | cons x rest ih =>
    rw [sendAll]
    split
    · rename_i q' hsend
      rw [ih, (send?_eq_some hsend).2.2]
    · rfl

/-- Nothing waits exactly when there is room for everything. -/
theorem sendAll_rest_eq_nil_iff :
    (q.sendAll xs).2 = [] ↔ q.items.length + xs.length ≤ q.capacity := by
  induction xs generalizing q with
  | nil => exact iff_of_true rfl q.fits
  | cons x rest ih =>
    rw [sendAll]
    split
    · rename_i q' hsend
      obtain ⟨-, hitems, hcapacity⟩ := send?_eq_some hsend
      rw [ih, hitems, hcapacity, List.length_append, List.length_singleton, List.length_cons]
      omega
    · rename_i hfull
      rw [send?_eq_none_iff] at hfull
      apply iff_of_false (List.cons_ne_nil x rest)
      rw [List.length_cons]
      omega

end SendAll

/-! ## What happened to a queue -/

/-- What a queue accepted came out in the same order or is still in it, and whoever had to wait found
as many items as the capacity. -/
structure History (q : BoundedQueue α) (capacity : ℕ) (accepted delivered : List α) (waits : List ℕ) :
    Prop where
  capacity_eq : q.capacity = capacity
  order : delivered ++ q.items = accepted
  full : ∀ pending ∈ waits, pending = capacity

namespace History

variable {q q' : BoundedQueue α} {capacity : ℕ} {accepted delivered : List α} {waits : List ℕ} {x : α}

/-- A new queue has no history. -/
theorem create (capacity : ℕ) : History (.create α capacity) capacity [] [] [] := ⟨rfl, rfl, by simp⟩

/-- A send that succeeds is accepted. -/
theorem send (h : History q capacity accepted delivered waits) (hsend : q.send? x = some q') :
    History q' capacity (accepted ++ [x]) delivered waits := by
  obtain ⟨-, hitems, hcapacity⟩ := send?_eq_some hsend
  refine ⟨hcapacity.trans h.capacity_eq, ?_, h.full⟩
  rw [hitems, ← List.append_assoc, h.order]

/-- One that fails waits, and its queue was full. -/
theorem wait (h : History q capacity accepted delivered waits) (hwaits : q.send? x = none) :
    History q capacity accepted delivered (waits ++ [q.items.length]) := by
  refine ⟨h.capacity_eq, h.order, ?_⟩
  intro pending hpending
  rcases List.mem_append.mp hpending with hold | hnew
  · exact h.full pending hold
  · rw [List.mem_singleton.mp hnew, send?_eq_none_iff.mp hwaits, h.capacity_eq]

/-- A receive delivers. -/
theorem receive (h : History q capacity accepted delivered waits) (hreceive : q.receive? = some (x, q')) :
    History q' capacity accepted (delivered ++ [x]) waits := by
  obtain ⟨hitems, hcapacity⟩ := receive?_eq_some hreceive
  refine ⟨hcapacity.trans h.capacity_eq, ?_, h.full⟩
  rw [← h.order, hitems, List.append_assoc]
  rfl

end History

end BoundedQueue
