import Esp32Wiimote.Library.CText

/-!
# The web command queue

Eight slots, a counter of the commands accepted, and the identifier of the next one. A
new command goes to the first free slot; a path or verb that does not fit spoils the
texts of that slot, which nobody reads while it is free.
-/

namespace Esp32Wiimote.Web

open CText

/-- The number of slots, and the sizes of their texts. -/
def kWebCommandQueueCapacity : ℕ := 8
def kWebCommandQueuePathMaxLen : ℕ := 64
def kWebCommandQueueVerbMaxLen : ℕ := 64

/-- How far a command has come. -/
inductive WebCommandQueueStatus
  | Queued
  | Running
  | Completed
  deriving DecidableEq, Repr

/-- What became of it. -/
inductive WebCommandQueueResult
  | Pending
  | Accepted
  | Rejected
  deriving DecidableEq, Repr

/-- A slot of the queue. -/
structure WebCommandQueueEntry where
  inUse : Bool
  id : UInt32
  status : WebCommandQueueStatus
  result : WebCommandQueueResult
  path : CString
  verb : CString
  deriving DecidableEq, Repr

/-- The slots, in order, and the two counters. -/
structure WebCommandQueue where
  entries : List WebCommandQueueEntry
  nextId : UInt32
  count : ℕ
  deriving DecidableEq, Repr

/-- Every slot is free, and the first command gets the number one. -/
def webCommandQueueInit : WebCommandQueue :=
  ⟨List.replicate kWebCommandQueueCapacity ⟨false, 0, .Queued, .Pending, [], []⟩, 1, 0⟩

/-- Copy a string into a buffer: what is stored, and whether it is complete. -/
def copyBounded (dstSize : ℕ) (src : CString) : Bool × CString :=
  let written := snprintf dstSize src
  (decide (0 ≤ written.1 ∧ written.1 < dstSize), written.2)

/-- Put a command into the queue; the identifier is `none` where it is not accepted. -/
def webCommandQueueEnqueue (queue : WebCommandQueue) (path verb : CString) :
    Option UInt32 × WebCommandQueue :=
  if kWebCommandQueueCapacity ≤ queue.count then (none, queue)
  else
    match queue.entries.findIdx? fun entry => !entry.inUse with
    | none => (none, queue)
    | some slot =>
      let pathCopy := copyBounded kWebCommandQueuePathMaxLen path
      let verbCopy := copyBounded kWebCommandQueueVerbMaxLen verb
      if !pathCopy.1 then
        (none, { queue with entries := queue.entries.modify slot fun entry =>
          { entry with path := pathCopy.2 } })
      else if !verbCopy.1 then
        (none, { queue with entries := queue.entries.modify slot fun entry =>
          { entry with path := pathCopy.2, verb := verbCopy.2 } })
      else
        (some queue.nextId,
          { entries := queue.entries.modify slot fun _ =>
              ⟨true, queue.nextId, .Queued, .Pending, pathCopy.2, verbCopy.2⟩
            nextId := queue.nextId + 1
            count := queue.count + 1 })

/-- The slot of a command. -/
def isCommand (commandId : UInt32) (entry : WebCommandQueueEntry) : Bool :=
  entry.inUse && entry.id == commandId

/-- The first slot with this command; zero is no command. -/
def webCommandQueueGet (queue : WebCommandQueue) (commandId : UInt32) :
    Option WebCommandQueueEntry :=
  if commandId = 0 then none else queue.entries.find? (isCommand commandId)

/-- Set the status and the result of a command; `false` where there is no such command. -/
def webCommandQueueUpdate (queue : WebCommandQueue) (commandId : UInt32) (status : WebCommandQueueStatus)
    (result : WebCommandQueueResult) : Bool × WebCommandQueue :=
  if commandId = 0 then (false, queue)
  else
    match queue.entries.findIdx? (isCommand commandId) with
    | none => (false, queue)
    | some slot =>
      (true, { queue with entries := queue.entries.modify slot fun entry =>
        { entry with status := status, result := result } })

/-- How many commands were accepted. -/
def webCommandQueueCount (queue : WebCommandQueue) : ℕ := queue.count

/-! ## Refused commands -/

/-- Changing an element that is not searched for, to one that is not either, does not change
what a search finds. -/
theorem find?_modify {α : Type*} (p : α → Bool) (f : α → α) (l : List α) (i : ℕ)
    (h : ∀ a, l[i]? = some a → p a = false ∧ p (f a) = false) :
    (l.modify i f).find? p = l.find? p := by
  induction l generalizing i with
  | nil => cases i <;> rfl
  | cons a rest ih =>
    cases i with
    | zero =>
      obtain ⟨ha, hfa⟩ := h a rfl
      simp [ha, hfa]
    | succ i =>
      have hrest := ih i h
      simp only [List.modify_succ_cons, List.find?_cons, hrest]

/-- A change to the texts of a free slot is not seen. -/
theorem webCommandQueueGet_of_spoiled (queue : WebCommandQueue) (slot : ℕ)
    (hslot : queue.entries.findIdx? (fun entry => !entry.inUse) = some slot)
    (f : WebCommandQueueEntry → WebCommandQueueEntry) (hf : ∀ entry, (f entry).inUse = entry.inUse)
    (commandId : UInt32) :
    webCommandQueueGet { queue with entries := queue.entries.modify slot f } commandId =
      webCommandQueueGet queue commandId := by
  unfold webCommandQueueGet
  dsimp only
  rw [find?_modify]
  intro entry hentry
  obtain ⟨hlt, hfree, -⟩ := List.findIdx?_eq_some_iff_getElem.mp hslot
  rw [List.getElem?_eq_getElem hlt, Option.some.injEq] at hentry
  rw [hentry] at hfree
  have hunused : entry.inUse = false := by simpa using hfree
  simp [isCommand, hf, hunused]

/-- A command is accepted and counted, or it changes no answer of the queue and no count. -/
theorem webCommandQueueEnqueue_cases (queue : WebCommandQueue) (path verb : CString) :
    ((webCommandQueueEnqueue queue path verb).1 = some queue.nextId ∧
        (webCommandQueueEnqueue queue path verb).2.count = queue.count + 1) ∨
      ((webCommandQueueEnqueue queue path verb).1 = none ∧
        (webCommandQueueEnqueue queue path verb).2.count = queue.count ∧
        ∀ commandId, webCommandQueueGet (webCommandQueueEnqueue queue path verb).2 commandId =
          webCommandQueueGet queue commandId) := by
  unfold webCommandQueueEnqueue
  split
  · exact .inr ⟨rfl, rfl, fun _ => rfl⟩
  · split
    · exact .inr ⟨rfl, rfl, fun _ => rfl⟩
    · rename_i slot hslot
      dsimp only
      split
      · exact .inr ⟨rfl, rfl, webCommandQueueGet_of_spoiled queue slot hslot _ fun _ => rfl⟩
      · split
        · exact .inr ⟨rfl, rfl, webCommandQueueGet_of_spoiled queue slot hslot _ fun _ => rfl⟩
        · exact .inl ⟨rfl, rfl⟩

end Esp32Wiimote.Web
