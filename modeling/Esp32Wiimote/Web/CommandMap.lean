import Esp32Wiimote.Web.CommandQueue
import Esp32Wiimote.Library.TransitionRun
import Mathlib.Data.List.Nodup
import Mathlib.Data.List.Range
import Mathlib.Logic.Function.Basic

/-!
# The command queue as a finite map

Seen from outside the queue is a map from identifiers to commands: a command that is accepted gets a
new identifier, an update sets its status and result, and what is refused changes nothing. The slots fill
in order and no slot is ever given back, so after eight commands none is accepted any more, whether
these are completed or not.
-/

namespace Esp32Wiimote.Web

open CText TransitionRun

/-! ## The map -/

/-- A call of a function of the queue. -/
inductive QueueCall where
  | init
  | enqueue (path verb : CString)
  | get (commandId : UInt32)
  | update (commandId : UInt32) (status : WebCommandQueueStatus) (result : WebCommandQueueResult)

/-- A command as the map has it. -/
structure QueuedCommand where
  path : CString
  verb : CString
  status : WebCommandQueueStatus
  result : WebCommandQueueResult

/-- How a lookup gives a command. -/
def QueuedCommand.entry (commandId : UInt32) (command : QueuedCommand) : WebCommandQueueEntry :=
  ⟨true, commandId, command.status, command.result, command.path, command.verb⟩

/-- The queue beside what its calls returned since the initialisation: the commands by identifier, the
identifiers in order, and those of them that were updated to `Completed`. -/
structure QueueHistory where
  queue : WebCommandQueue
  commands : UInt32 → Option QueuedCommand
  accepted : List UInt32
  completed : List UInt32

/-- The two queues cannot be told apart. -/
def WebCommandQueue.LooksLike (queue' queue : WebCommandQueue) : Prop :=
  (∀ commandId, webCommandQueueGet queue' commandId = webCommandQueueGet queue commandId) ∧
    webCommandQueueCount queue' = webCommandQueueCount queue

namespace QueueHistory

/-- The history of a queue just initialised. -/
def start : QueueHistory := ⟨webCommandQueueInit, fun _ => none, [], []⟩

/-- A call of the queue, recorded. -/
def step (s : QueueHistory) : QueueCall → QueueHistory
  | .init => start
  | .enqueue path verb =>
    match webCommandQueueEnqueue s.queue path verb with
    | (some commandId, queue) =>
      ⟨queue, Function.update s.commands commandId (some ⟨path, verb, .Queued, .Pending⟩),
        s.accepted ++ [commandId], s.completed⟩
    | (none, queue) => { s with queue := queue }
  | .get _ => s
  | .update commandId status result =>
    match webCommandQueueUpdate s.queue commandId status result with
    | (true, queue) =>
      { s with
        queue := queue
        commands := Function.update s.commands commandId
          ((s.commands commandId).map fun command => { command with status := status, result := result })
        completed := if status = .Completed then s.completed.insert commandId else s.completed }
    | (false, queue) => { s with queue := queue }

/-- The queue is the map that its calls made: a lookup gives the command of that identifier with the
status and result that were set last, the next identifier is new, and a refused call changes nothing. -/
structure IsMap (s : QueueHistory) : Prop where
  lookup : ∀ commandId,
    webCommandQueueGet s.queue commandId = (s.commands commandId).map (·.entry commandId)
  returned : ∀ commandId, (s.commands commandId).isSome ↔ commandId ∈ s.accepted
  count : webCommandQueueCount s.queue = s.accepted.length
  distinct : s.accepted.Nodup
  nonzero : 0 ∉ s.accepted
  fresh : ∀ path verb, ∀ commandId ∈ (webCommandQueueEnqueue s.queue path verb).1,
    commandId ≠ 0 ∧ commandId ∉ s.accepted
  refused : ∀ path verb, (webCommandQueueEnqueue s.queue path verb).1 = none →
    (webCommandQueueEnqueue s.queue path verb).2.LooksLike s.queue
  missed : ∀ commandId status result, (webCommandQueueUpdate s.queue commandId status result).1 = false →
    (webCommandQueueUpdate s.queue commandId status result).2.LooksLike s.queue

/-- The accepted commands that were never updated to `Completed`. -/
def outstanding (s : QueueHistory) : List UInt32 := s.accepted.filter (· ∉ s.completed)

/-- A command of a path and a verb that fit is refused only with eight commands outstanding. -/
def Serves (s : QueueHistory) : QueueCall → Prop
  | .enqueue path verb => path.length < kWebCommandQueuePathMaxLen → verb.length < kWebCommandQueueVerbMaxLen →
    (webCommandQueueEnqueue s.queue path verb).1 = none → kWebCommandQueueCapacity ≤ s.outstanding.length
  | _ => True

instance (s : QueueHistory) : ∀ call, Decidable (s.Serves call)
  | .enqueue _ _ => inferInstanceAs (Decidable (_ → _ → _ → _))
  | .init | .get _ | .update .. => isTrue trivial

/-- A command of a path and a verb that fit comes while fewer than eight were accepted, or while none of
these was updated to `Completed`. -/
def IsTimely (s : QueueHistory) : QueueCall → Prop
  | .enqueue path verb => path.length < kWebCommandQueuePathMaxLen → verb.length < kWebCommandQueueVerbMaxLen →
    s.accepted.length < kWebCommandQueueCapacity ∨ s.completed = []
  | _ => True

end QueueHistory

/-! ## The slots -/

/-- The slots are in use from the front on, and each has its position, counted from one, as identifier. -/
structure WebCommandQueue.Numbered (queue : WebCommandQueue) : Prop where
  length : queue.entries.length = kWebCommandQueueCapacity
  inUse : ∀ i entry, queue.entries[i]? = some entry → (entry.inUse = true ↔ i < queue.count)
  id : ∀ i entry, queue.entries[i]? = some entry → i < queue.count → entry.id.toNat = i + 1
  nextId : queue.nextId.toNat = queue.count + 1
  count_le : queue.count ≤ kWebCommandQueueCapacity

section Slots

variable {queue : WebCommandQueue}

/-- The slots of an initialised queue are numbered. -/
theorem numbered_webCommandQueueInit : webCommandQueueInit.Numbered := by
  refine ⟨rfl, fun i entry hentry => ?_, fun i _ _ hi => absurd hi (Nat.not_lt_zero i), rfl, Nat.zero_le _⟩
  have hentry' := List.eq_of_mem_replicate (List.mem_of_getElem? hentry)
  simp [hentry', webCommandQueueInit]

/-- The command with an identifier is in the slot before it. -/
theorem isCommand_iff (hq : queue.Numbered) {i : ℕ} {entry : WebCommandQueueEntry}
    (hentry : queue.entries[i]? = some entry) (commandId : UInt32) :
    isCommand commandId entry = true ↔ i < queue.count ∧ commandId.toNat = i + 1 := by
  rw [isCommand, Bool.and_eq_true, beq_iff_eq, hq.inUse i entry hentry]
  refine and_congr_right fun hi => ?_
  rw [← UInt32.toNat_inj, hq.id i entry hentry hi]
  exact eq_comm

/-- A command is found in the slot of its number. -/
theorem findIdx?_isCommand (hq : queue.Numbered) (commandId : UInt32) :
    queue.entries.findIdx? (isCommand commandId) =
      if 1 ≤ commandId.toNat ∧ commandId.toNat ≤ queue.count then some (commandId.toNat - 1) else none := by
  have hle := hq.count_le
  have hlength := hq.length
  split
  next hin =>
    refine List.findIdx?_eq_some_iff_getElem.mpr ⟨by omega, ?_, fun j hj hfound => ?_⟩
    · exact (isCommand_iff hq (List.getElem?_eq_getElem _) commandId).mpr ⟨by omega, by omega⟩
    · have hat := ((isCommand_iff hq (List.getElem?_eq_getElem _) commandId).mp hfound).2
      omega
  next hout =>
    refine List.findIdx?_eq_none_iff.mpr fun entry hentry => Bool.eq_false_iff.mpr fun hfound => ?_
    obtain ⟨i, hi⟩ := List.mem_iff_getElem?.mp hentry
    have hat := (isCommand_iff hq hi commandId).mp hfound
    omega

/-- The first free slot is the one behind the slots in use. -/
theorem findIdx?_free (hq : queue.Numbered) (hroom : queue.count < kWebCommandQueueCapacity) :
    queue.entries.findIdx? (fun entry => !entry.inUse) = some queue.count := by
  have hlength := hq.length
  refine List.findIdx?_eq_some_iff_getElem.mpr ⟨by omega, ?_, fun j hj hfree => ?_⟩
  · have hused := hq.inUse queue.count _ (List.getElem?_eq_getElem (by omega))
    simpa using hused
  · have hused := (hq.inUse j _ (List.getElem?_eq_getElem (by omega))).mpr hj
    simp [hused] at hfree

/-- `webCommandQueueGet` answers the entry with that number. -/
theorem webCommandQueueGet_eq (hq : queue.Numbered) (commandId : UInt32) :
    webCommandQueueGet queue commandId =
      if 1 ≤ commandId.toNat ∧ commandId.toNat ≤ queue.count then queue.entries[commandId.toNat - 1]?
      else none := by
  rw [webCommandQueueGet, List.find?_eq_bind_findIdx?_getElem?, findIdx?_isCommand hq]
  by_cases hzero : commandId = 0
  · subst hzero
    rfl
  · rw [if_neg hzero]
    split <;> rfl

/-- A slot may be changed that is free, or whose identifier stays. -/
theorem WebCommandQueue.Numbered.modify (hq : queue.Numbered) {slot : ℕ}
    {f : WebCommandQueueEntry → WebCommandQueueEntry} (hused : ∀ entry, (f entry).inUse = entry.inUse)
    (hid : slot < queue.count → ∀ entry, (f entry).id = entry.id) :
    WebCommandQueue.Numbered { queue with entries := queue.entries.modify slot f } := by
  have hold {i : ℕ} {entry : WebCommandQueueEntry} (hentry : (queue.entries.modify slot f)[i]? = some entry) :
      ∃ entry', queue.entries[i]? = some entry' ∧ (if slot = i then f entry' else entry') = entry := by
    rw [List.getElem?_modify] at hentry
    exact Option.map_eq_some_iff.mp hentry
  refine ⟨(List.length_modify ..).trans hq.length, fun i entry hentry => ?_, fun i entry hentry hi => ?_,
    hq.nextId, hq.count_le⟩
  · obtain ⟨entry', hentry', rfl⟩ := hold hentry
    rw [← hq.inUse i entry' hentry']
    split
    · rw [hused]
    · rfl
  · obtain ⟨entry', hentry', rfl⟩ := hold hentry
    rw [← hq.id i entry' hentry' hi]
    split
    next hsame => rw [hid (hsame ▸ hi)]
    next => rfl

/-- Taking the first free slot for the next identifier. -/
theorem WebCommandQueue.Numbered.take (hq : queue.Numbered) (hroom : queue.count < kWebCommandQueueCapacity)
    (status : WebCommandQueueStatus) (result : WebCommandQueueResult) (path verb : CString) :
    WebCommandQueue.Numbered ⟨queue.entries.modify queue.count fun _ =>
      ⟨true, queue.nextId, status, result, path, verb⟩, queue.nextId + 1, queue.count + 1⟩ := by
  have hnext := hq.nextId
  simp only [kWebCommandQueueCapacity] at hroom
  refine ⟨(List.length_modify ..).trans hq.length, fun i entry hentry => ?_, fun i entry hentry hi => ?_, ?_, hroom⟩
  · rw [List.getElem?_modify] at hentry
    obtain ⟨entry', hentry', rfl⟩ := Option.map_eq_some_iff.mp hentry
    have hused := hq.inUse i entry' hentry'
    split
    next hsame => simp [← hsame]
    next hother =>
      rw [hused]
      exact (Nat.lt_succ_iff_lt_or_eq.trans (or_iff_left (Ne.symm hother))).symm
  · rw [List.getElem?_modify] at hentry
    obtain ⟨entry', hentry', rfl⟩ := Option.map_eq_some_iff.mp hentry
    split
    next hsame => rw [hnext, hsame]
    next hother =>
      have hi' : i < queue.count + 1 := hi
      exact hq.id i entry' hentry' (by omega)
  · rw [UInt32.toNat_add, hnext]
    exact Nat.mod_eq_of_lt (show queue.count + 1 + 1 < 2 ^ 32 by omega)

end Slots

/-! ## The calls -/

section Calls

variable {queue : WebCommandQueue}

/-- A copy into 64 bytes keeps at most 63 characters. -/
theorem copyBounded_64 (text : CString) : copyBounded 64 text = (decide (text.length < 64), text.take 63) := by
  have hfits : (0 ≤ (text.length : ℤ) ∧ (text.length : ℤ) < (64 : ℕ)) ↔ text.length < 64 := by omega
  simp only [copyBounded, snprintf, hfits]

/-- A command that is refused leaves what changes a free slot at most; one that is accepted takes it. -/
theorem webCommandQueueEnqueue_eq (hq : queue.Numbered) (path verb : CString) :
    if path.length < kWebCommandQueuePathMaxLen ∧ verb.length < kWebCommandQueueVerbMaxLen ∧
        queue.count < kWebCommandQueueCapacity then
      webCommandQueueEnqueue queue path verb = (some queue.nextId,
        ⟨queue.entries.modify queue.count fun _ => ⟨true, queue.nextId, .Queued, .Pending, path, verb⟩,
          queue.nextId + 1, queue.count + 1⟩)
    else ∃ f : WebCommandQueueEntry → WebCommandQueueEntry,
      (∀ entry, (f entry).inUse = entry.inUse ∧ (f entry).id = entry.id) ∧
        webCommandQueueEnqueue queue path verb =
          (none, { queue with entries := queue.entries.modify queue.count f }) := by
  have hpathSize : kWebCommandQueuePathMaxLen = 64 := rfl
  have hverbSize : kWebCommandQueueVerbMaxLen = 64 := rfl
  simp only [webCommandQueueEnqueue, hpathSize, hverbSize, copyBounded_64]
  by_cases hroom : queue.count < kWebCommandQueueCapacity
  · simp only [not_le.mpr hroom, if_false, findIdx?_free hq hroom]
    by_cases hpath : path.length < 64
    · by_cases hverb : verb.length < 64
      · rw [if_pos ⟨hpath, hverb, hroom⟩]
        simp [hpath, hverb, List.take_of_length_le (Nat.le_of_lt_succ hpath),
          List.take_of_length_le (Nat.le_of_lt_succ hverb)]
      · rw [if_neg fun h => hverb h.2.1]
        simp only [hpath, hverb, decide_true, decide_false, Bool.not_true, Bool.not_false, Bool.false_eq_true,
          if_false, if_true]
        exact ⟨fun entry => { entry with path := path.take 63, verb := verb.take 63 },
          fun _ => ⟨rfl, rfl⟩, rfl⟩
    · rw [if_neg fun h => hpath h.1]
      simp only [hpath, decide_false, Bool.not_false, if_true]
      exact ⟨fun entry => { entry with path := path.take 63 }, fun _ => ⟨rfl, rfl⟩, rfl⟩
  · rw [if_neg fun h => hroom h.2.2]
    refine ⟨id, fun _ => ⟨rfl, rfl⟩, ?_⟩
    rw [if_pos (not_lt.mp hroom), List.modify_id]

/-- `webCommandQueueUpdate` changes the entry with that number. -/
theorem webCommandQueueUpdate_eq (hq : queue.Numbered) (commandId : UInt32) (status : WebCommandQueueStatus)
    (result : WebCommandQueueResult) : webCommandQueueUpdate queue commandId status result =
      if 1 ≤ commandId.toNat ∧ commandId.toNat ≤ queue.count then
        (true, { queue with entries := queue.entries.modify (commandId.toNat - 1) fun entry =>
          { entry with status := status, result := result } })
      else (false, queue) := by
  rw [webCommandQueueUpdate, findIdx?_isCommand hq]
  by_cases hzero : commandId = 0
  · subst hzero
    rfl
  · rw [if_neg hzero]
    by_cases hin : 1 ≤ commandId.toNat ∧ commandId.toNat ≤ queue.count
    · simp only [if_pos hin]
    · simp only [if_neg hin]

/-- What is looked up after a slot was changed. -/
theorem webCommandQueueGet_modify (hq : queue.Numbered) {slot : ℕ}
    {f : WebCommandQueueEntry → WebCommandQueueEntry} (hused : ∀ entry, (f entry).inUse = entry.inUse)
    (hid : ∀ entry, (f entry).id = entry.id) (commandId : UInt32) :
    webCommandQueueGet { queue with entries := queue.entries.modify slot f } commandId =
      (webCommandQueueGet queue commandId).map fun entry => if slot + 1 = commandId.toNat then f entry else entry := by
  rw [webCommandQueueGet_eq hq, webCommandQueueGet_eq (hq.modify hused fun _ => hid)]
  split
  next hin =>
    rw [List.getElem?_modify]
    refine congrArg (Option.map · _) (funext fun entry => ?_)
    have hslot : slot = commandId.toNat - 1 ↔ slot + 1 = commandId.toNat := by omega
    simp only [hslot]
  next => rfl

/-- What is looked up after a command was accepted. -/
theorem webCommandQueueGet_take (hq : queue.Numbered) (hroom : queue.count < kWebCommandQueueCapacity)
    (status : WebCommandQueueStatus) (result : WebCommandQueueResult) (path verb : CString) (commandId : UInt32) :
    webCommandQueueGet ⟨queue.entries.modify queue.count fun _ =>
        ⟨true, queue.nextId, status, result, path, verb⟩, queue.nextId + 1, queue.count + 1⟩ commandId =
      if commandId = queue.nextId then some ⟨true, queue.nextId, status, result, path, verb⟩
      else webCommandQueueGet queue commandId := by
  have hnext := hq.nextId
  have hlength := hq.length
  rw [webCommandQueueGet_eq hq, webCommandQueueGet_eq (hq.take hroom status result path verb)]
  by_cases hsame : commandId = queue.nextId
  · rw [if_pos hsame, if_pos ⟨by rw [hsame]; omega, by rw [hsame]; exact Nat.le_of_eq hnext⟩, hsame, hnext,
      Nat.add_sub_cancel, List.getElem?_modify_eq, List.getElem?_eq_getElem (by omega)]
    rfl
  · have hother : commandId.toNat ≠ queue.count + 1 := fun h =>
      hsame (UInt32.toNat_inj.mp (h.trans hnext.symm))
    have hrange : (1 ≤ commandId.toNat ∧ commandId.toNat ≤ queue.count + 1) ↔
        (1 ≤ commandId.toNat ∧ commandId.toNat ≤ queue.count) := by omega
    rw [if_neg hsame]
    simp only [hrange]
    split
    next hin => exact List.getElem?_modify_ne _ _ (by omega)
    next => rfl

end Calls

/-! ## Steps -/

namespace QueueHistory

variable {s : QueueHistory}

/-- What the history has of the queue. -/
structure Recorded (s : QueueHistory) : Prop where
  numbered : s.queue.Numbered
  lookup : ∀ commandId,
    webCommandQueueGet s.queue commandId = (s.commands commandId).map (·.entry commandId)
  accepted : s.accepted.map UInt32.toNat = List.range' 1 s.queue.count
  completed : s.completed ⊆ s.accepted

/-- At the start nothing is recorded. -/
theorem recorded_start : start.Recorded := by
  refine ⟨numbered_webCommandQueueInit, fun commandId => ?_, rfl, List.Subset.refl _⟩
  exact (webCommandQueueGet_eq numbered_webCommandQueueInit commandId).trans
    (if_neg fun h => absurd (h.1.trans h.2) (by decide))

/-- The accepted numbers are those counted so far. -/
theorem Recorded.mem_accepted (hs : s.Recorded) (commandId : UInt32) :
    commandId ∈ s.accepted ↔ 1 ≤ commandId.toNat ∧ commandId.toNat ≤ s.queue.count := by
  have hmem : commandId ∈ s.accepted ↔ commandId.toNat ∈ s.accepted.map UInt32.toNat :=
    (List.mem_map_of_injective fun _ _ => UInt32.toNat_inj.mp).symm
  rw [hmem, hs.accepted, List.mem_range'_1]
  omega

/-- There are as many as the count says. -/
theorem Recorded.length_accepted (hs : s.Recorded) : s.accepted.length = s.queue.count := by
  rw [← List.length_map (f := UInt32.toNat), hs.accepted, List.length_range']

/-- An enqueue keeps the record. -/
theorem Recorded.enqueue (hs : s.Recorded) (path verb : CString) : (s.step (.enqueue path verb)).Recorded := by
  have heq := webCommandQueueEnqueue_eq hs.numbered path verb
  split at heq
  next hfits =>
    obtain ⟨-, -, hroom⟩ := hfits
    simp only [step, heq]
    refine ⟨hs.numbered.take hroom .., fun commandId => ?_, ?_, fun _ hold =>
      List.mem_append_left _ (hs.completed hold)⟩
    · refine (webCommandQueueGet_take hs.numbered hroom ..).trans ?_
      dsimp only
      by_cases hsame : commandId = s.queue.nextId
      · rw [if_pos hsame, hsame, Function.update_self]
        rfl
      · rw [if_neg hsame, Function.update_of_ne hsame, hs.lookup]
    · rw [List.map_append, hs.accepted, List.map_singleton, hs.numbered.nextId, List.range'_1_concat,
        Nat.add_comm 1]
  next =>
    obtain ⟨f, hf, heq⟩ := heq
    have hrefused := (webCommandQueueEnqueue_cases s.queue path verb).resolve_left (by simp [heq])
    simp only [heq] at hrefused
    simp only [step, heq]
    exact ⟨hs.numbered.modify (fun entry => (hf entry).1) fun _ entry => (hf entry).2,
      fun commandId => (hrefused.2.2 commandId).trans (hs.lookup commandId), hs.accepted, hs.completed⟩

/-- So does an update. -/
theorem Recorded.update (hs : s.Recorded) (commandId : UInt32) (status : WebCommandQueueStatus)
    (result : WebCommandQueueResult) : (s.step (.update commandId status result)).Recorded := by
  have heq := webCommandQueueUpdate_eq hs.numbered commandId status result
  split at heq
  next hin =>
    simp only [step, heq]
    refine ⟨hs.numbered.modify (fun _ => rfl) fun _ _ => rfl, fun commandId' => ?_, hs.accepted, ?_⟩
    · refine (webCommandQueueGet_modify (f := fun entry => { entry with status := status, result := result })
        hs.numbered (fun _ => rfl) (fun _ => rfl) commandId').trans ?_
      dsimp only
      rw [Nat.sub_add_cancel hin.1, hs.lookup]
      by_cases hsame : commandId' = commandId
      · simp only [hsame, Function.update_self, if_true, Option.map_map]
        rfl
      · have hother : commandId.toNat ≠ commandId'.toNat := fun h => hsame (UInt32.toNat_inj.mp h.symm)
        simp only [Function.update_of_ne hsame, if_neg hother, Option.map_id']
    · split
      next =>
        intro other hother
        rcases List.mem_insert_iff.mp hother with rfl | hold
        · exact (hs.mem_accepted _).mpr hin
        · exact hs.completed hold
      next => exact hs.completed
  next =>
    simp only [step, heq]
    exact hs

/-- So does every call. -/
theorem Recorded.step (hs : s.Recorded) (call : QueueCall) : (s.step call).Recorded := by
  cases call with
  | init => exact recorded_start
  | enqueue path verb => exact hs.enqueue path verb
  | get commandId => exact hs
  | update commandId status result => exact hs.update commandId status result

/-- So does every run. -/
theorem recorded_runFrom (calls : List QueueCall) : (runFrom QueueHistory.step start calls).Recorded :=
  invariant_of_step (fun _ call hs => hs.step call) recorded_start calls

/-! ## The queue is the map -/

/-- A new number was not accepted before. -/
theorem Recorded.fresh (hs : s.Recorded) (path verb : CString) {commandId : UInt32}
    (h : (webCommandQueueEnqueue s.queue path verb).1 = some commandId) :
    commandId ≠ 0 ∧ commandId ∉ s.accepted := by
  have heq := webCommandQueueEnqueue_eq hs.numbered path verb
  have hnext := hs.numbered.nextId
  split at heq
  next =>
    rw [heq] at h
    obtain rfl := Option.some.inj h
    refine ⟨fun hzero => ?_, fun hmem => ?_⟩
    · rw [hzero] at hnext
      exact absurd hnext.symm (Nat.succ_ne_zero _)
    · have hrange := ((hs.mem_accepted _).mp hmem).2
      omega
  next =>
    obtain ⟨f, -, heq⟩ := heq
    rw [heq] at h
    cases h

/-- A recorded queue is the map. -/
theorem Recorded.isMap (hs : s.Recorded) : s.IsMap where
  lookup := hs.lookup
  returned commandId := by
    have hlookup := congrArg Option.isSome (hs.lookup commandId)
    have hlength := hs.numbered.length
    have hle := hs.numbered.count_le
    rw [Option.isSome_map] at hlookup
    rw [← hlookup, webCommandQueueGet_eq hs.numbered, hs.mem_accepted]
    split
    next hin => simpa [hin] using (by omega : commandId.toNat - 1 < s.queue.entries.length)
    next hout => simp [hout]
  count := hs.length_accepted.symm
  distinct := List.Nodup.of_map UInt32.toNat (hs.accepted ▸ List.nodup_range')
  nonzero hzero := absurd ((hs.mem_accepted 0).mp hzero).1 (by decide)
  fresh path verb _ h := hs.fresh path verb h
  refused path verb h := by
    have hrefused := (webCommandQueueEnqueue_cases s.queue path verb).resolve_left (by simp [h])
    exact ⟨hrefused.2.2, hrefused.2.1⟩
  missed commandId status result h := by
    have heq := webCommandQueueUpdate_eq hs.numbered commandId status result
    split at heq
    next =>
      rw [heq] at h
      cases h
    next =>
      rw [heq]
      exact ⟨fun _ => rfl, rfl⟩

/-! ## Room -/

/-- Every accepted command is outstanding exactly when none is completed. -/
theorem Recorded.length_outstanding_iff (hs : s.Recorded) :
    s.accepted.length ≤ s.outstanding.length ↔ s.completed = [] := by
  have hle : s.outstanding.length ≤ s.accepted.length := List.length_filter_le ..
  rw [hle.ge_iff_eq, outstanding, List.length_filter_eq_length_iff, List.eq_nil_iff_forall_not_mem]
  simp only [decide_eq_true_eq]
  exact ⟨fun h commandId hcompleted => h commandId (hs.completed hcompleted) hcompleted,
    fun h commandId _ => h commandId⟩

/-- A call is served exactly when it is timely. -/
theorem Recorded.serves_iff (hs : s.Recorded) (call : QueueCall) : s.Serves call ↔ s.IsTimely call := by
  cases call with
  | enqueue path verb =>
    refine imp_congr_right fun hpath => imp_congr_right fun hverb => ?_
    have heq := webCommandQueueEnqueue_eq hs.numbered path verb
    by_cases hroom : s.queue.count < kWebCommandQueueCapacity
    · rw [if_pos ⟨hpath, hverb, hroom⟩] at heq
      rw [heq, hs.length_accepted]
      exact iff_of_true (fun h => absurd h (by simp)) (.inl hroom)
    · rw [if_neg fun h => hroom h.2.2] at heq
      obtain ⟨f, -, heq⟩ := heq
      have hfull : s.accepted.length = kWebCommandQueueCapacity := by
        rw [hs.length_accepted]
        exact le_antisymm hs.numbered.count_le (not_lt.mp hroom)
      rw [heq, ← hfull, hs.length_outstanding_iff]
      simp
  | _ => exact Iff.rfl

end QueueHistory

/-- After the initialisation and any calls the queue is the map that these calls made. -/
theorem command_queue_refines_map (calls : List QueueCall) :
    (runFrom QueueHistory.step .start calls).IsMap :=
  (QueueHistory.recorded_runFrom calls).isMap

/-- In a run a command of a path and a verb that fit is refused only with eight commands outstanding,
exactly when each such command comes while fewer than eight were accepted since the initialisation, or
while none of these was completed. -/
theorem command_queue_serves_iff (calls : List QueueCall) :
    EveryStep QueueHistory.Serves QueueHistory.step .start calls ↔
      EveryStep QueueHistory.IsTimely QueueHistory.step .start calls :=
  everyStep_congr (I := QueueHistory.Recorded) (fun _ call _ hs => hs.step call)
    (fun _ call _ hs => hs.serves_iff call) QueueHistory.recorded_start

/-- Eight commands are accepted and the first is completed: the next one is refused, with seven
outstanding. -/
theorem command_queue_starves :
    ¬∀ calls : List QueueCall, EveryStep QueueHistory.Serves QueueHistory.step .start calls := by
  intro h
  have hrun := h (List.replicate 8 (.enqueue (ascii "/api/wiimote/commands/leds") (ascii "set_leds")) ++
    [.update 1 .Completed .Accepted, .enqueue (ascii "/api/wiimote/commands/leds") (ascii "set_leds")])
  exact absurd ((everyStep_append ..).mp hrun).2.2.1 (by decide +kernel)

end Esp32Wiimote.Web
