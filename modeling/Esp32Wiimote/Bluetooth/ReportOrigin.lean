import Esp32Wiimote.Bluetooth.LinkState

/-!
# Where queued reports come from

Beside a run it is noted of every queued report whether its handle was in the connection table when
it was received. A report is queued and marks the controller as connected whatever its handle is,
and `tinyWiimoteResetDevice` empties the table of a connected controller: a run never queues a
foreign report and never loses the handle of a connected controller exactly when neither happens.
-/

namespace Esp32Wiimote.Bluetooth

open StateProgram TransitionRun

/-- A run with a note for each queued report, oldest first: whether its handle was known. -/
structure Noted where
  world : TwWorld
  known : List Bool
  deriving DecidableEq

namespace Noted

/-- How many reports are queued. -/
def queued (w : TwWorld) : Nat := w.gRuntime.wiimoteReports.available

/-- Whether the frame of the event came in on a known handle. -/
def onKnownHandle (w : TwWorld) (e : TwEvent) : Bool :=
  e.frame.any fun frame => decide (w.Knows frame.connectionHandle)

/-- A new report gets a note; the notes of reports that leave the queue are dropped. -/
def step (s : Noted) (e : TwEvent) : Noted where
  world := s.world.step e
  known :=
    if queued s.world < queued (s.world.step e) then s.known ++ [onKnownHandle s.world e]
    else s.known.drop (queued s.world - queued (s.world.step e))

/-- The controller that is connected has a handle, and all queued reports came in on known ones. -/
structure Attributed (s : Noted) : Prop where
  handle : s.world.isConnected → s.world.gRuntime.l2capConnections.list ≠ []
  origin : s.known = List.replicate (queued s.world) true

/-- A report comes in only while there is a handle, and on a known one if it will be queued. The
controller is not reset while it is connected. -/
def Regular (s : Noted) (e : TwEvent) : Prop :=
  match s.world.linkInput e with
  | .reported _ _ =>
    s.world.gRuntime.l2capConnections.list ≠ [] ∧
      (queued s.world < receivedDataMaxNum → onKnownHandle s.world e)
  | .reset => s.world.isConnected = false
  | _ => True

instance (s : Noted) (e : TwEvent) : Decidable (s.Regular e) := by
  unfold Regular
  split <;> infer_instance

/-! ## The queue of the link -/

/-- Reading takes one report out, if there is one. -/
theorem available_read (reports : WiimoteReports) :
    reports.read.2.available = reports.available - 1 := by
  by_cases hempty : reports.itemCount.val = 0
  · simp [WiimoteReports.available, WiimoteReports.read, hempty]
  · simp [WiimoteReports.available, WiimoteReports.read, hempty]

/-- A channel that was opened has an entry. -/
theorem list_ne_nil_of_opened {w : TwWorld} {e : TwEvent} {table : L2capConnectionTable}
    (h : w.linkInput e = .opened table) : table.list ≠ [] := by
  have hadd : ∀ frame : AclFrame, frame.opens w.gRuntime = some table → table.list ≠ [] := by
    intro frame hopens
    simp only [AclFrame.opens, Option.ite_none_right_eq_some, L2capConnectionTable.addConnection,
      Option.dite_none_right_eq_some, Option.some.injEq] at hopens
    obtain ⟨-, hroom, rfl⟩ := hopens
    simp
  simp only [TwWorld.linkInput] at h
  split at h
  · split at h
    · split at h <;> cases h
    · split at h
      · cases h
      · split at h
        next hopens =>
          cases h
          exact hadd _ hopens
        next => cases h
    · cases h
  all_goals cases h

section Steps

variable {s : Noted} {e : TwEvent}

/-- While the queue does not grow, the notes of what leaves it are dropped. -/
theorem origin_of_le (horigin : s.known = List.replicate (queued s.world) true)
    (hle : queued (s.world.step e) ≤ queued s.world) :
    (s.step e).known = List.replicate (queued (s.step e).world) true := by
  have hkept : (s.step e).known = s.known.drop (queued s.world - queued (s.world.step e)) :=
    if_neg (Nat.not_lt.mpr hle)
  rw [hkept, horigin, List.drop_replicate, Nat.sub_sub_self hle]
  rfl

/-- A report that is queued has a true note exactly when its handle was known. -/
theorem origin_of_queued (horigin : s.known = List.replicate (queued s.world) true)
    (hcount : queued (s.world.step e) = queued s.world + 1) :
    (s.step e).known = List.replicate (queued (s.step e).world) true ↔ onKnownHandle s.world e := by
  have hnoted : (s.step e).known = s.known ++ [onKnownHandle s.world e] :=
    if_pos (by rw [hcount]; exact Nat.lt_succ_self _)
  change _ = List.replicate (queued (s.world.step e)) true ↔ _
  rw [hnoted, hcount, horigin, List.replicate_succ', List.append_cancel_left_eq, List.singleton_inj]

/-- A step keeps the reports attributed exactly when it is regular. -/
theorem attributed_step (hw : s.world.hearsDisconnects) (hs : s.Attributed) :
    (s.step e).Attributed ↔ s.Regular e := by
  have hlink := link_step hw e
  have hqueued : queued (s.world.step e) =
      (s.world.link.react (s.world.linkInput e)).wiimoteReports.available :=
    congrArg (fun link : LinkRuntime => link.wiimoteReports.available) hlink
  have hconn : (s.world.step e).isConnected =
      (s.world.link.react (s.world.linkInput e)).wiimoteConnected :=
    congrArg LinkRuntime.wiimoteConnected hlink
  have htable : (s.world.step e).gRuntime.l2capConnections =
      (s.world.link.react (s.world.linkInput e)).l2capConnections :=
    congrArg LinkRuntime.l2capConnections hlink
  -- where the queue does not grow, only the handle of the controller is at stake
  have hkept (hle : queued (s.world.step e) ≤ queued s.world) : (s.step e).Attributed ↔
      ((s.world.step e).isConnected → (s.world.step e).gRuntime.l2capConnections.list ≠ []) :=
    ⟨fun h => h.handle, fun h => ⟨h, origin_of_le hs.origin hle⟩⟩
  rw [Regular]
  cases hinput : s.world.linkInput e with
  | opened table =>
    rw [hinput] at hqueued htable
    rw [hkept (Nat.le_of_eq hqueued), htable]
    exact iff_of_true (fun _ => list_ne_nil_of_opened hinput) trivial
  | reported data len =>
    rw [hinput] at hqueued hconn htable
    have hcount : queued (s.world.step e) = if queued s.world < receivedDataMaxNum then
        queued s.world + 1 else queued s.world := hqueued.trans (WiimoteReports.available_put ..)
    by_cases hroom : queued s.world < receivedDataMaxNum
    · have horigin := origin_of_queued hs.origin (hcount.trans (if_pos hroom))
      constructor
      · intro h
        have hhandle := h.handle hconn
        rw [Noted.step, htable] at hhandle
        exact ⟨hhandle, fun _ => horigin.mp h.origin⟩
      · intro ⟨hhandle, hknown⟩
        refine ⟨fun _ => ?_, horigin.mpr (hknown hroom)⟩
        rw [Noted.step, htable]
        exact hhandle
    · rw [hkept (Nat.le_of_eq (hcount.trans (if_neg hroom))), hconn, htable]
      exact ⟨fun h => ⟨h rfl, fun h => absurd h hroom⟩, fun h _ => h.1⟩
  | ended =>
    rw [hinput] at hqueued hconn
    rw [hkept (Nat.le_of_eq hqueued), hconn]
    exact iff_of_true (fun h => absurd h Bool.false_eq_true.mp) trivial
  | initialised =>
    rw [hinput] at hqueued hconn
    rw [hkept (by rw [hqueued]; exact Nat.zero_le _), hconn]
    exact iff_of_true (fun h => absurd h Bool.false_eq_true.mp) trivial
  | reset =>
    rw [hinput] at hqueued hconn htable
    rw [hkept (Nat.le_of_eq hqueued), hconn, htable]
    change (s.world.isConnected = true → [] ≠ []) ↔ _
    simp
  | read =>
    rw [hinput] at hqueued hconn htable
    have hle : queued (s.world.step e) ≤ queued s.world := by
      rw [hqueued]
      exact Nat.le_trans (Nat.le_of_eq (available_read _)) (Nat.sub_le ..)
    rw [hkept hle, hconn, htable]
    exact iff_of_true hs.handle trivial
  | nothing =>
    rw [hinput] at hqueued hconn htable
    rw [hkept (Nat.le_of_eq hqueued), hconn, htable]
    exact iff_of_true hs.handle trivial

end Steps

/-! ## Runs -/

/-- The notes at the start of a run, where nothing is queued. -/
def start (w : TwWorld) (hciInterface : TwHciInterface) : Noted := ⟨w.afterInit hciInterface, []⟩

/-- At the start no report is queued. -/
theorem attributed_start (w : TwWorld) (hciInterface : TwHciInterface) :
    (start w hciInterface).Attributed := ⟨fun h => absurd h Bool.false_eq_true.mp, rfl⟩

/-- In all states of a run a connected controller has a handle and all queued reports came in on
known handles, exactly when every step of the run is regular. -/
theorem reports_attributed_iff (w : TwWorld) (hciInterface : TwHciInterface) (events : List TwEvent) :
    EveryStep (fun s e => (s.step e).Attributed) step (start w hciInterface) events ↔
      EveryStep Regular step (start w hciInterface) events :=
  everyStep_invariant_iff (J := fun s => s.world.hearsDisconnects)
    (fun _ e _ hw => hearsDisconnects_step hw e) (fun _ _ _ hw hs => attributed_step hw hs) rfl
    (attributed_start w hciInterface)

end Noted

/-- A report comes in before any channel was opened. -/
def strayReport : List TwEvent := [⟨TwAction.buttons 0x0040, 0, 2⟩]

/-- A stray report is queued and marks the controller as connected. -/
theorem reports_not_always_attributed :
    ¬∀ (w : TwWorld) (hciInterface : TwHciInterface) (events : List TwEvent),
      EveryStep (fun s e => (s.step e).Attributed) Noted.step (.start w hciInterface) events := by
  intro h
  exact (h {} ⟨true⟩ strayReport).1.handle (by decide) (by decide)

end Esp32Wiimote.Bluetooth
