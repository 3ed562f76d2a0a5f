import Esp32Wiimote.Bluetooth.LinkState
import Esp32Wiimote.Library.BoundedQueue
import Esp32Wiimote.Library.RingLog
import Mathlib.Data.List.Forall2

/-!
# The queue of input reports

What `tinyWiimoteAvailable` and `tinyWiimoteRead` give is what a first-in first-out queue of five
would give, into which every input report goes with its first 50 bytes. The length of a report is cut to
eight bits before it is bounded, so a report whose length only fits in more can come out too short.
-/

namespace Esp32Wiimote.Bluetooth

open StateProgram TransitionRun RingLog

/-! ## The queue as it should be -/

/-- What is kept of a report: its first 50 bytes. -/
def AclFrame.reportBytes (frame : AclFrame) : List UInt8 :=
  (List.range (min frame.len.toNat receivedDataMaxLen)).map frame.data.at

/-- A report that finds no room is dropped. -/
def nextReports (queue : BoundedQueue (List UInt8)) (e : TwEvent) : BoundedQueue (List UInt8) :=
  match e.frame, e.action with
  | some frame, _ => if frame.IsReport then (queue.send? frame.reportBytes).getD queue else queue
  | none, .call .read => (queue.receive?.map Prod.snd).getD queue
  | none, .call (.init _) => .create _ receivedDataMaxNum
  | none, _ => queue

/-- A report that was read has these bytes, and this many. -/
structure TinyWiimoteData.Holds (rd : TinyWiimoteData) (bytes : List UInt8) : Prop where
  length : rd.len.toNat = bytes.length
  byte : ∀ (i : Nat) (hi : i < bytes.length), rd.data[i]? = some bytes[i]

/-- What is available and read, now and after each further read, is what is in the queue. With nothing
queued a read gives a report of no length and leaves everything as it is. -/
def TwWorld.HandsOut (w : TwWorld) : List (List UInt8) → Prop
  | [] => (exec tinyWiimoteAvailable w).1 = 0 ∧ (exec tinyWiimoteRead w).1.len = 0 ∧
      (exec tinyWiimoteRead w).2 = w
  | bytes :: rest => (exec tinyWiimoteAvailable w).1 = rest.length + 1 ∧
      (exec tinyWiimoteRead w).1.Holds bytes ∧ (exec tinyWiimoteRead w).2.HandsOut rest

/-- A run with the queue that should come of it. -/
structure Queueing where
  world : TwWorld
  queue : BoundedQueue (List UInt8)

namespace Queueing

/-- The world right after `TinyWiimoteInit`, beside an empty queue. -/
def start (w : TwWorld) (hciInterface : TwHciInterface) : Queueing :=
  ⟨w.afterInit hciInterface, .create _ receivedDataMaxNum⟩

/-- A step of the world, beside the step of the queue. -/
def step (s : Queueing) (e : TwEvent) : Queueing := ⟨s.world.step e, nextReports s.queue e⟩

/-- The run hands out what the queue holds. -/
def HandsOut (s : Queueing) : Prop := s.world.HandsOut s.queue.items

/-- A report that finds room is shorter than 256 bytes, or its length is at least 50 in eight bits too. -/
def KeepsLength (s : Queueing) (e : TwEvent) : Prop :=
  ∀ frame ∈ e.frame, frame.IsReport → s.queue.items.length < receivedDataMaxNum →
    frame.len.toNat < 256 ∨ receivedDataMaxLen ≤ frame.len.toNat % 256

instance (s : Queueing) (e : TwEvent) : Decidable (s.KeepsLength e) :=
  inferInstanceAs (Decidable (∀ frame ∈ _, _ → _ → _))

end Queueing

/-! ## The ring -/

namespace WiimoteReports

variable {reports : WiimoteReports}

/-- The reports of the ring from the read index on. -/
def ring (reports : WiimoteReports) : Ring TinyWiimoteData receivedDataMaxNum :=
  ⟨reports.reportBuffer, reports.readIndex, reports.itemCount⟩

instance : NeZero receivedDataMaxNum := ⟨by decide⟩

/-- The write index lies behind the last report. -/
def Aligned (reports : WiimoteReports) : Prop :=
  reports.writeIndex.val = (reports.readIndex + reports.itemCount) % receivedDataMaxNum

/-- The queued reports are the contents of the ring. -/
theorem queued_eq_contents (reports : WiimoteReports) : reports.queued = reports.ring.contents := rfl

/-- A cleared ring has its indices aligned. -/
theorem aligned_clear (reports : WiimoteReports) : reports.clear.Aligned := rfl

/-- What is put into a slot. -/
def stored (reports : WiimoteReports) (number : UInt8) (data : BytePtr) (len : UInt8) : TinyWiimoteData where
  number := number
  data := .ofFn fun i =>
    if i.val < boundedLen len then data.at i
    else (reports.reportBuffer.get reports.writeIndex).data.get i
  len := (boundedLen len).toUInt8

/-- Putting keeps them aligned. -/
theorem Aligned.put (ha : reports.Aligned) (number : UInt8) (data : BytePtr) (len : UInt8) :
    (reports.put number data len).Aligned := by
  rw [WiimoteReports.put]
  split
  · change (reports.writeIndex.val + 1) % receivedDataMaxNum =
      (reports.readIndex.val + (reports.itemCount.val + 1)) % receivedDataMaxNum
    rw [ha, Nat.mod_add_mod, Nat.add_assoc]
  · exact ha

/-- So does reading. -/
theorem Aligned.read (ha : reports.Aligned) : reports.read.2.Aligned := by
  rw [WiimoteReports.read]
  split
  · exact ha
  next hcount =>
    change reports.writeIndex.val =
      ((reports.readIndex.val + 1) % receivedDataMaxNum + (reports.itemCount.val - 1)) % receivedDataMaxNum
    rw [Nat.mod_add_mod, ha]
    congr 1
    omega

/-- A report that finds room goes to the end. -/
theorem Aligned.queued_put (ha : reports.Aligned) (number : UInt8) (data : BytePtr) (len : UInt8) :
    (reports.put number data len).queued =
      if reports.available < receivedDataMaxNum then reports.queued ++ [reports.stored number data len]
      else reports.queued := by
  by_cases hroom : reports.available < receivedDataMaxNum
  · have hcount : reports.itemCount.val < receivedDataMaxNum := hroom
    have hslot : reports.ring.slot reports.ring.count = reports.writeIndex := Fin.ext ha.symm
    have hring : (reports.put number data len).ring = reports.ring.insert (reports.stored number data len) := by
      simp only [Ring.insert, hslot, WiimoteReports.put, hcount, dif_pos]
      rfl
    rw [if_pos hroom, queued_eq_contents, hring, Ring.contents_insert hcount, queued_eq_contents]
  · have hfull : ¬reports.itemCount.val < receivedDataMaxNum := hroom
    rw [if_neg hroom, WiimoteReports.put, dif_neg hfull]

/-- Reading takes the report in front. -/
theorem queued_read (reports : WiimoteReports) : reports.read.2.queued = reports.queued.tail := by
  rw [WiimoteReports.read]
  split
  next hcount => rw [queued_eq_nil_iff.mpr hcount, List.tail_nil]
  next => exact Ring.contents_dropOldest (r := reports.ring)

end WiimoteReports

/-! ## What a report keeps -/

section Kept

variable {reports : WiimoteReports} {frame : AclFrame}

/-- A stored report has the length it was cut to. -/
theorem toNat_len_stored (number : UInt8) (data : BytePtr) (len : UInt8) :
    (reports.stored number data len).len.toNat = WiimoteReports.boundedLen len := by
  have hle : WiimoteReports.boundedLen len ≤ 50 := Nat.min_le_right ..
  rw [WiimoteReports.stored, Nat.toUInt8, UInt8.toNat_ofNat']
  omega

/-- The bytes handed on are at most those a slot has. -/
theorem length_reportBytes : frame.reportBytes.length = min frame.len.toNat receivedDataMaxLen := by
  simp [AclFrame.reportBytes]

/-- A report that is queued holds its bytes exactly when its length is not cut too short. -/
theorem holds_stored_iff : (reports.stored 0 frame.data frame.len.toUInt8).Holds frame.reportBytes ↔
    frame.len.toNat < 256 ∨ receivedDataMaxLen ≤ frame.len.toNat % 256 := by
  have hbounded : WiimoteReports.boundedLen frame.len.toUInt8 = min (frame.len.toNat % 256) 50 := by
    rw [WiimoteReports.boundedLen, UInt16.toNat_toUInt8]
    rfl
  have hlength : frame.reportBytes.length = min frame.len.toNat 50 := length_reportBytes
  rw [receivedDataMaxLen]
  constructor
  · intro hholds
    have hlen := hholds.length
    rw [toNat_len_stored, hbounded, hlength] at hlen
    omega
  · intro hfits
    have hsame : WiimoteReports.boundedLen frame.len.toUInt8 = frame.reportBytes.length := by omega
    refine ⟨(toNat_len_stored ..).trans hsame, fun i hi => ?_⟩
    have hin : i < 50 := by omega
    have hkept : i < WiimoteReports.boundedLen frame.len.toUInt8 := hsame ▸ hi
    rw [Vector.getElem?_eq_getElem (show i < receivedDataMaxLen from hin)]
    simp [WiimoteReports.stored, hkept, AclFrame.reportBytes]

end Kept

/-! ## What is handed out -/

/-- `TinyWiimoteRead` takes the oldest report. -/
theorem exec_tinyWiimoteRead (w : TwWorld) : exec tinyWiimoteRead w = (w.gRuntime.wiimoteReports.read.1,
    w.mapRuntime fun r => { r with wiimoteReports := r.wiimoteReports.read.2 }) := rfl

/-- What is handed out are the reports of the ring. -/
theorem handsOut_iff {w : TwWorld} {items : List (List UInt8)} :
    w.HandsOut items ↔ List.Forall₂ TinyWiimoteData.Holds w.gRuntime.wiimoteReports.queued items := by
  have havailable (w : TwWorld) : (exec tinyWiimoteAvailable w).1 = w.gRuntime.wiimoteReports.queued.length :=
    w.gRuntime.wiimoteReports.length_queued.symm
  induction items generalizing w with
  | nil =>
    rw [TwWorld.HandsOut, List.forall₂_nil_right_iff, havailable, List.length_eq_zero_iff]
    refine ⟨fun hnone => hnone.1, fun hnone => ⟨hnone, ?_⟩⟩
    have hread : w.gRuntime.wiimoteReports.read = ({}, w.gRuntime.wiimoteReports) :=
      if_pos (WiimoteReports.queued_eq_nil_iff.mp hnone)
    simp only [exec_tinyWiimoteRead, TwWorld.mapRuntime, hread, and_self]
  | cons bytes rest ih =>
    have hrest : (exec tinyWiimoteRead w).2.gRuntime.wiimoteReports.queued =
        w.gRuntime.wiimoteReports.queued.tail := WiimoteReports.queued_read _
    have hfirst : (exec tinyWiimoteRead w).1 = w.gRuntime.wiimoteReports.queued.headD {} :=
      WiimoteReports.read_eq_head _
    refine (and_congr Iff.rfl (and_congr Iff.rfl ih)).trans ?_
    rw [hrest, hfirst, havailable]
    cases w.gRuntime.wiimoteReports.queued with
    | nil => simp
    | cons rd more =>
      simp only [List.length_cons, List.headD_cons, List.tail_cons, List.forall₂_cons]
      exact ⟨fun hall => hall.2, fun hall => ⟨congrArg (· + 1) hall.2.length_eq, hall⟩⟩

/-! ## Steps -/

/-- An event packet is no ACL packet. -/
theorem aclFrame_of_eventPacket {data : Option (Nat → UInt8)} {len : Nat} {packet : HciEventPacket}
    (h : eventPacket data len = some packet) : aclFrame data len = none := by
  cases data with
  | none => rfl
  | some mem =>
    simp only [eventPacket] at h
    split at h
    next hd =>
      have hnot : h4Event ≠ h4Acl := by decide
      exact if_neg fun hacl => hnot (hd.2.1.symm.trans hacl.1)
    next => cases h

namespace Queueing

variable {s : Queueing} {e : TwEvent}

/-- What the queue needs of a state. -/
structure Wellformed (s : Queueing) : Prop where
  hears : s.world.hearsDisconnects
  aligned : s.world.gRuntime.wiimoteReports.Aligned
  capacity : s.queue.capacity = receivedDataMaxNum

/-- What a step does to the ring. -/
theorem wiimoteReports_step (hw : s.world.hearsDisconnects) (e : TwEvent) :
    (s.world.step e).gRuntime.wiimoteReports =
      match e.frame, e.action with
      | some frame, _ =>
        if frame.IsReport then s.world.gRuntime.wiimoteReports.put 0 frame.data frame.len.toUInt8
        else s.world.gRuntime.wiimoteReports
      | none, .call .read => s.world.gRuntime.wiimoteReports.read.2
      | none, .call (.init _) => s.world.gRuntime.wiimoteReports.clear
      | none, _ => s.world.gRuntime.wiimoteReports := by
  have hreports := congrArg LinkRuntime.wiimoteReports (link_step hw e)
  obtain ⟨action, millis, logLevel⟩ := e
  cases action with
  | call c => cases c <;> exact hreports
  | hci data len =>
    simp only [TwWorld.linkInput] at hreports
    simp only [TwEvent.frame]
    cases hevent : eventPacket data len with
    | some packet =>
      simp only [hevent, aclFrame_of_eventPacket hevent] at hreports ⊢
      split at hreports <;> exact hreports
    | none =>
      cases hframe : aclFrame data len with
      | none =>
        simp only [hevent, hframe] at hreports ⊢
        exact hreports
      | some frame =>
        simp only [hevent, hframe] at hreports ⊢
        by_cases hreport : frame.IsReport
        · rw [if_pos hreport] at hreports ⊢
          exact hreports
        · rw [if_neg hreport] at hreports ⊢
          cases hopens : frame.opens s.world.gRuntime with
          | none =>
            rw [hopens] at hreports
            exact hreports
          | some table =>
            rw [hopens] at hreports
            exact hreports

/-- The queue keeps its capacity. -/
theorem capacity_nextReports {queue : BoundedQueue (List UInt8)} (h : queue.capacity = receivedDataMaxNum)
    (e : TwEvent) : (nextReports queue e).capacity = receivedDataMaxNum := by
  rw [nextReports]
  split
  · split
    · cases hsend : queue.send? _ with
      | none => exact h
      | some queue' => exact (BoundedQueue.send?_eq_some hsend).2.2.trans h
    · exact h
  · cases hreceive : queue.receive? with
    | none => exact h
    | some received => exact (BoundedQueue.receive?_eq_some hreceive).2.trans h
  · rfl
  · exact h

/-- A step keeps ring and queue in step. -/
theorem Wellformed.step (hs : s.Wellformed) (e : TwEvent) : (s.step e).Wellformed := by
  refine ⟨hearsDisconnects_step hs.hears e, ?_, capacity_nextReports hs.capacity e⟩
  change (s.world.step e).gRuntime.wiimoteReports.Aligned
  rw [wiimoteReports_step hs.hears]
  split
  · split
    · exact hs.aligned.put ..
    · exact hs.aligned
  · exact hs.aligned.read
  · exact WiimoteReports.aligned_clear _
  · exact hs.aligned

section Related

variable {α β : Type*} {R : α → β → Prop} {as : List α} {bs : List β}

/-- Two lists that agree so far agree after one more on each side exactly when the new ones do. -/
theorem forall₂_concat_iff {a : α} {b : β} (h : List.Forall₂ R as bs) :
    List.Forall₂ R (as ++ [a]) (bs ++ [b]) ↔ R a b := by
  induction h with
  | nil => simp
  | cons hfirst hrest ih => simpa [hfirst] using ih

end Related

/-- A step keeps what is handed out in line with the queue exactly when it keeps the length of the
report it queues. -/
theorem handsOut_step_iff (hs : s.Wellformed) (hout : s.HandsOut) :
    (s.step e).HandsOut ↔ s.KeepsLength e := by
  have hout' := handsOut_iff.mp hout
  rw [HandsOut, handsOut_iff]
  change List.Forall₂ _ (s.world.step e).gRuntime.wiimoteReports.queued (nextReports s.queue e).items ↔ _
  rw [wiimoteReports_step hs.hears, nextReports, KeepsLength]
  have hlength := hout'.length_eq
  cases hframe : e.frame with
  | none =>
    refine iff_of_true ?_ (by simp)
    cases haction : e.action with
    | hci data len => exact hout'
    | call c =>
      cases c with
      | read =>
        change List.Forall₂ _ s.world.gRuntime.wiimoteReports.read.2.queued _
        rw [WiimoteReports.queued_read, BoundedQueue.items_receive]
        have hrest := List.forall₂_drop 1 hout'
        rwa [List.drop_one, List.drop_one] at hrest
      | init hciInterface => exact .nil
      | _ => exact hout'
  | some frame =>
    simp only [Option.mem_def, Option.some.injEq, forall_eq']
    by_cases hreport : frame.IsReport
    · have havailable : s.world.gRuntime.wiimoteReports.available = s.queue.items.length := by
        rw [← WiimoteReports.length_queued, hlength]
      simp only [hreport, if_true, hs.aligned.queued_put, havailable, true_imp_iff]
      by_cases hroom : s.queue.items.length < receivedDataMaxNum
      · obtain ⟨queue', hsend, hitems, -⟩ := BoundedQueue.send?_of_room (q := s.queue) (x := frame.reportBytes)
          (hs.capacity ▸ hroom)
        rw [if_pos hroom, hsend, Option.getD_some, hitems, forall₂_concat_iff hout', holds_stored_iff]
        exact ⟨fun hkept _ => hkept, fun hkept => hkept hroom⟩
      · have hfull : s.queue.send? frame.reportBytes = none := dif_neg (hs.capacity ▸ hroom)
        rw [if_neg hroom, hfull, Option.getD_none]
        exact iff_of_true hout' fun hfound => absurd hfound hroom
    · simp only [hreport, if_false, false_imp_iff, iff_true]
      exact hout'

/-- They are in step at the start. -/
theorem wellformed_start (w : TwWorld) (hciInterface : TwHciInterface) : (start w hciInterface).Wellformed :=
  ⟨rfl, WiimoteReports.aligned_clear _, rfl⟩

/-- At the start both are empty. -/
theorem handsOut_start (w : TwWorld) (hciInterface : TwHciInterface) : (start w hciInterface).HandsOut :=
  handsOut_iff.mpr .nil

end Queueing

/-- In a run the queue hands out the reports as it should after every step, exactly when each report that
finds room is shorter than 256 bytes or has a length of at least 50 in eight bits. -/
theorem reports_handed_out_iff (w : TwWorld) (hciInterface : TwHciInterface) (events : List TwEvent) :
    EveryStep (fun s e => (s.step e).HandsOut) Queueing.step (.start w hciInterface) events ↔
      EveryStep Queueing.KeepsLength Queueing.step (.start w hciInterface) events :=
  everyStep_invariant_iff (I := Queueing.HandsOut) (J := Queueing.Wellformed) (fun _ e _ hs => hs.step e)
    (fun _ _ _ hs hout => Queueing.handsOut_step_iff hs hout) (Queueing.wellformed_start w hciInterface)
    (Queueing.handsOut_start w hciInterface)

/-- A report of 256 bytes. -/
def overlongReport : TwEvent :=
  ⟨.dataFrame 0x0040 0x0045 (0xA1 :: List.replicate 255 0x30), 0, 2⟩

/-- It is queued with no bytes at all. -/
theorem reports_not_always_handed_out :
    ¬∀ (w : TwWorld) (hciInterface : TwHciInterface) (events : List TwEvent),
      EveryStep (fun s e => (s.step e).HandsOut) Queueing.step (.start w hciInterface) events := by
  intro h
  have hcut : ¬Queueing.KeepsLength (.start {} ⟨true⟩) overlongReport := by decide +kernel
  generalize overlongReport = e at hcut
  have hout : (Queueing.step (.start {} ⟨true⟩) e).HandsOut := (h {} ⟨true⟩ [e]).1
  exact hcut ((Queueing.handsOut_step_iff (Queueing.wellformed_start {} ⟨true⟩)
    (Queueing.handsOut_start {} ⟨true⟩)).mp hout)

end Esp32Wiimote.Bluetooth
