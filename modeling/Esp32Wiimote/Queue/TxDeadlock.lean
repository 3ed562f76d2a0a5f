import Esp32Wiimote.Bluetooth.StepDemand
import Esp32Wiimote.Device.Refinement
import Esp32Wiimote.Queue.HciQueue

/-!
# The thread that waits for itself

The thread that runs the tasks is the only one that takes packets off the outgoing queue, and it
puts packets there too: the handler of a received packet and the public calls send. A packet that
finds the queue full waits for room without a bound, so a thread that has to wait never returns.
This happens in a run exactly where a step of the thread sends more than there is room for.
-/

namespace Esp32Wiimote.Queue

open Bluetooth Device Serial StateProgram TransitionRun

/-! ## What a step of the device sends -/

/-- The call of the Bluetooth layer that a public call makes, where it may send. -/
def twCallOf : PublicCall → Option TwCall
  | .requestBatteryUpdate => some .requestBatteryUpdate
  | .setLeds ledMask => some (.setLeds ledMask)
  | .setReportingMode mode continuous => some (.setReportingMode mode continuous)
  | .requestStatus => some .requestStatus
  | .writeMemory addressSpace offset data len => some (.writeMemory addressSpace offset data len)
  | .readMemory addressSpace offset size => some (.readMemory addressSpace offset size)
  | .setScanEnabled enabled => some (.setScanEnabled enabled)
  | .startDiscovery => some .startDiscovery
  | .stopDiscovery => some .stopDiscovery
  | .disconnectActiveController reason => some (.disconnect reason)
  | _ => none

/-- The same for the call of a serial command. -/
def serialTwCall : SerialTargetCall → Option TwCall
  | .setLeds ledMask => some (.setLeds ledMask)
  | .setReportingMode mode continuous => some (.setReportingMode mode continuous)
  | .requestStatus => some .requestStatus
  | .setScanEnabled enabled => some (.setScanEnabled enabled)
  | .startDiscovery => some .startDiscovery
  | .stopDiscovery => some .stopDiscovery
  | .disconnectActiveController reason => some (.disconnect reason)
  | _ => none

/-- What a call sends, if one is made. -/
def demandOf (r : TinyWiimoteRuntime) (c : Option TwCall) : ℕ := c.elim 0 r.callDemand

/-- What the handling of the next received packet sends. -/
def queuedDemand (w : Esp32World) : ℕ :=
  match w.rxQueue with
  | some (packet :: _) => w.tw.gRuntime.packetDemand packet.data packet.len
  | _ => 0

/-- What a step of the thread sends: a call, or a task with the packet it handles and the serial
command it answers. The command is answered behind the packet, so its demand is read off the
runtime that the handling of the packet leaves. -/
def threadDemand (w : Esp32World) (e : Esp32Event) : ℕ :=
  match e.action with
  | .call c => demandOf w.tw.gRuntime (twCallOf c)
  | .task =>
    let w := w.enter e.platform
    if w.isStarted then
      queuedDemand w +
        (w.serialCalls.map fun call => demandOf w.beforeSerial.tw.gRuntime (serialTwCall call)).sum
    else 0
  | _ => 0

/-- The program sends what the call of the Bluetooth layer sends. -/
structure SendsAs {α : Type} (x : Esp32M α) (c : Option TwCall) : Prop where
  length : ∀ w, (exec x w).2.tw.sent.length = w.tw.sent.length + demandOf w.tw.gRuntime c

/-- The program sends nothing. -/
abbrev SendsNothing {α : Type} (x : Esp32M α) : Prop :=
  Within (Same fun w : Esp32World => w.tw.sent.length) x

section Programs

variable {α β : Type}

/-- A program that sends nothing sends as no call. -/
theorem sendsAs_none {x : Esp32M α} (h : SendsNothing x) : SendsAs x none := ⟨h.rel⟩

/-- A call of the Bluetooth layer sends as itself. -/
theorem sendsAs_liftTw {x : TwM α} (c : TwCall) (hx : discard x = c.run) :
    SendsAs (liftTw x) (some c) := by
  constructor
  intro w
  have hcall := (demands_call c).length w.tw
  rw [← hx] at hcall
  exact hcall

/-- What follows without sending changes nothing. -/
theorem SendsAs.bind {x : Esp32M α} {f : α → Esp32M β} {c : Option TwCall} (hx : SendsAs x c)
    (hf : ∀ a, SendsNothing (f a)) : SendsAs (x >>= f) c := by
  constructor
  intro w
  rw [exec_bind, ← hx.length w]
  exact (hf _).rel _

/-- Nor does dropping the answer. -/
theorem SendsAs.discard {x : Esp32M α} {c : Option TwCall} (hx : SendsAs x c) :
    SendsAs (discard x) c := ⟨hx.length⟩

/-- A call of the Bluetooth layer without a demand. -/
theorem sendsNothing_liftTw {x : TwM α} (c : TwCall) (hx : discard x = c.run)
    (hc : ∀ r : TinyWiimoteRuntime, r.callDemand c = 0) : SendsNothing (liftTw x) := by
  constructor
  intro w
  have hcall := (sendsAs_liftTw c hx).length w
  rw [demandOf, Option.elim_some, hc, Nat.add_zero] at hcall
  exact hcall

/-- Setting something sends nothing. -/
instance : SettingRelation (Same fun w : Esp32World => w.tw.sent.length) where
  settings _ _ _ := rfl
  rxQueue _ _ := rfl
  initialized _ := rfl
  serialOut _ _ := rfl
  call w c hc := by
    cases c with
    | init hciInterface => rfl
    | setFastReconnectTtlMs ttlMs => rfl
    | setAutoReconnectEnabled enabled => exact (demands_call (.setAutoReconnectEnabled enabled)).length w.tw
    | _ => exact nomatch hc

end Programs

/-- A public call sends what the call of the Bluetooth layer sends that it makes. -/
theorem sendsAs_publicCall (c : PublicCall) : SendsAs c.run (twCallOf c) := by
  cases c with
  | init => exact sendsAs_none within_init.discard
  | available =>
    refine sendsAs_none (Within.get_bind fun w => Within.ite _ (fun _ => Within.pure _) fun _ => ?_)
    exact (sendsNothing_liftTw .read rfl fun _ => rfl).discard
  | requestBatteryUpdate => exact sendsAs_liftTw .requestBatteryUpdate rfl
  | setLeds ledMask =>
    exact ((sendsAs_liftTw (.setLeds ledMask) rfl).bind fun _ => within_recordAccepted _ _).discard
  | setReportingMode mode continuous =>
    exact ((sendsAs_liftTw (.setReportingMode mode continuous) rfl).bind fun _ =>
      within_recordAccepted _ _).discard
  | requestStatus => exact (sendsAs_liftTw .requestStatus rfl).discard
  | writeMemory addressSpace offset data len =>
    exact (sendsAs_liftTw (.writeMemory addressSpace offset data len) rfl).discard
  | readMemory addressSpace offset size =>
    exact (sendsAs_liftTw (.readMemory addressSpace offset size) rfl).discard
  | setScanEnabled enabled => exact sendsAs_liftTw (.setScanEnabled enabled) rfl
  | startDiscovery => exact (sendsAs_liftTw .startDiscovery rfl).discard
  | stopDiscovery => exact (sendsAs_liftTw .stopDiscovery rfl).discard
  | disconnectActiveController reason => exact (sendsAs_liftTw (.disconnect reason) rfl).discard
  | setAutoReconnectEnabled enabled => exact sendsAs_none (within_setAutoReconnectEnabled enabled)
  | clearReconnectCache =>
    exact sendsAs_none (sendsNothing_liftTw .clearReconnectCache rfl fun _ => rfl)
  | addFilter filter =>
    refine sendsAs_none (Within.ite _ (fun _ => ?_) fun _ => Within.pure _)
    exact sendsNothing_liftTw (.reqAccelerometer false) rfl fun _ => rfl
  | _ => exact ⟨fun _ => rfl⟩

/-- A serial command sends as the call it makes. -/
theorem sendsAs_serialTargetCall (call : SerialTargetCall) :
    SendsAs (serialTargetCall call) (serialTwCall call) := by
  cases call with
  | setLeds ledMask =>
    exact (sendsAs_liftTw (.setLeds ledMask) rfl).bind fun _ => within_recordAccepted _ _
  | setReportingMode mode continuous =>
    exact (sendsAs_liftTw (.setReportingMode mode continuous) rfl).bind fun _ =>
      within_recordAccepted _ _
  | requestStatus => exact sendsAs_liftTw .requestStatus rfl
  | setScanEnabled enabled =>
    exact (sendsAs_liftTw (.setScanEnabled enabled) rfl).bind fun _ => Within.pure _
  | startDiscovery => exact sendsAs_liftTw .startDiscovery rfl
  | stopDiscovery => exact sendsAs_liftTw .stopDiscovery rfl
  | disconnectActiveController reason => exact sendsAs_liftTw (.disconnect reason) rfl
  | setAutoReconnectEnabled enabled =>
    exact sendsAs_none (Within.bind (within_setAutoReconnectEnabled enabled) fun _ => Within.pure _)
  | clearReconnectCache =>
    refine sendsAs_none (Within.bind ?_ fun _ => Within.pure _)
    exact sendsNothing_liftTw .clearReconnectCache rfl fun _ => rfl
  | setWifiDeliveryMode mode =>
    exact sendsAs_none (Within.ite _ (fun _ => Within.pure _) fun _ => ⟨fun _ => rfl⟩)
  | _ => exact ⟨fun _ => rfl⟩

/-- Serial control sends what the call sends that it makes, if any. -/
theorem length_sent_processSerialControl (w : Esp32World) :
    (exec processSerialControl w).2.tw.sent.length = w.tw.sent.length +
      ((exec processSerialControl w).1.map fun call =>
        demandOf w.tw.gRuntime (serialTwCall call)).sum := by
  have houtcome := processSerialControl_outcome w
  generalize exec processSerialControl w = outcome at houtcome ⊢
  cases houtcome with
  | quiet h => rw [h.tw, List.map_nil, List.sum_nil, Nat.add_zero]
  | called call h h' =>
    rw [h'.tw, (sendsAs_serialTargetCall call).length, h.tw, List.map_singleton, List.sum_singleton]

/-- Before serial control a task sends what its packet demands. -/
theorem length_sent_beforeSerial (w : Esp32World) :
    w.beforeSerial.tw.sent.length = w.tw.sent.length + queuedDemand w := by
  have hqueue : (w.mapWifi (·.applyQueuedWifiLifecycleAction)).rxQueue = w.rxQueue := rfl
  simp only [Esp32World.beforeSerial, processRxQueue, exec_get_bind, hqueue, queuedDemand]
  cases w.rxQueue with
  | none => rfl
  | some packets =>
    cases packets with
    | nil => rfl
    | cons packet rest => exact (demands_handleHciData packet.data packet.len).length w.tw

/-- A task sends that, and what its serial call demands. -/
theorem length_sent_task (w : Esp32World) :
    (exec task w).2.tw.sent.length = w.tw.sent.length +
      if w.isStarted then
        queuedDemand w +
          (w.serialCalls.map fun call => demandOf w.beforeSerial.tw.gRuntime (serialTwCall call)).sum
      else 0 := by
  -- the startup step does not touch the Bluetooth layer
  change w.afterSerial.tw.sent.length = _
  cases hstarted : w.isStarted with
  | false =>
    rw [w.afterSerial_of_not_started hstarted]
    rfl
  | true =>
    rw [w.afterSerial_of_started hstarted, length_sent_processSerialControl, length_sent_beforeSerial,
      Esp32World.serialCalls, hstarted, if_pos rfl, if_pos rfl, Nat.add_assoc]

/-- The actions of the thread that runs the tasks. What remains is done by the controller's
callbacks, or outside. -/
def onThread : Esp32Action → Bool
  | .call _ | .task | .dispatch _ => true
  | .hciReceived _ | .sendAvailable | .serialReceived _ => false

/-- What is sent on the thread of the task is its demand. -/
theorem length_sent_step (w : Esp32World) {e : Esp32Event} (he : onThread e.action = true) :
    (w.step e).tw.sent.length = threadDemand w e := by
  obtain ⟨action, platform⟩ := e
  cases action with
  | call c =>
    have hcall := (sendsAs_publicCall c).length (w.enter platform)
    exact hcall.trans (Nat.zero_add _)
  | task =>
    have htask := length_sent_task (w.enter platform)
    exact htask.trans (Nat.zero_add _)
  | dispatch begins => rfl
  | hciReceived packet => exact nomatch he
  | sendAvailable => exact nomatch he
  | serialReceived bytes => exact nomatch he

/-! ## The outgoing queue -/

/-- The outgoing queue is created by `init`. The thread is blocked once it waits for room in it. -/
structure TxWorld where
  world : Esp32World
  txQueueSize : ℕ
  txQueue : Option (BoundedQueue HciPacket) := none
  blocked : Bool := false

/-- An event with the answer of `esp_vhci_host_check_send_available`. -/
structure TxEvent where
  event : Esp32Event
  sendAvailable : Bool

/-- `processTxQueue`: the controller takes the first packet, or none. -/
def processTxQueue (sendAvailable : Bool) (queue : BoundedQueue HciPacket) : BoundedQueue HciPacket :=
  match queue.receive? with
  | some (_, rest) => if sendAvailable then rest else queue
  | none => queue

/-- The manager processes the queue it has. -/
theorem txQueue_processTxQueue {m : HciQueueManager} {queue : BoundedQueue HciPacket}
    (hqueue : m.txQueue = some queue) (sendAvailable : Bool) :
    (m.processTxQueue sendAvailable).2.txQueue = some (processTxQueue sendAvailable queue) := by
  simp only [HciQueueManager.processTxQueue, hqueue, Option.bind_some, processTxQueue]
  cases queue.receive? with
  | none => exact hqueue
  | some taken =>
    cases sendAvailable with
    | false => exact hqueue
    | true => rfl

namespace TxWorld

/-- The outgoing queue as a step finds it when it starts to send. -/
def queueBefore (s : TxWorld) (e : TxEvent) : Option (BoundedQueue HciPacket) :=
  match e.event.action with
  | .call .init =>
    if !e.event.platform.btStarts then s.txQueue
    else if !e.event.platform.txQueueCreated then none
    else some (.create HciPacket s.txQueueSize)
  | .task =>
    if (s.world.enter e.event.platform).isStarted then s.txQueue.map (processTxQueue e.sendAvailable)
    else s.txQueue
  | _ => s.txQueue

/-- The packets of a step go to the queue one after the other; each begins with its type, so none
is empty. A step of the thread that finds no room for one does not return, and the thread takes
no further step. A callback of the controller that finds no room is taken later. -/
def finish (s : TxWorld) (e : TxEvent) (queue : BoundedQueue HciPacket) : TxWorld :=
  match queue.sendAll (s.world.step e.event).tw.sent with
  | (queue, []) => { s with world := s.world.step e.event, txQueue := some queue }
  | (queue, _ :: _) =>
    if onThread e.event.action then { s with txQueue := some queue, blocked := true } else s

/-- One event; while the thread waits, nothing happens on it. -/
def step (s : TxWorld) (e : TxEvent) : TxWorld :=
  if s.blocked && onThread e.event.action then s
  else
    match s.queueBefore e with
    | none => { s with world := s.world.step e.event, txQueue := none }
    | some queue => s.finish e queue

/-- A device just constructed, whose queue is not created yet. -/
def construct (config : ESP32WiimoteConfig) : TxWorld where
  world := .construct config
  txQueueSize := (queueManager config).txQueueSize

/-- Every queue has the size the manager was constructed with. -/
def Sized (s : TxWorld) : Prop := ∀ queue ∈ s.txQueue, queue.capacity = s.txQueueSize

/-- What is pending when a step of the thread starts to send leaves room for what it sends. -/
def HasRoom (s : TxWorld) (e : TxEvent) : Prop :=
  onThread e.event.action = true → ∀ queue ∈ s.queueBefore e,
    queue.items.length + threadDemand s.world e.event ≤ s.txQueueSize

/-- Processing keeps the capacity. -/
theorem capacity_processTxQueue (sendAvailable : Bool) (queue : BoundedQueue HciPacket) :
    (processTxQueue sendAvailable queue).capacity = queue.capacity := by
  rw [processTxQueue]
  split
  · rename_i hreceive
    split
    · exact (BoundedQueue.receive?_eq_some hreceive).2
    · rfl
  · rfl

section Steps

variable {s : TxWorld} (hsized : s.Sized) (e : TxEvent)
include hsized

/-- The queue an event finds has the constructed size. -/
theorem capacity_queueBefore : ∀ queue ∈ s.queueBefore e, queue.capacity = s.txQueueSize := by
  intro queue hqueue
  rw [queueBefore] at hqueue
  split at hqueue
  · split at hqueue
    · exact hsized queue hqueue
    split at hqueue
    · exact nomatch hqueue
    · cases hqueue
      rfl
  · split at hqueue
    · obtain ⟨before, hbefore, rfl⟩ := Option.map_eq_some_iff.mp hqueue
      rw [capacity_processTxQueue]
      exact hsized before hbefore
    · exact hsized queue hqueue
  · exact hsized queue hqueue

/-- The queue has it when the event is over. -/
theorem sized_finish {queue : BoundedQueue HciPacket} (hcapacity : queue.capacity = s.txQueueSize) :
    (s.finish e queue).Sized := by
  rw [← queue.sendAll_capacity (s.world.step e.event).tw.sent] at hcapacity
  have hsent : ∀ queue' ∈ some (queue.sendAll (s.world.step e.event).tw.sent).1,
      queue'.capacity = s.txQueueSize := by
    intro queue' hqueue'
    cases hqueue'
    exact hcapacity
  rw [finish]
  split
  · rename_i hsend
    rw [hsend] at hsent
    exact hsent
  · rename_i hsend
    rw [hsend] at hsent
    split
    · exact hsent
    · exact hsized

/-- It has it after every step. -/
theorem sized_step : (s.step e).Sized := by
  rw [step]
  split
  · exact hsized
  split
  · intro queue hqueue
    exact nomatch hqueue
  · exact sized_finish hsized e (capacity_queueBefore hsized e _ ‹_›)

/-- A step blocks the thread exactly where there is no room for what it sends. -/
theorem blocked_step_iff (hfree : s.blocked = false) : (s.step e).blocked = false ↔ s.HasRoom e := by
  rw [step, hfree, Bool.false_and, if_neg Bool.false_ne_true]
  cases hbefore : s.queueBefore e with
  | none =>
    simp only [HasRoom, hbefore]
    exact iff_of_true trivial fun _ queue hqueue => nomatch hqueue
  | some before =>
    have hroom := before.sendAll_rest_eq_nil_iff (s.world.step e.event).tw.sent
    rw [capacity_queueBefore hsized e before hbefore] at hroom
    simp only [HasRoom, hbefore, Option.mem_some_iff, forall_eq', finish]
    cases hthread : onThread e.event.action with
    | false =>
      split
      · exact iff_of_true hfree fun h => nomatch h
      · exact iff_of_true hfree fun h => nomatch h
    | true =>
      rw [← length_sent_step s.world hthread, ← hroom]
      split
      · rename_i hsend
        rw [hsend]
        exact iff_of_true hfree fun _ => rfl
      · rename_i hsend
        rw [hsend]
        exact iff_of_false Bool.true_eq_false.mp fun h => nomatch h rfl

end Steps

end TxWorld

/-! ## Runs -/

/-- In a run of the default configuration no step blocks the thread exactly where each one finds room
for what it sends among the 32 packets of the queue. -/
theorem never_blocked_iff (events : List TxEvent) :
    EveryStep (fun s e => (s.step e).blocked = false) TxWorld.step (.construct {}) events ↔
      EveryStep TxWorld.HasRoom TxWorld.step (.construct {}) events := by
  apply everyStep_invariant_iff (I := fun s => s.blocked = false) (J := TxWorld.Sized)
  · intro s e _ hsized
    exact TxWorld.sized_step hsized e
  · intro s e _ hsized hfree
    exact TxWorld.blocked_step_iff hsized e hfree
  · intro queue hqueue
    exact nomatch hqueue
  · rfl

/-- The device is started, and scanning is switched on and off without a task in between. -/
def switchedWithoutTask : List TxEvent :=
  [⟨⟨.call .init, {}⟩, true⟩, ⟨⟨.sendAvailable, {}⟩, true⟩] ++
    (List.range 32).map fun i => ⟨⟨.call (.setScanEnabled (i % 2 == 0)), {}⟩, true⟩

/-- With the Reset there are 33 packets. -/
theorem not_never_blocked :
    ¬∀ events, EveryStep (fun s e => (s.step e).blocked = false) TxWorld.step (.construct {}) events := by
  intro h
  exact absurd (h switchedWithoutTask) (by decide +kernel)

end Esp32Wiimote.Queue
