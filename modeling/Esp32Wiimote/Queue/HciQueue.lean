import Esp32Wiimote.Bluetooth.TinyWiimote
import Esp32Wiimote.Device.Config
import Esp32Wiimote.Library.BoundedQueue
import Esp32Wiimote.Library.TransitionRun

/-!
# The HCI queues

`HciQueueManager` and the callbacks that put packets into its two queues, with the part of a
task that takes them off. Outgoing packets leave only while the controller takes them, at most
one in a task; the handler of a received packet may send packets itself. Packets come out in
order and unchanged. The device creates each queue with the size configured for the other one.
-/

namespace Esp32Wiimote.Queue

open Bluetooth Device TransitionRun

/-- The bytes of an `HciQueueData`. -/
abbrev HciPacket : Type := List UInt8

/-! ## The queue manager -/

/-- The two queues, with the sizes they are created with. -/
structure HciQueueManager where
  rxQueueSize : ℕ
  txQueueSize : ℕ
  txQueue : Option (BoundedQueue HciPacket) := none
  rxQueue : Option (BoundedQueue HciPacket) := none

/-- What becomes of a packet: it is in the queue, there is nothing to put there, there is no queue, or
the sender waits for room. -/
inductive SendResult
  | queued
  | nothing
  | rejected
  | waits
  deriving DecidableEq, Repr

/-- There is memory for the copy of the packet. -/
def sendToQueue (queue : BoundedQueue HciPacket) (data : HciPacket) :
    SendResult × BoundedQueue HciPacket :=
  if data = [] then (.nothing, queue)
  else
    match queue.send? data with
    | some queue => (.queued, queue)
    | none => (.waits, queue)

namespace HciQueueManager

/-- The constructor, with its parameters in their order. -/
def new (rxQueueSize txQueueSize : ℕ) : HciQueueManager := { rxQueueSize, txQueueSize }

/-- Both queues can be created. -/
def createQueues (m : HciQueueManager) : HciQueueManager :=
  { m with
    txQueue := some (.create HciPacket m.txQueueSize)
    rxQueue := some (.create HciPacket m.rxQueueSize) }

/-- Rejected before the queue is created. -/
def sendToTxQueue (data : HciPacket) (m : HciQueueManager) : SendResult × HciQueueManager :=
  match m.txQueue with
  | none => (.rejected, m)
  | some queue => ((sendToQueue queue data).1, { m with txQueue := some (sendToQueue queue data).2 })

/-- Rejected before the queue is created. -/
def sendToRxQueue (data : HciPacket) (m : HciQueueManager) : SendResult × HciQueueManager :=
  match m.rxQueue with
  | none => (.rejected, m)
  | some queue => ((sendToQueue queue data).1, { m with rxQueue := some (sendToQueue queue data).2 })

/-- The packet that is given to the controller, where it takes one. -/
def processTxQueue (sendAvailable : Bool) (m : HciQueueManager) : Option HciPacket × HciQueueManager :=
  match m.txQueue.bind BoundedQueue.receive? with
  | some (packet, queue) =>
    if sendAvailable then (some packet, { m with txQueue := some queue }) else (none, m)
  | none => (none, m)

/-- The packet that is to be handled. -/
def processRxQueue (m : HciQueueManager) : Option HciPacket × HciQueueManager :=
  match m.rxQueue.bind BoundedQueue.receive? with
  | some (packet, queue) => (some packet, { m with rxQueue := some queue })
  | none => (none, m)

/-- The packets that wait in a queue. -/
def pending (queue : Option (BoundedQueue HciPacket)) : List HciPacket :=
  queue.elim [] BoundedQueue.items

end HciQueueManager

/-- The queue manager of a device. The sizes are positive, so `size_t` holds them as they are. -/
def queueManager (config : ESP32WiimoteConfig) : HciQueueManager :=
  .new config.txQueueSize.toNat config.rxQueueSize.toNat

/-! ## The transport -/

/-- The queues, the state of the handler, and a record: the packets of the calls that returned, those
that were given to the controller and those that were handled, and how many were pending when a
sender had to wait. The thread of the task can be blocked in a send of its own. -/
structure HciTransport (σ : Type) where
  manager : HciQueueManager
  host : σ
  sent : List HciPacket := []
  transmitted : List HciPacket := []
  txWaits : List ℕ := []
  received : List HciPacket := []
  handled : List HciPacket := []
  rxWaits : List ℕ := []
  taskBlocked : Bool := false

/-- What the handler does with a packet: its new state, and the packets it sends. -/
abbrev HciHandler (σ : Type) : Type := σ → HciPacket → σ × List HciPacket

/-- A send that waits is tried again later. A task runs while the controller is started, and is told
whether the controller takes a packet. -/
inductive TransportEvent
  | hciHostSendPacket (data : HciPacket)
  | notifyHostRecv (data : HciPacket)
  | task (started sendAvailable : Bool)

/-- What a call is about: an empty packet is none. -/
def packetOf (data : HciPacket) : List HciPacket := if data = [] then [] else [data]

namespace HciTransport

variable {σ : Type}

/-- The packet of a call that returns is recorded, whatever the queue did with it. -/
def hciHostSendPacket (data : HciPacket) (t : HciTransport σ) : SendResult × HciTransport σ :=
  match t.manager.sendToTxQueue data with
  | (.waits, _) =>
    (.waits, { t with txWaits := t.txWaits ++ [(HciQueueManager.pending t.manager.txQueue).length] })
  | (result, manager) => (result, { t with manager, sent := t.sent ++ packetOf data })

/-- So is the packet of a receive that returns. -/
def notifyHostRecv (data : HciPacket) (t : HciTransport σ) : SendResult × HciTransport σ :=
  match t.manager.sendToRxQueue data with
  | (.waits, _) =>
    (.waits, { t with rxWaits := t.rxWaits ++ [(HciQueueManager.pending t.manager.rxQueue).length] })
  | (result, manager) => (result, { t with manager, received := t.received ++ packetOf data })

/-- Send what the handler sends. Where it has to wait the task does not go on. -/
def sendFromTask : List HciPacket → HciTransport σ → HciTransport σ
  | [], t => t
  | data :: rest, t =>
    match t.hciHostSendPacket data with
    | (.waits, t) => { t with taskBlocked := true }
    | (_, t) => sendFromTask rest t

/-- A packet that was taken from the queue is transmitted. -/
def processTxQueue (sendAvailable : Bool) (t : HciTransport σ) : HciTransport σ :=
  match t.manager.processTxQueue sendAvailable with
  | (some packet, manager) => { t with manager, transmitted := t.transmitted ++ [packet] }
  | (none, _) => t

/-- A packet that was taken from the queue is handled, and what the handler sends is sent from the
task. -/
def processRxQueue (handleHciData : HciHandler σ) (t : HciTransport σ) : HciTransport σ :=
  match t.manager.processRxQueue with
  | (some packet, manager) =>
    sendFromTask (handleHciData t.host packet).2
      { t with manager, handled := t.handled ++ [packet], host := (handleHciData t.host packet).1 }
  | (none, _) => t

/-- A task that waits for room does nothing. -/
def task (handleHciData : HciHandler σ) (started sendAvailable : Bool) (t : HciTransport σ) :
    HciTransport σ :=
  if !started || t.taskBlocked then t
  else (t.processTxQueue sendAvailable).processRxQueue handleHciData

/-- What an event does. -/
def step (handleHciData : HciHandler σ) (t : HciTransport σ) : TransportEvent → HciTransport σ
  | .hciHostSendPacket data => (t.hciHostSendPacket data).2
  | .notifyHostRecv data => (t.notifyHostRecv data).2
  | .task started sendAvailable => t.task handleHciData started sendAvailable

/-- The transport of a device with its queues just created. -/
def start (config : ESP32WiimoteConfig) (host : σ) : HciTransport σ :=
  { manager := (queueManager config).createQueues, host }

/-! ## One packet -/

section Packets

variable {t : HciTransport σ} {queue : BoundedQueue HciPacket}

/-- A send that is not empty is queued, or waits. -/
theorem hciHostSendPacket_eq (hqueue : t.manager.txQueue = some queue) (data : HciPacket) :
    t.hciHostSendPacket data =
      if data = [] then (.nothing, t)
      else
        match queue.send? data with
        | some queue' =>
          (.queued, { t with
            manager := { t.manager with txQueue := some queue' }, sent := t.sent ++ [data] })
        | none => (.waits, { t with txWaits := t.txWaits ++ [queue.items.length] }) := by
  simp only [hciHostSendPacket, HciQueueManager.sendToTxQueue, hqueue, sendToQueue, packetOf,
    HciQueueManager.pending, Option.elim_some]
  by_cases hdata : data = []
  · simp only [if_pos hdata, List.append_nil]
    rw [← hqueue]
  · simp only [if_neg hdata]
    cases queue.send? data <;> rfl

/-- So is a packet that was received. -/
theorem notifyHostRecv_eq (hqueue : t.manager.rxQueue = some queue) (data : HciPacket) :
    t.notifyHostRecv data =
      if data = [] then (.nothing, t)
      else
        match queue.send? data with
        | some queue' =>
          (.queued, { t with
            manager := { t.manager with rxQueue := some queue' }, received := t.received ++ [data] })
        | none => (.waits, { t with rxWaits := t.rxWaits ++ [queue.items.length] }) := by
  simp only [notifyHostRecv, HciQueueManager.sendToRxQueue, hqueue, sendToQueue, packetOf,
    HciQueueManager.pending, Option.elim_some]
  by_cases hdata : data = []
  · simp only [if_pos hdata, List.append_nil]
    rw [← hqueue]
  · simp only [if_neg hdata]
    cases queue.send? data <;> rfl

end Packets

/-! ## What every run keeps -/

/-- Each queue has its capacity, and what went through it is in order. -/
structure Ordered (txCapacity rxCapacity : ℕ) (t : HciTransport σ) : Prop where
  tx : ∃ queue, t.manager.txQueue = some queue ∧
    queue.History txCapacity t.sent t.transmitted t.txWaits
  rx : ∃ queue, t.manager.rxQueue = some queue ∧
    queue.History rxCapacity t.received t.handled t.rxWaits

variable {txCapacity rxCapacity : ℕ} {t : HciTransport σ}

/-- A send keeps the queues in order. -/
theorem Ordered.hciHostSendPacket (h : t.Ordered txCapacity rxCapacity) (data : HciPacket) :
    (t.hciHostSendPacket data).2.Ordered txCapacity rxCapacity := by
  obtain ⟨queue, hqueue, hhistory⟩ := h.tx
  rw [hciHostSendPacket_eq hqueue]
  split
  · exact h
  · split
    · rename_i hsend
      exact ⟨⟨_, rfl, hhistory.send hsend⟩, h.rx⟩
    · rename_i hwaits
      exact ⟨⟨queue, hqueue, hhistory.wait hwaits⟩, h.rx⟩

/-- So does a packet received. -/
theorem Ordered.notifyHostRecv (h : t.Ordered txCapacity rxCapacity) (data : HciPacket) :
    (t.notifyHostRecv data).2.Ordered txCapacity rxCapacity := by
  obtain ⟨queue, hqueue, hhistory⟩ := h.rx
  rw [notifyHostRecv_eq hqueue]
  split
  · exact h
  · split
    · rename_i hsend
      exact ⟨h.tx, ⟨_, rfl, hhistory.send hsend⟩⟩
    · rename_i hwaits
      exact ⟨h.tx, ⟨queue, hqueue, hhistory.wait hwaits⟩⟩

/-- So does what the task sends. -/
theorem Ordered.sendFromTask (h : t.Ordered txCapacity rxCapacity) (packets : List HciPacket) :
    (HciTransport.sendFromTask packets t).Ordered txCapacity rxCapacity := by
  induction packets generalizing t with
  | nil => exact h
  | cons data rest ih =>
    have hsent := h.hciHostSendPacket data
    rw [HciTransport.sendFromTask]
    split
    · rename_i t' heq
      rw [heq] at hsent
      exact ⟨hsent.tx, hsent.rx⟩
    · rename_i result t' _ heq
      rw [heq] at hsent
      exact ih hsent

/-- So does a transmission. -/
theorem Ordered.processTxQueue (h : t.Ordered txCapacity rxCapacity) (sendAvailable : Bool) :
    (t.processTxQueue sendAvailable).Ordered txCapacity rxCapacity := by
  obtain ⟨queue, hqueue, hhistory⟩ := h.tx
  simp only [HciTransport.processTxQueue, HciQueueManager.processTxQueue, hqueue, Option.bind_some]
  cases hreceive : queue.receive? with
  | none => exact h
  | some taken =>
    cases sendAvailable with
    | false => exact h
    | true => exact ⟨⟨taken.2, rfl, hhistory.receive hreceive⟩, h.rx⟩

/-- So does handling a packet. -/
theorem Ordered.processRxQueue (h : t.Ordered txCapacity rxCapacity) (handleHciData : HciHandler σ) :
    (t.processRxQueue handleHciData).Ordered txCapacity rxCapacity := by
  obtain ⟨queue, hqueue, hhistory⟩ := h.rx
  simp only [HciTransport.processRxQueue, HciQueueManager.processRxQueue, hqueue, Option.bind_some]
  cases hreceive : queue.receive? with
  | none => exact h
  | some taken =>
    have hhandled : Ordered txCapacity rxCapacity
        { t with
          manager := { t.manager with rxQueue := some taken.2 }
          handled := t.handled ++ [taken.1]
          host := (handleHciData t.host taken.1).1 } :=
      ⟨h.tx, ⟨taken.2, rfl, hhistory.receive hreceive⟩⟩
    exact hhandled.sendFromTask _

/-- Every event keeps the queues in order. -/
theorem Ordered.step (h : t.Ordered txCapacity rxCapacity) (handleHciData : HciHandler σ)
    (e : TransportEvent) : (t.step handleHciData e).Ordered txCapacity rxCapacity := by
  cases e with
  | hciHostSendPacket data => exact h.hciHostSendPacket data
  | notifyHostRecv data => exact h.notifyHostRecv data
  | task started sendAvailable =>
    simp only [HciTransport.step, HciTransport.task]
    split
    · exact h
    · exact (h.processTxQueue sendAvailable).processRxQueue handleHciData

/-- They are in order after every run. -/
theorem ordered_run (config : ESP32WiimoteConfig) (host : σ) (handleHciData : HciHandler σ)
    (events : List TransportEvent) :
    (runFrom (step handleHciData) (start config host) events).Ordered config.rxQueueSize.toNat
      config.txQueueSize.toNat := by
  apply invariant_of_step (fun t e h => h.step handleHciData e)
  exact ⟨⟨_, rfl, .create _⟩, ⟨_, rfl, .create _⟩⟩

/-! ## Filling a queue -/

/-- An event that always puts a packet into a queue, where there is room, fills it one by one. -/
theorem filled {handleHciData : HciHandler σ} {e : TransportEvent} {data : HciPacket}
    {queueOf : HciTransport σ → Option (BoundedQueue HciPacket)}
    (hstep : ∀ t queue queue', queueOf t = some queue → queue.send? data = some queue' →
      queueOf (t.step handleHciData e) = some queue')
    {t : HciTransport σ} {queue : BoundedQueue HciPacket} (hqueue : queueOf t = some queue) (n : ℕ)
    (hroom : queue.items.length + n ≤ queue.capacity) :
    ∃ queue', queueOf (runFrom (step handleHciData) t (List.replicate n e)) = some queue' ∧
      queue'.items.length = queue.items.length + n ∧ queue'.capacity = queue.capacity := by
  induction n generalizing t queue with
  | zero => exact ⟨queue, hqueue, rfl, rfl⟩
  | succ n ih =>
    have hlt : queue.items.length < queue.capacity := by omega
    obtain ⟨next, hsend, hitems, hcapacity⟩ := BoundedQueue.send?_of_room (x := data) hlt
    have hlength : next.items.length = queue.items.length + 1 := by
      rw [hitems, List.length_append, List.length_singleton]
    obtain ⟨queue', hrun, hlength', hcapacity'⟩ :=
      ih (hstep t queue next hqueue hsend) (by omega)
    exact ⟨queue', hrun, by omega, hcapacity'.trans hcapacity⟩

/-- So with one event more than the capacity the last one waits. -/
theorem waits_when_filled (queueOf : HciTransport σ → Option (BoundedQueue HciPacket))
    (waitsOf : HciTransport σ → List ℕ) {handleHciData : HciHandler σ} {e : TransportEvent}
    {data : HciPacket}
    (hstep : ∀ t queue queue', queueOf t = some queue → queue.send? data = some queue' →
      queueOf (t.step handleHciData e) = some queue')
    (hwait : ∀ t queue, queueOf t = some queue → queue.send? data = none →
      queue.items.length ∈ waitsOf (t.step handleHciData e))
    {t : HciTransport σ} {n : ℕ} (hqueue : queueOf t = some (.create HciPacket n)) :
    n ∈ waitsOf (runFrom (step handleHciData) t (List.replicate (n + 1) e)) := by
  obtain ⟨queue, hfilled, hlength, hcapacity⟩ := filled hstep hqueue n (Nat.zero_add n).le
  have hitems : queue.items.length = n := hlength.trans (Nat.zero_add n)
  have hfull : queue.send? data = none := by
    rw [BoundedQueue.send?_eq_none_iff, hitems, hcapacity]
    rfl
  have hlast := hwait _ queue hfilled hfull
  rw [hitems] at hlast
  rw [List.replicate_succ', runFrom, List.foldl_append]
  exact hlast

section Filling

variable (config : ESP32WiimoteConfig) (host : σ) (handleHciData : HciHandler σ)

/-- After as many sends as the capacity of the outgoing queue the next one waits. -/
theorem sends_wait :
    config.rxQueueSize.toNat ∈ (runFrom (step handleHciData) (start config host)
      (List.replicate (config.rxQueueSize.toNat + 1) (.hciHostSendPacket [0]))).txWaits := by
  apply waits_when_filled (fun t => t.manager.txQueue) (fun t => t.txWaits)
  · intro t queue queue' hqueue hsend
    rw [step, hciHostSendPacket_eq hqueue, if_neg (List.cons_ne_nil 0 []), hsend]
  · intro t queue hqueue hfull
    rw [step, hciHostSendPacket_eq hqueue, if_neg (List.cons_ne_nil 0 []), hfull]
    exact List.mem_append_right _ (List.mem_singleton.mpr rfl)
  · rfl

/-- After as many received packets as the capacity of the incoming queue the next one waits. -/
theorem receives_wait :
    config.txQueueSize.toNat ∈ (runFrom (step handleHciData) (start config host)
      (List.replicate (config.txQueueSize.toNat + 1) (.notifyHostRecv [0]))).rxWaits := by
  apply waits_when_filled (fun t => t.manager.rxQueue) (fun t => t.rxWaits)
  · intro t queue queue' hqueue hsend
    rw [step, notifyHostRecv_eq hqueue, if_neg (List.cons_ne_nil 0 []), hsend]
  · intro t queue hqueue hfull
    rw [step, notifyHostRecv_eq hqueue, if_neg (List.cons_ne_nil 0 []), hfull]
    exact List.mem_append_right _ (List.mem_singleton.mpr rfl)
  · rfl

end Filling

end HciTransport

/-! ## The law -/

/-- Packets come out in order, once each and unchanged, and a sender waits only while the configured
number of packets is pending. -/
structure TransportLaw {σ : Type} (config : ESP32WiimoteConfig) (t : HciTransport σ) : Prop where
  outgoing : t.transmitted ++ HciQueueManager.pending t.manager.txQueue = t.sent
  incoming : t.handled ++ HciQueueManager.pending t.manager.rxQueue = t.received
  txWaits : ∀ pending ∈ t.txWaits, config.txQueueSize ≤ pending
  rxWaits : ∀ pending ∈ t.rxWaits, config.rxQueueSize ≤ pending

/-- Where both queues have the same configured size the law holds in every run, and otherwise there
is a run in which it does not. -/
theorem transportLaw_iff {σ : Type} (handleHciData : HciHandler σ) (host : σ)
    (config : ESP32WiimoteConfig) (htx : 1 ≤ config.txQueueSize) (hrx : 1 ≤ config.rxQueueSize) :
    (∀ events, TransportLaw config
        (runFrom (HciTransport.step handleHciData) (.start config host) events)) ↔
      config.txQueueSize = config.rxQueueSize := by
  constructor
  · intro hlaw
    have hsend := (hlaw _).txWaits _ (HciTransport.sends_wait config host handleHciData)
    have hreceive := (hlaw _).rxWaits _ (HciTransport.receives_wait config host handleHciData)
    omega
  · intro hsame events
    obtain ⟨⟨txQueue, htxQueue, hsent⟩, rxQueue, hrxQueue, hreceived⟩ :=
      HciTransport.ordered_run config host handleHciData events
    constructor
    · rw [htxQueue]
      exact hsent.order
    · rw [hrxQueue]
      exact hreceived.order
    · intro pending hpending
      rw [hsent.full pending hpending]
      omega
    · intro pending hpending
      rw [hreceived.full pending hpending]
      omega

/-- The handler of the Bluetooth layer. -/
def handleHciPacket : HciHandler TwWorld := fun w packet =>
  let t := w.step ⟨.received packet, w.millis, w.logLevel⟩
  (t, t.sent)

/-- Two packets are sent. -/
def twoSends : List TransportEvent := [.hciHostSendPacket [1], .hciHostSendPacket [2]]

/-- The default sizes are the same. -/
theorem transportLaw_default :
    TransportLaw {} (runFrom (HciTransport.step handleHciPacket) (.start {} {}) twoSends) :=
  (transportLaw_iff handleHciPacket {} {} (by decide) (by decide)).mpr rfl twoSends

/-- With room for two outgoing packets and one incoming packet configured the second send waits. -/
theorem not_transportLaw :
    ¬TransportLaw { txQueueSize := 2, rxQueueSize := 1 }
      (runFrom (HciTransport.step handleHciPacket) (.start { txQueueSize := 2, rxQueueSize := 1 } {})
        twoSends) := by
  intro hlaw
  have hwaits := hlaw.txWaits 1 (by decide +kernel)
  exact absurd hwaits (by decide)

end Esp32Wiimote.Queue
