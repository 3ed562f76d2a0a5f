import Esp32Wiimote.Bluetooth.Discovery
import Esp32Wiimote.Library.WrappingClock

/-!
# Fast reconnect after a lost link

The reconnect window is documented from the disconnect on. The stamp it is computed from is
taken when the link comes up, so the window has run for the length of the session already
when the link is lost. Time is real here and the device reads its clock, which wraps.
-/

namespace Esp32Wiimote.Bluetooth

open StateProgram TransitionRun WrappingClock

/-- The event reports that a Write Scan Enable succeeded. -/
structure HciEventPacket.CompletesScanEnable (packet : HciEventPacket) : Prop where
  code : packet.eventCode = kHciCommandCompleteEvt
  opcode : uint16OfLe (packet.data.at 1) (packet.data.at 2) = kHciOpcodeWriteScanEnable
  status : packet.data.at 3 = 0x00

instance (packet : HciEventPacket) : Decidable packet.CompletesScanEnable :=
  decidable_of_iff
    (packet.eventCode = kHciCommandCompleteEvt ∧
      uint16OfLe (packet.data.at 1) (packet.data.at 2) = kHciOpcodeWriteScanEnable ∧
      packet.data.at 3 = 0x00)
    ⟨fun ⟨code, opcode, status⟩ => ⟨code, opcode, status⟩,
      fun ⟨code, opcode, status⟩ => ⟨code, opcode, status⟩⟩

/-- The call clears the reconnect cache, or starts the runtime anew. -/
def TwAction.clearsCache : TwAction → Bool
  | .call (.init _) | .call .clearReconnectCache => true
  | _ => false

/-! ## The reconnect cache -/

/-- The cached controller, and when it was seen last. -/
structure ReconnectCache where
  hasLastWiimote : Bool
  lastWiimote : HciScannedDevice
  lastWiimoteSeenMs : UInt32

/-- The cache in the event context. -/
def HciEventContext.reconnectCache (ctx : HciEventContext) : ReconnectCache :=
  ⟨ctx.hasLastWiimote, ctx.lastWiimote, ctx.lastWiimoteSeenMs⟩

/-- A cached controller was a connect target. -/
def Host.CacheFromTarget (h : Host) : Prop :=
  h.context.hasLastWiimote = true → h.context.hasCurrentConnectTarget = true

section Cache

variable {h h' : Host}

/-- A move that does not connect leaves the cache alone. -/
theorem Host.reconnectCache_moves (hmoves : Host.Moves false h h') :
    h'.context.reconnectCache = h.context.reconnectCache := by
  apply hmoves.invariant (I := fun t => t.context.reconnectCache = h.context.reconnectCache) _ rfl
  intro s t hmove hsame
  cases hmove with
  | cached hcache => cases hcache
  | forgotten hcache => cases hcache
  | _ => exact hsame

/-- After every step a cached controller was a connect target. -/
theorem cacheFromTarget_step {w : TwWorld} (hcache : w.host.CacheFromTarget) (e : TwEvent) :
    (w.step e).host.CacheFromTarget := by
  refine host_invariant_step (I := Host.CacheFromTarget) (fun s t hmove hs => ?_) (fun _ _ _ hlast => ?_) e hcache
  · cases hmove with
    | targeted => exact fun _ => rfl
    | forgotten => exact fun hlast => by cases hlast
    | cached =>
      intro hlast
      simp only [Host.context_update, HciEventContext.cacheConnectTarget] at hlast ⊢
      split
      next htarget => exact htarget
      next htarget =>
        rw [if_neg htarget] at hlast
        exact hs hlast
    | _ => exact hs
  · cases hlast

/-- After a Connection Complete with status 0 the cache holds the connect target, stamped with
the time of the event, if there is a target at all. -/
theorem reconnectCache_connects {packet : HciEventPacket} (hconn : packet.Connects) :
    (h.handleEvent packet).context.reconnectCache =
      if h.context.hasCurrentConnectTarget then ⟨true, h.context.currentConnectTarget, h.now⟩
      else h.context.reconnectCache := by
  rw [h.handleEvent_of_connectionComplete hconn.1, Host.connectionCompleted, hconn.2]
  simp only [ne_eq, not_true_eq_false, if_false, Host.context_update, HciEventContext.reconnectCache,
    HciEventContext.cacheConnectTarget]
  split <;> rfl

/-- The reply to Write Scan Enable starts a search, if one is wanted: for the cached controller
while the stamp of the cache is young enough, else for any. -/
theorem commands_writeScanEnable {packet : HciEventPacket} (hw : h.Wired)
    (hreply : packet.CompletesScanEnable) : (h.handleEvent packet).commands =
      h.commands ++ if h.context.connectsOnScanEnable then [
        if h.context.autoReconnectEnabled && h.context.isFastReconnectCacheValid h.now then
          makeCmdCreateConnection ⟨h.context.lastWiimote.bdAddr, 0x0008, h.context.lastWiimote.psrm,
            h.context.lastWiimote.clkofs, 0x00⟩
        else makeCmdInquiry ⟨0x9E8B33, 0x05, 0x00⟩] else [] := by
  have hhost : h.handleEvent packet = h.scanEnableCompleted := by
    rw [h.handleEvent_of_commandComplete hreply.code, hreply.opcode, hreply.status]
    rfl
  rw [hhost, Host.scanEnableCompleted, Host.commands_update]
  split
  · rw [h.commands_startConnecting, hw.given]
  · rw [List.append_nil]

end Cache

/-! ## A lost link -/

/-- An event taken at a real time, in milliseconds. -/
structure TimedEvent where
  action : TwAction
  time : ℕ
  logLevel : UInt8 := 2

/-- The device reads its clock. -/
def TimedEvent.event (e : TimedEvent) : TwEvent := ⟨e.action, reading e.time, e.logLevel⟩

/-- A run with the times at which its events happen. -/
def runTimed (w : TwWorld) (events : List TimedEvent) : TwWorld :=
  runFrom TwWorld.step w (events.map TimedEvent.event)

/-- The step neither starts the runtime anew, nor clears the reconnect cache, nor brings a link
up. -/
def TwEvent.KeepsCache (e : TwEvent) : Prop :=
  e.action.clearsCache = false ∧ ∀ packet ∈ e.dispatched, ¬packet.Connects

instance (e : TwEvent) : Decidable e.KeepsCache :=
  inferInstanceAs (Decidable (_ ∧ ∀ packet ∈ e.dispatched, _))

/-- The events of a run around the loss of a link. -/
structure LinkTrace where
  before : List TimedEvent
  connection : TimedEvent
  session : List TimedEvent
  disconnection : TimedEvent
  between : List TimedEvent
  reply : TimedEvent

namespace LinkTrace

variable (w : TwWorld) (r : LinkTrace)

/-- The world the link comes up in. -/
def atConnection : TwWorld := runTimed (w.afterInit ⟨true⟩) r.before

/-- The world the link is lost in. -/
def atDisconnection : TwWorld :=
  runTimed ((r.atConnection w).step r.connection.event) r.session

/-- The world the reply finds. -/
def atReply : TwWorld :=
  runTimed ((r.atDisconnection w).step r.disconnection.event) r.between

/-- The world after the reply. -/
def afterReply : TwWorld := (r.atReply w).step r.reply.event

/-- The reconnect window in force when the reply arrives. -/
def ttl : ℕ := (r.atReply w).gRuntime.hciEventContext.fastReconnectTtlMs.toNat

/-- The time since the link was lost. -/
def elapsed : ℕ := r.reply.time - r.disconnection.time

/-- The time since the link came up, as the device sees it. -/
def age : ℕ := (r.reply.time - r.connection.time) % 2 ^ 32

end LinkTrace

/-- A link to this address comes up and is lost again, and the start sequence that follows is
completed while reconnecting is automatic. Nothing else happens to the cache. -/
structure LostLink (w : TwWorld) (bdAddr : BdAddrT) (r : LinkTrace) : Prop where
  wired : ∀ e ∈ r.before, e.event.KeepsWiring
  connects : ∃ packet ∈ r.connection.event.dispatched,
    packet.Connects ∧ (packet.data + 3).bdAddrAt = bdAddr
  session : ∀ e ∈ r.session, e.event.KeepsCache
  connected : (r.atDisconnection w).isConnected = true
  disconnects : r.disconnection.event.IsDisconnectionComplete
  between : ∀ e ∈ r.between, e.event.KeepsCache
  replies : ∃ packet ∈ r.reply.event.dispatched, packet.CompletesScanEnable
  automatic : (r.atReply w).gRuntime.hciEventContext.autoReconnectEnabled = true
  window : (r.atReply w).gRuntime.hciEventContext.fastReconnectTtlMs ≠ 0
  session_le : r.connection.time ≤ r.disconnection.time
  between_le : r.disconnection.time ≤ r.reply.time

/-- Within the window after the disconnect the controller is connected again, and later an
inquiry is started instead. -/
structure WindowHonoured (w : TwWorld) (bdAddr : BdAddrT) (r : LinkTrace) : Prop where
  soon : r.elapsed ≤ r.ttl w →
    (∃ packet ∈ (r.afterReply w).sent, commandOpcode packet = some kHciOpcodeCreateConnection ∧
      commandBdAddr packet = bdAddr) ∧
    ∀ packet ∈ (r.afterReply w).sent, commandOpcode packet ≠ some kHciOpcodeInquiry
  late : r.ttl w < r.elapsed →
    (∃ packet ∈ (r.afterReply w).sent, commandOpcode packet = some kHciOpcodeInquiry) ∧
    ∀ packet ∈ (r.afterReply w).sent, commandOpcode packet ≠ some kHciOpcodeCreateConnection

/-- The reply starts a search, and the age of the stamp is on the same side of the window as the
time since the disconnect. -/
structure StampFitsWindow (w : TwWorld) (bdAddr : BdAddrT) (r : LinkTrace) : Prop where
  wanted : (r.atReply w).gRuntime.hciEventContext.connectsOnScanEnable = true
  soon : r.elapsed ≤ r.ttl w → r.age ≤ r.ttl w ∧
    (r.atConnection w).gRuntime.hciEventContext.hasCurrentConnectTarget = true ∧
    (r.atConnection w).gRuntime.hciEventContext.currentConnectTarget.bdAddr = bdAddr
  late : r.ttl w < r.elapsed →
    (r.atConnection w).gRuntime.hciEventContext.hasCurrentConnectTarget = true → r.ttl w < r.age

/-! ## The cache over the session -/

/-- An event that keeps the cache keeps the wiring. -/
theorem TwEvent.KeepsCache.keepsWiring {e : TwEvent} (he : e.KeepsCache) : e.KeepsWiring := by
  obtain ⟨action, millis, logLevel⟩ := e
  cases action with
  | hci data len => rfl
  | call c =>
    cases c with
    | init hciInterface => exact Bool.noConfusion he.1
    | _ => rfl

/-- A received event keeps the wiring. -/
theorem keepsWiring_of_dispatched {e : TwEvent} {packet : HciEventPacket}
    (h : packet ∈ e.dispatched) : e.KeepsWiring := by
  obtain ⟨action, millis, logLevel⟩ := e
  cases action with
  | hci data len => rfl
  | call c => cases h

/-- It does not clear the cache. -/
theorem clearsCache_of_dispatched {e : TwEvent} {packet : HciEventPacket}
    (h : packet ∈ e.dispatched) : e.action.clearsCache = false := by
  obtain ⟨action, millis, logLevel⟩ := e
  cases action with
  | hci data len => rfl
  | call c => cases h

/-- The cache is the same after an event that keeps it. -/
theorem reconnectCache_step {w : TwWorld} {e : TwEvent} (he : e.KeepsCache) :
    (w.step e).gRuntime.hciEventContext.reconnectCache =
      w.gRuntime.hciEventContext.reconnectCache := by
  have hmoves : Host.Moves false (w.host.enter e.millis) (w.step e).host := by
    rw [host_step]
    apply Host.moves_react
    · intro i handle hinput
      have hclears := he.1
      rw [hostInput_call hinput] at hclears
      cases hclears
    · intro hsets
      cases hinput : w.hostInput e with
      | event packet =>
        rw [hinput] at hsets
        exact absurd hsets (he.2 packet (dispatched_of_hostInput hinput))
      | call c handle =>
        have hclears := he.1
        rw [hostInput_call hinput] at hclears
        rw [hinput] at hsets
        cases c with
        | clearReconnectCache => cases hclears
        | _ => exact hsets.elim
      | firstReport =>
        rw [hinput] at hsets
        exact hsets.elim
      | nothing =>
        rw [hinput] at hsets
        exact hsets.elim
  exact Host.reconnectCache_moves hmoves

/-- So it is after a run of them. -/
theorem reconnectCache_runTimed {w : TwWorld} {events : List TimedEvent}
    (hevents : ∀ e ∈ events, e.event.KeepsCache) :
    (runTimed w events).gRuntime.hciEventContext.reconnectCache =
      w.gRuntime.hciEventContext.reconnectCache := by
  induction events generalizing w with
  | nil => rfl
  | cons e rest ih =>
    have hrest := ih (w := w.step e.event) fun e' he => hevents e' (List.mem_cons_of_mem e he)
    exact hrest.trans (reconnectCache_step (hevents e List.mem_cons_self))

/-- The host stays wired over a run. -/
theorem wired_runTimed {w : TwWorld} {events : List TimedEvent}
    (hevents : ∀ e ∈ events, e.event.KeepsWiring) (hw : w.host.Wired) :
    (runTimed w events).host.Wired := by
  apply wired_runFrom _ hw
  intro e he
  obtain ⟨timed, hmem, rfl⟩ := List.mem_map.mp he
  exact hevents timed hmem

/-- A controller that is cached before the connection was a connect target. -/
theorem cacheFromTarget_atConnection (w : TwWorld) (r : LinkTrace) :
    (r.atConnection w).host.CacheFromTarget := by
  have hrun := invariant_of_step (I := fun w => w.host.CacheFromTarget)
    (fun _ e hcache => cacheFromTarget_step hcache e) (s := w.afterInit ⟨true⟩)
    (fun hlast => by cases hlast) (r.before.map TimedEvent.event)
  exact hrun

section LostLink

variable {w : TwWorld} {bdAddr : BdAddrT} {r : LinkTrace} (lost : LostLink w bdAddr r)
include lost

/-- The host that gets the reply is wired. -/
theorem LostLink.wired_atReply : (r.atReply w).host.Wired := by
  obtain ⟨_, hconn, _⟩ := lost.connects
  obtain ⟨_, hdisc, _⟩ := lost.disconnects
  have hconnection := wired_runTimed lost.wired (wired_afterInit w)
  have hsession := wired_runTimed (fun e he => (lost.session e he).keepsWiring)
    (wired_step (keepsWiring_of_dispatched hconn) hconnection)
  exact wired_runTimed (fun e he => (lost.between e he).keepsWiring)
    (wired_step (keepsWiring_of_dispatched hdisc) hsession)

/-- When the reply arrives, the cache is as the Connection Complete left it. -/
theorem LostLink.reconnectCache_atReply :
    (r.atReply w).gRuntime.hciEventContext.reconnectCache =
      ((r.atConnection w).step r.connection.event).gRuntime.hciEventContext.reconnectCache := by
  obtain ⟨packet, hdisc, hcode⟩ := lost.disconnects
  have hkeeps : r.disconnection.event.KeepsCache := by
    refine ⟨clearsCache_of_dispatched hdisc, fun found hfound hconnects => ?_⟩
    obtain rfl : packet = found := Option.some.inj (hdisc.symm.trans hfound)
    exact absurd (hcode.symm.trans hconnects.1) (by decide)
  rw [LinkTrace.atReply, reconnectCache_runTimed lost.between, reconnectCache_step hkeeps,
    LinkTrace.atDisconnection, reconnectCache_runTimed lost.session]

/-- So it holds the target of the connection, with the stamp of the Connection Complete. -/
theorem LostLink.reconnectCache_eq : (r.atReply w).gRuntime.hciEventContext.reconnectCache =
    if (r.atConnection w).gRuntime.hciEventContext.hasCurrentConnectTarget then
      ⟨true, (r.atConnection w).gRuntime.hciEventContext.currentConnectTarget,
        reading r.connection.time⟩
    else (r.atConnection w).gRuntime.hciEventContext.reconnectCache := by
  obtain ⟨packet, hdispatched, hconnects, _⟩ := lost.connects
  have hcontext : ((r.atConnection w).step r.connection.event).gRuntime.hciEventContext =
      (((r.atConnection w).host.enter (reading r.connection.time)).handleEvent packet).context := by
    have hhost := host_step (r.atConnection w) r.connection.event
    rw [hostInput_of_dispatched hdispatched] at hhost
    exact congrArg Host.context hhost
  rw [lost.reconnectCache_atReply, hcontext, reconnectCache_connects hconnects]
  rfl

/-- The fast reconnect is tried if the connection had a target and the stamp is young enough. -/
theorem LostLink.isFastReconnectCacheValid_iff :
    (r.atReply w).gRuntime.hciEventContext.isFastReconnectCacheValid (reading r.reply.time) = true ↔
      (r.atConnection w).gRuntime.hciEventContext.hasCurrentConnectTarget = true ∧
        r.age ≤ r.ttl w := by
  have hcache := lost.reconnectCache_eq
  have hle : r.connection.time ≤ r.reply.time := lost.session_le.trans lost.between_le
  have hlast := congrArg ReconnectCache.hasLastWiimote hcache
  have hseen := congrArg ReconnectCache.lastWiimoteSeenMs hcache
  simp only [HciEventContext.reconnectCache] at hlast hseen
  simp only [HciEventContext.isFastReconnectCacheValid, lost.window, if_false, hlast]
  by_cases htarget : (r.atConnection w).gRuntime.hciEventContext.hasCurrentConnectTarget = true
  · simp only [htarget, if_true] at hseen ⊢
    simp only [hseen, Bool.not_true, Bool.false_eq_true, if_false, decide_eq_true_eq, true_and]
    exact elapsed_le_iff hle _
  · -- without a target nothing was ever cached
    have hnone : (r.atConnection w).gRuntime.hciEventContext.hasLastWiimote = false :=
      Bool.eq_false_iff.mpr fun hcached => htarget (cacheFromTarget_atConnection w r hcached)
    simp [htarget, hnone]

end LostLink

/-- The reply may come at any time after the disconnect. -/
theorem LostLink.reply_at {w : TwWorld} {bdAddr : BdAddrT} {r : LinkTrace}
    (lost : LostLink w bdAddr r) {time : ℕ} (h : r.disconnection.time ≤ time) :
    LostLink w bdAddr { r with reply := { r.reply with time } } :=
  { lost with between_le := h }

/-! ## The law -/

/-- The reply hands over one command, or none. -/
theorem LostLink.commands_afterReply {w : TwWorld} {bdAddr : BdAddrT} {r : LinkTrace}
    (lost : LostLink w bdAddr r) : (r.afterReply w).host.commands =
      if (r.atReply w).gRuntime.hciEventContext.connectsOnScanEnable then [
        if (r.atReply w).gRuntime.hciEventContext.isFastReconnectCacheValid (reading r.reply.time) then
          let target := (r.atReply w).gRuntime.hciEventContext.lastWiimote
          makeCmdCreateConnection ⟨target.bdAddr, 0x0008, target.psrm, target.clkofs, 0x00⟩
        else makeCmdInquiry ⟨0x9E8B33, 0x05, 0x00⟩] else [] := by
  obtain ⟨packet, hdispatched, hreply⟩ := lost.replies
  have hw := lost.wired_atReply.enter (reading r.reply.time)
  rw [LinkTrace.afterReply, host_step, hostInput_of_dispatched hdispatched]
  refine (commands_writeScanEnable hw hreply).trans ?_
  have hauto : ((r.atReply w).host.enter (reading r.reply.time)).context.autoReconnectEnabled =
    true := lost.automatic
  rw [hauto, Bool.true_and]
  rfl

/-- After a lost link the documented window is honoured exactly when the age of the stamp lies
on the same side of it as the time since the disconnect. -/
theorem window_honoured_iff {w : TwWorld} {bdAddr : BdAddrT} {r : LinkTrace}
    (lost : LostLink w bdAddr r) : WindowHonoured w bdAddr r ↔ StampFitsWindow w bdAddr r := by
  have hcommands := lost.commands_afterReply
  have hvalid := lost.isFastReconnectCacheValid_iff
  have hcache := congrArg ReconnectCache.lastWiimote lost.reconnectCache_eq
  have hside : r.elapsed ≤ r.ttl w ∨ r.ttl w < r.elapsed := (Nat.lt_or_ge _ _).symm
  by_cases hwanted : (r.atReply w).gRuntime.hciEventContext.connectsOnScanEnable = true
  swap
  · -- nothing is handed over, on neither side of the window
    rw [if_neg hwanted] at hcommands
    refine iff_of_false (fun hhonoured => ?_) fun hfits => hwanted hfits.wanted
    obtain hsoon | hlate := hside
    · have hsent := exists_sent_iff.mp (hhonoured.soon hsoon).1
      simp [hcommands] at hsent
    · obtain ⟨packet, hmem, hop⟩ := (hhonoured.late hlate).1
      have hsent := (mem_host_commands hop).mpr hmem
      simp [hcommands] at hsent
  rw [if_pos hwanted] at hcommands
  by_cases hfast : (r.atReply w).gRuntime.hciEventContext.isFastReconnectCacheValid
      (reading r.reply.time) = true
  · rw [if_pos hfast] at hcommands
    obtain ⟨htarget, hage⟩ := hvalid.mp hfast
    rw [if_pos htarget] at hcache
    have hlast : (r.atReply w).gRuntime.hciEventContext.lastWiimote =
      (r.atConnection w).gRuntime.hciEventContext.currentConnectTarget := hcache
    constructor
    · intro hhonoured
      refine ⟨hwanted, fun hsoon => ⟨hage, htarget, ?_⟩, fun hlate => ?_⟩
      · have hsent := exists_sent_iff.mp (hhonoured.soon hsoon).1
        simpa [hcommands, hlast] using hsent
      · have hsent := forall_sent_iff.mp (hhonoured.late hlate).2
        simp [hcommands] at hsent
    · intro hfits
      refine ⟨fun hsoon => ⟨exists_sent_iff.mpr ?_, forall_sent_iff.mpr ?_⟩, fun hlate => ?_⟩
      · simp [hcommands, hlast, (hfits.soon hsoon).2.2]
      · simp [hcommands]
        decide
      · exact absurd hage (Nat.not_le_of_lt (hfits.late hlate htarget))
  · rw [if_neg hfast] at hcommands
    constructor
    · intro hhonoured
      refine ⟨hwanted, fun hsoon => ?_, fun _ htarget => ?_⟩
      · have hsent := forall_sent_iff.mp (hhonoured.soon hsoon).2
        simp [hcommands] at hsent
      · exact Nat.lt_of_not_le fun hage => hfast (hvalid.mpr ⟨htarget, hage⟩)
    · intro hfits
      refine ⟨fun hsoon => ?_, fun _ => ⟨?_, forall_sent_iff.mpr ?_⟩⟩
      · obtain ⟨hage, htarget, -⟩ := hfits.soon hsoon
        exact absurd (hvalid.mpr ⟨htarget, hage⟩) hfast
      · refine ⟨makeCmdInquiry ⟨0x9E8B33, 0x05, 0x00⟩, ?_, commandOpcode_makeCmdInquiry _⟩
        rw [← mem_host_commands (commandOpcode_makeCmdInquiry _), hcommands]
        exact List.mem_singleton_self _
      · simp [hcommands]
        decide

/-- These actions, all at one time. -/
def timedAt (time : ℕ) (actions : List TwAction) : List TimedEvent := actions.map ({ action := ·, time })

/-- A Wiimote is connected after one second and sends a report. The link is lost after more than
six minutes, and the start sequence is completed right away. -/
def lostAfterSession : LinkTrace where
  before := timedAt 0 (TwAction.connectingTo ⟨1, 2, 3, 4, 5, 6⟩)
  connection := { action := .connectionComplete 0x00 0x0040 ⟨1, 2, 3, 4, 5, 6⟩, time := 1000 }
  session := timedAt 2000 [.received
    [0x02, 0x40, 0x20, 0x08, 0x00, 0x04, 0x00, 0x45, 0x00, 0xA1, 0x30, 0x00, 0x00]]
  disconnection := { action := .disconnectionComplete 0x0040 0x08, time := 400000 }
  between := timedAt 400000 (TwAction.setupReplies.take 4)
  reply := { action := .commandComplete kHciOpcodeWriteScanEnable [], time := 400050 }

/-- The link of `lostAfterSession` is lost. -/
theorem lostAfterSession_lost : LostLink {} ⟨1, 2, 3, 4, 5, 6⟩ lostAfterSession where
  wired := by decide +kernel
  connects := by decide +kernel
  session := by decide +kernel
  connected := by decide +kernel
  disconnects := by decide +kernel
  between := by decide +kernel
  replies := by decide +kernel
  automatic := by decide +kernel
  window := by decide +kernel
  session_le := by decide
  between_le := by decide

/-- The start sequence is completed 50 ms after the disconnect, and an inquiry is started. -/
theorem window_not_always_honoured :
    ¬∀ (w : TwWorld) (bdAddr : BdAddrT) (r : LinkTrace),
      LostLink w bdAddr r → WindowHonoured w bdAddr r := by
  intro h
  have hhonoured := h {} _ _ lostAfterSession_lost
  have hsoon := (hhonoured.soon (by decide +kernel)).2
  exact hsoon (makeCmdInquiry ⟨0x9E8B33, 0x05, 0x00⟩) (by decide +kernel) (by decide)

/-- Had the start sequence taken more than three minutes, the inquiry would be what is documented. -/
theorem window_honoured_when_late : WindowHonoured {} ⟨1, 2, 3, 4, 5, 6⟩
    { lostAfterSession with reply := { lostAfterSession.reply with time := 600000 } } :=
  (window_honoured_iff (lostAfterSession_lost.reply_at (by decide))).mpr
    ⟨by decide +kernel, by decide +kernel, by decide +kernel⟩

end Esp32Wiimote.Bluetooth
