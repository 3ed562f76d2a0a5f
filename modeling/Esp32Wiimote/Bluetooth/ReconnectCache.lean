import Esp32Wiimote.Bluetooth.FastReconnect

/-!
# Which controller is cached

The cache is filled when a link comes up, from the target the host asked for last: the address in
the event is not read. While two attempts are under way the older one can succeed, and then the
other controller is cached. Beside a run the address of the last controller that connected is
noted; the cache names it exactly as long as links come up for the target asked for last.
-/

namespace Esp32Wiimote.Bluetooth

open TransitionRun

/-! ## Full-length events -/

/-- The size of the parameter area of an event, as far as its format fixes it. -/
def HciEventPacket.parameterLength (packet : HciEventPacket) : Nat :=
  if packet.eventCode = kHciInquiryCompEvt then 1
  else if packet.eventCode = kHciInquiryResultEvt then
    1 + inquiryResponseSize * (packet.data.at 0).toNat
  else if packet.eventCode = kHciConnectionCompEvt then 11
  else if packet.eventCode = kHciDisconnectionCompEvt then 4
  else if packet.eventCode = kHciRmtNameRequestCompEvt then 255
  else if packet.eventCode = kHciCommandCompleteEvt then 4
  else if packet.eventCode = kHciCommandStatusEvt then 4
  else 0

/-- An event that is dispatched declares all of its parameters. -/
def TwEvent.FullLength (e : TwEvent) : Prop :=
  ∀ packet ∈ e.dispatched, packet.parameterLength ≤ packet.len.toNat

instance (e : TwEvent) : Decidable e.FullLength := inferInstanceAs (Decidable (∀ packet ∈ _, _))

/-! ## The last controller that connected -/

/-- The step clears the reconnect cache. -/
def TwWorld.ClearsCache (w : TwWorld) (e : TwEvent) : Prop :=
  match e.action with
  | .call (.init _) => True
  | .call .clearReconnectCache => w.gRuntime.hciEventContext.deviceInited = true
  | _ => False

instance (w : TwWorld) (e : TwEvent) : Decidable (w.ClearsCache e) := by
  unfold TwWorld.ClearsCache
  split <;> infer_instance

/-- The address a link came up with in this step. -/
def TwEvent.connectedBdAddr (e : TwEvent) : Option BdAddrT :=
  match e.dispatched with
  | some packet => if packet.Connects then some (packet.data + 3).bdAddrAt else none
  | none => none

/-- A run with the address the last link came up with since the cache was cleared. -/
structure CacheNoted where
  world : TwWorld
  lastConnected : Option BdAddrT

namespace CacheNoted

/-- A step of the world; the controller connected last is noted until the cache is cleared. -/
def step (s : CacheNoted) (e : TwEvent) : CacheNoted where
  world := s.world.step e
  lastConnected := if s.world.ClearsCache e then none else e.connectedBdAddr.or s.lastConnected

/-- The world right after `TinyWiimoteInit`, with no controller noted. -/
def start (w : TwWorld) (hciInterface : TwHciInterface) : CacheNoted := ⟨w.afterInit hciInterface, none⟩

/-- A cached controller is the one that connected last. -/
def NamesController (s : CacheNoted) : Prop :=
  let ctx := s.world.gRuntime.hciEventContext
  ctx.hasLastWiimote = true → s.lastConnected = some ctx.lastWiimote.bdAddr

instance (s : CacheNoted) : Decidable s.NamesController := inferInstanceAs (Decidable (_ → _))

/-- A link that comes up while there is a connect target comes up with its address. -/
def ConnectsTarget (s : CacheNoted) (e : TwEvent) : Prop :=
  let ctx := s.world.gRuntime.hciEventContext
  ∀ bdAddr ∈ e.connectedBdAddr, ctx.hasCurrentConnectTarget = true → ctx.currentConnectTarget.bdAddr = bdAddr

section Steps

variable {s : CacheNoted} {e : TwEvent}

/-- A step that connects a controller dispatches its Connection Complete. -/
theorem dispatched_of_connectedBdAddr {bdAddr : BdAddrT} (h : e.connectedBdAddr = some bdAddr) :
    ∃ packet ∈ e.dispatched, packet.Connects ∧ (packet.data + 3).bdAddrAt = bdAddr := by
  simp only [TwEvent.connectedBdAddr] at h
  split at h
  next packet hdispatched =>
    simp only [Option.ite_none_right_eq_some, Option.some.injEq] at h
    exact ⟨packet, hdispatched, h⟩
  next => cases h

/-- A step that dispatches an event does not clear the cache. -/
theorem not_clearsCache_of_dispatched {packet : HciEventPacket} (h : packet ∈ e.dispatched) {w : TwWorld} :
    ¬w.ClearsCache e := by
  obtain ⟨action, millis, logLevel⟩ := e
  cases action with
  | hci data len => exact id
  | call c => cases h

/-- When a link comes up, the target asked for last is cached, if there is one. -/
theorem reconnectCache_of_connected {bdAddr : BdAddrT} (h : e.connectedBdAddr = some bdAddr) (w : TwWorld) :
    let ctx := w.gRuntime.hciEventContext
    (w.step e).gRuntime.hciEventContext.reconnectCache =
      if ctx.hasCurrentConnectTarget then ⟨true, ctx.currentConnectTarget, e.millis⟩
      else ctx.reconnectCache := by
  obtain ⟨packet, hdispatched, hconnects, -⟩ := dispatched_of_connectedBdAddr h
  have hhost := host_step w e
  rw [hostInput_of_dispatched hdispatched] at hhost
  have hcontext : (w.step e).gRuntime.hciEventContext =
      ((w.host.enter e.millis).handleEvent packet).context := congrArg Host.context hhost
  rw [hcontext, reconnectCache_connects hconnects]
  rfl

/-- Apart from that, a step clears the cache or leaves it alone. -/
theorem reconnectCache_of_not_connected (h : e.connectedBdAddr = none) (w : TwWorld) :
    (w.step e).gRuntime.hciEventContext.reconnectCache.hasLastWiimote = false ∧ w.ClearsCache e ∨
      (w.step e).gRuntime.hciEventContext.reconnectCache = w.gRuntime.hciEventContext.reconnectCache ∧
        ¬w.ClearsCache e := by
  obtain ⟨action, millis, logLevel⟩ := e
  cases action with
  | hci data len =>
    refine .inr ⟨reconnectCache_step ⟨rfl, fun packet hpacket hconnects => ?_⟩, id⟩
    have hdispatched : TwEvent.dispatched ⟨.hci data len, millis, logLevel⟩ = some packet := hpacket
    simp only [TwEvent.connectedBdAddr, hdispatched, hconnects, if_true, reduceCtorEq] at h
  | call c =>
    cases c with
    | init hciInterface => exact .inl ⟨rfl, trivial⟩
    | clearReconnectCache =>
      have hhost := host_step w ⟨.call .clearReconnectCache, millis, logLevel⟩
      have hcontext : (w.step ⟨.call .clearReconnectCache, millis, logLevel⟩).gRuntime.hciEventContext =
          ((w.host.enter millis).call .clearReconnectCache none).context := congrArg Host.context hhost
      rw [hcontext, TwWorld.ClearsCache]
      by_cases hinited : w.gRuntime.hciEventContext.deviceInited = true
      · exact .inl ⟨by simp [Host.call, Host.enter, hinited, HciEventContext.reconnectCache], hinited⟩
      · exact .inr ⟨by simp [Host.call, Host.enter, hinited], hinited⟩
    | _ =>
      refine .inr ⟨reconnectCache_step ⟨rfl, fun _ hpacket => ?_⟩, id⟩
      cases hpacket

/-- The cache names the controller after a step exactly when it connects its target. -/
theorem namesController_step (hcache : s.world.host.CacheFromTarget) (hs : s.NamesController) :
    (s.step e).NamesController ↔ s.ConnectsTarget e := by
  have hnames : (s.step e).NamesController ↔
      ((s.world.step e).gRuntime.hciEventContext.reconnectCache.hasLastWiimote = true →
        (s.step e).lastConnected =
          some (s.world.step e).gRuntime.hciEventContext.reconnectCache.lastWiimote.bdAddr) := Iff.rfl
  rw [hnames, ConnectsTarget]
  cases hconnected : e.connectedBdAddr with
  | some bdAddr =>
    obtain ⟨packet, hdispatched, -⟩ := dispatched_of_connectedBdAddr hconnected
    have hclears : ¬s.world.ClearsCache e := not_clearsCache_of_dispatched hdispatched
    have hnoted : (s.step e).lastConnected = some bdAddr := by
      simp only [step, hclears, if_false, hconnected, Option.some_or]
    simp only [hnoted, reconnectCache_of_connected hconnected, Option.mem_some_iff, forall_eq']
    by_cases htarget : s.world.gRuntime.hciEventContext.hasCurrentConnectTarget = true
    · simp only [htarget, if_true, forall_const, Option.some.injEq]
      exact eq_comm
    · have hlast : s.world.gRuntime.hciEventContext.reconnectCache.hasLastWiimote = false :=
        Bool.eq_false_iff.mpr fun hcached => htarget (hcache hcached)
      rw [if_neg htarget, hlast]
      exact iff_of_true (fun h => absurd h Bool.false_ne_true) fun h => absurd h htarget
  | none =>
    refine iff_of_true ?_ (fun _ hmem => nomatch hmem)
    obtain ⟨hcleared, -⟩ | ⟨hkept, hclears⟩ := reconnectCache_of_not_connected hconnected s.world
    · exact fun hlast => absurd (hcleared.symm.trans hlast) Bool.false_ne_true
    · have hnoted : (s.step e).lastConnected = s.lastConnected := by
        simp only [step, hclears, if_false, hconnected, Option.none_or]
      rw [hkept, hnoted]
      exact hs

end Steps

/-- In all states of a run a cached controller is the one that connected last, exactly when every
link of the run comes up for the target asked for last. -/
theorem cache_names_controller_iff (w : TwWorld) (hciInterface : TwHciInterface) (events : List TwEvent) :
    EveryStep (fun s e => (s.step e).NamesController) step (start w hciInterface) events ↔
      EveryStep ConnectsTarget step (start w hciInterface) events :=
  everyStep_invariant_iff (J := fun s => s.world.host.CacheFromTarget)
    (fun _ e _ hcache => cacheFromTarget_step hcache e) (fun _ _ _ hcache hs => namesController_step hcache hs)
    (fun hlast => by cases hlast) (fun hlast => by cases hlast)

end CacheNoted

/-- Two Wiimotes are found and asked to connect, and the one asked first connects. -/
def firstOfTwoConnects : List TwEvent :=
  TwAction.allAt 0 (TwAction.connectingTo ⟨1, 2, 3, 4, 5, 6⟩ ++
    [.inquiryResult ⟨1, 2, 3, 4, 5, 7⟩, .wiimoteNamed ⟨1, 2, 3, 4, 5, 7⟩,
      .connectionComplete 0x00 0x0040 ⟨1, 2, 3, 4, 5, 6⟩])

/-- The other one is cached. -/
theorem cache_names_not_always_controller :
    ¬∀ (w : TwWorld) (hciInterface : TwHciInterface) (events : List TwEvent), (∀ e ∈ events, e.FullLength) →
      EveryStep (fun s e => (CacheNoted.step s e).NamesController) CacheNoted.step
        (.start w hciInterface) events := by
  intro h
  have hnamed := h {} ⟨true⟩ firstOfTwoConnects (by decide +kernel)
  revert hnamed
  decide +kernel

end Esp32Wiimote.Bluetooth
