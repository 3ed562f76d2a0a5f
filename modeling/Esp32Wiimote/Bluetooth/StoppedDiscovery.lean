import Esp32Wiimote.Bluetooth.Discovery

/-!
# Whether a stopped discovery stays stopped

A stop switches scanning off but leaves what is under way: the replies of a start sequence
and a pending fast reconnect. The reply to Write Class Of Device switches scanning on again,
and a fast reconnect that fails starts an inquiry. These are the only events after which a
stopped discovery does not stay stopped.
-/

namespace Esp32Wiimote.Bluetooth

open StateProgram TransitionRun

/-- Scanning is switched off and no Inquiry is among the commands of the step. -/
structure Host.Stopped (h : Host) : Prop where
  scanning : h.context.scanningEnabled = false
  quiet : ∀ packet ∈ h.commands, commandOpcode packet ≠ some kHciOpcodeInquiry

/-- The event goes on with a start sequence, or reports the failure of a fast reconnect. -/
def RestartsDiscovery (h : Host) (packet : HciEventPacket) : Prop :=
  (packet.eventCode = kHciCommandCompleteEvt ∧ packet.data.at 3 = 0x00 ∧
      uint16OfLe (packet.data.at 1) (packet.data.at 2) = kHciOpcodeWriteClassOfDevice) ∨
    (packet.FailsAttempt ∧ h.context.pendingFastReconnect = true)

instance (h : Host) (packet : HciEventPacket) : Decidable (RestartsDiscovery h packet) :=
  inferInstanceAs (Decidable ((_ ∧ _ ∧ _) ∨ (_ ∧ _)))

/-! ## Reactions -/

section Reactions

variable {h h' : Host} {packet : HciEventPacket}

/-- A host whose search is the same is stopped as well. -/
theorem SameSearch.stopped (same : SameSearch h h') (hstopped : h.Stopped) : h'.Stopped := by
  refine ⟨same.scanning.trans hstopped.scanning, ?_⟩
  apply (same.commands.mono fun command hidle => ?_).forall_mem hstopped.quiet
  obtain hname | hdisconnect := hidle
  · rw [hname]
    decide
  · rw [hdisconnect]
    decide

/-- Commands other than an Inquiry leave the discovery stopped. -/
theorem stopped_record {commands : List (List UInt8)} (hstopped : h.Stopped)
    (hquiet : ∀ command ∈ commands, commandOpcode command ≠ some kHciOpcodeInquiry) :
    (h.record commands).Stopped := by
  refine ⟨hstopped.scanning, fun command hmem => ?_⟩
  obtain hold | hnew := List.mem_append.mp hmem
  · exact hstopped.quiet command hold
  · exact hquiet command hnew

/-- So does handing one over. -/
theorem stopped_hand {command : List UInt8} (hstopped : h.Stopped)
    (hquiet : commandOpcode command ≠ some kHciOpcodeInquiry) : (h.hand command).Stopped := by
  simp only [Host.hand]
  split
  · exact stopped_record hstopped (by simpa using hquiet)
  · exact hstopped

/-- So does sending one. -/
theorem stopped_send {command : List UInt8} (hstopped : h.Stopped)
    (hquiet : commandOpcode command ≠ some kHciOpcodeInquiry) : (h.send command).Stopped := by
  simp only [Host.send]
  split
  · exact stopped_hand hstopped hquiet
  · exact hstopped

/-- An inquiry starts it again. -/
theorem not_stopped_startInquiry (hw : h.Wired) : ¬h.startInquiry.Stopped := by
  intro hstopped
  refine hstopped.quiet (makeCmdInquiry ⟨0x9E8B33, 0x05, 0x00⟩) ?_ (by simp)
  rw [h.commands_startInquiry, hw.given]
  simp

/-- A Create Connection does not. -/
theorem stopped_startCreateConnection (hstopped : h.Stopped) (target : HciScannedDevice)
    (fast : Bool) : (h.startCreateConnection target fast).Stopped := by
  have hsent : (h.send (makeCmdCreateConnection
      ⟨target.bdAddr, 0x0008, target.psrm, target.clkofs, 0x00⟩)).Stopped :=
    stopped_send hstopped (by simp; decide)
  exact ⟨hsent.scanning, hsent.quiet⟩

/-- Nor does a reset. -/
theorem stopped_resetDevice (hquiet : ∀ packet ∈ h.commands,
    commandOpcode packet ≠ some kHciOpcodeInquiry) : h.resetDevice.Stopped :=
  stopped_send ⟨rfl, hquiet⟩ (by simp; decide)

/-- A failed attempt does exactly when it was a fast reconnect. -/
theorem stopped_attemptFailed_iff (hw : h.Wired) (hstopped : h.Stopped) :
    h.attemptFailed.Stopped ↔ h.context.pendingFastReconnect ≠ true := by
  simp only [Host.attemptFailed]
  split
  next hpending =>
    have hw' := hw.moves (.single (.settled h) : Host.Moves true _ _)
    exact iff_of_false (not_stopped_startInquiry hw') (not_not.mpr hpending)
  next hpending => exact iff_of_true hstopped hpending

/-- While scanning is off, only the reply to Write Class Of Device switches it on. -/
theorem stopped_commandCompleted_iff (hstopped : h.Stopped) (hinited : h.context.deviceInited = true)
    (opcode : UInt16) (status : UInt8) : (h.commandCompleted opcode status).Stopped ↔
      ¬(status = 0x00 ∧ opcode = kHciOpcodeWriteClassOfDevice) := by
  simp only [Host.commandCompleted]
  split_ifs with hstatus hreset haddr hname hclass hscan
  · exact iff_of_true hstopped fun hboth => hstatus hboth.1
  · refine iff_of_true (stopped_send hstopped (by decide)) fun hboth => ?_
    exact absurd (hreset.symm.trans hboth.2) (by decide)
  · refine iff_of_true (stopped_send hstopped (by simp; decide)) fun hboth => ?_
    exact absurd (haddr.symm.trans hboth.2) (by decide)
  · refine iff_of_true (stopped_send hstopped (by simp; decide)) fun hboth => ?_
    exact absurd (hname.symm.trans hboth.2) (by decide)
  · refine iff_of_false (fun hstops => ?_) fun hno => hno ⟨not_not.mp hstatus, hclass⟩
    have hscanning := hstops.scanning
    simp at hscanning
  · refine iff_of_true ?_ fun hboth => hclass hboth.2
    have hconnects : h.context.connectsOnScanEnable = false := by
      simp [HciEventContext.connectsOnScanEnable, hstopped.scanning, hinited]
    simp only [Host.scanEnableCompleted, hconnects, Bool.false_eq_true, if_false]
    exact ⟨hstopped.scanning, hstopped.quiet⟩
  · exact iff_of_true hstopped fun hboth => hclass hboth.2

/-- Three kinds of event can restart discovery. -/
theorem not_restartsDiscovery (code : UInt8) (hcode : packet.eventCode = code)
    (hother : code ≠ kHciCommandCompleteEvt ∧ code ≠ kHciConnectionCompEvt ∧
      code ≠ kHciCommandStatusEvt) : ¬RestartsDiscovery h packet := by
  subst hcode
  intro hrestarts
  obtain hreply | hfails := hrestarts
  · exact hother.1 hreply.1
  · obtain hcode | hcode := hfails.1.2
    · exact hother.2.1 hcode
    · exact hother.2.2 hcode.1

/-- An event leaves discovery stopped exactly when it does not restart it. -/
theorem stopped_handleEvent_iff (hw : h.Wired) (hstopped : h.Stopped)
    (hinited : h.context.deviceInited = true) (hlink : packet.eventCode ≠ kHciDisconnectionCompEvt) :
    (h.handleEvent packet).Stopped ↔ ¬RestartsDiscovery h packet := by
  obtain ⟨eventCode, len, data⟩ := packet
  simp only [Host.handleEvent]
  split_ifs with hinquiry hresult hconn hrname hcomplete hcstatus
  · subst hinquiry
    exact iff_of_true (stopped_resetDevice hstopped.quiet)
      (not_restartsDiscovery kHciInquiryCompEvt rfl (by decide))
  · subst hresult
    exact iff_of_true ((sameSearch_inquiryResponses h data _).stopped hstopped)
      (not_restartsDiscovery kHciInquiryResultEvt rfl (by decide))
  · subst hconn
    have hrestarts : RestartsDiscovery h ⟨kHciConnectionCompEvt, len, data⟩ ↔
        data.at 0 ≠ 0x00 ∧ h.context.pendingFastReconnect = true := by
      simp [RestartsDiscovery, HciEventPacket.FailsAttempt, kHciConnectionCompEvt,
        kHciCommandCompleteEvt]
    rw [hrestarts]
    simp only [Host.connectionCompleted]
    split
    next hstatus =>
      rw [stopped_attemptFailed_iff hw hstopped]
      simp [hstatus]
    next hstatus =>
      refine iff_of_true ⟨?_, hstopped.quiet⟩ fun hboth => hstatus hboth.1
      exact (h.context.scanningEnabled_cacheConnectTarget h.now).trans hstopped.scanning
  · subst hrname
    refine iff_of_true ?_ (not_restartsDiscovery kHciRmtNameRequestCompEvt rfl (by decide))
    simp only [Host.remoteNameCompleted]
    split
    · exact hstopped
    split
    · exact stopped_startCreateConnection (stopped_send hstopped (by decide)) _ false
    · exact hstopped
  · subst hcomplete
    rw [stopped_commandCompleted_iff hstopped hinited]
    simp [RestartsDiscovery, HciEventPacket.FailsAttempt, kHciConnectionCompEvt,
      kHciCommandCompleteEvt, kHciCommandStatusEvt]
  · subst hcstatus
    have hrestarts : RestartsDiscovery h ⟨kHciCommandStatusEvt, len, data⟩ ↔
        (data.at 0 ≠ 0x00 ∧ uint16OfLe (data.at 2) (data.at 3) = kHciOpcodeCreateConnection) ∧
          h.context.pendingFastReconnect = true := by
      simp [RestartsDiscovery, HciEventPacket.FailsAttempt, kHciConnectionCompEvt,
        kHciCommandCompleteEvt, kHciCommandStatusEvt]
    rw [hrestarts]
    simp only [Host.commandStatus]
    split
    next hfails =>
      rw [stopped_attemptFailed_iff hw hstopped]
      simp [hfails]
    next hfails => exact iff_of_true hstopped fun hboth => hfails hboth.1
  · exact iff_of_true hstopped (not_restartsDiscovery eventCode rfl ⟨hcomplete, hconn, hcstatus⟩)

/-- The call asks for scanning or discovery, or starts the runtime anew. -/
def TwCall.startsDiscovery : TwCall → Bool
  | .init _ | .startDiscovery => true
  | .setScanEnabled enabled => enabled
  | _ => false

/-- Any other call leaves discovery stopped. -/
theorem stopped_call (hstopped : h.Stopped) {c : TwCall} (hc : c.startsDiscovery = false)
    (handle : Option UInt16) : (h.call c handle).Stopped := by
  cases c with
  | init hciInterface => cases hc
  | startDiscovery => cases hc
  | resetDevice =>
    have hreset := stopped_resetDevice hstopped.quiet
    exact ⟨hreset.scanning, hreset.quiet⟩
  | setScanEnabled enabled =>
    have henabled : enabled = false := hc
    simp only [Host.call]
    split
    · exact hstopped
    split
    · exact hstopped
    · have hsent : (h.hand (makeCmdWriteScanEnable (if enabled then 0x02 else 0x00))).Stopped :=
        stopped_hand hstopped (by simp; decide)
      exact ⟨henabled, hsent.quiet⟩
  | stopDiscovery =>
    simp only [Host.call]
    split
    · exact hstopped
    split
    · exact hstopped
    split
    · exact hstopped
    · have hsent : (h.hand makeCmdInquiryCancel).Stopped := stopped_hand hstopped (by decide)
      exact ⟨rfl, hsent.quiet⟩
  | disconnect reason =>
    simp only [Host.call]
    split
    · exact hstopped
    split
    · exact hstopped
    cases handle with
    | none => exact hstopped
    | some connectionHandle => exact stopped_hand hstopped (by simp; decide)
  | setAutoReconnectEnabled enabled =>
    simp only [Host.call]
    split
    · exact hstopped
    · exact ⟨hstopped.scanning, hstopped.quiet⟩
  | clearReconnectCache =>
    simp only [Host.call]
    split
    · exact hstopped
    · exact ⟨hstopped.scanning, hstopped.quiet⟩
  | setFastReconnectTtlMs ttlMs => exact ⟨hstopped.scanning, hstopped.quiet⟩
  | _ => exact hstopped

/-- A reaction leaves the discovery stopped exactly when its event does not restart it. -/
theorem stopped_react_iff (hw : h.Wired) (hstopped : h.Stopped)
    (hinited : h.context.deviceInited = true) {input : HostInput}
    (hcall : ∀ c handle, input = .call c handle → c.startsDiscovery = false)
    (hlink : ∀ packet, input = .event packet → packet.eventCode ≠ kHciDisconnectionCompEvt) :
    (h.react input).Stopped ↔ ∀ packet, input = .event packet → ¬RestartsDiscovery h packet := by
  cases input with
  | event packet =>
    refine (stopped_handleEvent_iff hw hstopped hinited (hlink packet rfl)).trans ?_
    simp
  | firstReport => exact iff_of_true ⟨rfl, hstopped.quiet⟩ (by simp)
  | call c handle => exact iff_of_true (stopped_call hstopped (hcall c handle rfl) handle) (by simp)
  | nothing => exact iff_of_true hstopped (by simp)

end Reactions

/-! ## Runs -/

/-- Scanning is switched off and the last step handed over no Inquiry. -/
structure TwWorld.DiscoveryStopped (w : TwWorld) : Prop where
  scanning : w.gRuntime.hciEventContext.scanningEnabled = false
  quiet : ∀ packet ∈ w.sent, commandOpcode packet ≠ some kHciOpcodeInquiry

/-- The discovery of the world is stopped when the host's is. -/
theorem discoveryStopped_iff (w : TwWorld) : w.DiscoveryStopped ↔ w.host.Stopped :=
  ⟨fun h => ⟨h.scanning, forall_sent_iff.mp h.quiet⟩,
    fun h => ⟨h.scanning, forall_sent_iff.mpr h.quiet⟩⟩

/-- The step is a call that stops scanning or discovery while no controller is connected, and
no guard of the call rejects it. -/
structure StopAccepted (w : TwWorld) (e : TwEvent) : Prop where
  call : e.action = .call (.setScanEnabled false) ∨ e.action = .call .stopDiscovery
  alone : w.isConnected = false
  inited : w.gRuntime.hciEventContext.deviceInited = true
  scanning : w.gRuntime.hciEventContext.scanningEnabled = true

/-- The guards are those of the code. -/
theorem stopDiscovery_accepted_iff (w : TwWorld) :
    (exec tinyWiimoteStopDiscovery w).1 = true ↔ w.gRuntime.hciEventContext.deviceInited = true ∧
      w.isConnected = false ∧ w.gRuntime.hciEventContext.scanningEnabled = true := by
  simp only [tinyWiimoteStopDiscovery, exec_getRuntime_bind, exec_ite, exec_then, exec_pure,
    TwWorld.isConnected]
  split_ifs <;> simp_all

/-- The action is a call that starts a discovery. -/
def TwAction.startsDiscovery : TwAction → Bool
  | .call c => c.startsDiscovery
  | .hci .. => false

/-- The user asks for discovery, or the link is lost. -/
def TwEvent.EndsStop (e : TwEvent) : Prop :=
  e.action.startsDiscovery = true ∨ e.IsDisconnectionComplete

instance (e : TwEvent) : Decidable e.EndsStop := inferInstanceAs (Decidable (_ = true ∨ _))

/-- The host sees the call as it is. -/
theorem startsDiscovery_of_hostInput {w : TwWorld} {e : TwEvent} {c : TwCall}
    {handle : Option UInt16} (h : w.hostInput e = .call c handle) :
    e.action.startsDiscovery = c.startsDiscovery := by
  rw [hostInput_call h]
  rfl

/-- The step goes on with a start sequence, or reports the failure of a fast reconnect. -/
def TwWorld.RestartsDiscovery (w : TwWorld) (e : TwEvent) : Prop :=
  ∃ packet ∈ e.dispatched, Bluetooth.RestartsDiscovery w.host packet

instance (w : TwWorld) (e : TwEvent) : Decidable (w.RestartsDiscovery e) :=
  inferInstanceAs (Decidable (∃ packet ∈ e.dispatched, _))

/-- What holds from the accepted stop on. -/
structure TwWorld.Running (w : TwWorld) : Prop where
  wired : w.host.Wired
  inited : w.host.context.deviceInited = true

/-- A step that does not end the stop leaves the stack running. -/
theorem TwWorld.Running.step {w : TwWorld} {e : TwEvent} (hrun : w.Running) (he : ¬e.EndsStop) :
    (w.step e).Running := by
  have hmoves : Host.Moves true (w.host.enter e.millis) (w.step e).host := by
    rw [host_step]
    refine Host.moves_react _ (fun i handle hcall => ?_) fun _ => rfl
    exact he (.inl (startsDiscovery_of_hostInput hcall))
  refine ⟨(hrun.wired.enter e.millis).moves hmoves, ?_⟩
  apply hmoves.invariant (I := fun h => h.context.deviceInited = true) _ hrun.inited
  intro h h' hmove hinited
  cases hmove with
  | cached =>
    simp only [Host.context_update, HciEventContext.cacheConnectTarget]
    split <;> exact hinited
  | inited => rfl
  | _ => exact hinited

/-- It leaves the discovery stopped exactly when it does not restart it. -/
theorem discoveryStopped_step_iff {w : TwWorld} {e : TwEvent} (hrun : w.Running)
    (hstopped : w.DiscoveryStopped) (he : ¬e.EndsStop) :
    (w.step e).DiscoveryStopped ↔ ¬w.RestartsDiscovery e := by
  have henter : (w.host.enter e.millis).Stopped := ⟨hstopped.scanning, by simp [Host.enter]⟩
  rw [discoveryStopped_iff, host_step, Host.step]
  refine (stopped_react_iff (hrun.wired.enter e.millis) henter hrun.inited ?_ ?_).trans ?_
  · intro c handle hinput
    exact Bool.eq_false_iff.mpr fun hstarts =>
      he (.inl ((startsDiscovery_of_hostInput hinput).trans hstarts))
  · intro packet hinput hcode
    exact he (.inr ⟨packet, dispatched_of_hostInput hinput, hcode⟩)
  · constructor
    · intro h hrestarts
      obtain ⟨packet, hpacket, hrestart⟩ := hrestarts
      exact h packet (hostInput_of_dispatched hpacket) hrestart
    · intro h packet hinput hrestart
      exact h ⟨packet, dispatched_of_hostInput hinput, hrestart⟩

/-- An accepted stop hands over its command and switches scanning off. -/
theorem StopAccepted.host {w : TwWorld} {stop : TwEvent} (hstop : StopAccepted w stop)
    (hw : w.host.Wired) : ∃ command, commandOpcode command ≠ some kHciOpcodeInquiry ∧
      (w.step stop).host = ((w.host.enter stop.millis).record [command]).update
        fun ctx => { ctx with scanningEnabled := false } := by
  have hscanning : (w.host.enter stop.millis).context.scanningEnabled = true := hstop.scanning
  have hinited : (w.host.enter stop.millis).context.deviceInited = true := hstop.inited
  have halone : (w.host.enter stop.millis).connected = false := hstop.alone
  have hw' := hw.enter stop.millis
  obtain hcall | hcall := hstop.call
  · refine ⟨makeCmdWriteScanEnable 0x00, by simp; decide, ?_⟩
    rw [host_step, TwWorld.hostInput, hcall]
    simp [Host.step, Host.react, Host.call, hscanning, hinited, hw'.hand]
  · refine ⟨makeCmdInquiryCancel, by decide, ?_⟩
    rw [host_step, TwWorld.hostInput, hcall]
    simp [Host.step, Host.react, Host.call, hscanning, hinited, halone, hw'.hand]

/-- An accepted stop stops the discovery. -/
theorem StopAccepted.step {w : TwWorld} {stop : TwEvent} (hstop : StopAccepted w stop)
    (hw : w.host.Wired) : (w.step stop).DiscoveryStopped ∧ (w.step stop).Running := by
  obtain ⟨command, hquiet, hhost⟩ := hstop.host hw
  refine ⟨(discoveryStopped_iff _).mpr ?_, ?_, ?_⟩
  · rw [hhost]
    exact ⟨rfl, by simpa [Host.record, Host.enter] using hquiet⟩
  · rw [hhost]
    exact (hw.enter stop.millis).moves
      (.head (.record _ [command]) (.single (.scanning _ false)) : Host.Moves true _ _)
  · rw [hhost]
    exact hstop.inited

/-- After an accepted stop, discovery stays stopped until the user asks for it or the link is
lost exactly when no step restarts it. -/
theorem discovery_stays_stopped_iff (w : TwWorld) (before : List TwEvent) (stop : TwEvent)
    (window : List TwEvent) (hstart : ∀ e ∈ before, e.KeepsWiring)
    (hstop : StopAccepted (runFrom TwWorld.step (w.afterInit ⟨true⟩) before) stop)
    (hwindow : ∀ e ∈ window, ¬e.EndsStop) :
    EveryStep (fun w e => (w.step e).DiscoveryStopped) TwWorld.step
        (runFrom TwWorld.step (w.afterInit ⟨true⟩) (before ++ [stop])) window ↔
      EveryStep (fun w e => ¬w.RestartsDiscovery e) TwWorld.step
        (runFrom TwWorld.step (w.afterInit ⟨true⟩) (before ++ [stop])) window := by
  have hwired := wired_runFrom hstart (wired_afterInit w)
  obtain ⟨hstopped, hrun⟩ := hstop.step hwired
  rw [runFrom, List.foldl_append]
  exact everyStep_invariant_iff (J := TwWorld.Running) (fun _ e he hrun => hrun.step (hwindow e he))
    (fun _ e he hrun hstopped => discoveryStopped_step_iff hrun hstopped (hwindow e he)) hrun hstopped

/-- A reset is under way when the user starts discovery and stops it again. -/
def stopDuringReset : List TwEvent :=
  TwAction.allAt 0 [.call .resetDevice, .call .startDiscovery, .call .stopDiscovery]

/-- The stop of the run is accepted. -/
theorem stopDuringReset_accepted :
    StopAccepted (runFrom TwWorld.step (({} : TwWorld).afterInit ⟨true⟩) (stopDuringReset.take 2))
      ⟨.call .stopDiscovery, 0, 2⟩ := ⟨.inr rfl, by decide, by decide, by decide⟩

/-- The replies of the start sequence start discovery again. -/
theorem discovery_does_not_always_stay_stopped :
    ¬∀ (w : TwWorld) (before : List TwEvent) (stop : TwEvent) (window : List TwEvent),
      (∀ e ∈ before, e.KeepsWiring) →
      StopAccepted (runFrom TwWorld.step (w.afterInit ⟨true⟩) before) stop →
      (∀ e ∈ window, ¬e.EndsStop) →
        EveryStep (fun w e => (w.step e).DiscoveryStopped) TwWorld.step
          (runFrom TwWorld.step (w.afterInit ⟨true⟩) (before ++ [stop])) window := by
  intro h
  have hrun := h {} (stopDuringReset.take 2) ⟨.call .stopDiscovery, 0, 2⟩
    (TwAction.allAt 0 TwAction.setupReplies) (by decide) stopDuringReset_accepted (by decide +kernel)
  have hreply := (everyStep_iff _ _).mp hrun (TwAction.allAt 0 (TwAction.setupReplies.take 3))
    ⟨.commandComplete kHciOpcodeWriteClassOfDevice [], 0, 2⟩
    (TwAction.allAt 0 (TwAction.setupReplies.drop 4)) rfl
  exact absurd hreply.scanning (by decide +kernel)

/-- Up to the reply to Write Class Of Device discovery stays stopped. -/
theorem discovery_stays_stopped_until_reply :
    EveryStep (fun w e => (w.step e).DiscoveryStopped) TwWorld.step
      (runFrom TwWorld.step (({} : TwWorld).afterInit ⟨true⟩)
        (stopDuringReset.take 2 ++ [⟨.call .stopDiscovery, 0, 2⟩]))
      (TwAction.allAt 0 (TwAction.setupReplies.take 3)) :=
  (discovery_stays_stopped_iff {} (stopDuringReset.take 2) ⟨.call .stopDiscovery, 0, 2⟩
    (TwAction.allAt 0 (TwAction.setupReplies.take 3)) (by decide) stopDuringReset_accepted
    (by decide +kernel)).mpr (by decide +kernel)

end Esp32Wiimote.Bluetooth
