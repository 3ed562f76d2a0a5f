import Esp32Wiimote.Bluetooth.CommandLedger

/-!
# Whether discovery goes on

While scanning is enabled and no controller is connected, an inquiry or a connection attempt
should be under way, or a command of the start sequence that leads to one. The inquiry is
cancelled before an attempt, and a failed attempt starts it again only when it was a fast
reconnect: discovery goes on exactly as long as no other attempt is the last to fail.
-/

namespace Esp32Wiimote.Bluetooth

open StateProgram TransitionRun

/-- Scanning is enabled, no controller is connected and no link is up. -/
structure NeedsSearch (ledger : CommandLedger) (h : Host) : Prop where
  scanning : h.context.scanningEnabled = true
  alone : h.connected = false
  noLink : ledger.links = []

/-- While a search is needed, one is under way. -/
def SearchGoesOn (ledger : CommandLedger) (h : Host) : Prop :=
  NeedsSearch ledger h → ledger.Searching

instance (ledger : CommandLedger) (h : Host) : Decidable (NeedsSearch ledger h) :=
  decidable_of_iff
    (h.context.scanningEnabled = true ∧ h.connected = false ∧ ledger.links = [])
    ⟨fun ⟨scanning, alone, noLink⟩ => ⟨scanning, alone, noLink⟩,
      fun ⟨scanning, alone, noLink⟩ => ⟨scanning, alone, noLink⟩⟩

instance (ledger : CommandLedger) (h : Host) : Decidable (SearchGoesOn ledger h) :=
  inferInstanceAs (Decidable (NeedsSearch ledger h → ledger.Searching))

/-- The event reports that a connection attempt failed. -/
def HciEventPacket.FailsAttempt (packet : HciEventPacket) : Prop :=
  packet.data.at 0 ≠ 0x00 ∧ (packet.eventCode = kHciConnectionCompEvt ∨
    packet.eventCode = kHciCommandStatusEvt ∧
      uint16OfLe (packet.data.at 2) (packet.data.at 3) = kHciOpcodeCreateConnection)

instance (packet : HciEventPacket) : Decidable packet.FailsAttempt :=
  inferInstanceAs (Decidable (_ ∧ (_ ∨ _ ∧ _)))

/-- The event does not report the failure of a command of the start sequence. -/
def HciEventPacket.SetupSucceeds (packet : HciEventPacket) : Prop :=
  packet.eventCode = kHciCommandCompleteEvt →
    uint16OfLe (packet.data.at 1) (packet.data.at 2) ∈ setupOpcodes → packet.data.at 3 = 0x00

/-- The event reports that an attempt other than a fast reconnect failed, when it was all that
a needed search had left. -/
def StrandsSearch (ledger : CommandLedger) (h : Host) (packet : HciEventPacket) : Prop :=
  packet.FailsAttempt ∧ h.context.pendingFastReconnect = false ∧
    ¬SearchGoesOn (ledger.noteEvent packet) h

instance (packet : HciEventPacket) : Decidable packet.SetupSucceeds :=
  inferInstanceAs (Decidable (_ → _ → _))

instance (ledger : CommandLedger) (h : Host) (packet : HciEventPacket) :
    Decidable (StrandsSearch ledger h packet) := inferInstanceAs (Decidable (_ ∧ _ ∧ ¬_))

/-- What was handed over earlier, and the time, do not matter. -/
@[simp] theorem searchGoesOn_enter (ledger : CommandLedger) (h : Host) (now : UInt32) :
    SearchGoesOn ledger (h.enter now) ↔ SearchGoesOn ledger h :=
  ⟨fun hon hneeds => hon ⟨hneeds.scanning, hneeds.alone, hneeds.noLink⟩,
    fun hon hneeds => hon ⟨hneeds.scanning, hneeds.alone, hneeds.noLink⟩⟩

/-- The time does not strand a search. -/
@[simp] theorem strandsSearch_enter (ledger : CommandLedger) (h : Host) (now : UInt32)
    (packet : HciEventPacket) :
    StrandsSearch ledger (h.enter now) packet ↔ StrandsSearch ledger h packet := by
  rw [StrandsSearch, StrandsSearch, searchGoesOn_enter]
  rfl

/-! ## Reactions that do not search -/

/-- The host side neither searches nor needs to more than before. -/
structure SameSearch (h h' : Host) : Prop where
  scanning : h'.context.scanningEnabled = h.context.scanningEnabled
  connected : h'.connected = h.connected
  commands : Grown Host.commands IsIdleCommand h h'

instance : IsPreorder Host SameSearch where
  refl h := ⟨rfl, rfl, refl_of _ h⟩
  trans _ _ _ first second :=
    ⟨second.scanning.trans first.scanning, second.connected.trans first.connected,
      trans_of _ first.commands second.commands⟩

variable {h h' : Host} {ledger : CommandLedger} {packet : HciEventPacket}

/-- An unchanged host has the same search. -/
theorem SameSearch.refl (h : Host) : SameSearch h h := refl_of SameSearch h

/-- Where nothing of the search changes there is nothing to note. -/
theorem SameSearch.noteCommands (same : SameSearch h h') (hcommands : h.commands = []) :
    ledger.noteCommands h'.commands = ledger := by
  obtain ⟨added, hadded, hidle⟩ := same.commands
  rw [hadded, hcommands, List.nil_append, ledger.noteCommands_of_idle hidle]

/-- A search that goes on still does. -/
theorem SameSearch.goesOn (same : SameSearch h h') (hcommands : h.commands = [])
    (hon : SearchGoesOn ledger h) : SearchGoesOn (ledger.noteCommands h'.commands) h' := by
  intro hneeds
  rw [same.noteCommands hcommands] at hneeds ⊢
  exact hon ⟨same.scanning ▸ hneeds.scanning, same.connected ▸ hneeds.alone, hneeds.noLink⟩

/-- An update that keeps the scanning flag. -/
theorem sameSearch_update (h : Host) {f : HciEventContext → HciEventContext}
    (hf : ∀ ctx, (f ctx).scanningEnabled = ctx.scanningEnabled) : SameSearch h (h.update f) :=
  ⟨hf _, rfl, Grown.of_eq rfl⟩

/-- An idle command does not concern the search. -/
theorem sameSearch_hand (h : Host) {command : List UInt8} (hidle : IsIdleCommand command) :
    SameSearch h (h.hand command) := by
  refine ⟨by simp, by simp, ?_⟩
  simp only [Host.hand]
  split
  · exact ⟨[command], rfl, by simpa using hidle⟩
  · exact refl_of _ h

/-- Neither does one that is sent only where there is a callback. -/
theorem sameSearch_send (h : Host) {command : List UInt8} (hidle : IsIdleCommand command) :
    SameSearch h (h.send command) := by
  simp only [Host.send]
  split
  · exact sameSearch_hand h hidle
  · exact .refl h

/-- A response asks for a name and leaves the search alone. -/
theorem sameSearch_inquiryResponse (h : Host) (response : BytePtr) :
    SameSearch h (h.inquiryResponse response) := by
  simp only [Host.inquiryResponse]
  split
  · exact .refl h
  split
  · exact .refl h
  split
  · refine trans_of SameSearch (sameSearch_update h ?_) (sameSearch_send _ ?_)
    · exact fun _ => rfl
    · exact .inl (commandOpcode_makeCmdRemoteNameRequest _)
  · refine sameSearch_update h ?_
    exact fun _ => rfl

/-- So do all responses of an event. -/
theorem sameSearch_inquiryResponses (h : Host) (data : BytePtr) (num : Nat) :
    SameSearch h (h.inquiryResponses data num) := by
  induction num with
  | zero => exact .refl h
  | succ num ih => exact trans_of SameSearch ih (sameSearch_inquiryResponse _ _)

/-! ## Reactions that search -/

/-- A host that does not scan need not search. -/
theorem searchGoesOn_of_not_scanning (hscan : h.context.scanningEnabled = false) :
    SearchGoesOn ledger h := fun hneeds => absurd (hneeds.scanning.symm.trans hscan) Bool.true_eq_false.mp

/-- A host that searches meets the need. -/
theorem goesOn_of_searching (hsearch : ledger.Searching) : SearchGoesOn ledger h := fun _ => hsearch

/-- An inquiry is a search. -/
theorem searching_startInquiry (hw : h.Wired) :
    (ledger.noteCommands h.startInquiry.commands).Searching := by
  rw [h.commands_startInquiry, hw.given]
  exact .inl (by simp)

/-- So is an attempt to connect. -/
theorem searching_startCreateConnection (hw : h.Wired) (target : HciScannedDevice) (fast : Bool) :
    (ledger.noteCommands (h.startCreateConnection target fast).commands).Searching := by
  rw [h.commands_startCreateConnection, hw.given]
  exact .inr (.inl (by simp))

/-- To start connecting is either of them. -/
theorem searching_startConnecting (hw : h.Wired) :
    (ledger.noteCommands h.startConnecting.commands).Searching := by
  simp only [Host.startConnecting]
  split
  · exact searching_startCreateConnection hw _ true
  · exact searching_startInquiry hw

/-- Handing over a command of the start sequence. -/
theorem searching_send {command : List UInt8} {opcode : UInt16} (hw : h.Wired)
    (hop : commandOpcode command = some opcode) (hsetup : opcode ∈ setupOpcodes) :
    (ledger.noteCommands (h.send command).commands).Searching := by
  refine .inr (.inr ?_)
  rw [hw.send]
  simp [Host.record, CommandLedger.setup_noteCommand _ hop hsetup]

/-- A reset ends scanning. -/
@[simp] theorem scanningEnabled_resetDevice (h : Host) :
    h.resetDevice.context.scanningEnabled = false := by simp [Host.resetDevice]

/-! ## Events -/

/-- After the reply to a command of the start sequence, the next one follows. -/
theorem searchGoesOn_commandCompleted (hw : h.Wired) (hcommands : h.commands = []) {opcode : UInt16}
    {status : UInt8} (hsetup : opcode ∈ setupOpcodes → status = 0x00)
    (hon : opcode ∉ setupOpcodes → SearchGoesOn ledger h) :
    SearchGoesOn (ledger.noteCommands (h.commandCompleted opcode status).commands)
      (h.commandCompleted opcode status) := by
  have hsame : opcode ∉ setupOpcodes → SearchGoesOn (ledger.noteCommands h.commands) h := fun hno =>
    (SameSearch.refl h).goesOn hcommands (hon hno)
  simp only [Host.commandCompleted]
  split_ifs with hstatus hreset haddr hname hclass hscan
  · exact hsame fun hmem => hstatus (hsetup hmem)
  · exact goesOn_of_searching (searching_send hw rfl (by decide))
  · exact goesOn_of_searching
      (searching_send hw (commandOpcode_makeCmdWriteLocalName kName) (by decide))
  · exact goesOn_of_searching
      (searching_send hw (commandOpcode_makeCmdWriteClassOfDevice 0x04 0x05 0x00) (by decide))
  · have hw' := hw.moves (.single (.scanning h true) : Host.Moves true _ _)
    exact goesOn_of_searching
      (searching_send hw' (commandOpcode_makeCmdWriteScanEnable 3) (by decide))
  · simp only [Host.scanEnableCompleted]
    split
    next hconnects => exact goesOn_of_searching (searching_startConnecting hw)
    next hconnects =>
      -- the controller was initialised before, and scanning was switched off since
      apply searchGoesOn_of_not_scanning
      simp only [HciEventContext.connectsOnScanEnable, Bool.or_eq_true, not_or] at hconnects
      exact Bool.eq_false_iff.mpr hconnects.1
  · refine hsame fun hmem => ?_
    simp [setupOpcodes, hreset, haddr, hname, hclass, hscan] at hmem

/-- An event that reports no failed attempt does not stop a search. -/
theorem searchGoesOn_handleEvent (hw : h.Wired) (hcommands : h.commands = [])
    (hon : SearchGoesOn ledger h) (hsetup : packet.SetupSucceeds) (hfail : ¬packet.FailsAttempt) :
    SearchGoesOn ((ledger.noteEvent packet).noteCommands (h.handleEvent packet).commands)
      (h.handleEvent packet) := by
  have hsame : SearchGoesOn (ledger.noteCommands h.commands) h :=
    (SameSearch.refl h).goesOn hcommands hon
  obtain ⟨eventCode, len, data⟩ := packet
  simp only [HciEventPacket.FailsAttempt, HciEventPacket.SetupSucceeds] at hfail hsetup
  simp only [Host.handleEvent]
  split_ifs with hinquiry hresult hconn hdisc hrname hcomplete hcstatus
  · exact searchGoesOn_of_not_scanning (scanningEnabled_resetDevice h)
  · subst hresult
    exact (sameSearch_inquiryResponses h data _).goesOn hcommands hon
  · -- a link is up now
    subst hconn
    have hzero : data.at 0 = 0x00 := not_not.mp fun hne => hfail ⟨hne, .inl rfl⟩
    have hledger : (ledger.noteEvent ⟨kHciConnectionCompEvt, len, data⟩).links =
        ledger.links ++ [uint16OfLe (data.at 1) (data.at 2)] := if_pos hzero
    intro hneeds
    have hlinks := hneeds.noLink
    simp [Host.connectionCompleted, hzero, hcommands, hledger] at hlinks
  · rw [Host.disconnected, if_pos hw.onDisconnected]
    exact searchGoesOn_of_not_scanning (scanningEnabled_resetDevice _)
  · subst hrname
    simp only [Host.remoteNameCompleted]
    split
    · exact hsame
    split
    · refine goesOn_of_searching (searching_startCreateConnection ?_ _ false)
      exact hw.moves (Host.moves_send h _ : Host.Moves true _ _)
    · exact hsame
  · subst hcomplete
    refine searchGoesOn_commandCompleted hw hcommands (hsetup rfl) fun hno => ?_
    have hledger : ledger.noteEvent ⟨kHciCommandCompleteEvt, len, data⟩ = ledger := if_neg hno
    rw [hledger]
    exact hon
  · subst hcstatus
    have hhost : h.commandStatus (data.at 0) (uint16OfLe (data.at 2) (data.at 3)) = h :=
      if_neg fun hboth => hfail ⟨hboth.1, .inr ⟨rfl, hboth.2⟩⟩
    rw [hhost, hcommands]
    intro hneeds
    by_cases hop : uint16OfLe (data.at 2) (data.at 3) = kHciOpcodeCreateConnection
    · have hzero : data.at 0 = 0x00 := not_not.mp fun hne => hfail ⟨hne, .inr ⟨rfl, hop⟩⟩
      have hledger : ledger.noteEvent ⟨kHciCommandStatusEvt, len, data⟩ =
          { ledger with attempts := CommandLedger.answerAttempt (data.at 0) ledger.attempts } :=
        if_pos hop
      rw [hledger, CommandLedger.noteCommands_nil] at hneeds ⊢
      obtain hactive | hattempts | hdue := hon ⟨hneeds.scanning, hneeds.alone, hneeds.noLink⟩
      · exact .inl hactive
      · exact .inr (.inl (CommandLedger.answerAttempt_ne_nil hzero hattempts))
      · exact .inr (.inr hdue)
    · have hledger : ledger.noteEvent ⟨kHciCommandStatusEvt, len, data⟩ = ledger := if_neg hop
      rw [hledger, CommandLedger.noteCommands_nil] at hneeds ⊢
      exact hon hneeds
  · have hledger : ledger.noteEvent ⟨eventCode, len, data⟩ = ledger := by
      simp [CommandLedger.noteEvent, hinquiry, hconn, hdisc, hcomplete, hcstatus]
    rw [hledger]
    exact hsame

/-- An event that fails the attempt does nothing else. -/
theorem handleEvent_of_failsAttempt (hfail : packet.FailsAttempt) :
    h.handleEvent packet = h.attemptFailed := by
  obtain ⟨eventCode, len, data⟩ := packet
  obtain ⟨hne, hcode | ⟨hcode, hop⟩⟩ := hfail
  · subst hcode
    exact if_pos hne
  · subst hcode
    exact if_pos ⟨hne, hop⟩

/-- An event lets a needed search go on exactly when it does not strand it. -/
theorem searchGoesOn_handleEvent_iff (hw : h.Wired) (hcommands : h.commands = [])
    (hon : SearchGoesOn ledger h) (hsetup : packet.SetupSucceeds) :
    SearchGoesOn ((ledger.noteEvent packet).noteCommands (h.handleEvent packet).commands)
      (h.handleEvent packet) ↔ ¬StrandsSearch ledger h packet := by
  by_cases hfail : packet.FailsAttempt
  · rw [handleEvent_of_failsAttempt hfail, Host.attemptFailed]
    split
    next hpending =>
      have hw' := hw.moves (.single (.settled h) : Host.Moves true _ _)
      refine iff_of_true (goesOn_of_searching (searching_startInquiry hw')) fun hstrands => ?_
      exact absurd (hpending.symm.trans hstrands.2.1) Bool.true_eq_false.mp
    next hpending =>
      rw [hcommands, CommandLedger.noteCommands_nil]
      have hpending' := Bool.eq_false_iff.mpr hpending
      exact ⟨fun hgoes hstrands => hstrands.2.2 hgoes,
        fun hno => not_not.mp fun hstops => hno ⟨hfail, hpending', hstops⟩⟩
  · exact iff_of_true (searchGoesOn_handleEvent hw hcommands hon hsetup hfail)
      fun hstrands => hfail hstrands.1

/-! ## Calls -/

/-- A public call does not stop a search that is still needed. -/
theorem searchGoesOn_call (hw : h.Wired) (hcommands : h.commands = []) (hon : SearchGoesOn ledger h)
    (c : TwCall) (handle : Option UInt16) :
    SearchGoesOn (ledger.noteCommands (h.call c handle).commands) (h.call c handle) := by
  have hsame : SearchGoesOn (ledger.noteCommands h.commands) h :=
    (SameSearch.refl h).goesOn hcommands hon
  cases c with
  | init hciInterface => exact searchGoesOn_of_not_scanning rfl
  | resetDevice => exact searchGoesOn_of_not_scanning (scanningEnabled_resetDevice h)
  | setScanEnabled enabled =>
    simp only [Host.call]
    split
    · exact hsame
    split
    · exact hsame
    · rw [hw.hand]
      have hop := commandOpcode_makeCmdWriteScanEnable (if enabled then 0x02 else 0x00)
      refine goesOn_of_searching (.inr (.inr ?_))
      simp [Host.record, CommandLedger.setup_noteCommand _ hop (by decide)]
  | startDiscovery =>
    simp only [Host.call]
    split
    · exact hsame
    split
    · exact hsame
    split
    · exact hsame
    · rw [hw.hand]
      exact goesOn_of_searching (.inl (by simp [Host.record]))
  | stopDiscovery =>
    simp only [Host.call]
    split
    · exact hsame
    split
    · exact hsame
    split
    · exact hsame
    · exact searchGoesOn_of_not_scanning rfl
  | disconnect reason =>
    simp only [Host.call]
    split
    · exact hsame
    split
    · exact hsame
    cases handle with
    | none => exact hsame
    | some connectionHandle =>
      refine (sameSearch_hand h (.inr ?_)).goesOn hcommands hon
      exact commandOpcode_makeCmdDisconnect connectionHandle reason
  | setAutoReconnectEnabled enabled =>
    simp only [Host.call]
    split
    · exact hsame
    · refine (sameSearch_update h ?_).goesOn hcommands hon
      exact fun _ => rfl
  | clearReconnectCache =>
    simp only [Host.call]
    split
    · exact hsame
    · refine (sameSearch_update h ?_).goesOn hcommands hon
      exact fun _ => rfl
  | setFastReconnectTtlMs ttlMs =>
    refine (sameSearch_update h ?_).goesOn hcommands hon
    exact fun _ => rfl
  | _ => exact hsame

/-! ## Runs -/

/-- Discovery goes on in the state a run has led to. -/
def Ledgered.SearchGoesOn (s : Ledgered) : Prop := Bluetooth.SearchGoesOn s.ledger s.world.host

/-- The step handles the failure of an attempt that was all a needed search had left, and that
was no fast reconnect. -/
def Ledgered.StrandsSearch (s : Ledgered) (e : TwEvent) : Prop :=
  ∃ packet ∈ e.dispatched, Bluetooth.StrandsSearch s.ledger s.world.host packet

instance (s : Ledgered) (e : TwEvent) : Decidable (s.StrandsSearch e) :=
  inferInstanceAs (Decidable (∃ packet ∈ e.dispatched, _))

/-- The step reports no failure of a command of the start sequence. -/
def TwEvent.SetupSucceeds (e : TwEvent) : Prop := ∀ packet ∈ e.dispatched, packet.SetupSucceeds

instance (e : TwEvent) : Decidable e.SetupSucceeds :=
  inferInstanceAs (Decidable (∀ packet ∈ e.dispatched, _))

/-- The runtime is not started without a send callback. -/
def TwAction.keepsWiring : TwAction → Bool
  | .call (.init hciInterface) => hciInterface.hciSendPacket
  | _ => true

/-- The event does not unset the callback. -/
abbrev TwEvent.KeepsWiring (e : TwEvent) : Prop := e.action.keepsWiring = true

/-- The input of such an event does not unwire the host. -/
theorem TwEvent.KeepsWiring.not_unwires {e : TwEvent} (he : e.KeepsWiring) (w : TwWorld) :
    ¬(w.hostInput e).Unwires := by
  obtain ⟨action, millis, logLevel⟩ := e
  cases action with
  | hci data len =>
    simp only [TwWorld.hostInput]
    split
    · exact id
    · split <;> exact id
  | call c =>
    cases c with
    | init hciInterface =>
      have hset : hciInterface.hciSendPacket = true := he
      simp [TwWorld.hostInput, HostInput.Unwires, hset]
    | _ => exact id

/-- The host stays wired. -/
theorem wired_step {w : TwWorld} {e : TwEvent} (he : e.KeepsWiring) (hw : w.host.Wired) :
    (w.step e).host.Wired := by
  rw [host_step]
  exact hw.step e.millis (he.not_unwires w)

/-- So it does over a run. -/
theorem wired_runFrom {w : TwWorld} {events : List TwEvent} (hevents : ∀ e ∈ events, e.KeepsWiring)
    (hw : w.host.Wired) : (runFrom TwWorld.step w events).host.Wired := by
  induction events generalizing w with
  | nil => exact hw
  | cons e rest ih =>
    exact ih (fun e' he => hevents e' (List.mem_cons_of_mem e he))
      (wired_step (hevents e List.mem_cons_self) hw)

/-- One step lets discovery go on exactly when it does not strand it. -/
theorem Ledgered.searchGoesOn_step_iff {s : Ledgered} {e : TwEvent} (hsetup : e.SetupSucceeds)
    (hw : s.world.host.Wired) (hon : s.SearchGoesOn) :
    (s.step e).SearchGoesOn ↔ ¬s.StrandsSearch e := by
  let h := s.world.host.enter e.millis
  have hw' : h.Wired := hw.enter e.millis
  have hon' : Bluetooth.SearchGoesOn s.ledger h := (searchGoesOn_enter ..).mpr hon
  have hnone : (∀ packet, s.world.hostInput e ≠ .event packet) → ¬s.StrandsSearch e :=
    fun hno ⟨packet, hpacket, _⟩ => hno packet (hostInput_of_dispatched hpacket)
  have hstep : (s.step e).SearchGoesOn ↔ Bluetooth.SearchGoesOn
      ((s.ledger.noteInput (s.world.hostInput e)).noteCommands
        (h.react (s.world.hostInput e)).commands) (h.react (s.world.hostInput e)) := by
    rw [Ledgered.SearchGoesOn, s.ledger_step]
    exact iff_of_eq (congrArg _ (host_step s.world e))
  rw [hstep]
  cases hinput : s.world.hostInput e with
  | event packet =>
    have hpacket := dispatched_of_hostInput hinput
    refine (searchGoesOn_handleEvent_iff hw' rfl hon' (hsetup packet hpacket)).trans ?_
    simp [Ledgered.StrandsSearch, hpacket, h]
  | firstReport =>
    refine iff_of_true (searchGoesOn_of_not_scanning rfl) (hnone ?_)
    simp [hinput]
  | call c handle =>
    refine iff_of_true (searchGoesOn_call hw' rfl hon' c handle) (hnone ?_)
    simp [hinput]
  | nothing =>
    refine iff_of_true hon' (hnone ?_)
    simp [hinput]

/-- In a run in which the start sequence succeeds, discovery always goes on exactly when no
step strands it. -/
theorem search_goes_on_iff (w : TwWorld) (events : List TwEvent)
    (hstart : ∀ e ∈ events, e.KeepsWiring) (hsetup : ∀ e ∈ events, e.SetupSucceeds) :
    EveryStep (fun s e => (s.step e).SearchGoesOn) Ledgered.step (w.started ⟨true⟩) events ↔
      EveryStep (fun s e => ¬s.StrandsSearch e) Ledgered.step (w.started ⟨true⟩) events :=
  everyStep_invariant_iff (J := fun s => s.world.host.Wired)
    (fun _ e he hw => wired_step (w := _) (hstart e he) hw)
    (fun _ e he hw hon => Ledgered.searchGoesOn_step_iff (hsetup e he) hw hon) (wired_afterInit w)
    (searchGoesOn_of_not_scanning rfl)

/-- The controller is started and finds a Wiimote, which does not answer the page. -/
def failedAttempt : List TwEvent :=
  let bdAddr : BdAddrT := ⟨1, 2, 3, 4, 5, 6⟩
  TwAction.allAt 0 (TwAction.connectingTo bdAddr ++ [.connectionComplete 0x04 0x0000 bdAddr])

/-- After the failed attempt nothing is under way, though scanning is enabled. -/
theorem search_does_not_always_go_on :
    ¬∀ (w : TwWorld) (events : List TwEvent), (∀ e ∈ events, e.KeepsWiring) →
      (∀ e ∈ events, e.SetupSucceeds) →
        EveryStep (fun s e => (s.step e).SearchGoesOn) Ledgered.step (w.started ⟨true⟩) events := by
  intro h
  have hrun := h {} failedAttempt (by decide +kernel) (by decide +kernel)
  have hlast := (everyStep_iff _ _).mp hrun (failedAttempt.take 8)
    ⟨.connectionComplete 0x04 0x0000 ⟨1, 2, 3, 4, 5, 6⟩, 0, 2⟩ [] rfl
  exact absurd hlast (by unfold Ledgered.SearchGoesOn; decide +kernel)

/-- Up to the failure discovery goes on. -/
theorem search_goes_on_until_failure :
    EveryStep (fun s e => (s.step e).SearchGoesOn) Ledgered.step (({} : TwWorld).started ⟨true⟩)
      (failedAttempt.take 8) :=
  (search_goes_on_iff {} (failedAttempt.take 8) (by decide +kernel) (by decide +kernel)).mpr
    (by decide +kernel)

end Esp32Wiimote.Bluetooth
