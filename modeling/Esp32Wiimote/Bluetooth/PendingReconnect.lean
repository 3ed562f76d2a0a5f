import Esp32Wiimote.Bluetooth.AttemptState
import Esp32Wiimote.Bluetooth.ReconnectCache
import Esp32Wiimote.Bluetooth.Session

/-!
# Whether a fast reconnect is pending

Beside a run the fast reconnect is noted that was handed over and neither answered nor superseded.
The handlers that fail an attempt clear the flag for it, and so does a Create Connection for
another controller; a Reset and an inquiry that is started for another reason leave it set, and a
link to another controller clears it too early.
-/

namespace Esp32Wiimote.Bluetooth

open StateProgram TransitionRun

/-! ## The attempt that is under way -/

/-- The step handles the reply to a Write Scan Enable that succeeded. -/
def HostInput.repliesScanEnable : HostInput → Bool
  | .event packet => decide packet.CompletesScanEnable
  | _ => false

/-- A run with the address of the fast reconnect that is under way. -/
structure AttemptNoted where
  world : TwWorld
  attempt : Option BdAddrT

namespace AttemptNoted

/-- A Create Connection that follows a Write Scan Enable begins an attempt; any other, an Inquiry
and a Reset supersede it. -/
def noteCommand (replies : Bool) (attempt : Option BdAddrT) (packet : List UInt8) : Option BdAddrT :=
  if ¬IsDisruptive packet then attempt
  else if replies ∧ commandOpcode packet = some kHciOpcodeCreateConnection then some (commandBdAddr packet)
  else none

/-- A Connection Complete for the controller answers the attempt, and so does a Command Status that
fails a Create Connection. -/
def noteEvent (attempt : Option BdAddrT) (packet : HciEventPacket) : Option BdAddrT :=
  if packet.eventCode = kHciConnectionCompEvt ∧ attempt = some (packet.data + 3).bdAddrAt ∨
      packet.eventCode = kHciCommandStatusEvt ∧ packet.FailsAttempt then
    none
  else attempt

/-- Without a cached controller there is no attempt to connect to it. -/
def noteInput (deviceInited : Bool) (attempt : Option BdAddrT) : HostInput → Option BdAddrT
  | .event packet => noteEvent attempt packet
  | .call (.init _) _ => none
  | .call .clearReconnectCache _ => if deviceInited then none else attempt
  | _ => attempt

/-- A step first notes the event or the call it handles, then the commands it hands over. -/
def step (s : AttemptNoted) (e : TwEvent) : AttemptNoted where
  world := s.world.step e
  attempt := (s.world.step e).sent.foldl (noteCommand (s.world.hostInput e).repliesScanEnable)
    (noteInput s.world.gRuntime.hciEventContext.deviceInited s.attempt (s.world.hostInput e))

/-- The world right after `TinyWiimoteInit`, with no attempt under way. -/
def start (w : TwWorld) (hciInterface : TwHciInterface) : AttemptNoted := ⟨w.afterInit hciInterface, none⟩

/-- The flag is set exactly while a fast reconnect to the cached controller is under way, and that
controller is then the connect target. -/
structure Truthful (s : AttemptNoted) : Prop where
  underWay : s.world.gRuntime.hciEventContext.pendingFastReconnect = true ↔
    s.world.gRuntime.hciEventContext.hasLastWiimote = true ∧
      s.attempt = some s.world.gRuntime.hciEventContext.lastWiimote.bdAddr
  target : s.world.gRuntime.hciEventContext.pendingFastReconnect = true →
    s.world.gRuntime.hciEventContext.hasLastWiimote = true ∧
      s.world.gRuntime.hciEventContext.currentConnectTarget = s.world.gRuntime.hciEventContext.lastWiimote

instance (s : AttemptNoted) : Decidable s.Truthful :=
  decidable_of_iff (_ ∧ _) ⟨fun ⟨underWay, target⟩ => ⟨underWay, target⟩,
    fun ⟨underWay, target⟩ => ⟨underWay, target⟩⟩

/-- What a step is to the attempt. -/
def input (s : AttemptNoted) (e : TwEvent) : AttemptInput :=
  (s.world.host.enter e.millis).attemptInput (s.world.hostInput e)

/-- No pending attempt is superseded by a Reset or an inquiry that is no fallback, or answered by
another controller. The fast path is taken with a send callback only. -/
def KeepsTruth (s : AttemptNoted) (e : TwEvent) : Prop :=
  match s.input e with
  | .superseded _ => s.world.gRuntime.hciEventContext.pendingFastReconnect = false
  | .connected bdAddr => s.world.gRuntime.hciEventContext.pendingFastReconnect = true →
      s.world.gRuntime.hciEventContext.lastWiimote.bdAddr = bdAddr
  | .tried => s.world.gRuntime.hciInterface.hciSendPacket = true
  | _ => True

/-! ## Notes -/

section Notes

variable {h : Host} {attempt : Option BdAddrT} {replies : Bool}

/-- Commands that do not search leave the note alone. -/
theorem foldl_noteCommand_of_idle {packets : List (List UInt8)} (hidle : ∀ p ∈ packets, ¬IsDisruptive p) :
    packets.foldl (noteCommand replies) attempt = attempt := by
  induction packets with
  | nil => rfl
  | cons packet rest ih =>
    have hfirst : noteCommand replies attempt packet = attempt := if_pos (hidle packet List.mem_cons_self)
    rw [List.foldl_cons, hfirst]
    exact ih fun p hp => hidle p (List.mem_cons_of_mem packet hp)

/-- Only the commands among the packets matter. -/
theorem foldl_noteCommand_filter (packets : List (List UInt8)) :
    (packets.filter IsCommand).foldl (noteCommand replies) attempt =
      packets.foldl (noteCommand replies) attempt := by
  rw [List.foldl_filter]
  congr
  funext attempt packet
  cases hop : commandOpcode packet <;> simp [noteCommand, IsCommand, IsDisruptive, hop]

/-- What an input does to the note before its commands. -/
def InputNoted (attempt noted : Option BdAddrT) (replies : Bool) : AttemptInput → Prop
  | .connected bdAddr => noted = if attempt = some bdAddr then none else attempt
  | .tried => (noted = attempt ∨ noted = none) ∧ replies = true
  | .targeted _ => (noted = attempt ∨ noted = none) ∧ replies = false
  | .cleared | .initialised => noted = none
  | .reported _ | .nothing => noted = attempt
  | _ => noted = attempt ∨ noted = none

/-- Most events do not answer an attempt. -/
theorem noteEvent_of_other {packet : HciEventPacket} (hconn : packet.eventCode ≠ kHciConnectionCompEvt)
    (hstatus : ¬(packet.eventCode = kHciCommandStatusEvt ∧ packet.FailsAttempt)) :
    noteEvent attempt packet = attempt :=
  if_neg fun hanswers => hanswers.elim (fun hboth => hconn hboth.1) hstatus

/-- An event leaves the noted attempt as it was or ends it. -/
theorem noteEvent_or (attempt : Option BdAddrT) (packet : HciEventPacket) :
    noteEvent attempt packet = attempt ∨ noteEvent attempt packet = none := by
  rw [noteEvent]
  split
  · exact .inr rfl
  · exact .inl rfl

/-- What is noted of an event is what the event is to the attempt. -/
theorem inputNoted_noteEvent (h : Host) (attempt : Option BdAddrT) (packet : HciEventPacket) :
    InputNoted attempt (noteEvent attempt packet) (decide packet.CompletesScanEnable)
      (h.attemptEvent packet) := by
  have hor := noteEvent_or attempt packet
  simp only [Host.attemptEvent]
  by_cases hinquiry : packet.eventCode = kHciInquiryCompEvt
  · simp only [if_pos hinquiry]
    exact hor
  simp only [if_neg hinquiry]
  by_cases hresult : packet.eventCode = kHciInquiryResultEvt
  · simp only [if_pos hresult]
    exact noteEvent_of_other (by rw [hresult]; decide) fun hboth => absurd (hresult ▸ hboth.1) (by decide)
  simp only [if_neg hresult]
  by_cases hconn : packet.eventCode = kHciConnectionCompEvt
  · simp only [if_pos hconn]
    split
    · have hnot : ¬(packet.eventCode = kHciCommandStatusEvt ∧ packet.FailsAttempt) := fun hboth =>
        absurd (hconn ▸ hboth.1) (by decide)
      simp only [InputNoted, noteEvent, hnot, or_false]
      simp only [hconn, true_and]
    · exact hor
  simp only [if_neg hconn]
  by_cases hdisconn : packet.eventCode = kHciDisconnectionCompEvt
  · simp only [if_pos hdisconn]
    exact hor
  simp only [if_neg hdisconn]
  by_cases hrname : packet.eventCode = kHciRmtNameRequestCompEvt
  · simp only [if_pos hrname]
    have hnone : noteEvent attempt packet = attempt :=
      noteEvent_of_other hconn fun hboth => absurd (hrname ▸ hboth.1) (by decide)
    have hreplies : decide packet.CompletesScanEnable = false :=
      decide_eq_false fun hcompletes => absurd (hrname ▸ hcompletes.code) (by decide)
    cases h.context.scannedDevices.findScannedDevice (packet.data + 1).bdAddrAt with
    | none => exact hnone
    | some scanned =>
      dsimp only
      split
      · exact ⟨hor, hreplies⟩
      · exact hnone
  simp only [if_neg hrname]
  by_cases hcomplete : packet.eventCode = kHciCommandCompleteEvt
  · simp only [if_pos hcomplete]
    split
    next hreply =>
      split
      · exact ⟨hor, decide_eq_true ⟨hcomplete, hreply.1, hreply.2.1⟩⟩
      · exact hor
    next => exact noteEvent_of_other hconn fun hboth => absurd (hcomplete ▸ hboth.1) (by decide)
  simp only [if_neg hcomplete]
  by_cases hcstatus : packet.eventCode = kHciCommandStatusEvt
  · simp only [if_pos hcstatus]
    split
    · exact hor
    next hfails =>
      refine noteEvent_of_other hconn fun hboth => hfails ⟨hboth.2.1, ?_⟩
      exact hboth.2.2.elim (fun hcode => absurd hcode hconn) And.right
  · simp only [if_neg hcstatus]
    exact noteEvent_of_other hconn fun hboth => hcstatus hboth.1

/-- So it is for every input. -/
theorem inputNoted_noteInput (h : Host) (attempt : Option BdAddrT) (input : HostInput) :
    InputNoted attempt (noteInput h.context.deviceInited attempt input) input.repliesScanEnable
      (h.attemptInput input) := by
  cases input with
  | event packet => exact inputNoted_noteEvent h attempt packet
  | call c handle =>
    cases c with
    | init hciInterface => rfl
    | resetDevice => exact .inl rfl
    | startDiscovery =>
      simp only [Host.attemptInput]
      split
      · exact .inl rfl
      · rfl
    | clearReconnectCache =>
      simp only [Host.attemptInput, noteInput]
      split <;> rfl
    | _ => rfl
  | _ => rfl

/-- A command that disturbs the link ends the attempt, unless it starts a fast one. -/
theorem foldl_noteCommand_of_disruptive {packet : List UInt8} (hdisruptive : IsDisruptive packet)
    (hother : replies = true → commandOpcode packet ≠ some kHciOpcodeCreateConnection) :
    [packet].foldl (noteCommand replies) attempt = none := by
  rw [List.foldl_cons, noteCommand, if_neg (not_not.mpr hdisruptive),
    if_neg fun hboth => hother hboth.1 hboth.2, List.foldl_nil]

/-- Without the callback there was no attempt, and there is none afterwards. -/
theorem noted_eq_none {noted : Option BdAddrT} (hnamed : attempt.isSome → h.callback = true)
    (hnoted : noted = attempt ∨ noted = none) (hcallback : h.callback = false) : noted = none := by
  obtain rfl | rfl := hnoted
  · exact Option.not_isSome_iff_eq_none.mp fun hsome =>
      absurd ((hnamed hsome).symm.trans hcallback) Bool.true_eq_false.mp
  · rfl

/-- What a step makes of the note, where the callback is set for every attempt. -/
def StepNoted (h : Host) (attempt noted : Option BdAddrT) : AttemptInput → Prop
  | .failed => noted = none ∨ h.context.pendingFastReconnect = false ∧ noted = attempt
  | .connected bdAddr => noted = if attempt = some bdAddr then none else attempt
  | .tried => noted = if h.callback then some h.context.lastWiimote.bdAddr else none
  | .reported _ | .nothing => noted = attempt
  | _ => noted = none

/-- The note after a reaction is the one the input and its commands ask for. -/
theorem noted_react (hcommands : h.commands = []) (hl : h.Listens)
    (hnamed : attempt.isSome → h.callback = true) (input : HostInput) :
    StepNoted h attempt ((h.react input).commands.foldl (noteCommand input.repliesScanEnable)
      (noteInput h.context.deviceInited attempt input)) (h.attemptInput input) := by
  have hreacts := reacts_react h hl input
  have hnote := inputNoted_noteInput h attempt input
  revert hreacts hnote
  generalize noteInput h.context.deviceInited attempt input = noted
  generalize input.repliesScanEnable = replies
  generalize h.attemptInput input = i
  intro hreacts hnote
  have hidle (hnone : h.searchCommands i = []) :
      (h.react input).commands.foldl (noteCommand replies) noted = noted := by
    refine foldl_noteCommand_of_idle fun packet hmem => ?_
    obtain hsearch | hunrelated | ⟨hname, -⟩ := hreacts.mem_commands hcommands hmem
    · rw [hnone, Host.given_nil] at hsearch
      cases hsearch
    · exact hunrelated.1
    · simp [IsDisruptive, hname]
      decide
  have hhanded := hreacts.commands
  have hgiven (hor : noted = attempt ∨ noted = none) (packets : List (List UInt8))
      (hall : packets.foldl (noteCommand replies) noted = none) :
      (h.given packets).foldl (noteCommand replies) noted = none := by
    rw [Host.given, hl.sendPacket, Bool.true_and]
    cases hcallback : h.callback with
    | false => exact noted_eq_none hnamed hor hcallback
    | true => exact hall
  cases i with
  | superseded cause =>
    have hsent : (h.react input).commands = _ := hhanded
    rw [hsent, hcommands, List.nil_append]
    exact hgiven hnote _ (foldl_noteCommand_of_disruptive cause.isDisruptive_command fun _ =>
      cause.not_createConnection_command)
  | failed =>
    have hsent : (h.react input).commands = _ := hhanded
    rw [hsent, hcommands, List.nil_append, Host.searchCommands]
    split
    · exact .inl (hgiven hnote [_] (foldl_noteCommand_of_disruptive (by decide) fun _ => by decide))
    next hpending =>
      rw [Host.given_nil]
      obtain rfl | rfl := hnote
      · exact .inr ⟨Bool.eq_false_iff.mpr hpending, rfl⟩
      · exact .inl rfl
  | connected bdAddr => exact (hidle rfl).trans hnote
  | tried =>
    obtain ⟨hnoted, rfl⟩ := hnote
    have hsent : (h.react input).commands = _ := hhanded
    rw [hsent, hcommands, List.nil_append, Host.given, hl.sendPacket, Bool.true_and, StepNoted]
    cases hcallback : h.callback with
    | false => exact noted_eq_none hnamed hnoted hcallback
    | true => simp [Host.searchCommands, noteCommand, IsDisruptive]
  | targeted target =>
    obtain ⟨hnoted, rfl⟩ := hnote
    have hsent : (h.react input).commands = _ := hhanded
    rw [hsent, hcommands, List.nil_append]
    refine hgiven hnoted _ ?_
    simp [Host.searchCommands, noteCommand, IsDisruptive]
  | reported data => exact (hidle rfl).trans hnote
  | cleared => exact (hidle rfl).trans hnote
  | initialised => exact (hidle rfl).trans hnote
  | nothing => exact (hidle rfl).trans hnote

end Notes

/-! ## Steps -/

/-- While an attempt is pending or under way, the cached controller is the connect target. -/
structure Cached (part : AttemptPart) (attempt : Option BdAddrT) : Prop where
  target : part.pendingFastReconnect = true ∨ attempt.isSome → part.hasLastWiimote = true ∧
    part.hasCurrentConnectTarget = true ∧ part.currentConnectTarget = part.lastWiimote
  named : ∀ bdAddr, attempt = some bdAddr → part.lastWiimote.bdAddr = bdAddr

/-- What holds of the flag and the note whatever happens. -/
structure Consistent (s : AttemptNoted) : Prop where
  listens : s.world.host.Listens
  callback : s.attempt.isSome → s.world.gRuntime.hciInterface.hciSendPacket = true
  cached : Cached s.world.gRuntime.hciEventContext.attemptPart s.attempt

/-- Only a host that tries fast tries at all. -/
theorem triesFast_of_tried {h : Host} {input : HostInput} (htried : h.attemptInput input = .tried) :
    h.triesFast = true := by
  cases input with
  | event packet =>
    have hevent := h.eventInput_attemptEvent packet
    rw [show h.attemptEvent packet = .tried from htried] at hevent
    exact hevent
  | call c handle =>
    have hcall := h.callInput_attemptInput c handle
    rw [htried] at hcall
    exact hcall.elim
  | _ => cases htried

/-- A host tries fast only with a cached controller. -/
theorem hasLastWiimote_of_triesFast {h : Host} (hfast : h.triesFast = true) :
    h.context.hasLastWiimote = true := by
  simp only [Host.triesFast, Bool.and_eq_true, HciEventContext.isFastReconnectCacheValid] at hfast
  cases hlast : h.context.hasLastWiimote with
  | false => simp [hlast] at hfast
  | true => rfl

/-- An attempt that is under way was so before, or was handed over now. -/
theorem StepNoted.cases {h : Host} {attempt noted : Option BdAddrT} {i : AttemptInput}
    (hnoted : StepNoted h attempt noted i) : noted = none ∨ noted = attempt ∨
      i = .tried ∧ h.callback = true ∧ noted = some h.context.lastWiimote.bdAddr := by
  cases i with
  | failed => exact hnoted.imp_right fun hboth => .inl hboth.2
  | connected bdAddr =>
    rw [hnoted]
    split
    · exact .inl rfl
    · exact .inr (.inl rfl)
  | tried =>
    rw [hnoted]
    split
    next hcallback => exact .inr (.inr ⟨rfl, hcallback, rfl⟩)
    next => exact .inl rfl
  | reported data => exact .inr (.inl hnoted)
  | nothing => exact .inr (.inl hnoted)
  | _ => exact .inl hnoted

/-- The cache names the attempted controller through every reaction. -/
theorem Cached.react {h : Host} {attempt noted : Option BdAddrT} {i : AttemptInput}
    (hcached : Cached h.context.attemptPart attempt) (hnoted : StepNoted h attempt noted i)
    (htried : i = .tried → h.context.hasLastWiimote = true) :
    Cached (h.context.attemptPart.react i) noted := by
  have hfailed : noted = none ∨ noted = attempt →
      Cached { h.context.attemptPart with pendingFastReconnect := false } noted := by
    rintro (rfl | rfl)
    · exact ⟨fun hor => by simp at hor, fun _ hsome => nomatch hsome⟩
    · exact ⟨fun hor => hcached.target (.inr (by simpa using hor)), hcached.named⟩
  have hdropped (part : AttemptPart) (hpending : part.pendingFastReconnect = false) (hnone : noted = none) :
      Cached part noted := by
    subst hnone
    exact ⟨fun hor => by simp [hpending] at hor, fun _ hsome => nomatch hsome⟩
  cases i with
  | superseded cause =>
    subst hnoted
    exact ⟨fun hor => hcached.target (.inl (hor.resolve_right Bool.false_ne_true)),
      fun _ hsome => nomatch hsome⟩
  | failed => exact hfailed (hnoted.imp_right And.right)
  | connected bdAddr =>
    have hor : noted = none ∨ noted = attempt := hnoted.cases.imp_right fun hkept =>
      hkept.resolve_right fun htried => nomatch htried.1
    simp only [AttemptPart.react]
    split
    next htarget =>
      obtain rfl | rfl := hor
      · exact hdropped _ rfl rfl
      · -- the controller that is cached now was cached before
        refine ⟨fun _ => ⟨rfl, htarget, rfl⟩, fun named hnamed => ?_⟩
        obtain ⟨-, -, hsame⟩ := hcached.target (.inr (by rw [hnamed]; rfl))
        exact (congrArg HciScannedDevice.bdAddr hsame).trans (hcached.named named hnamed)
    next => exact hfailed hor
  | tried =>
    refine ⟨fun _ => ⟨htried rfl, rfl, rfl⟩, fun named hnamed => ?_⟩
    rw [hnoted, Option.ite_none_right_eq_some, Option.some.injEq] at hnamed
    exact hnamed.2
  | targeted target => exact hdropped _ rfl hnoted
  | cleared => exact hdropped _ rfl hnoted
  | initialised => exact hdropped _ rfl hnoted
  | reported data =>
    subst hnoted
    exact hcached
  | nothing =>
    subst hnoted
    exact hcached

section Steps

variable {s : AttemptNoted} (hs : s.Consistent) (e : TwEvent)
include hs

/-- The flag and its fields take part in a step, and the note does. -/
theorem attempt_step : (s.step e).world.gRuntime.hciEventContext.attemptPart =
      s.world.gRuntime.hciEventContext.attemptPart.react (s.input e) ∧
    StepNoted s.world.host s.attempt (s.step e).attempt (s.input e) := by
  have hhost := host_step s.world e
  have hlistens : (s.world.host.enter e.millis).Listens := hs.listens.enter e.millis
  constructor
  · have hpart := (reacts_react (s.world.host.enter e.millis) hlistens (s.world.hostInput e)).part
    exact (congrArg (·.context.attemptPart) hhost).trans hpart
  · have hnoted := noted_react (h := s.world.host.enter e.millis) rfl hlistens hs.callback
      (s.world.hostInput e)
    have hcommands : ((s.world.host.enter e.millis).react (s.world.hostInput e)).commands =
        (s.world.step e).sent.filter IsCommand := (congrArg Host.commands hhost).symm
    rw [hcommands, foldl_noteCommand_filter] at hnoted
    exact hnoted

/-- An attempt is under way only where the callback is set. -/
theorem callback_step (hsome : (s.step e).attempt.isSome) :
    (s.step e).world.gRuntime.hciInterface.hciSendPacket = true := by
  obtain ⟨-, hnoted⟩ := attempt_step hs e
  by_cases hinit : ∃ i handle, s.world.hostInput e = .call (.init i) handle
  · obtain ⟨i, handle, hinput⟩ := hinit
    have hnone : (s.step e).attempt = none := by
      have hin : s.input e = .initialised := by rw [input, hinput]; rfl
      rw [hin] at hnoted
      exact hnoted
    rw [hnone] at hsome
    cases hsome
  · have hkept : (s.world.step e).host.callback = s.world.host.callback := by
      rw [host_step]
      exact callback_react _ fun i handle hinput => hinit ⟨i, handle, hinput⟩
    refine hkept.trans ?_
    obtain hnone | hsame | ⟨-, hcallback, -⟩ := hnoted.cases
    · rw [hnone] at hsome
      cases hsome
    · exact hs.callback (hsame ▸ hsome)
    · exact hcallback

/-- Context and note agree after every step. -/
theorem consistent_step : (s.step e).Consistent := by
  obtain ⟨hpart, hnoted⟩ := attempt_step hs e
  refine ⟨listens_step hs.listens e, callback_step hs e, ?_⟩
  rw [hpart]
  exact Cached.react (h := s.world.host) hs.cached hnoted fun htried =>
    hasLastWiimote_of_triesFast (h := s.world.host.enter e.millis) (triesFast_of_tried htried)

omit e in
/-- So the flag is truthful when it is set exactly while an attempt is under way. -/
theorem truthful_iff : s.Truthful ↔
    (s.world.gRuntime.hciEventContext.pendingFastReconnect = true ↔ s.attempt.isSome) := by
  have hnamed : s.world.gRuntime.hciEventContext.hasLastWiimote = true ∧
      s.attempt = some s.world.gRuntime.hciEventContext.lastWiimote.bdAddr ↔ s.attempt.isSome = true := by
    constructor
    · intro ⟨_, hattempt⟩
      rw [hattempt]
      rfl
    · intro hsome
      obtain ⟨bdAddr, hattempt⟩ := Option.isSome_iff_exists.mp hsome
      have hname : s.world.gRuntime.hciEventContext.lastWiimote.bdAddr = bdAddr :=
        hs.cached.named bdAddr hattempt
      exact ⟨(hs.cached.target (.inr hsome)).1, by rw [hattempt, hname]⟩
  constructor
  · exact fun htrue => htrue.underWay.trans hnamed
  · refine fun hiff => ⟨hiff.trans hnamed.symm, fun hpending => ?_⟩
    obtain ⟨hlast, -, htarget⟩ := hs.cached.target (.inl hpending)
    exact ⟨hlast, htarget⟩

/-- A step keeps the flag truthful exactly where `KeepsTruth` says. -/
theorem truthful_step (htrue : s.Truthful) : (s.step e).Truthful ↔ s.KeepsTruth e := by
  obtain ⟨hpart, hnoted⟩ := attempt_step hs e
  have hpending : (s.step e).world.gRuntime.hciEventContext.pendingFastReconnect =
      (s.world.gRuntime.hciEventContext.attemptPart.react (s.input e)).pendingFastReconnect :=
    congrArg AttemptPart.pendingFastReconnect hpart
  have hbefore := (truthful_iff hs).mp htrue
  rw [truthful_iff (consistent_step hs e), hpending, KeepsTruth]
  cases hin : s.input e with
  | superseded cause =>
    rw [hin] at hnoted
    have hnone : (s.step e).attempt = none := hnoted
    simp [hnone, AttemptPart.react, HciEventContext.attemptPart]
  | failed =>
    rw [hin] at hnoted
    refine iff_of_true ?_ trivial
    obtain hnone | ⟨hnot, hsame⟩ := hnoted
    · simp [AttemptPart.react, hnone]
    · have hidle : s.attempt.isSome = false := Bool.eq_false_iff.mpr fun hsome =>
        absurd (hnot.symm.trans (hbefore.mpr hsome)) Bool.false_ne_true
      simp [AttemptPart.react, hsame, hidle]
  | connected bdAddr =>
    rw [hin] at hnoted
    have hcleared : (s.world.gRuntime.hciEventContext.attemptPart.react
        (.connected bdAddr)).pendingFastReconnect = false := by
      simp only [AttemptPart.react]
      split <;> rfl
    have hattempt : (s.step e).attempt = if s.attempt = some bdAddr then none else s.attempt := hnoted
    rw [hcleared, hattempt]
    cases hcase : s.attempt with
    | none =>
      have hidle : ¬s.world.gRuntime.hciEventContext.pendingFastReconnect = true := by simp [hbefore, hcase]
      exact iff_of_true (by simp) fun hset => absurd hset hidle
    | some under =>
      have hset : s.world.gRuntime.hciEventContext.pendingFastReconnect = true := by simp [hbefore, hcase]
      have hname : s.world.gRuntime.hciEventContext.lastWiimote.bdAddr = under := hs.cached.named under hcase
      by_cases hsame : under = bdAddr
      · exact iff_of_true (by simp [hsame]) fun _ => hname.trans hsame
      · refine iff_of_false (by simp [hsame]) fun hall => hsame (hname.symm.trans (hall hset))
  | tried =>
    rw [hin] at hnoted
    have hattempt : (s.step e).attempt = if s.world.gRuntime.hciInterface.hciSendPacket then
      some s.world.gRuntime.hciEventContext.lastWiimote.bdAddr else none := hnoted
    rw [hattempt]
    cases s.world.gRuntime.hciInterface.hciSendPacket <;> simp [AttemptPart.react]
  | reported data =>
    rw [hin] at hnoted
    have hsame : (s.step e).attempt = s.attempt := hnoted
    rw [hsame]
    exact iff_of_true hbefore trivial
  | nothing =>
    rw [hin] at hnoted
    have hsame : (s.step e).attempt = s.attempt := hnoted
    rw [hsame]
    exact iff_of_true hbefore trivial
  | _ =>
    rw [hin] at hnoted
    have hnone : (s.step e).attempt = none := hnoted
    exact iff_of_true (by simp [AttemptPart.react, hnone]) trivial

end Steps

/-- They agree at the start. -/
theorem consistent_start (w : TwWorld) (hciInterface : TwHciInterface) :
    (start w hciInterface).Consistent := by
  refine ⟨listens_afterInit w hciInterface, fun hsome => ?_,
    ⟨fun hor => ?_, fun _ hsome => nomatch hsome⟩⟩
  · cases hsome
  obtain hpending | hsome := hor
  · cases hpending
  · cases hsome

/-- In all states of a run the flag is truthful exactly when every step of the run keeps it so. -/
theorem pending_truthful_iff (w : TwWorld) (hciInterface : TwHciInterface) (events : List TwEvent) :
    EveryStep (fun s e => (s.step e).Truthful) step (start w hciInterface) events ↔
      EveryStep KeepsTruth step (start w hciInterface) events :=
  everyStep_invariant_iff (J := Consistent) (fun _ e _ hs => consistent_step hs e)
    (fun _ e _ hs htrue => truthful_step hs e htrue) (consistent_start w hciInterface)
    ((truthful_iff (consistent_start w hciInterface)).mpr Iff.rfl)

end AttemptNoted

/-- A link is lost, the fast reconnect is tried, and the device is reset. -/
def resetWhilePending : List TwEvent :=
  TwAction.allAt 0 (TwAction.connectingTo ⟨1, 2, 3, 4, 5, 6⟩ ++
    [.connectionComplete 0x00 0x0040 ⟨1, 2, 3, 4, 5, 6⟩, .disconnectionComplete 0x0040 0x08] ++
    TwAction.setupReplies ++ [.call .resetDevice])

/-- The flag stays set. -/
theorem pending_not_always_truthful :
    ¬∀ (w : TwWorld) (hciInterface : TwHciInterface) (events : List TwEvent),
      EveryStep (fun s e => (AttemptNoted.step s e).Truthful) AttemptNoted.step (.start w hciInterface)
        events := by
  intro h
  have htrue := h {} ⟨true⟩ resetWhilePending
  revert htrue
  decide +kernel

end Esp32Wiimote.Bluetooth
