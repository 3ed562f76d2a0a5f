import Esp32Wiimote.Bluetooth.Host

/-!
# What the controller still owes

A ledger kept beside a run: whether an Inquiry is active, which Create Connections and
which commands of the start sequence have not been answered, and which ACL links are up.
The code does not keep it; it only says what was handed to the send callback and what was
heard since. A step first notes the event it handles, then the commands it hands over.
-/

namespace Esp32Wiimote.Bluetooth

open TransitionRun

/-- The commands of the start sequence. -/
def setupOpcodes : List UInt16 :=
  [kHciOpcodeReset, kHciOpcodeReadBdAddr, kHciOpcodeWriteLocalName, kHciOpcodeWriteClassOfDevice,
    kHciOpcodeWriteScanEnable]

/-- The address in a Create Connection packet, which follows the four bytes of the preamble. -/
def commandBdAddr (packet : List UInt8) : BdAddrT where
  addr5 := packet.getD 4 0
  addr4 := packet.getD 5 0
  addr3 := packet.getD 6 0
  addr2 := packet.getD 7 0
  addr1 := packet.getD 8 0
  addr0 := packet.getD 9 0

/-- The address in a Create Connection is the one it was made with. -/
@[simp] theorem commandBdAddr_makeCmdCreateConnection (params : HciCreateConnectionParams) :
    commandBdAddr (makeCmdCreateConnection params) = params.bdAddr := rfl

/-- A command that neither searches for a controller nor belongs to the start sequence. -/
def IsIdleCommand (packet : List UInt8) : Prop :=
  commandOpcode packet = some kHciOpcodeRemoteNameRequest ∨
    commandOpcode packet = some kHciOpcodeDisconnect

/-- A Create Connection that was handed over; `accepted` once its Command Status is in. -/
structure Attempt where
  target : BdAddrT
  accepted : Bool := false
  deriving DecidableEq

/-- What is known from the packets and events alone: whether an inquiry runs, which attempts and
links there are, and which commands of the setup are unanswered. -/
structure CommandLedger where
  inquiryActive : Bool := false
  /-- The Create Connections not answered so far, oldest first. -/
  attempts : List Attempt := []
  /-- The opcodes of the start sequence whose Command Complete is due, oldest first. -/
  setup : List UInt16 := []
  /-- The handles of the ACL links that are up. -/
  links : List UInt16 := []
  deriving DecidableEq

namespace CommandLedger

/-! ## Commands -/

/-- A Reset ends inquiries and links. -/
def noteCommand (ledger : CommandLedger) (packet : List UInt8) : CommandLedger :=
  match commandOpcode packet with
  | none => ledger
  | some opcode =>
    if opcode = kHciOpcodeInquiry then { ledger with inquiryActive := true }
    else if opcode = kHciOpcodeInquiryCancel then { ledger with inquiryActive := false }
    else if opcode = kHciOpcodeCreateConnection then
      { ledger with attempts := ledger.attempts ++ [{ target := commandBdAddr packet }] }
    else if opcode = kHciOpcodeReset then
      { ledger with inquiryActive := false, links := [], setup := ledger.setup ++ [opcode] }
    else if opcode ∈ setupOpcodes then { ledger with setup := ledger.setup ++ [opcode] }
    else ledger

/-- The ledger after some packets were sent. -/
def noteCommands (ledger : CommandLedger) (packets : List (List UInt8)) : CommandLedger :=
  packets.foldl noteCommand ledger

/-! ## Events -/

/-- The oldest attempt without a Command Status gets one. -/
def answerAttempt (status : UInt8) : List Attempt → List Attempt
  | [] => []
  | attempt :: rest =>
    if attempt.accepted then attempt :: answerAttempt status rest
    else if status = 0x00 then { attempt with accepted := true } :: rest
    else rest

/-- An accepted attempt stays in the ledger. -/
theorem answerAttempt_ne_nil {status : UInt8} (hstatus : status = 0x00) {attempts : List Attempt}
    (h : attempts ≠ []) : answerAttempt status attempts ≠ [] := by
  cases attempts with
  | nil => exact absurd rfl h
  | cons attempt rest =>
    simp only [answerAttempt, hstatus, if_true]
    split <;> exact List.cons_ne_nil _ _

/-- The ledger after an event. -/
def noteEvent (ledger : CommandLedger) (packet : HciEventPacket) : CommandLedger :=
  let data := packet.data
  if packet.eventCode = kHciInquiryCompEvt then { ledger with inquiryActive := false }
  else if packet.eventCode = kHciConnectionCompEvt then
    { ledger with
      attempts := ledger.attempts.eraseP (·.target = (data + 3).bdAddrAt)
      links :=
        if data.at 0 = 0x00 then ledger.links ++ [uint16OfLe (data.at 1) (data.at 2)]
        else ledger.links }
  else if packet.eventCode = kHciDisconnectionCompEvt then
    if data.at 0 = 0x00 then
      { ledger with links := ledger.links.erase (uint16OfLe (data.at 1) (data.at 2)) }
    else ledger
  else if packet.eventCode = kHciCommandCompleteEvt then
    if uint16OfLe (data.at 1) (data.at 2) ∈ setupOpcodes then
      { ledger with setup := ledger.setup.erase (uint16OfLe (data.at 1) (data.at 2)) }
    else ledger
  else if packet.eventCode = kHciCommandStatusEvt then
    if uint16OfLe (data.at 2) (data.at 3) = kHciOpcodeCreateConnection then
      { ledger with attempts := answerAttempt (data.at 0) ledger.attempts }
    else ledger
  else ledger

/-- The event a step handles, if any. -/
def noteInput (ledger : CommandLedger) : HostInput → CommandLedger
  | .event packet => ledger.noteEvent packet
  | _ => ledger

/-! ## What is due -/

/-- Something is under way that can find a controller, or will start to look for one. -/
def Searching (ledger : CommandLedger) : Prop :=
  ledger.inquiryActive ∨ ledger.attempts ≠ [] ∨ ledger.setup ≠ []

instance : DecidablePred Searching := fun ledger =>
  inferInstanceAs (Decidable (ledger.inquiryActive = true ∨ ledger.attempts ≠ [] ∨ _))

/-- A Create Connection is not answered, or a link is up. -/
def Connecting (ledger : CommandLedger) : Prop := ledger.attempts ≠ [] ∨ ledger.links ≠ []

instance : DecidablePred Connecting := fun ledger =>
  inferInstanceAs (Decidable (ledger.attempts ≠ [] ∨ ledger.links ≠ []))

/-! ## Keeping the ledger -/

section Commands

variable (ledger : CommandLedger)

/-- Without packets nothing is noted. -/
@[simp] theorem noteCommands_nil : ledger.noteCommands [] = ledger := rfl

/-- Packets are noted one after the other. -/
@[simp] theorem noteCommands_append (first second : List (List UInt8)) :
    ledger.noteCommands (first ++ second) = (ledger.noteCommands first).noteCommands second :=
  List.foldl_append

/-- One packet is noted as such. -/
@[simp] theorem noteCommands_singleton (packet : List UInt8) :
    ledger.noteCommands [packet] = ledger.noteCommand packet := rfl

/-- Only the commands among the packets matter. -/
theorem noteCommands_filter (packets : List (List UInt8)) :
    ledger.noteCommands (packets.filter IsCommand) = ledger.noteCommands packets := by
  rw [noteCommands, List.foldl_filter]
  congr
  funext ledger packet
  cases h : commandOpcode packet <;> simp [noteCommand, IsCommand, h]

/-- An inquiry is under way once it is sent. -/
@[simp] theorem noteCommand_makeCmdInquiry (params : HciInquiryParams) :
    ledger.noteCommand (makeCmdInquiry params) = { ledger with inquiryActive := true } := by
  simp [noteCommand]

/-- It is over once it is cancelled. -/
@[simp] theorem noteCommand_makeCmdInquiryCancel :
    ledger.noteCommand makeCmdInquiryCancel = { ledger with inquiryActive := false } := rfl

/-- A Create Connection is an attempt. -/
@[simp] theorem noteCommand_makeCmdCreateConnection (params : HciCreateConnectionParams) :
    ledger.noteCommand (makeCmdCreateConnection params) =
      { ledger with attempts := ledger.attempts ++ [{ target := params.bdAddr }] } := by
  simp only [noteCommand, commandOpcode_makeCmdCreateConnection]
  rfl

/-- A Reset ends inquiries and links. -/
@[simp] theorem noteCommand_makeCmdReset : ledger.noteCommand makeCmdReset =
    { ledger with
      inquiryActive := false, links := [], setup := ledger.setup ++ [kHciOpcodeReset] } := rfl

/-- Remote Name Request and Disconnect leave no trace. -/
theorem noteCommand_of_idle {packet : List UInt8} (h : IsIdleCommand packet) :
    ledger.noteCommand packet = ledger := by
  obtain h | h := h <;>
  · simp only [noteCommand, h]
    rfl

/-- Idle commands leave the ledger as it is. -/
theorem noteCommands_of_idle {packets : List (List UInt8)} (h : ∀ p ∈ packets, IsIdleCommand p) :
    ledger.noteCommands packets = ledger := by
  induction packets with
  | nil => rfl
  | cons packet rest ih =>
    rw [noteCommands, List.foldl_cons, ledger.noteCommand_of_idle (h packet List.mem_cons_self)]
    exact ih fun p hp => h p (List.mem_cons_of_mem packet hp)

/-- The other commands of the start sequence wait for their Command Complete. -/
theorem setup_noteCommand {packet : List UInt8} {opcode : UInt16}
    (h : commandOpcode packet = some opcode) (hsetup : opcode ∈ setupOpcodes) :
    (ledger.noteCommand packet).setup = ledger.setup ++ [opcode] := by
  have hfar : opcode ≠ kHciOpcodeInquiry ∧ opcode ≠ kHciOpcodeInquiryCancel ∧
      opcode ≠ kHciOpcodeCreateConnection := by
    simp only [setupOpcodes, List.mem_cons, List.not_mem_nil, or_false] at hsetup
    obtain rfl | rfl | rfl | rfl | rfl := hsetup <;> decide
  simp only [noteCommand, h, hfar, hsetup, if_false, if_true]
  split <;> rfl

end Commands

end CommandLedger

/-! ## The world with its ledger -/

/-- A world and the ledger of the run that led to it. -/
structure Ledgered where
  ledger : CommandLedger
  world : TwWorld

/-- The ledger is kept beside the world. -/
def Ledgered.step (s : Ledgered) (e : TwEvent) : Ledgered where
  world := s.world.step e
  ledger := (s.ledger.noteInput (s.world.hostInput e)).noteCommands (s.world.step e).sent

/-- The start of a run: nothing handed over, nothing due. -/
def TwWorld.started (w : TwWorld) (hciInterface : TwHciInterface) : Ledgered :=
  ⟨{}, w.afterInit hciInterface⟩

/-- What a step notes is the input and the commands of the host. -/
theorem Ledgered.ledger_step (s : Ledgered) (e : TwEvent) : (s.step e).ledger =
    (s.ledger.noteInput (s.world.hostInput e)).noteCommands
      (s.world.host.step e.millis (s.world.hostInput e)).commands := by
  rw [← host_step]
  exact (CommandLedger.noteCommands_filter ..).symm

/-- A dispatched packet is an event of the host. -/
theorem hostInput_of_dispatched {w : TwWorld} {e : TwEvent} {packet : HciEventPacket}
    (h : e.dispatched = some packet) : w.hostInput e = .event packet := by
  obtain ⟨action, millis, logLevel⟩ := e
  cases action with
  | call c => cases h
  | hci data len =>
    have hpacket : eventPacket data len = some packet := h
    simp only [TwWorld.hostInput, hpacket]

/-- Every event of the host was dispatched. -/
theorem dispatched_of_hostInput {w : TwWorld} {e : TwEvent} {packet : HciEventPacket}
    (h : w.hostInput e = .event packet) : e.dispatched = some packet := by
  obtain ⟨action, millis, logLevel⟩ := e
  cases action with
  | call c => cases h
  | hci data len =>
    simp only [TwEvent.dispatched]
    cases hpacket : eventPacket data len with
    | some found =>
      simp only [TwWorld.hostInput, hpacket, HostInput.event.injEq] at h
      rw [h]
    | none =>
      simp only [TwWorld.hostInput, hpacket] at h
      split at h <;> cases h

/-- A call of the host is the call of the step. -/
theorem hostInput_call {w : TwWorld} {e : TwEvent} {c : TwCall} {handle : Option UInt16}
    (h : w.hostInput e = .call c handle) : e.action = .call c := by
  obtain ⟨action, millis, logLevel⟩ := e
  cases action with
  | call c' =>
    simp only [TwWorld.hostInput, HostInput.call.injEq] at h
    rw [h.1]
  | hci data len =>
    simp only [TwWorld.hostInput] at h
    split at h
    · cases h
    · split at h <;> cases h

/-! ## Packets of the controller -/

namespace TwAction

/-- An Inquiry Result with one response. -/
def inquiryResult (bdAddr : BdAddrT) : TwAction :=
  .received ([0x04, 0x02, 0x0F, 0x01] ++ streamBdAddr bdAddr ++ [0x01, 0x00, 0x00] ++
    wiimoteClassOfDevice ++ [0x00, 0x00])

/-- The name field is padded to 248 bytes. -/
def wiimoteNamed (bdAddr : BdAddrT) : TwAction :=
  .received ([0x04, 0x07, 0xFF, 0x00] ++ streamBdAddr bdAddr ++ wiimoteName ++
    List.replicate (248 - wiimoteName.length) 0)

/-- A Connection Complete event. -/
def connectionComplete (status : UInt8) (connectionHandle : UInt16) (bdAddr : BdAddrT) : TwAction :=
  .received ([0x04, 0x03, 0x0B, status] ++ streamU16ToLe connectionHandle ++ streamBdAddr bdAddr ++
    [0x01, 0x00])

/-- A Disconnection Complete event. -/
def disconnectionComplete (connectionHandle : UInt16) (reason : UInt8) : TwAction :=
  .received ([0x04, 0x05, 0x04, 0x00] ++ streamU16ToLe connectionHandle ++ [reason])

/-- A command succeeded and returned these values. -/
def commandComplete (opcode : UInt16) (values : List UInt8) : TwAction :=
  .received ([0x04, 0x0E, (4 + values.length).toUInt8, 0x01] ++ streamU16ToLe opcode ++ 0x00 :: values)

/-- The replies to the commands of the start sequence. -/
def setupReplies : List TwAction :=
  [commandComplete kHciOpcodeReset [], commandComplete kHciOpcodeReadBdAddr [6, 5, 4, 3, 2, 1],
    commandComplete kHciOpcodeWriteLocalName [], commandComplete kHciOpcodeWriteClassOfDevice [],
    commandComplete kHciOpcodeWriteScanEnable []]

/-- The start sequence, an inquiry that finds a Wiimote, and its name. -/
def connectingTo (bdAddr : BdAddrT) : List TwAction :=
  .call .resetDevice :: setupReplies ++ [inquiryResult bdAddr, wiimoteNamed bdAddr]

/-- These actions, all at one time. -/
def allAt (millis : UInt32) (actions : List TwAction) : List TwEvent := actions.map (⟨·, millis, 2⟩)

end TwAction

end Esp32Wiimote.Bluetooth
