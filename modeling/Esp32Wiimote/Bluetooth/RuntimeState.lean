import Esp32Wiimote.Library.StateProgram
import Esp32Wiimote.Bluetooth.Wire

/-!
# The Wiimote runtime and the world it runs in

`TinyWiimoteRuntime` holds the fields of `gRuntime`. A pointer that is either null or
wired to one fixed object is a `Bool`, and an array with its element count is a list
that carries its bound.

A program also sees the millisecond clock and the log level, and records the packets it
hands to the send callback and the offsets of the received packet it reads. The received
packet lies at offset 0 of a memory that goes on after it, so a read past its end is
an ordinary read of the model.
-/

namespace Esp32Wiimote.Bluetooth

open StateProgram

/-! ## HCI event context -/

/-- A device as an inquiry response describes it. -/
structure HciScannedDevice where
  bdAddr : BdAddrT := {}
  psrm : UInt8 := 0
  clkofs : UInt16 := 0
  deriving DecidableEq, Repr

/-- How many devices the list holds. -/
def kHciScannedDeviceListSize : Nat := 16

/-- `scannedDevices` up to `scannedDeviceCount`. -/
@[ext] structure ScannedDevices where
  entries : List HciScannedDevice
  length_le : entries.length ≤ kHciScannedDeviceListSize
  deriving DecidableEq

/-- No device. -/
def ScannedDevices.empty : ScannedDevices := ⟨[], Nat.zero_le _⟩

/-- The defaults are the zeroes `memset` leaves. -/
structure HciEventContext where
  sendPacket : Bool := false
  onAclConnected : Bool := false
  onDisconnected : Bool := false
  scannedDevices : ScannedDevices := .empty
  lastWiimote : HciScannedDevice := {}
  currentConnectTarget : HciScannedDevice := {}
  lastWiimoteSeenMs : UInt32 := 0
  fastReconnectTtlMs : UInt32 := 0
  hasLastWiimote : Bool := false
  hasCurrentConnectTarget : Bool := false
  pendingFastReconnect : Bool := false
  scanningEnabled : Bool := false
  autoReconnectEnabled : Bool := false
  deviceInited : Bool := false
  deriving DecidableEq

/-! ## L2CAP -/

/-- A connection: its handle and the channel of the other side. -/
structure L2capConnection where
  ch : UInt16
  remoteCID : UInt16
  deriving DecidableEq, Repr

/-- How many connections the table holds. -/
def l2capConnectionListSize : Nat := 8

/-- `list_` up to `size_`. -/
structure L2capConnectionTable where
  list : List L2capConnection
  length_le : list.length ≤ l2capConnectionListSize
  deriving DecidableEq

/-- No connection. -/
def L2capConnectionTable.empty : L2capConnectionTable := ⟨[], Nat.zero_le _⟩

/-- Whether `connections_` and `sender_` are wired. -/
structure L2capSignaling where
  connections : Bool := false
  sender : Bool := false
  deriving DecidableEq

/-! ## Wiimote -/

/-- Whether `connections_` and `sender_` are wired. -/
structure WiimoteProtocol where
  connections : Bool := false
  sender : Bool := false
  deriving DecidableEq

/-- What is known of the controller. -/
structure WiimoteState where
  wiimoteConnected : Bool := false
  nunchukConnected : Bool := false
  batteryLevel : UInt8 := 0
  useAccelerometer : Bool := true
  deriving DecidableEq

/-- How many bytes of a report are kept. -/
def receivedDataMaxLen : Nat := 50

/-- How many reports are kept. -/
def receivedDataMaxNum : Nat := 5

/-- The ring has a slot. -/
theorem receivedDataMaxNum_pos : 0 < receivedDataMaxNum := by decide

/-- A received report as it is stored. -/
structure TinyWiimoteData where
  number : UInt8 := 0
  data : Vector UInt8 receivedDataMaxLen := .replicate _ 0
  len : UInt8 := 0
  deriving DecidableEq

/-- The ring of received reports; a slot keeps what was stored in it last. -/
structure WiimoteReports where
  writeIndex : Fin receivedDataMaxNum := ⟨0, receivedDataMaxNum_pos⟩
  readIndex : Fin receivedDataMaxNum := ⟨0, receivedDataMaxNum_pos⟩
  itemCount : Fin (receivedDataMaxNum + 1) := ⟨0, Nat.succ_pos receivedDataMaxNum⟩
  reportBuffer : Vector TinyWiimoteData receivedDataMaxNum := .replicate _ {}
  deriving DecidableEq

/-- The phases of the extension's handshake. -/
inductive ControllerReportState where
  | init
  | waitAckOutReport
  | waitReadControllerType
  | waitReadResponse
  deriving DecidableEq, Repr

/-- The phase, and whether `state_`, `connections_` and `sender_` are wired. -/
structure WiimoteExtensions where
  controllerReportState : ControllerReportState := .init
  state : Bool := false
  connections : Bool := false
  sender : Bool := false
  deriving DecidableEq

/-! ## The world -/

/-- Whether `hci_send_packet` is set. -/
structure TwHciInterface where
  hciSendPacket : Bool := false
  deriving DecidableEq

/-- The fields of `gRuntime`. -/
structure TinyWiimoteRuntime where
  hciInterface : TwHciInterface := {}
  hciEventContext : HciEventContext := {}
  l2capConnections : L2capConnectionTable := .empty
  /-- Whether `sendCallback_` of the packet sender is set. -/
  packetSender : Bool := false
  l2capSignaling : L2capSignaling := {}
  wiimoteProtocol : WiimoteProtocol := {}
  wiimoteState : WiimoteState := {}
  wiimoteReports : WiimoteReports := {}
  wiimoteExtensions : WiimoteExtensions := {}
  deriving DecidableEq

/-- The default is the state at power on, before any initialisation. -/
structure TwWorld where
  gRuntime : TinyWiimoteRuntime := {}
  millis : UInt32 := 0
  logLevel : UInt8 := 2
  sent : List (List UInt8) := []
  reads : List Nat := []
  deriving DecidableEq

/-- A program over the world. -/
abbrev TwM := StateM TwWorld

/-- The level from which debug lines are logged. -/
def kWiimoteLogDebug : UInt8 := 3

namespace TwWorld

/-- Assign to the runtime. -/
def mapRuntime (f : TinyWiimoteRuntime → TinyWiimoteRuntime) (w : TwWorld) : TwWorld :=
  { w with gRuntime := f w.gRuntime }

/-- Assign to the event context. -/
def mapContext (f : HciEventContext → HciEventContext) (w : TwWorld) : TwWorld :=
  w.mapRuntime fun r => { r with hciEventContext := f r.hciEventContext }

/-- Assign to the state of the controller. -/
def mapWiimoteState (f : WiimoteState → WiimoteState) (w : TwWorld) : TwWorld :=
  w.mapRuntime fun r => { r with wiimoteState := f r.wiimoteState }

/-- Record offsets that were read. -/
def noteReads (offsets : List Nat) (w : TwWorld) : TwWorld :=
  { w with reads := w.reads ++ offsets }

/-- Record packets that were sent. -/
def noteSent (packets : List (List UInt8)) (w : TwWorld) : TwWorld :=
  { w with sent := w.sent ++ packets }

section Fields

variable (w : TwWorld) (f : TinyWiimoteRuntime → TinyWiimoteRuntime)
  (g : HciEventContext → HciEventContext) (h : WiimoteState → WiimoteState)
  (offsets : List Nat) (packets : List (List UInt8))

/-- What each assignment does to each field of the world. -/
@[simp] theorem gRuntime_mapRuntime : (w.mapRuntime f).gRuntime = f w.gRuntime := rfl
@[simp] theorem millis_mapRuntime : (w.mapRuntime f).millis = w.millis := rfl
@[simp] theorem logLevel_mapRuntime : (w.mapRuntime f).logLevel = w.logLevel := rfl
@[simp] theorem sent_mapRuntime : (w.mapRuntime f).sent = w.sent := rfl
@[simp] theorem reads_mapRuntime : (w.mapRuntime f).reads = w.reads := rfl

@[simp] theorem gRuntime_mapContext : (w.mapContext g).gRuntime =
    { w.gRuntime with hciEventContext := g w.gRuntime.hciEventContext } := rfl
@[simp] theorem millis_mapContext : (w.mapContext g).millis = w.millis := rfl
@[simp] theorem logLevel_mapContext : (w.mapContext g).logLevel = w.logLevel := rfl
@[simp] theorem sent_mapContext : (w.mapContext g).sent = w.sent := rfl
@[simp] theorem reads_mapContext : (w.mapContext g).reads = w.reads := rfl

@[simp] theorem gRuntime_mapWiimoteState : (w.mapWiimoteState h).gRuntime =
    { w.gRuntime with wiimoteState := h w.gRuntime.wiimoteState } := rfl
@[simp] theorem sent_mapWiimoteState : (w.mapWiimoteState h).sent = w.sent := rfl
@[simp] theorem reads_mapWiimoteState : (w.mapWiimoteState h).reads = w.reads := rfl

@[simp] theorem gRuntime_noteReads : (w.noteReads offsets).gRuntime = w.gRuntime := rfl
@[simp] theorem millis_noteReads : (w.noteReads offsets).millis = w.millis := rfl
@[simp] theorem logLevel_noteReads : (w.noteReads offsets).logLevel = w.logLevel := rfl
@[simp] theorem sent_noteReads : (w.noteReads offsets).sent = w.sent := rfl
@[simp] theorem reads_noteReads : (w.noteReads offsets).reads = w.reads ++ offsets := rfl

@[simp] theorem gRuntime_noteSent : (w.noteSent packets).gRuntime = w.gRuntime := rfl
@[simp] theorem sent_noteSent : (w.noteSent packets).sent = w.sent ++ packets := rfl
@[simp] theorem reads_noteSent : (w.noteSent packets).reads = w.reads := rfl

/-- Reads add up. -/
@[simp] theorem noteReads_noteReads (more : List Nat) :
    (w.noteReads offsets).noteReads more = w.noteReads (offsets ++ more) := by
  simp only [noteReads, List.append_assoc]

/-- To read nothing changes nothing. -/
@[simp] theorem noteReads_nil : w.noteReads [] = w := by simp only [noteReads, List.append_nil]

end Fields

end TwWorld

/-- Assign to the runtime. -/
def modifyRuntime (f : TinyWiimoteRuntime → TinyWiimoteRuntime) : TwM Unit :=
  modify (·.mapRuntime f)

/-- Assign to the event context. -/
def modifyContext (f : HciEventContext → HciEventContext) : TwM Unit := modify (·.mapContext f)

/-- Assign to the state of the controller. -/
def modifyWiimoteState (f : WiimoteState → WiimoteState) : TwM Unit :=
  modify (·.mapWiimoteState f)

/-- Read the runtime. -/
def getRuntime : TwM TinyWiimoteRuntime := do
  return (← get).gRuntime

/-- Read the event context. -/
def getContext : TwM HciEventContext := do
  return (← get).gRuntime.hciEventContext

section Exec

variable {α : Type} (w : TwWorld)

/-- How the five programs run. -/
@[simp] theorem exec_modifyRuntime (f : TinyWiimoteRuntime → TinyWiimoteRuntime) :
    exec (modifyRuntime f) w = ((), w.mapRuntime f) := rfl

@[simp] theorem exec_modifyContext (f : HciEventContext → HciEventContext) :
    exec (modifyContext f) w = ((), w.mapContext f) := rfl

@[simp] theorem exec_modifyWiimoteState (f : WiimoteState → WiimoteState) :
    exec (modifyWiimoteState f) w = ((), w.mapWiimoteState f) := rfl

@[simp] theorem exec_getRuntime_bind (f : TinyWiimoteRuntime → TwM α) :
    exec (getRuntime >>= f) w = exec (f w.gRuntime) w := rfl

@[simp] theorem exec_getContext_bind (f : HciEventContext → TwM α) :
    exec (getContext >>= f) w = exec (f w.gRuntime.hciEventContext) w := rfl

end Exec

/-! ## Reading the received packet -/

/-- A pointer into the memory at whose start a packet of `len` bytes was received. -/
structure BytePtr where
  mem : Nat → UInt8
  len : Nat
  off : Nat := 0

instance : HAdd BytePtr Nat BytePtr := ⟨fun p i => { p with off := p.off + i }⟩

/-- Moving a pointer only changes its offset. -/
@[simp] theorem BytePtr.mem_add (p : BytePtr) (i : Nat) : (p + i).mem = p.mem := rfl

@[simp] theorem BytePtr.len_add (p : BytePtr) (i : Nat) : (p + i).len = p.len := rfl

@[simp] theorem BytePtr.off_add (p : BytePtr) (i : Nat) : (p + i).off = p.off + i := rfl

/-- The byte at `p[i]`, without reading it. -/
def BytePtr.at (p : BytePtr) (i : Nat) : UInt8 := p.mem (p.off + i)

/-- A byte behind a moved pointer. -/
@[simp] theorem BytePtr.at_add (p : BytePtr) (i j : Nat) : (p + i).at j = p.at (i + j) := by
  simp only [BytePtr.at, BytePtr.mem_add, BytePtr.off_add, Nat.add_assoc]

/-- Read `p[i]`. -/
def readByte (p : BytePtr) (i : Nat) : TwM UInt8 := do
  modify (·.noteReads [p.off + i])
  return p.at i

/-- Reading a byte answers it and notes its offset. -/
@[simp] theorem exec_readByte (p : BytePtr) (i : Nat) (w : TwWorld) :
    exec (readByte p i) w = (p.at i, w.noteReads [p.off + i]) := rfl

/-- So it does in front of a program. -/
@[simp] theorem exec_readByte_bind {α : Type} (p : BytePtr) (i : Nat) (f : UInt8 → TwM α)
    (w : TwWorld) :
    exec (readByte p i >>= f) w = exec (f (p.at i)) (w.noteReads [p.off + i]) := rfl

/-- High byte first, as the expression is written. -/
def readUInt16Le (p : BytePtr) : TwM UInt16 := do
  let high ← readByte p 1
  let low ← readByte p 0
  return uint16OfLe low high

/-- The high byte is read first. -/
theorem exec_readUInt16Le (p : BytePtr) (w : TwWorld) :
    exec (readUInt16Le p) w =
      (uint16OfLe (p.at 0) (p.at 1), w.noteReads [p.off + 1, p.off]) := by
  simp only [readUInt16Le, exec_readByte_bind, exec_pure, TwWorld.noteReads_noteReads, Nat.add_zero]
  rfl

/-- So it is in front of a program. -/
@[simp] theorem exec_readUInt16Le_bind {α : Type} (p : BytePtr) (f : UInt16 → TwM α) (w : TwWorld) :
    exec (readUInt16Le p >>= f) w =
      exec (f (uint16OfLe (p.at 0) (p.at 1))) (w.noteReads [p.off + 1, p.off]) :=
  exec_bind_of_exec (exec_readUInt16Le p w) f

/-- The address whose last byte is `p[0]`. -/
def BytePtr.bdAddrAt (p : BytePtr) : BdAddrT where
  addr5 := p.at 0
  addr4 := p.at 1
  addr3 := p.at 2
  addr2 := p.at 3
  addr1 := p.at 4
  addr0 := p.at 5

/-- Whether the bytes at `p` begin with these. -/
def BytePtr.startsWith (p : BytePtr) : List UInt8 → Bool
  | [] => true
  | expected :: rest => p.at 0 == expected && (p + 1).startsWith rest

/-- Read `p[0]` to `p[n - 1]`. -/
def readBytes (p : BytePtr) : Nat → TwM Unit
  | 0 => pure ()
  | n + 1 => do
    readBytes p n
    discard (readByte p n)

/-- Reading bytes notes their offsets. -/
@[simp] theorem exec_readBytes (p : BytePtr) (n : Nat) (w : TwWorld) :
    exec (readBytes p n) w = ((), w.noteReads ((List.range n).map (p.off + ·))) := by
  induction n with
  | zero => simp [readBytes]
  | succ n ih =>
    simp only [readBytes, exec_then, exec_discard, ih, exec_readByte, TwWorld.noteReads_noteReads,
      List.range_succ, List.map_append, List.map_cons, List.map_nil]

/-- Copies an address out of the packet. -/
def streamToBdAddr (p : BytePtr) : TwM BdAddrT := do
  readBytes p 6
  return p.bdAddrAt

/-- The six bytes of the address are read. -/
@[simp] theorem exec_streamToBdAddr_bind {α : Type} (p : BytePtr) (f : BdAddrT → TwM α) (w : TwWorld) :
    exec (streamToBdAddr p >>= f) w =
      exec (f p.bdAddrAt) (w.noteReads ((List.range 6).map (p.off + ·))) := by
  refine exec_bind_of_exec ?_ f
  simp only [streamToBdAddr, exec_then, exec_readBytes, exec_pure]

/-- The most bytes `format2Hex` prints. -/
def formatHexMaxBytes : Nat := 30

/-- `format2Hex` is evaluated whether or not its text is logged. -/
def format2Hex (p : BytePtr) (len : Nat) : TwM Unit := readBytes p (min len formatHexMaxBytes)

/-! ## Sending -/

/-- Hands a packet to the interface, if it can send. -/
def sendHciPacketRaw (packet : List UInt8) : TwM Unit := do
  let r ← getRuntime
  if r.hciInterface.hciSendPacket then
    modify (·.noteSent [packet])

/-- It is recorded as sent where it was handed over. -/
@[simp] theorem exec_sendHciPacketRaw (packet : List UInt8) (w : TwWorld) :
    exec (sendHciPacketRaw packet) w =
      ((), w.noteSent (if w.gRuntime.hciInterface.hciSendPacket then [packet] else [])) := by
  simp only [sendHciPacketRaw, exec_getRuntime_bind, exec_ite, exec_modify, exec_pure]
  split
  · rfl
  · simp [TwWorld.noteSent]

end Esp32Wiimote.Bluetooth
