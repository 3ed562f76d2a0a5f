import Esp32Wiimote.Bluetooth.ChannelSeparation
import Esp32Wiimote.Bluetooth.NunchukHandshake

/-!
# What is known of the controller

The phase of the handshake, whether a controller and a Nunchuk are connected, the battery level and
the wish for an accelerometer, as a machine of their own. Of the received packets input reports and
the end of a link touch it, and of the calls the two that initialise, the reset of the device, and
the wish.
-/

namespace Esp32Wiimote.Bluetooth

open StateProgram TransitionRun

/-! ## The machine -/

/-- What is known of the controller: the phase of its handshake and its state. -/
@[ext] structure Controller where
  phase : ControllerReportState
  wiimote : WiimoteState
  deriving DecidableEq

/-- The controller of a world. -/
def TwWorld.controller (w : TwWorld) : Controller where
  phase := w.gRuntime.wiimoteExtensions.controllerReportState
  wiimote := w.gRuntime.wiimoteState

/-- The controller of a handshake. -/
def Handshake.controller (h : Handshake) : Controller := ⟨h.phase, h.wiimote⟩

/-- What a step is for the controller. -/
inductive ControllerInput where
  | reported (report : InputReport)
  /-- A report was received before the extensions were initialised. -/
  | detected
  | ended
  | initialised
  | reset
  | wished (use : Bool)
  | nothing

namespace Controller

/-- The first report of a link shows that there is a controller. -/
def detect (c : Controller) : Controller :=
  { c with wiimote := { c.wiimote with wiimoteConnected := true } }

/-- The handshake of the controller, where nothing can be sent. -/
def unlinked (c : Controller) : Handshake := ⟨c.phase, c.wiimote, fun _ _ => [], []⟩

/-- The handshake gets the report. -/
def handleReport (c : Controller) (report : InputReport) : Controller :=
  (c.unlinked.react report).controller

/-- The controller after an input. -/
def react (c : Controller) : ControllerInput → Controller
  | .reported report => c.detect.handleReport report
  | .detected => c.detect
  | .ended | .initialised => ⟨.init, c.wiimote.reset⟩
  | .reset => { c with phase := .init }
  | .wished use => { c with wiimote := { c.wiimote with useAccelerometer := use } }
  | .nothing => c

end Controller

/-- The controller's part in a step. -/
def TwWorld.controllerInput (w : TwWorld) (e : TwEvent) : ControllerInput :=
  match e.action with
  | .hci data len =>
    match eventPacket data len, aclFrame data len with
    | some packet, _ => if packet.eventCode = kHciDisconnectionCompEvt then .ended else .nothing
    | none, some frame =>
      if frame.IsReport then
        if w.gRuntime.wiimoteExtensions.ready then .reported frame.report else .detected
      else .nothing
    | none, none => .nothing
  | .call (.init _) => .initialised
  | .call .resetDevice => .reset
  | .call (.reqAccelerometer use) => .wished use
  | .call _ => .nothing

section Handshake

variable (h : Handshake) (report : InputReport) (payload : List UInt8)
  (next : ControllerReportState)

/-- A status report changes the controller alike on every link. -/
theorem controller_statusReceived : (h.statusReceived report).controller =
    (h.controller.unlinked.statusReceived report).controller := by
  simp only [Handshake.statusReceived]
  split <;> rfl

/-- So does an acknowledgement. -/
theorem controller_acknowledged : (h.acknowledged report payload next).controller =
    (h.controller.unlinked.acknowledged report payload next).controller := by
  simp only [Handshake.acknowledged]
  cases report.writeAck with
  | none => rfl
  | some error =>
    dsimp only
    split <;> rfl

/-- So do data that were read. -/
theorem controller_responseReceived : (h.responseReceived report).controller =
    (h.controller.unlinked.responseReceived report).controller := by
  simp only [Handshake.responseReceived]
  split
  · split <;> rfl
  · rfl

/-- What goes out does not matter for the controller. -/
theorem controller_react : (h.react report).controller = h.controller.handleReport report := by
  obtain ⟨phase, wiimote, link, sent⟩ := h
  rw [Controller.handleReport, Handshake.react, Handshake.react]
  split
  · rfl
  cases phase with
  | init =>
    dsimp only [Controller.unlinked, Handshake.controller]
    split
    · exact controller_statusReceived ..
    · rfl
  | waitAckOutReport => exact controller_acknowledged ..
  | waitReadControllerType => exact controller_acknowledged ..
  | waitReadResponse =>
    dsimp only [Controller.unlinked, Handshake.controller]
    split
    · rfl
    split
    · exact controller_responseReceived ..
    · rfl

end Handshake

/-! ## What a report can do -/

/-- The moves of the handshake, with the report that causes each. -/
inductive Controller.Progress (report : InputReport) : Controller → Controller → Prop
  | ignored (c : Controller) : Progress report c c
  | attached (wiimote : WiimoteState) (hstatus : report.IsStatus)
    (hattached : report.extensionAttached = true) : Progress report ⟨.init, wiimote⟩
      ⟨.waitAckOutReport, wiimote.setBatteryLevel (report.data.at 7)⟩
  | detached (wiimote : WiimoteState) (hstatus : report.IsStatus) :
    Progress report ⟨.init, wiimote⟩
      ⟨.init, { wiimote.setBatteryLevel (report.data.at 7) with nunchukConnected := false }⟩
  | enabled (wiimote : WiimoteState) (hack : report.IsWriteAck) :
    Progress report ⟨.waitAckOutReport, wiimote⟩ ⟨.waitReadControllerType, wiimote⟩
  | decrypted (wiimote : WiimoteState) (hack : report.IsWriteAck) :
    Progress report ⟨.waitReadControllerType, wiimote⟩ ⟨.waitReadResponse, wiimote⟩
  | abandoned (phase : ControllerReportState) (wiimote : WiimoteState) :
    Progress report ⟨phase, wiimote⟩ ⟨.init, wiimote⟩
  | identified (wiimote : WiimoteState) (hresponse : report.IsNunchukResponse) :
    Progress report ⟨.waitReadResponse, wiimote⟩ ⟨.init, { wiimote with nunchukConnected := true }⟩

section Progress

variable {c c' : Controller} {report : InputReport}

/-- An acknowledgement without an error is one of a write. -/
theorem isWriteAck_of_writeAck (h : report.writeAck = some 0x00) : report.IsWriteAck := by
  rw [InputReport.writeAck] at h
  split at h
  · cases h
  next hparts =>
    simp only [not_or, not_not, UInt16.not_lt] at hparts
    exact ⟨hparts.2.1, hparts.2.2, Option.some.inj h, hparts.1⟩

/-- Where a write is acknowledged, the handshake goes on or begins anew. -/
theorem progress_acknowledged {phase next : ControllerReportState} {wiimote : WiimoteState}
    (payload : List UInt8)
    (hnext : report.IsWriteAck → Controller.Progress report ⟨phase, wiimote⟩ ⟨next, wiimote⟩) :
    Controller.Progress report ⟨phase, wiimote⟩
      (Handshake.acknowledged ⟨phase, wiimote, fun _ _ => [], []⟩ report payload next).controller := by
  rw [Handshake.acknowledged]
  cases hwrite : report.writeAck with
  | none => exact .ignored _
  | some error =>
    dsimp only
    split
    next herror => exact hnext (isWriteAck_of_writeAck (hwrite.trans (congrArg some herror)))
    next => exact .abandoned phase wiimote

/-- Every report makes one of these moves. -/
theorem progress_handleReport (c : Controller) (report : InputReport) :
    Controller.Progress report c (c.handleReport report) := by
  obtain ⟨phase, wiimote⟩ := c
  rw [Controller.handleReport, Handshake.react]
  split
  · exact .ignored _
  next hlen =>
  cases phase with
  | init =>
    dsimp only [Controller.unlinked]
    split
    next hnumber =>
      have hstatus : report.IsStatus := ⟨hnumber, UInt16.not_lt.mp hlen⟩
      rw [Handshake.statusReceived]
      split
      next hattached => exact .attached wiimote hstatus (decide_eq_true hattached)
      next => exact .detached wiimote hstatus
    next => exact .ignored _
  | waitAckOutReport => exact progress_acknowledged _ (.enabled wiimote)
  | waitReadControllerType => exact progress_acknowledged _ (.decrypted wiimote)
  | waitReadResponse =>
    dsimp only [Controller.unlinked]
    split
    · exact .ignored _
    next hlong =>
    split
    next hnumber =>
      rw [Handshake.responseReceived]
      split
      next haddress =>
        split
        next hidentifier =>
          exact .identified wiimote ⟨hnumber, haddress, hidentifier, UInt16.not_lt.mp hlong⟩
        next => exact .abandoned _ wiimote
      next => exact .ignored _
    next => exact .ignored _

/-- The wish for an accelerometer stays. -/
theorem useAccelerometer_of_progress (h : Controller.Progress report c c') :
    c'.wiimote.useAccelerometer = c.wiimote.useAccelerometer := by
  cases h <;> rfl

end Progress

end Esp32Wiimote.Bluetooth
