import Mathlib.Data.Int.Init
import Mathlib.Tactic.Common

/-!
# Button and sensor state

Both managers hold the current values and those a change is measured against.
-/

namespace Esp32Wiimote.Input

/-! ## Buttons -/

/-- The underlying type of the enumeration: its values are combined bit by bit. -/
abbrev ButtonState := UInt32

/-- The button bits. -/
def kButtonZ : ButtonState := 0x00020000
def kButtonC : ButtonState := 0x00010000
def kButtonPlus : ButtonState := 0x00001000
def kButtonUp : ButtonState := 0x00000800
def kButtonDown : ButtonState := 0x00000400
def kButtonRight : ButtonState := 0x00000200
def kButtonLeft : ButtonState := 0x00000100
def kButtonHome : ButtonState := 0x00000080
def kButtonMinus : ButtonState := 0x00000010
def kButtonA : ButtonState := 0x00000008
def kButtonB : ButtonState := 0x00000004
def kButtonOne : ButtonState := 0x00000002
def kButtonTwo : ButtonState := 0x00000001
def kNoButton : ButtonState := 0x00000000

/-- The enumerators, all but `kNoButton`. -/
def buttons : List ButtonState :=
  [kButtonZ, kButtonC, kButtonPlus, kButtonUp, kButtonDown, kButtonRight, kButtonLeft, kButtonHome,
    kButtonMinus, kButtonA, kButtonB, kButtonOne, kButtonTwo]

/-- The bits of a report are taken as they are. -/
def buttonStateFromRaw (raw : UInt32) : ButtonState := raw

/-- The buttons of both states. -/
def buttonStateOr (lhs rhs : ButtonState) : ButtonState := lhs ||| rhs

/-- The buttons now, and when the flag was reset last. -/
structure ButtonStateManager where
  current : ButtonState := kNoButton
  previous : ButtonState := kNoButton
  deriving DecidableEq

namespace ButtonStateManager

/-- The buttons of a new report. -/
def update (manager : ButtonStateManager) (currentState : ButtonState) : ButtonStateManager :=
  { manager with current := currentState }

/-- The buttons now. -/
def getCurrent (manager : ButtonStateManager) : ButtonState := manager.current

/-- Whether they differ. -/
def hasChanged (manager : ButtonStateManager) : Bool := manager.current != manager.previous

/-- From now on changes are seen against these buttons. -/
def resetChangeFlag (manager : ButtonStateManager) : ButtonStateManager :=
  { manager with previous := manager.current }

end ButtonStateManager

/-! ## Sensors -/

/-- The three axes of the accelerometer. -/
@[ext] structure AccelState where
  xAxis : UInt8 := 0
  yAxis : UInt8 := 0
  zAxis : UInt8 := 0
  deriving DecidableEq

/-- The stick and the three axes of the Nunchuk. -/
@[ext] structure NunchukState where
  xStick : UInt8 := 0
  yStick : UInt8 := 0
  xAxis : UInt8 := 0
  yAxis : UInt8 := 0
  zAxis : UInt8 := 0
  deriving DecidableEq

/-- The sensors now, and when the flags were reset last. -/
structure SensorStateManager where
  currentAccel : AccelState := {}
  previousAccel : AccelState := {}
  currentNunchuk : NunchukState := {}
  previousNunchuk : NunchukState := {}
  nunchukStickThreshold : ℤ := 1
  deriving DecidableEq

namespace SensorStateManager

/-- The accelerometer of a new report. -/
def updateAccel (manager : SensorStateManager) (state : AccelState) : SensorStateManager :=
  { manager with currentAccel := state }

/-- The Nunchuk of a new report. -/
def updateNunchuk (manager : SensorStateManager) (state : NunchukState) : SensorStateManager :=
  { manager with currentNunchuk := state }

/-- No accelerometer. -/
def resetAccel (manager : SensorStateManager) : SensorStateManager :=
  { manager with currentAccel := {} }

/-- No Nunchuk. -/
def resetNunchuk (manager : SensorStateManager) : SensorStateManager :=
  { manager with currentNunchuk := {} }

/-- The accelerometer now. -/
def getAccel (manager : SensorStateManager) : AccelState := manager.currentAccel

/-- The Nunchuk now. -/
def getNunchuk (manager : SensorStateManager) : NunchukState := manager.currentNunchuk

/-- The squared distance the stick was moved by is at least the threshold. -/
def nunchukStickHasChanged (manager : SensorStateManager) : Bool :=
  let xDelta : ℤ := (manager.currentNunchuk.xStick.toNat : ℤ) - manager.previousNunchuk.xStick.toNat
  let yDelta : ℤ := (manager.currentNunchuk.yStick.toNat : ℤ) - manager.previousNunchuk.yStick.toNat
  xDelta * xDelta + yDelta * yDelta ≥ manager.nunchukStickThreshold

/-- From now on changes are seen against these readings. -/
def resetChangeFlags (manager : SensorStateManager) : SensorStateManager :=
  { manager with
    previousAccel := manager.currentAccel
    previousNunchuk := manager.currentNunchuk }

end SensorStateManager

end Esp32Wiimote.Input
