import Esp32Wiimote.Bluetooth.Wiimote
import Esp32Wiimote.Library.TransitionRun
import Esp32Wiimote.Input.State

/-!
# The data parser

`parseData` takes one report from the ring and updates the button and sensor state with it. Every
part of the parser looks at the type of the report for itself, and none of them at its length.
-/

namespace Esp32Wiimote.Input

open Bluetooth

/-! ## Filters -/

/-- The filter flags. -/
def kFilterNone : Int32 := 0x0000
def kFilterButton : Int32 := 0x0001
def kFilterNunchukStick : Int32 := 0x0004
def kFilterAccel : Int32 := 0x0008

/-- The flag is set in the filter. -/
def hasFilterFlag (filter flag : Int32) : Bool := filter &&& flag ≠ 0

/-! ## Parsing -/

/-- `data[i]`; the offsets of the parser all lie in the array. -/
def byteAt (rd : TinyWiimoteData) (i : ℕ) : UInt8 :=
  if h : i < receivedDataMaxLen then rd.data[i] else 0

/-- What changed in a report. -/
structure ChangeFlags where
  buttonChanged : ℕ := 0
  accelChanged : ℕ := 0
  nunchukStickChanged : ℕ := 0

/-- The parser: buttons, sensors and the filter. -/
structure WiimoteDataParser where
  buttonState : ButtonStateManager := {}
  sensorState : SensorStateManager := {}
  filter : Int32 := kFilterNone
  deriving DecidableEq

namespace WiimoteDataParser

/-- The core buttons of a report, and whether to report a change. -/
def parseButtonData (parser : WiimoteDataParser) (data : TinyWiimoteData) :
    WiimoteDataParser × ℕ :=
  let buttonState :=
    if byteAt data 1 ≥ 0x30 ∧ byteAt data 1 ≤ 0x37 then
      let kRawButtons : UInt16 := ((byteAt data 2).toUInt16 <<< 8) ||| (byteAt data 3).toUInt16
      parser.buttonState.update (buttonStateFromRaw kRawButtons.toUInt32)
    else parser.buttonState
  ({ parser with buttonState },
    if !hasFilterFlag parser.filter kFilterButton && buttonState.hasChanged then 1 else 0)

/-- Where the accelerometer values of a report of this type lie, zero if it has none. -/
def accelOffset (type : UInt8) : ℕ := if type = 0x31 ∨ type = 0x35 then 4 else 0

/-- The accelerometer of a report; without one it is reset. -/
def parseAccelData (parser : WiimoteDataParser) (data : TinyWiimoteData) :
    WiimoteDataParser × ℕ :=
  let offs := accelOffset (byteAt data 1)
  if offs ≠ 0 then
    let accelState : AccelState :=
      { xAxis := byteAt data (offs + 0), yAxis := byteAt data (offs + 1)
        zAxis := byteAt data (offs + 2) }
    ({ parser with sensorState := parser.sensorState.updateAccel accelState },
      if !hasFilterFlag parser.filter kFilterAccel then 1 else 0)
  else ({ parser with sensorState := parser.sensorState.resetAccel }, 0)

/-- Where the values of the Nunchuk lie, zero if there are none. -/
def nunchukOffset (type : UInt8) : ℕ :=
  if type = 0x32 then 4 else if type = 0x35 then 7 else 0

/-- The Nunchuk of a report; without one it is reset. -/
def parseNunchukData (parser : WiimoteDataParser) (data : TinyWiimoteData) (flags : ChangeFlags) :
    WiimoteDataParser × ChangeFlags :=
  let offs := nunchukOffset (byteAt data 1)
  if offs ≠ 0 then
    let nunchukState : NunchukState :=
      { xStick := byteAt data (offs + 0), yStick := byteAt data (offs + 1)
        xAxis := byteAt data (offs + 2), yAxis := byteAt data (offs + 3)
        zAxis := byteAt data (offs + 4) }
    let sensorState := parser.sensorState.updateNunchuk nunchukState
    -- a pressed button is a cleared bit
    let cBtn : UInt8 := ((byteAt data (offs + 5) &&& 0x02) >>> 1) ^^^ 0x01
    let zBtn : UInt8 := (byteAt data (offs + 5) &&& 0x01) ^^^ 0x01
    let buttonState := parser.buttonState.getCurrent
    let buttonState := if cBtn ≠ 0 then buttonStateOr buttonState kButtonC else buttonState
    let buttonState := if zBtn ≠ 0 then buttonStateOr buttonState kButtonZ else buttonState
    ({ parser with buttonState := parser.buttonState.update buttonState, sensorState },
      { flags with
        nunchukStickChanged :=
          if !hasFilterFlag parser.filter kFilterNunchukStick && sensorState.nunchukStickHasChanged
          then 1 else flags.nunchukStickChanged
        accelChanged :=
          if !hasFilterFlag parser.filter kFilterAccel then 1 else flags.accelChanged })
  else ({ parser with sensorState := parser.sensorState.resetNunchuk }, flags)

/-- What is done with the report that was read. -/
def parseReport (parser : WiimoteDataParser) (rd : TinyWiimoteData) : ℕ × WiimoteDataParser :=
  if rd.len < 4 then (0, parser)
  else if byteAt rd 0 ≠ 0xA1 then (0, parser)
  else
    let (parser, buttonChanged) := parser.parseButtonData rd
    let (parser, accelChanged) := parser.parseAccelData rd
    let (parser, flags) := parser.parseNunchukData rd { buttonChanged, accelChanged }
    (flags.buttonChanged ||| flags.nunchukStickChanged ||| flags.accelChanged,
      { parser with
        buttonState := parser.buttonState.resetChangeFlag
        sensorState := parser.sensorState.resetChangeFlags })

/-- The result, the parser and the ring after the call. -/
def parseData (parser : WiimoteDataParser) (reports : WiimoteReports) :
    ℕ × WiimoteDataParser × WiimoteReports :=
  if reports.available = 0 then (0, parser, reports)
  else
    let (rd, reports) := reports.read
    let (result, parser) := parser.parseReport rd
    (result, parser, reports)

/-- The buttons that are pressed. -/
def getButtonState (parser : WiimoteDataParser) : ButtonState := parser.buttonState.getCurrent

/-- The accelerometer. -/
def getAccelState (parser : WiimoteDataParser) : AccelState := parser.sensorState.getAccel

/-- The Nunchuk. -/
def getNunchukState (parser : WiimoteDataParser) : NunchukState := parser.sensorState.getNunchuk

end WiimoteDataParser

/-! ## What a report says -/

/-- The report is long enough and an input report; any other is dropped. -/
def IsInputReport (rd : TinyWiimoteData) : Prop := 4 ≤ rd.len ∧ byteAt rd 0 = 0xA1

instance (rd : TinyWiimoteData) : Decidable (IsInputReport rd) := inferInstanceAs (Decidable (_ ∧ _))

/-- The report carries the two bytes of the core buttons. -/
def HasCoreButtons (rd : TinyWiimoteData) : Prop := 0x30 ≤ byteAt rd 1 ∧ byteAt rd 1 ≤ 0x37

instance (rd : TinyWiimoteData) : Decidable (HasCoreButtons rd) := inferInstanceAs (Decidable (_ ∧ _))

/-- The two bytes as they are. -/
def coreButtons (rd : TinyWiimoteData) : ButtonState :=
  (((byteAt rd 2).toUInt16 <<< 8) ||| (byteAt rd 3).toUInt16).toUInt32

/-- Those of C and Z that are held down. -/
def nunchukButtons (rd : TinyWiimoteData) : ButtonState :=
  let offs := WiimoteDataParser.nunchukOffset (byteAt rd 1)
  if offs = 0 then 0
  else
    (if ((byteAt rd (offs + 5) &&& 0x02) >>> 1) ^^^ 0x01 ≠ 0 then kButtonC else 0) |||
      if (byteAt rd (offs + 5) &&& 0x01) ^^^ 0x01 ≠ 0 then kButtonZ else 0

/-- The accelerometer as a report gives it. -/
def reportedAccel (rd : TinyWiimoteData) : AccelState :=
  let offs := WiimoteDataParser.accelOffset (byteAt rd 1)
  if offs = 0 then {}
  else { xAxis := byteAt rd offs, yAxis := byteAt rd (offs + 1), zAxis := byteAt rd (offs + 2) }

/-- The Nunchuk as a report gives it. -/
def reportedNunchuk (rd : TinyWiimoteData) : NunchukState :=
  let offs := WiimoteDataParser.nunchukOffset (byteAt rd 1)
  if offs = 0 then {}
  else
    { xStick := byteAt rd offs, yStick := byteAt rd (offs + 1), xAxis := byteAt rd (offs + 2)
      yAxis := byteAt rd (offs + 3), zAxis := byteAt rd (offs + 4) }

/-- The buttons after the core buttons were taken over. -/
def sampledButtons (rd : TinyWiimoteData) (before : ButtonState) : ButtonState :=
  if HasCoreButtons rd then coreButtons rd else before

/-- The buttons after the report. -/
def buttonsAfter (rd : TinyWiimoteData) (before : ButtonState) : ButtonState :=
  sampledButtons rd before ||| nunchukButtons rd

/-- A report with a Nunchuk has core buttons. -/
theorem hasCoreButtons_of_nunchukOffset {rd : TinyWiimoteData}
    (h : WiimoteDataParser.nunchukOffset (byteAt rd 1) ≠ 0) : HasCoreButtons rd := by
  rw [WiimoteDataParser.nunchukOffset] at h
  rw [HasCoreButtons]
  split_ifs at h with htype htype'
  · rw [htype]
    decide
  · rw [htype']
    decide
  · exact absurd rfl h

/-- The core buttons are in the low sixteen bits. -/
theorem toNat_coreButtons_lt (rd : TinyWiimoteData) : (coreButtons rd).toNat < 0x10000 := by
  rw [coreButtons, UInt16.toNat_toUInt32]
  exact UInt16.toNat_lt _

/-- The Nunchuk's buttons are above them. -/
theorem toNat_nunchukButtons_ge {rd : TinyWiimoteData} (h : nunchukButtons rd ≠ 0) :
    0x10000 ≤ (nunchukButtons rd).toNat := by
  rw [nunchukButtons] at h ⊢
  split at h
  · exact absurd rfl h
  next hoffs =>
    rw [if_neg hoffs]
    revert h
    split <;> split <;> decide

/-- The buttons of the Nunchuk always show beside the core buttons. -/
theorem coreButtons_or_ne {rd : TinyWiimoteData} (h : nunchukButtons rd ≠ 0) :
    coreButtons rd ||| nunchukButtons rd ≠ coreButtons rd := by
  intro heq
  have hcore := toNat_coreButtons_lt rd
  have hnunchuk := toNat_nunchukButtons_ge h
  have hle : (nunchukButtons rd).toNat ≤ (coreButtons rd ||| nunchukButtons rd).toNat := by
    rw [UInt32.toNat_or]
    exact Nat.right_le_or
  rw [heq] at hle
  omega

/-- A report with Nunchuk buttons has core buttons. -/
theorem hasCoreButtons_of_nunchukButtons {rd : TinyWiimoteData} (h : nunchukButtons rd ≠ 0) :
    HasCoreButtons rd := by
  apply hasCoreButtons_of_nunchukOffset
  intro hoffs
  apply h
  rw [nunchukButtons]
  exact if_pos hoffs

namespace WiimoteDataParser

variable (parser : WiimoteDataParser) {rd : TinyWiimoteData}

/-- A report that is no input report is not parsed. -/
theorem parseReport_of_not_input (h : ¬IsInputReport rd) : parser.parseReport rd = (0, parser) := by
  rw [parseReport]
  split
  · rfl
  next hlen =>
    rw [if_pos]
    exact fun hfront => h ⟨UInt8.not_lt.mp hlen, hfront⟩

/-- The button part of the parser samples the core buttons. -/
theorem parseButtonData_eq : parser.parseButtonData rd =
    ({ parser with buttonState := parser.buttonState.update (sampledButtons rd parser.buttonState.current) },
      if !hasFilterFlag parser.filter kFilterButton &&
          sampledButtons rd parser.buttonState.current != parser.buttonState.previous then 1 else 0) := by
  by_cases hcore : HasCoreButtons rd
  · have hcore' : byteAt rd 1 ≥ 0x30 ∧ byteAt rd 1 ≤ 0x37 := hcore
    simp only [parseButtonData, sampledButtons, if_pos hcore, if_pos hcore']
    rfl
  · have hcore' : ¬(byteAt rd 1 ≥ 0x30 ∧ byteAt rd 1 ≤ 0x37) := hcore
    simp only [parseButtonData, sampledButtons, if_neg hcore, if_neg hcore']
    rfl

/-- The accelerometer part takes what the report gives. -/
theorem parseAccelData_fst : (parser.parseAccelData rd).1 =
    { parser with sensorState := parser.sensorState.updateAccel (reportedAccel rd) } := by
  by_cases hoffs : accelOffset (byteAt rd 1) = 0
  · simp only [parseAccelData, reportedAccel, hoffs]
    rfl
  · simp only [parseAccelData, reportedAccel, hoffs, ne_eq, not_false_eq_true, if_true, if_false]
    rfl

/-- The Nunchuk part takes what the report gives, and adds its buttons. -/
theorem parseNunchukData_fst (flags : ChangeFlags) : (parser.parseNunchukData rd flags).1 =
    { parser with
      buttonState := parser.buttonState.update (parser.buttonState.current ||| nunchukButtons rd)
      sensorState := parser.sensorState.updateNunchuk (reportedNunchuk rd) } := by
  by_cases hoffs : nunchukOffset (byteAt rd 1) = 0
  · simp only [parseNunchukData, nunchukButtons, reportedNunchuk, hoffs, ne_eq, not_true_eq_false,
      if_false, if_true, UInt32.or_zero]
    rfl
  · simp only [parseNunchukData, nunchukButtons, reportedNunchuk, hoffs, ne_eq, not_false_eq_true,
      if_true, if_false, buttonStateOr, ButtonStateManager.getCurrent]
    congr 2
    split <;> split <;> simp [UInt32.or_assoc]

/-- A report that is looked at sets the buttons and the sensors to what it says. -/
theorem parseReport_of_input (h : IsInputReport rd) :
    (parser.parseReport rd).2 =
      { buttonState :=
          ⟨buttonsAfter rd parser.buttonState.current, buttonsAfter rd parser.buttonState.current⟩
        sensorState :=
          { parser.sensorState with
            currentAccel := reportedAccel rd
            previousAccel := reportedAccel rd
            currentNunchuk := reportedNunchuk rd
            previousNunchuk := reportedNunchuk rd }
        filter := parser.filter } := by
  have hlen : ¬rd.len < 4 := UInt8.not_lt.mpr h.1
  have hfront : ¬byteAt rd 0 ≠ 0xA1 := not_not_intro h.2
  simp only [parseReport, if_neg hlen, if_neg hfront, parseButtonData_eq, parseAccelData_fst,
    parseNunchukData_fst]
  rfl

/-- With the sensors filtered out the result is the change of the buttons at the time they were
sampled. -/
theorem parseReport_fst_of_filtered (h : IsInputReport rd)
    (hbutton : hasFilterFlag parser.filter kFilterButton = false)
    (haccel : hasFilterFlag parser.filter kFilterAccel = true)
    (hstick : hasFilterFlag parser.filter kFilterNunchukStick = true) :
    (parser.parseReport rd).1 =
      if sampledButtons rd parser.buttonState.current = parser.buttonState.previous then 0 else 1 := by
  have hlen : ¬rd.len < 4 := UInt8.not_lt.mpr h.1
  have hfront : ¬byteAt rd 0 ≠ 0xA1 := not_not_intro h.2
  have hunaccelerated (p : WiimoteDataParser) (hp : p.filter = parser.filter) :
      (p.parseAccelData rd).2 = 0 := by
    simp only [parseAccelData, hp, haccel]
    split <;> rfl
  have hsteady (p : WiimoteDataParser) (hp : p.filter = parser.filter) (flags : ChangeFlags) :
      (p.parseNunchukData rd flags).2 = flags := by
    simp only [parseNunchukData, hp, haccel, hstick]
    split <;> rfl
  simp only [parseReport, if_neg hlen, if_neg hfront, parseButtonData_eq, parseAccelData_fst,
    hunaccelerated, hsteady, hbutton]
  simp

end WiimoteDataParser

end Esp32Wiimote.Input
