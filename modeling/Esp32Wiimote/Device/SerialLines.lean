import Esp32Wiimote.Device.Refinement
import Esp32Wiimote.Library.LineAssembly

/-!
# The lines of the serial port

Bytes become available between tasks, and a task reads them up to the end of a line. What
a task hands on, a line to run or the answer that a line is too long, depends on the stream of
bytes alone and not on how the stream is cut, as long as serial control stays on and every task
finds the Bluetooth controller started.
-/

namespace Esp32Wiimote.Device

open Bluetooth CText LineAssembly Serial StateProgram TransitionRun

/-! ## Answering a line -/

/-- What is made of a line: it is run, or answered as too long. -/
inductive LineAnswer
  | run (line : CString)
  | lineTooLong
  deriving DecidableEq

/-- What answering a line does. -/
def LineAnswer.carryOut : LineAnswer → Esp32M (List SerialTargetCall)
  | .run line => processSerialCommandLine line
  | .lineTooLong => do
    println (serialFormatParseResult kSerialResponseBufSize .LineTooLong).2
    return []

/-- The answer to the line read so far; an empty line has none. -/
def ESP32Wiimote.lineAnswer (d : ESP32Wiimote) : Option LineAnswer :=
  if d.serialInputOverflow then some .lineTooLong
  else if d.serialInputLine ≠ [] then some (.run (cStringAt d.serialInputLine 0))
  else none

/-- The device that has read some bytes of a line. -/
def ESP32Wiimote.feedSerialBytes (d : ESP32Wiimote) (bytes : List UInt8) : ESP32Wiimote :=
  bytes.foldl (fun d ch => feedSerialByte ch d) d

/-- The bytes up to the end of a line, and those behind it, `none` where no line ends. -/
def readLine : List UInt8 → List UInt8 × Option (List UInt8)
  | [] => ([], none)
  | ch :: rest =>
    if ch = 0x0A then ([], some rest) else (ch :: (readLine rest).1, (readLine rest).2)

/-- The answer that serial control gives. -/
def Esp32World.lineAnswer (w : Esp32World) : Option LineAnswer :=
  (readLine w.serialIn).2.bind fun _ =>
    (w.device.feedSerialBytes (readLine w.serialIn).1).lineAnswer

/-- Serial control carries out the answer to its line, and nothing without one. -/
theorem exec_answerSerialLine (w : Esp32World) :
    exec answerSerialLine w = w.device.lineAnswer.elim ([], w) fun answer => exec answer.carryOut w := by
  unfold answerSerialLine ESP32Wiimote.lineAnswer
  rw [exec_get_bind, exec_ite, exec_ite]
  split
  · rfl
  · split
    · rfl
    · rfl

/-- A line behind which nothing ends is read but not answered. -/
theorem exec_readSerialBytes (bytes : List UInt8) (w : Esp32World) :
    exec (readSerialBytes bytes) w =
      match (readLine bytes).2 with
      | none => ([], { w with device := w.device.feedSerialBytes (readLine bytes).1, serialIn := [] })
      | some rest => exec finishSerialLine
          { w with device := w.device.feedSerialBytes (readLine bytes).1, serialIn := rest } := by
  induction bytes generalizing w with
  | nil => rfl
  | cons ch rest ih =>
    unfold readSerialBytes readLine
    rw [exec_ite]
    split
    · rfl
    · rw [exec_then, ih]
      rfl

/-- The world that has read up to the end of a line, or all there is. -/
def Esp32World.readPort (w : Esp32World) : Esp32World :=
  { w with device := w.device.feedSerialBytes (readLine w.serialIn).1
           serialIn := (readLine w.serialIn).2.getD [] }

/-- The world at the beginning of a line. -/
def Esp32World.newLine (w : Esp32World) : Esp32World :=
  { w with device := { w.device with serialInputLine := [], serialInputOverflow := false } }

/-- What serial control does for an answer: it reads up to the end of a line, carries out the
answer and starts a new line where one ended. -/
def Esp32World.serialEffect (w : Esp32World) (answer : Option LineAnswer) :
    List SerialTargetCall × Esp32World :=
  let carried := answer.elim ([], w.readPort) fun answer => exec answer.carryOut w.readPort
  (carried.1, if (readLine w.serialIn).2.isSome then carried.2.newLine else carried.2)

/-- Serial control carries out the answer that it gives, and does nothing else. -/
theorem exec_processSerialControl {w : Esp32World} (henabled : w.device.serialControlEnabled = true) :
    exec processSerialControl w = w.serialEffect w.lineAnswer := by
  unfold processSerialControl Esp32World.serialEffect Esp32World.lineAnswer Esp32World.readPort
  rw [exec_get_bind, henabled, if_pos rfl, exec_readSerialBytes]
  cases (readLine w.serialIn).2 with
  | none => rfl
  | some rest =>
    -- the line is answered in the world that has read it
    have hfinish (v : Esp32World) : exec finishSerialLine v =
        ((exec answerSerialLine v).1, (exec answerSerialLine v).2.newLine) := rfl
    dsimp only [Option.bind_some, Option.getD_some, Option.isSome_some]
    rw [hfinish, exec_answerSerialLine, if_pos rfl]

/-! ## The port -/

/-- Whether serial control is on, and the line read so far. -/
@[ext] structure SerialPort where
  enabled : Bool
  buffer : LineBuffer UInt8

/-- What the device holds of the line being read. -/
def ESP32Wiimote.serialPort (d : ESP32Wiimote) : SerialPort where
  enabled := d.serialControlEnabled
  buffer := ⟨d.serialInputLine, d.serialInputOverflow⟩

/-- The port with the bytes that wait at it. -/
abbrev Esp32World.portInput (w : Esp32World) : SerialPort × List UInt8 :=
  (w.device.serialPort, w.serialIn)

/-- The program does not touch the port. -/
abbrev SamePort {α : Type} (x : Esp32M α) : Prop := Within (Same Esp32World.portInput) x

/-- The port is part of what settings leave alone. -/
theorem port_of_settled {d d' : ESP32Wiimote} (h : d'.settled = d.settled) :
    d'.serialPort = d.serialPort := by
  have henabled := congrArg ESP32Wiimote.serialControlEnabled h
  have hline := congrArg ESP32Wiimote.serialInputLine h
  have hoverflow := congrArg ESP32Wiimote.serialInputOverflow h
  ext1
  · exact henabled
  · exact LineBuffer.ext hline hoverflow

instance : SettingRelation (Same Esp32World.portInput) where
  settings w _ hf := congrArg (·, w.serialIn) (port_of_settled (hf w.device))
  rxQueue _ _ := rfl
  initialized _ := rfl
  serialOut _ _ := rfl
  call _ _ _ := rfl

/-- An assignment that keeps the port keeps it. -/
theorem samePort_modifyDevice {f : ESP32Wiimote → ESP32Wiimote}
    (hf : ∀ d, (f d).serialPort = d.serialPort) : SamePort (modifyDevice f) :=
  Within.modify fun w => congrArg (·, w.serialIn) (hf w.device)

/-- So does a call of the device. -/
theorem samePort_callDevice {f : ESP32Wiimote → Bool × ESP32Wiimote}
    (hf : ∀ d, (f d).2.serialPort = d.serialPort) : SamePort (callDevice f) :=
  Within.modifyGet fun w => congrArg (·, w.serialIn) (hf w.device)

/-- So does every program of the Bluetooth layer. -/
theorem samePort_liftTw {α : Type} (x : TwM α) : SamePort (liftTw x) := ⟨fun _ => rfl⟩

/-- So does setting the LEDs. -/
theorem samePort_setLeds (ledMask : UInt8) : SamePort (setLeds ledMask) :=
  Within.bind (samePort_liftTw _) fun _ => within_recordAccepted _ _

/-- So does setting the reporting mode. -/
theorem samePort_setReportingMode (mode : UInt8) (continuous : Bool) :
    SamePort (setReportingMode mode continuous) :=
  Within.bind (samePort_liftTw _) fun _ => within_recordAccepted _ _

/-- Applying a configuration keeps the port. -/
theorem port_applyRuntimeConfig (order : CopyOrder) (config : ESP32WiimoteConfig)
    (d : ESP32Wiimote) : (d.applyRuntimeConfig order config).serialPort = d.serialPort := by
  unfold ESP32Wiimote.applyRuntimeConfig ESP32Wiimote.applyAuthConfig
  dsimp only
  split_ifs <;> rfl

/-- So does a new network. -/
theorem port_updateWifiNetworkCredentials (order : CopyOrder) (ssid password : CharPtr)
    (d : ESP32Wiimote) :
    (d.updateWifiNetworkCredentials order ssid password).2.serialPort = d.serialPort := by
  unfold ESP32Wiimote.updateWifiNetworkCredentials
  split <;> rfl

/-- So does the call that gives one. -/
theorem samePort_updateWifiNetworkCredentials (ssid password : CharPtr) :
    SamePort (updateWifiNetworkCredentials ssid password) :=
  Within.get_bind fun w =>
    samePort_callDevice (port_updateWifiNetworkCredentials w.platform.copyOrder ssid password)

/-- So does a new token. -/
theorem port_updateWifiApiToken (token : CharPtr) (d : ESP32Wiimote) :
    (d.updateWifiApiToken token).2.serialPort = d.serialPort := by
  unfold ESP32Wiimote.updateWifiApiToken
  split <;> rfl

/-- No call of a serial command touches the port. -/
theorem samePort_serialTargetCall (call : SerialTargetCall) : SamePort (serialTargetCall call) := by
  cases call with
  | setLeds ledMask => exact samePort_setLeds ledMask
  | setReportingMode mode continuous => exact samePort_setReportingMode mode continuous
  | setAutoReconnectEnabled enabled =>
    exact Within.bind (within_setAutoReconnectEnabled enabled) fun _ => Within.pure _
  | setWifiDeliveryMode mode =>
    exact Within.ite _ (fun _ => Within.pure _) fun _ => Within.modifyGet fun _ => rfl
  | setWifiNetworkCredentials ssid password =>
    exact samePort_updateWifiNetworkCredentials _ _
  | setWifiApiToken token => exact samePort_callDevice (port_updateWifiApiToken _)
  | _ => exact ⟨fun _ => rfl⟩

/-- The calls of the public interface other than the one that switches serial control. -/
theorem PublicCall.samePort_run {c : PublicCall} (hc : ∀ enabled, c ≠ .enableSerialControl enabled) :
    SamePort c.run := by
  cases c with
  | configure config =>
    exact Within.get_bind fun w => samePort_modifyDevice (port_applyRuntimeConfig _ config)
  | updateWifiNetworkCredentials ssid password =>
    exact (samePort_updateWifiNetworkCredentials ssid password).discard
  | updateWifiApiToken token =>
    exact (samePort_callDevice (port_updateWifiApiToken _)).discard
  | init => exact Within.discard within_init
  | available =>
    exact Within.get_bind fun w =>
      Within.ite _ (fun _ => Within.pure _) fun _ => (samePort_liftTw _).discard
  | setLeds ledMask => exact (samePort_setLeds ledMask).discard
  | setReportingMode mode continuous => exact (samePort_setReportingMode mode continuous).discard
  | setAutoReconnectEnabled enabled => exact within_setAutoReconnectEnabled enabled
  | enableSerialControl enabled => exact absurd rfl (hc enabled)
  | addFilter filter =>
    exact Within.ite _ (fun _ => samePort_liftTw _) fun _ => Within.pure _
  | _ => exact ⟨fun _ => rfl⟩

/-- Nor does answering a line. -/
theorem samePort_carryOut (answer : LineAnswer) : SamePort answer.carryOut := by
  cases answer with
  | lineTooLong => exact ⟨fun _ => rfl⟩
  | run line =>
    refine ⟨fun w => ?_⟩
    change (w.runSerialCommandLine line).target.device.portInput = w.portInput
    rcases Serial.processSerialCommandLine_outcome esp32SerialDevice line w.platform.millis
      w.serialControl with htarget | ⟨call, htarget⟩
    · have hdevice : (w.runSerialCommandLine line).target.device = w :=
        congrArg TargetState.device htarget
      rw [hdevice]
    · have hdevice : (w.runSerialCommandLine line).target.device =
          (exec (serialTargetCall call) w).2 := congrArg TargetState.device htarget
      rw [hdevice]
      exact (samePort_serialTargetCall call).rel w

/-- Nor does handling the received packets. -/
theorem samePort_processRxQueue : SamePort processRxQueue := by
  apply Within.get_bind
  intro w
  split
  · exact Within.bind ⟨fun _ => rfl⟩ fun _ => samePort_liftTw _
  · exact Within.pure _

/-- Nor does anything a task does before serial control. -/
theorem portInput_beforeSerial (w : Esp32World) : w.beforeSerial.portInput = w.portInput :=
  samePort_processRxQueue.rel _

/-! ## Reading a line -/

/-- What is left of some bytes without the carriage returns. -/
abbrev withoutReturns (bytes : List UInt8) : List UInt8 := bytes.filter (· != 0x0D)

/-- The answer a line is to have. -/
def answerTo (line : CString) : Option LineAnswer :=
  if line = [] then none
  else if line.length ≤ kSerialMaxLineLength then some (.run line)
  else some .lineTooLong

/-- The port has read a line so far. -/
def ESP32Wiimote.HasRead (d : ESP32Wiimote) (line : List UInt8) : Prop :=
  d.serialPort = ⟨true, .ofLine kSerialMaxLineLength line⟩

/-- A byte is pushed onto the line, unless it is a carriage return. -/
theorem port_feedSerialByte (ch : UInt8) (d : ESP32Wiimote) :
    (feedSerialByte ch d).serialPort =
      if ch = 0x0D then d.serialPort
      else { d.serialPort with buffer := d.serialPort.buffer.push kSerialMaxLineLength ch } := by
  unfold feedSerialByte LineBuffer.push ESP32Wiimote.serialPort
  dsimp only
  split_ifs <;> rfl

/-- Bytes that are fed are read behind the line so far. -/
theorem ESP32Wiimote.HasRead.feedSerialBytes {d : ESP32Wiimote} {line : List UInt8} (h : d.HasRead line)
    (bytes : List UInt8) : (d.feedSerialBytes bytes).HasRead (line ++ withoutReturns bytes) := by
  induction bytes generalizing d line with
  | nil => rwa [withoutReturns, List.filter_nil, List.append_nil]
  | cons ch rest ih =>
    have hfed := port_feedSerialByte ch d
    by_cases hreturn : ch = 0x0D
    · rw [if_pos hreturn] at hfed
      subst hreturn
      exact ih (hfed.trans h)
    · rw [if_neg hreturn, h, LineBuffer.push_ofLine] at hfed
      have hrest := ih (d := feedSerialByte ch d) hfed
      rwa [List.append_assoc, List.singleton_append,
        ← List.filter_cons_of_pos (p := (· != 0x0D)) (bne_iff_ne.mpr hreturn)] at hrest

/-- A line that was read is answered by its text. -/
theorem ESP32Wiimote.HasRead.lineAnswer {d : ESP32Wiimote} {line : List UInt8} (h : d.HasRead line)
    (hnul : 0 ∉ line) : d.lineAnswer = answerTo line := by
  have hstored := congrArg (fun port => port.buffer.stored) h
  have hoverflow := congrArg (fun port => port.buffer.overflow) h
  change d.serialInputLine = line.take _ at hstored
  change d.serialInputOverflow = decide _ at hoverflow
  unfold ESP32Wiimote.lineAnswer answerTo
  rw [hstored, hoverflow]
  by_cases hlong : kSerialMaxLineLength < line.length
  · have hne : line ≠ [] := List.ne_nil_of_length_pos (Nat.zero_lt_of_lt hlong)
    rw [if_pos (decide_eq_true hlong), if_neg hne, if_neg (Nat.not_le.mpr hlong)]
  · have hle := Nat.not_lt.mp hlong
    have htext : cStringAt line 0 = line := by
      rw [cStringAt, List.drop_zero, takeWhile_ne_nul hnul]
    rw [if_neg (by simpa using hlong), List.take_of_length_le hle, if_pos hle, htext]
    by_cases hempty : line = []
    · rw [if_neg (not_not.mpr hempty), if_pos hempty]
    · rw [if_pos hempty, if_neg hempty]

/-- Bytes without a line feed do not end the line. -/
theorem readLine_of_not_mem {bytes : List UInt8} (h : 0x0A ∉ bytes) : readLine bytes = (bytes, none) := by
  induction bytes with
  | nil => rfl
  | cons ch rest ih =>
    rw [List.mem_cons, not_or] at h
    rw [readLine, if_neg (Ne.symm h.1), ih h.2]

/-- The first line feed ends it. -/
theorem readLine_append_cons {line : List UInt8} (h : 0x0A ∉ line) (rest : List UInt8) :
    readLine (line ++ 0x0A :: rest) = (line, some rest) := by
  induction line with
  | nil => rfl
  | cons ch line ih =>
    rw [List.mem_cons, not_or] at h
    rw [List.cons_append, readLine, if_neg (Ne.symm h.1), ih h.2]

/-- The end of a line leaves an empty one. -/
theorem portInput_finishSerialLine (w : Esp32World) :
    (exec finishSerialLine w).2.portInput =
      (⟨w.device.serialControlEnabled, .ofLine kSerialMaxLineLength []⟩, w.serialIn) := by
  have hanswer : (exec answerSerialLine w).2.portInput = w.portInput := by
    rw [exec_answerSerialLine]
    cases w.device.lineAnswer with
    | none => rfl
    | some answer => exact (samePort_carryOut answer).rel w
  have henabled := congrArg (fun input => input.1.enabled) hanswer
  have hunread := congrArg Prod.snd hanswer
  exact Prod.ext (SerialPort.ext henabled rfl) hunread

/-- Serial control reads a line up to its end, or all there is. -/
theorem portInput_processSerialControl {w : Esp32World} {line : List UInt8}
    (h : w.device.HasRead line) :
    (exec processSerialControl w).2.portInput =
      (⟨true, .ofLine kSerialMaxLineLength (if (readLine w.serialIn).2.isSome then []
        else line ++ withoutReturns (readLine w.serialIn).1)⟩, (readLine w.serialIn).2.getD []) := by
  have henabled : w.device.serialControlEnabled = true := congrArg SerialPort.enabled h
  have hfed := h.feedSerialBytes (readLine w.serialIn).1
  unfold processSerialControl
  rw [exec_get_bind, henabled, if_pos rfl, exec_readSerialBytes]
  cases (readLine w.serialIn).2 with
  | none => exact congrArg (·, []) hfed
  | some rest =>
    have henabled' := congrArg SerialPort.enabled hfed
    rw [portInput_finishSerialLine]
    exact Prod.ext (SerialPort.ext henabled' rfl) rfl

/-! ## Steps -/

/-- The answer that a task gives to a line. -/
def Esp32World.taskAnswer (w : Esp32World) : Option LineAnswer :=
  if w.isStarted && w.beforeSerial.device.serialControlEnabled then w.beforeSerial.lineAnswer
  else none

/-- The answer that a step gives. -/
def Esp32World.stepAnswer (w : Esp32World) (e : Esp32Event) : Option LineAnswer :=
  match e.action with
  | .task => (w.enter e.platform).taskAnswer
  | _ => none

/-- The bytes that become available. -/
def Esp32Event.received (e : Esp32Event) : List UInt8 :=
  match e.action with
  | .serialReceived bytes => bytes
  | _ => []

/-- Serial control stays on, and a task finds the Bluetooth controller started. -/
def Steady (w : Esp32World) (e : Esp32Event) : Prop :=
  (w.step e).device.serialControlEnabled = true ∧
    (e.action.isTask = true → (w.enter e.platform).isStarted = true)

instance (w : Esp32World) (e : Esp32Event) : Decidable (Steady w e) :=
  inferInstanceAs (Decidable (_ ∧ _))

/-- The line read so far is not terminated, and there is no NUL in it or behind it. -/
structure Esp32World.Reading (w : Esp32World) (line : List UInt8) : Prop where
  hasRead : w.device.HasRead line
  noEnd : 0x0A ∉ line
  noNul : 0 ∉ line
  unread : 0 ∉ w.serialIn

section Step

variable {w : Esp32World} {e : Esp32Event} {line : List UInt8}

/-- Only a task reads from the port. -/
theorem portInput_step_of_not_task (htask : e.action.isTask = false) (hsteady : Steady w e)
    (henabled : w.device.serialControlEnabled = true) :
    (w.step e).portInput = (w.device.serialPort, w.serialIn ++ e.received) := by
  obtain ⟨action, platform⟩ := e
  have hquiet {x : Esp32M Unit} (h : SamePort x) :
      (exec x (w.enter platform)).2.portInput = (w.device.serialPort, w.serialIn ++ []) := by
    rw [List.append_nil]
    exact h.rel (w.enter platform)
  cases action with
  | call c =>
    by_cases hc : ∃ enabled, c = .enableSerialControl enabled
    · obtain ⟨enabled, rfl⟩ := hc
      cases enabled with
      | false => exact Bool.noConfusion hsteady.1
      | true =>
        exact Prod.ext (SerialPort.ext henabled.symm rfl) (List.append_nil w.serialIn).symm
    · exact hquiet (PublicCall.samePort_run fun enabled heq => hc ⟨enabled, heq⟩)
  | task => exact Bool.noConfusion htask
  | dispatch begins => exact hquiet ⟨fun _ => rfl⟩
  | hciReceived packet =>
    refine hquiet (Within.modify fun w => ?_)
    split <;> rfl
  | sendAvailable =>
    exact hquiet (Within.get_bind fun w =>
      Within.ite _ (fun _ => Within.pure _) fun _ => samePort_liftTw _)
  | serialReceived bytes => rfl

/-- A task reads a line up to its end, or all there is. -/
theorem portInput_step_of_task (htask : e.action.isTask = true) (hsteady : Steady w e)
    (h : w.device.HasRead line) :
    (w.step e).portInput =
      (⟨true, .ofLine kSerialMaxLineLength (if (readLine w.serialIn).2.isSome then []
        else line ++ withoutReturns (readLine w.serialIn).1)⟩, (readLine w.serialIn).2.getD []) := by
  obtain ⟨action, platform⟩ := e
  cases action with
  | task =>
    have hbefore := portInput_beforeSerial (w.enter platform)
    have hport : (w.enter platform).beforeSerial.device.HasRead line :=
      (congrArg Prod.fst hbefore).trans h
    have hunread : (w.enter platform).beforeSerial.serialIn = w.serialIn := congrArg Prod.snd hbefore
    change (w.enter platform).afterSerial.portInput = _
    rw [Esp32World.afterSerial_of_started _ (hsteady.2 rfl), portInput_processSerialControl hport,
      hunread]
  | _ => exact Bool.noConfusion htask

/-- A line is part of what was received. -/
theorem mem_readLine {bytes : List UInt8} {ch : UInt8} (h : ch ∈ (readLine bytes).1) : ch ∈ bytes := by
  by_cases hmem : 0x0A ∈ bytes
  · obtain ⟨first, rest, rfl, hfirst⟩ := List.eq_append_cons_of_mem hmem
    rw [readLine_append_cons hfirst] at h
    exact List.mem_append_left _ h
  · rwa [readLine_of_not_mem hmem] at h

/-- A task answers the line that ends in its input, and none otherwise. -/
theorem stepAnswer_of_task (htask : e.action.isTask = true) (hsteady : Steady w e)
    (h : w.Reading line) :
    w.stepAnswer e = (readLine w.serialIn).2.bind fun _ =>
      answerTo (line ++ withoutReturns (readLine w.serialIn).1) := by
  obtain ⟨action, platform⟩ := e
  cases action with
  | task =>
    have hbefore := portInput_beforeSerial (w.enter platform)
    have hport : (w.enter platform).beforeSerial.device.HasRead line :=
      (congrArg Prod.fst hbefore).trans h.hasRead
    have hunread : (w.enter platform).beforeSerial.serialIn = w.serialIn := congrArg Prod.snd hbefore
    have henabled : (w.enter platform).beforeSerial.device.serialControlEnabled = true :=
      congrArg SerialPort.enabled hport
    have hnul : 0 ∉ line ++ withoutReturns (readLine w.serialIn).1 := by
      rw [List.mem_append, not_or]
      exact ⟨h.noNul, fun hmem => h.unread (mem_readLine (List.mem_of_mem_filter hmem))⟩
    change (w.enter platform).taskAnswer = _
    rw [Esp32World.taskAnswer, hsteady.2 rfl, henabled]
    change (w.enter platform).beforeSerial.lineAnswer = _
    rw [Esp32World.lineAnswer, hunread, (hport.feedSerialBytes _).lineAnswer hnul]
  | _ => exact Bool.noConfusion htask

end Step

/-! ## Runs -/

/-- The answers of a run, in order. -/
def lineAnswers : Esp32World → List Esp32Event → List LineAnswer
  | _, [] => []
  | w, e :: rest => (w.stepAnswer e).toList ++ lineAnswers (w.step e) rest

/-- The bytes that become available in a run. -/
def received (events : List Esp32Event) : List UInt8 := events.flatMap Esp32Event.received

/-- The answers to the complete lines of a stream. -/
def answersTo (stream : List UInt8) : List LineAnswer :=
  (completeLines 0x0A (withoutReturns stream)).filterMap answerTo

/-- The line up to its end is read, or all there is where no line ends. -/
def ReadsOneLine (before after : List UInt8) : Prop :=
  (0x0A ∉ before ∧ after = []) ∨ ∃ line, 0x0A ∉ line ∧ before = line ++ 0x0A :: after

/-- Reading to the end of a line reads at most one. -/
theorem ReadsOneLine.of_readLine (bytes : List UInt8) :
    ReadsOneLine bytes ((readLine bytes).2.getD []) := by
  by_cases hmem : 0x0A ∈ bytes
  · obtain ⟨first, rest, rfl, hfirst⟩ := List.eq_append_cons_of_mem hmem
    rw [readLine_append_cons hfirst]
    exact .inr ⟨first, hfirst, rfl⟩
  · rw [readLine_of_not_mem hmem]
    exact .inl ⟨hmem, rfl⟩

/-- The answers to the lines of a stream whose first line has begun already. -/
def answersFrom (line stream : List UInt8) : List LineAnswer :=
  (completeLines 0x0A (line ++ withoutReturns stream)).filterMap answerTo

/-- The answer to the first line comes first. -/
theorem answersFrom_append_cons {line first : List UInt8} (hline : 0x0A ∉ line) (hfirst : 0x0A ∉ first)
    (more : List UInt8) : answersFrom line (first ++ 0x0A :: more) =
      (answerTo (line ++ withoutReturns first)).toList ++ answersTo more := by
  have hend : 0x0A ∉ line ++ withoutReturns first := by
    rw [List.mem_append, not_or]
    exact ⟨hline, fun hmem => hfirst (List.mem_of_mem_filter hmem)⟩
  have hkept : line ++ withoutReturns (first ++ 0x0A :: more) =
      (line ++ withoutReturns first) ++ 0x0A :: withoutReturns more := by
    rw [withoutReturns, List.filter_append, List.filter_cons_of_pos (by decide), List.append_assoc]
  rw [answersFrom, hkept, completeLines_append_cons hend, List.filterMap_cons]
  cases answerTo (line ++ withoutReturns first) <;> rfl

/-- One step reads some bytes and answers the line they complete; what the line read so far and
the stream behind it are to have as answers stays the same. -/
theorem Esp32World.Reading.step {w : Esp32World} {e : Esp32Event} {line : List UInt8}
    (h : w.Reading line) (hsteady : Steady w e) (hnul : 0 ∉ e.received) :
    ∃ bytes line', w.serialIn ++ e.received = bytes ++ (w.step e).serialIn ∧
      (w.step e).Reading line' ∧ ∀ more,
        (w.stepAnswer e).toList ++ answersFrom line' more = answersFrom line (bytes ++ more) := by
  cases htask : e.action.isTask with
  | false =>
    have hport := portInput_step_of_not_task htask hsteady (congrArg SerialPort.enabled h.hasRead)
    have hunread : (w.step e).serialIn = w.serialIn ++ e.received := congrArg Prod.snd hport
    have hquiet : w.stepAnswer e = none := by
      obtain ⟨action, platform⟩ := e
      cases action with
      | task => exact Bool.noConfusion htask
      | _ => rfl
    refine ⟨[], line, by rw [hunread, List.nil_append], ⟨(congrArg Prod.fst hport).trans h.hasRead,
      h.noEnd, h.noNul, ?_⟩, fun more => by rw [hquiet]; rfl⟩
    rw [hunread, List.mem_append, not_or]
    exact ⟨h.unread, hnul⟩
  | true =>
    have hport := portInput_step_of_task htask hsteady h.hasRead
    have hanswer := stepAnswer_of_task htask hsteady h
    have hreceived : e.received = [] := by
      obtain ⟨action, platform⟩ := e
      cases action with
      | task => rfl
      | _ => exact Bool.noConfusion htask
    by_cases hmem : 0x0A ∈ w.serialIn
    · -- the line is completed
      obtain ⟨first, rest, hsplit, hfirst⟩ := List.eq_append_cons_of_mem hmem
      rw [hsplit, readLine_append_cons hfirst] at hport hanswer
      have hunread : (w.step e).serialIn = rest := congrArg Prod.snd hport
      have hnul' := h.unread
      rw [hsplit, List.mem_append, List.mem_cons, not_or, not_or] at hnul'
      refine ⟨first ++ [0x0A], [], ?_, ⟨congrArg Prod.fst hport, List.not_mem_nil, List.not_mem_nil, ?_⟩,
        fun more => ?_⟩
      · rw [hsplit, hreceived, hunread, List.append_nil, List.append_assoc, List.singleton_append]
      · rw [hunread]
        exact hnul'.2.2
      · rw [hanswer, List.append_assoc, List.singleton_append, answersFrom_append_cons h.noEnd hfirst]
        rfl
    · -- all there is belongs to the line
      rw [readLine_of_not_mem hmem] at hport hanswer
      have hunread : (w.step e).serialIn = [] := congrArg Prod.snd hport
      refine ⟨w.serialIn, line ++ withoutReturns w.serialIn, by rw [hreceived, hunread],
        ⟨congrArg Prod.fst hport, ?_, ?_, ?_⟩, fun more => ?_⟩
      · rw [List.mem_append, not_or]
        exact ⟨h.noEnd, fun hend => hmem (List.mem_of_mem_filter hend)⟩
      · rw [List.mem_append, not_or]
        exact ⟨h.noNul, fun hzero => h.unread (List.mem_of_mem_filter hzero)⟩
      · rw [hunread]
        exact List.not_mem_nil
      · rw [hanswer]
        change answersFrom _ more = _
        rw [answersFrom, answersFrom, List.append_assoc, ← List.filter_append]

/-- By induction on the run: what was consumed has been answered, and the rest waits at the port. -/
theorem Esp32World.Reading.run {w : Esp32World} {events : List Esp32Event} {line : List UInt8}
    (h : w.Reading line) (hsteady : EveryStep Steady Esp32World.step w events)
    (hnul : 0 ∉ received events) :
    ∃ consumed, w.serialIn ++ received events =
        consumed ++ (runFrom Esp32World.step w events).serialIn ∧
      lineAnswers w events = answersFrom line consumed := by
  induction events generalizing w line with
  | nil =>
    refine ⟨[], List.append_nil _, ?_⟩
    rw [answersFrom, withoutReturns, List.filter_nil, List.append_nil,
      completeLines_of_not_mem h.noEnd]
    rfl
  | cons e rest ih =>
    rw [received, List.flatMap_cons, List.mem_append, not_or] at hnul
    obtain ⟨bytes, line', hbytes, hreading, hanswers⟩ := h.step hsteady.1 hnul.1
    obtain ⟨consumed, hconsumed, hrest⟩ := ih hreading hsteady.2 hnul.2
    refine ⟨bytes ++ consumed, ?_, ?_⟩
    · rw [received, List.flatMap_cons, ← List.append_assoc, hbytes, List.append_assoc,
        List.append_assoc]
      exact congrArg (bytes ++ ·) hconsumed
    · rw [lineAnswers, hrest]
      exact hanswers consumed

/-- Where no line ends in what waits at the port, every line of the stream has been answered. -/
theorem answersTo_append_of_not_mem (stream : List UInt8) {rest : List UInt8} (h : 0x0A ∉ rest) :
    answersTo (stream ++ rest) = answersTo stream := by
  rw [answersTo, withoutReturns, List.filter_append,
    completeLines_append_of_not_mem _ fun hmem => h (List.mem_of_mem_filter hmem)]
  rfl

/-- A task reads at most one line, and if a line ends at all it reads one. -/
theorem readsOneLine_of_task {w : Esp32World} {e : Esp32Event} {line : List UInt8}
    (htask : e.action.isTask = true) (hsteady : Steady w e) (h : w.device.HasRead line) :
    ReadsOneLine w.serialIn (w.step e).serialIn := by
  have hunread := congrArg Prod.snd (portInput_step_of_task htask hsteady h)
  change (w.step e).serialIn = _ at hunread
  rw [hunread]
  exact .of_readLine w.serialIn

/-- It takes one line feed out of the input, if there is one. -/
theorem ReadsOneLine.count {before after : List UInt8} (h : ReadsOneLine before after) :
    after.count 0x0A = before.count 0x0A - 1 := by
  rcases h with ⟨hnone, rfl⟩ | ⟨line, hline, rfl⟩
  · rw [List.count_eq_zero_of_not_mem hnone]
    rfl
  · rw [List.count_append, List.count_cons_self, List.count_eq_zero_of_not_mem hline]
    omega

/-- Each of some tasks reads one of the lines that wait at the port. -/
theorem Esp32World.Reading.count_tasks {w : Esp32World} {tasks : List Esp32Event} {line : List UInt8}
    (h : w.Reading line) (htasks : ∀ e ∈ tasks, e.action.isTask = true)
    (hsteady : EveryStep Steady Esp32World.step w tasks) :
    (runFrom Esp32World.step w tasks).serialIn.count 0x0A = w.serialIn.count 0x0A - tasks.length ∧
      received tasks = [] := by
  induction tasks generalizing w line with
  | nil => exact ⟨rfl, rfl⟩
  | cons e rest ih =>
    have htask := htasks e List.mem_cons_self
    have hreceived : e.received = [] := by
      obtain ⟨action, platform⟩ := e
      cases action with
      | task => rfl
      | _ => exact Bool.noConfusion htask
    have hcount := (readsOneLine_of_task htask hsteady.1 h.hasRead).count
    obtain ⟨bytes, line', -, hreading, -⟩ :=
      h.step hsteady.1 (by rw [hreceived]; exact List.not_mem_nil)
    obtain ⟨hrest, hnone⟩ :=
      ih hreading (fun e he => htasks e (List.mem_cons_of_mem _ he)) hsteady.2
    refine ⟨?_, ?_⟩
    · change (runFrom Esp32World.step (w.step e) rest).serialIn.count 0x0A = _
      rw [hrest, hcount, List.length_cons]
      omega
    · rw [received, List.flatMap_cons, hreceived]
      exact hnone

/-! ## The law -/

/-- The answers are those to the complete lines of the bytes consumed, and serial control carries
out the answer of its task and does nothing else. A task reads at most one line, and once as many
tasks have followed as lines wait, every line of the stream is answered. -/
structure AssemblesLines (w : Esp32World) (events : List Esp32Event) : Prop where
  consumed : ∃ consumed, w.serialIn ++ received events =
    consumed ++ (runFrom Esp32World.step w events).serialIn ∧ lineAnswers w events = answersTo consumed
  carriedOut : ∀ before e after, events = before ++ e :: after → e.action.isTask = true →
    let v := (runFrom Esp32World.step w before).enter e.platform
    let effect := v.beforeSerial.serialEffect ((runFrom Esp32World.step w before).stepAnswer e)
    v.serialCalls = effect.1 ∧
      runFrom Esp32World.step w (before ++ [e]) = (exec processWifiControl effect.2).2
  oneLine : ∀ before e after, events = before ++ e :: after → e.action.isTask = true →
    ReadsOneLine (runFrom Esp32World.step w before).serialIn
      (runFrom Esp32World.step w (before ++ [e])).serialIn
  complete : ∀ tasks, (∀ e ∈ tasks, e.action.isTask = true) →
    EveryStep Steady Esp32World.step (runFrom Esp32World.step w events) tasks →
    (runFrom Esp32World.step w events).serialIn.count 0x0A ≤ tasks.length →
    lineAnswers w (events ++ tasks) = answersTo (w.serialIn ++ received events)

/-- A task carries out its answer, and the startup step of Wi-Fi follows. -/
theorem carriesOut_of_task {w : Esp32World} {e : Esp32Event} {line : List UInt8}
    (htask : e.action.isTask = true) (hsteady : Steady w e) (h : w.device.HasRead line) :
    let effect := (w.enter e.platform).beforeSerial.serialEffect (w.stepAnswer e)
    (w.enter e.platform).serialCalls = effect.1 ∧
      w.step e = (exec processWifiControl effect.2).2 := by
  obtain ⟨action, platform⟩ := e
  cases action with
  | task =>
    have hstarted : (w.enter platform).isStarted = true := hsteady.2 rfl
    have hport : (w.enter platform).beforeSerial.device.HasRead line :=
      (congrArg Prod.fst (portInput_beforeSerial (w.enter platform))).trans h
    have henabled : (w.enter platform).beforeSerial.device.serialControlEnabled = true :=
      congrArg SerialPort.enabled hport
    have hanswer : w.stepAnswer ⟨.task, platform⟩ = (w.enter platform).beforeSerial.lineAnswer := by
      change (w.enter platform).taskAnswer = _
      rw [Esp32World.taskAnswer, hstarted, henabled]
      rfl
    dsimp only
    rw [hanswer, ← exec_processSerialControl henabled]
    refine ⟨?_, ?_⟩
    · rw [Esp32World.serialCalls, if_pos hstarted]
    · rw [← Esp32World.afterSerial_of_started _ hstarted]
      exact exec_task (w.enter platform)
  | _ => exact Bool.noConfusion htask

/-- A run without NUL leaves some line being read. -/
theorem Esp32World.Reading.after_run {w : Esp32World} {events : List Esp32Event} {line : List UInt8}
    (h : w.Reading line) (hsteady : EveryStep Steady Esp32World.step w events)
    (hnul : 0 ∉ received events) :
    ∃ line', (runFrom Esp32World.step w events).Reading line' := by
  induction events generalizing w line with
  | nil => exact ⟨line, h⟩
  | cons e rest ih =>
    rw [received, List.flatMap_cons, List.mem_append, not_or] at hnul
    obtain ⟨-, line', -, hreading, -⟩ := h.step hsteady.1 hnul.1
    exact ih hreading hsteady.2 hnul.2

/-- From an empty line on, however the bytes become available, the lines that are run and those
that are too long are the complete lines of the stream, in order. -/
theorem serial_lines_assembled {w : Esp32World} (hempty : w.device.HasRead []) {events : List Esp32Event}
    (hsteady : EveryStep Steady Esp32World.step w events)
    (hnul : 0 ∉ w.serialIn ++ received events) : AssemblesLines w events := by
  rw [List.mem_append, not_or] at hnul
  have hreading : w.Reading [] := ⟨hempty, List.not_mem_nil, List.not_mem_nil, hnul.1⟩
  -- every step of the run starts with some line read so far
  have hat (before : List Esp32Event) (e : Esp32Event) (after : List Esp32Event)
      (hevents : events = before ++ e :: after) :
      Steady (runFrom Esp32World.step w before) e ∧
        ∃ line, (runFrom Esp32World.step w before).Reading line := by
    rw [hevents] at hsteady hnul
    have hsplit := (everyStep_append w before (e :: after)).mp hsteady
    refine ⟨hsplit.2.1, hreading.after_run hsplit.1 fun hmem => hnul.2 ?_⟩
    rw [received, List.flatMap_append]
    exact List.mem_append_left _ hmem
  have hconcat (before : List Esp32Event) (e : Esp32Event) :
      runFrom Esp32World.step w (before ++ [e]) = (runFrom Esp32World.step w before).step e :=
    List.foldl_append
  refine ⟨hreading.run hsteady hnul.2, ?_, ?_, ?_⟩
  · intro before e after hevents htask
    obtain ⟨hstep, line, hline⟩ := hat before e after hevents
    rw [hconcat]
    exact carriesOut_of_task htask hstep hline.hasRead
  · intro before e after hevents htask
    obtain ⟨hstep, line, hline⟩ := hat before e after hevents
    rw [hconcat]
    exact readsOneLine_of_task htask hstep hline.hasRead
  · intro tasks htasks hsteady' hcount
    obtain ⟨line, hline⟩ := hreading.after_run hsteady hnul.2
    obtain ⟨hleft, hnone⟩ := hline.count_tasks htasks hsteady'
    have hreceived : received (events ++ tasks) = received events := by
      rw [received, List.flatMap_append]
      change received events ++ received tasks = _
      rw [hnone, List.append_nil]
    obtain ⟨consumed, hconsumed, hanswers⟩ := hreading.run
      ((everyStep_append w events tasks).mpr ⟨hsteady, hsteady'⟩) (by rw [hreceived]; exact hnul.2)
    have hread : 0x0A ∉ (runFrom Esp32World.step w (events ++ tasks)).serialIn := by
      rw [runFrom, List.foldl_append]
      apply List.count_eq_zero.mp
      rw [hleft]
      omega
    rw [hanswers, ← hreceived, hconsumed, answersTo_append_of_not_mem consumed hread]
    rfl

/-- A device that has been initialised, with serial control on. -/
def listening : Esp32World :=
  runFrom Esp32World.step (.construct {}) [⟨.call .init, {}⟩, ⟨.call (.enableSerialControl true), {}⟩]

/-- Two lines cut in the middle of one, an empty line and a line of 129 bytes. -/
def cutLines : List Esp32Event :=
  [⟨.serialReceived (ascii "wm sta"), {}⟩, ⟨.task, {}⟩, ⟨.serialReceived (ascii "tus\r\n\nwm"), {}⟩,
    ⟨.task, {}⟩, ⟨.task, {}⟩, ⟨.serialReceived (ascii " led 1\n" ++ List.replicate 129 0x78), {}⟩,
    ⟨.task, {}⟩, ⟨.serialReceived (ascii "\n"), {}⟩, ⟨.task, {}⟩, ⟨.task, {}⟩]

/-- Three lines cut into pieces are answered one by one, the one too long among them. -/
theorem serial_lines_assembled_cutLines :
    lineAnswers listening cutLines =
        [.run (ascii "wm status"), .run (ascii "wm led 1"), .lineTooLong] ∧
      AssemblesLines listening cutLines :=
  ⟨by decide +kernel, serial_lines_assembled (w := listening) rfl (by decide +kernel) (by decide +kernel)⟩

end Esp32Wiimote.Device
