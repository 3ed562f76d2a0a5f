import Esp32Wiimote.Input.DataParser
import Esp32Wiimote.Bluetooth.Session

/-!
# Changes of the buttons

The change of a report is sampled after its core buttons were taken over and before those of the
Nunchuk are added; what later reports are measured against holds both. A run queues reports and
parses them, in any order.
-/

namespace Esp32Wiimote.Input

open Bluetooth TransitionRun

/-! ## Runs -/

/-- The parser and the queue it reads. -/
structure InputState where
  parser : WiimoteDataParser
  reports : WiimoteReports

/-- A report is queued, or the parser is called. -/
inductive InputEvent where
  | queued (number : UInt8) (data : BytePtr) (len : UInt8)
  | parsed

namespace InputState

/-- What an event does. -/
def step (s : InputState) : InputEvent → InputState
  | .queued number data len => { s with reports := s.reports.put number data len }
  | .parsed =>
    { parser := (s.parser.parseData s.reports).2.1, reports := (s.parser.parseData s.reports).2.2 }

/-- A new parser with this filter, in front of an empty ring. -/
def initial (filter : Int32) (nunchukStickThreshold : ℤ) : InputState where
  parser := { filter, sensorState := { nunchukStickThreshold } }
  reports := {}

/-- The report the next call consumes. -/
def next (s : InputState) : TinyWiimoteData := s.reports.read.1

/-- Between two calls nothing has changed. -/
structure Settled (filter : Int32) (s : InputState) : Prop where
  filter_eq : s.parser.filter = filter
  unchanged : s.parser.buttonState.previous = s.parser.buttonState.current

section Parse

variable {s : InputState}

/-- The result is that of the report parsed. -/
theorem parseData_fst (h : s.reports.available ≠ 0) :
    (s.parser.parseData s.reports).1 = (s.parser.parseReport s.next).1 := by
  rw [WiimoteDataParser.parseData, if_neg h]
  rfl

/-- A call of the parser takes one report, if there is one. -/
theorem parser_step_parsed :
    (s.step .parsed).parser =
      if s.reports.available = 0 then s.parser else (s.parser.parseReport s.next).2 := by
  rw [step, WiimoteDataParser.parseData]
  split <;> rfl

/-- The buttons a call leaves. -/
theorem buttonState_step_parsed (h : s.reports.available ≠ 0) :
    (s.step .parsed).parser.getButtonState =
      if IsInputReport s.next then buttonsAfter s.next s.parser.getButtonState
      else s.parser.getButtonState := by
  rw [parser_step_parsed, if_neg h]
  by_cases hinput : IsInputReport s.next
  · rw [if_pos hinput, s.parser.parseReport_of_input hinput]
    rfl
  · rw [if_neg hinput, s.parser.parseReport_of_not_input hinput]

/-- Every step settles the filter. -/
theorem Settled.step {filter : Int32} (h : Settled filter s) (e : InputEvent) :
    Settled filter (s.step e) := by
  cases e with
  | queued number data len => exact ⟨h.filter_eq, h.unchanged⟩
  | parsed =>
    by_cases hempty : s.reports.available = 0
    · have hparser : (s.step .parsed).parser = s.parser := by rw [parser_step_parsed, if_pos hempty]
      exact ⟨hparser ▸ h.filter_eq, hparser ▸ h.unchanged⟩
    · have hparser : (s.step .parsed).parser = (s.parser.parseReport s.next).2 := by
        rw [parser_step_parsed, if_neg hempty]
      by_cases hinput : IsInputReport s.next
      · rw [s.parser.parseReport_of_input hinput] at hparser
        exact ⟨hparser ▸ h.filter_eq, by rw [hparser]⟩
      · rw [s.parser.parseReport_of_not_input hinput] at hparser
        exact ⟨hparser ▸ h.filter_eq, hparser ▸ h.unchanged⟩

end Parse

end InputState

/-! ## Reported changes -/

/-- A call that consumes a report returns 1 exactly when it changes the buttons. -/
def ChangeReported (s : InputState) : InputEvent → Prop
  | .queued .. => True
  | .parsed => s.reports.available ≠ 0 →
    ((s.parser.parseData s.reports).1 = 1 ↔
      (s.step .parsed).parser.getButtonState ≠ s.parser.getButtonState)

/-- Where C or Z is held, the buttons before are neither the core buttons of the report alone nor
those with the held ones. -/
def SampledWhole (s : InputState) : InputEvent → Prop
  | .queued .. => True
  | .parsed => s.reports.available ≠ 0 → IsInputReport s.next → nunchukButtons s.next ≠ 0 →
    s.parser.getButtonState ≠ coreButtons s.next ∧
      s.parser.getButtonState ≠ coreButtons s.next ||| nunchukButtons s.next

instance (s : InputState) (e : InputEvent) : Decidable (ChangeReported s e) :=
  match e with
  | .queued .. => inferInstanceAs (Decidable True)
  | .parsed => inferInstanceAs (Decidable (_ → (_ ↔ _)))

instance (s : InputState) (e : InputEvent) : Decidable (SampledWhole s e) :=
  match e with
  | .queued .. => inferInstanceAs (Decidable True)
  | .parsed => inferInstanceAs (Decidable (_ → _ → _ → _ ∧ _))

/-- The change is sampled before the Nunchuk's buttons are added, which matters where they make the
difference. -/
theorem sampled_change_iff (rd : TinyWiimoteData) (before : ButtonState) :
    ((sampledButtons rd before ≠ before ↔ buttonsAfter rd before ≠ before) ↔
      (nunchukButtons rd ≠ 0 →
        before ≠ coreButtons rd ∧ before ≠ coreButtons rd ||| nunchukButtons rd)) := by
  by_cases hnunchuk : nunchukButtons rd = 0
  · simp [buttonsAfter, hnunchuk]
  · have hcore := hasCoreButtons_of_nunchukButtons hnunchuk
    have hshows := coreButtons_or_ne hnunchuk
    rw [buttonsAfter, sampledButtons, if_pos hcore]
    by_cases hsampled : before = coreButtons rd
    · subst hsampled
      simp [hshows, hnunchuk]
    · by_cases hafter : before = coreButtons rd ||| nunchukButtons rd
      · subst hafter
        simp [hshows.symm, hnunchuk]
      · exact iff_of_true (iff_of_true (Ne.symm hsampled) (Ne.symm hafter))
          fun _ => ⟨hsampled, hafter⟩

section Filtered

variable {filter : Int32} (hbutton : hasFilterFlag filter kFilterButton = false)
  (haccel : hasFilterFlag filter kFilterAccel = true)
  (hstick : hasFilterFlag filter kFilterNunchukStick = true)

include hbutton haccel hstick

/-- A change is reported exactly when the report was sampled whole. -/
theorem changeReported_iff {s : InputState} (hs : s.Settled filter) (e : InputEvent) :
    ChangeReported s e ↔ SampledWhole s e := by
  cases e with
  | queued number data len => exact Iff.rfl
  | parsed =>
    refine forall_congr' fun havailable => ?_
    rw [InputState.parseData_fst havailable, InputState.buttonState_step_parsed havailable]
    by_cases hinput : IsInputReport s.next
    · have hresult := s.parser.parseReport_fst_of_filtered hinput (hs.filter_eq ▸ hbutton)
        (hs.filter_eq ▸ haccel) (hs.filter_eq ▸ hstick)
      rw [hs.unchanged] at hresult
      rw [if_pos hinput, forall_prop_of_true hinput, ← sampled_change_iff, hresult]
      refine iff_congr ?_ Iff.rfl
      change (if sampledButtons s.next s.parser.getButtonState = s.parser.getButtonState then 0 else 1) = 1 ↔ _
      split
      next heq => exact iff_of_false Nat.zero_ne_one (not_not_intro heq)
      next hne => exact iff_of_true rfl hne
    · rw [if_neg hinput, s.parser.parseReport_of_not_input hinput]
      exact iff_of_true (iff_of_false Nat.zero_ne_one (not_not_intro rfl)) fun h => absurd h hinput

/-- In a run of queued and parsed reports every change of the buttons is reported, and nothing
else, exactly when every report is sampled whole. -/
theorem button_changes_reported_iff (nunchukStickThreshold : ℤ) (events : List InputEvent) :
    EveryStep ChangeReported InputState.step (.initial filter nunchukStickThreshold) events ↔
      EveryStep SampledWhole InputState.step (.initial filter nunchukStickThreshold) events :=
  everyStep_congr (I := InputState.Settled filter) (fun _ e _ hs => hs.step e)
    (fun _ e _ hs => changeReported_iff hbutton haccel hstick hs e) ⟨rfl, rfl⟩

end Filtered

/-- A report of these bytes is queued and parsed. -/
def reported (bytes : List UInt8) : List InputEvent :=
  [.queued 0x00 ⟨fun i => bytes.getD i 0x00, bytes.length, 0⟩ bytes.length.toUInt8, .parsed]

/-- A Nunchuk at rest with C held. -/
def heldC : List UInt8 := [0xA1, 0x32, 0x00, 0x00, 0x80, 0x80, 0x80, 0x80, 0x80, 0x01]

/-- C is pressed while no other button is, and nothing is reported. -/
theorem button_changes_not_always_reported :
    ¬∀ (filter : Int32) (nunchukStickThreshold : ℤ) (events : List InputEvent),
      hasFilterFlag filter kFilterButton = false → hasFilterFlag filter kFilterAccel = true →
        hasFilterFlag filter kFilterNunchukStick = true →
          EveryStep ChangeReported InputState.step (.initial filter nunchukStickThreshold) events := by
  intro h
  have hrun := h 0x000C 1 (reported heldC) (by decide) (by decide) (by decide)
  exact absurd hrun (by decide +kernel)

/-- C is pressed while A is held, together with B. -/
theorem button_changes_reported_with_core :
    EveryStep ChangeReported InputState.step (.initial 0x000C 1)
      (reported [0xA1, 0x30, 0x00, 0x08] ++
        reported [0xA1, 0x32, 0x00, 0x0C, 0x80, 0x80, 0x80, 0x80, 0x80, 0x01]) :=
  (button_changes_reported_iff (by decide) (by decide) (by decide) 1 _).mpr (by decide +kernel)

end Esp32Wiimote.Input
