import Esp32Wiimote.Input.ButtonChange

/-!
# Bits that are no buttons

Some bits of the two button bytes are no buttons; with the accelerometer they are its low-order
bits. The parser takes the bytes over as they are.
-/

namespace Esp32Wiimote.Input

open Bluetooth TransitionRun

/-! ## Masks -/

/-- The core buttons among the bits of the two bytes. -/
def coreButtonMask : ButtonState := 0x1F9F

/-- The other bits of the two bytes. -/
def strayBitMask : ButtonState := 0xE060

/-- No bit is set but those of the enumerators. -/
def OnlyButtons (state : ButtonState) : Prop :=
  state &&& ~~~(buttons.foldl buttonStateOr kNoButton) = 0

instance (state : ButtonState) : Decidable (OnlyButtons state) :=
  inferInstanceAs (Decidable (_ = _))

/-- The bits that are no buttons are zero in the report. -/
def CleanReport (rd : TinyWiimoteData) : Prop := coreButtons rd &&& strayBitMask = 0

instance (rd : TinyWiimoteData) : Decidable (CleanReport rd) := inferInstanceAs (Decidable (_ = _))

/-- The reports have one type and agree on the core buttons and on those of the Nunchuk. -/
structure SameButtons (rd rd' : TinyWiimoteData) : Prop where
  type : byteAt rd' 1 = byteAt rd 1
  core : coreButtons rd' &&& coreButtonMask = coreButtons rd &&& coreButtonMask
  nunchuk : WiimoteDataParser.nunchukOffset (byteAt rd 1) ≠ 0 →
    byteAt rd' (WiimoteDataParser.nunchukOffset (byteAt rd 1) + 5) &&& 0x03 =
      byteAt rd (WiimoteDataParser.nunchukOffset (byteAt rd 1) + 5) &&& 0x03

section Bits

variable {rd rd' : TinyWiimoteData}

/-- A mask applies to each side of an `or`. -/
theorem and_or_distrib_right (a b c : UInt32) : (a ||| b) &&& c = (a &&& c) ||| (b &&& c) :=
  UInt32.toBitVec_inj.mp BitVec.and_or_distrib_right

/-- The core buttons are in the low sixteen bits. -/
theorem coreButtons_and_low : coreButtons rd &&& 0xFFFF = coreButtons rd := by
  apply UInt32.toNat_inj.mp
  rw [UInt32.toNat_and]
  have hmod := Nat.and_two_pow_sub_one_eq_mod (coreButtons rd).toNat 16
  exact hmod.trans (Nat.mod_eq_of_lt (toNat_coreButtons_lt rd))

/-- The two bytes are the core buttons and the stray bits. -/
theorem coreButtons_eq : coreButtons rd =
    (coreButtons rd &&& coreButtonMask) ||| (coreButtons rd &&& strayBitMask) := by
  have hsplit : (coreButtonMask ||| strayBitMask) = 0xFFFF := by decide
  rw [UInt32.and_comm _ coreButtonMask, UInt32.and_comm _ strayBitMask, ← and_or_distrib_right,
    hsplit, UInt32.and_comm, coreButtons_and_low]

/-- The Nunchuk's buttons are buttons. -/
theorem onlyButtons_nunchukButtons : OnlyButtons (nunchukButtons rd) := by
  rw [nunchukButtons]
  split
  · decide
  · split <;> split <;> decide

/-- What the state shows beyond the buttons are the stray bits of the report. -/
theorem onlyButtons_buttonsAfter_iff (hcore : HasCoreButtons rd) (before : ButtonState) :
    OnlyButtons (buttonsAfter rd before) ↔ CleanReport rd := by
  have hmask : (0xFFFF : UInt32) &&& ~~~(buttons.foldl buttonStateOr kNoButton) = strayBitMask := by
    decide
  have hbytes : coreButtons rd &&& ~~~(buttons.foldl buttonStateOr kNoButton) =
      coreButtons rd &&& strayBitMask := by
    rw [← hmask, ← UInt32.and_assoc, coreButtons_and_low]
  have hnunchuk : nunchukButtons rd &&& ~~~(buttons.foldl buttonStateOr kNoButton) = 0 :=
    onlyButtons_nunchukButtons
  rw [OnlyButtons, buttonsAfter, sampledButtons, if_pos hcore, and_or_distrib_right, hbytes, hnunchuk,
    UInt32.or_zero, CleanReport]

/-- Reports with the same buttons have the same Nunchuk buttons. -/
theorem nunchukButtons_eq_of_sameButtons (h : SameButtons rd rd') :
    nunchukButtons rd' = nunchukButtons rd := by
  simp only [nunchukButtons, h.type]
  split
  · rfl
  next hoffs =>
    have hbits := h.nunchuk hoffs
    have hmasked (m : UInt8) (hm : 0x03 &&& m = m) :
        byteAt rd' (WiimoteDataParser.nunchukOffset (byteAt rd 1) + 5) &&& m =
          byteAt rd (WiimoteDataParser.nunchukOffset (byteAt rd 1) + 5) &&& m := by
      rw [← hm, ← UInt8.and_assoc, hbits, UInt8.and_assoc]
    rw [hmasked 0x02 (by decide), hmasked 0x01 (by decide)]

/-- Clean reports with the same buttons leave the same buttons behind. -/
theorem buttonsAfter_eq_of_clean (hcore : HasCoreButtons rd) (h : SameButtons rd rd')
    (hclean : CleanReport rd) (hclean' : CleanReport rd') (before before' : ButtonState) :
    buttonsAfter rd' before' = buttonsAfter rd before := by
  have hcore' : HasCoreButtons rd' := by
    rw [HasCoreButtons, h.type]
    exact hcore
  have hbytes : coreButtons rd' = coreButtons rd := by
    rw [coreButtons_eq, hclean', h.core, ← hclean, ← coreButtons_eq]
  rw [buttonsAfter, buttonsAfter, sampledButtons, sampledButtons, if_pos hcore, if_pos hcore', hbytes,
    nunchukButtons_eq_of_sameButtons h]

end Bits

/-! ## Two reports -/

/-- Whatever the parser held, the two reports leave the same buttons and nothing but buttons. -/
def LeaveSameButtons (rd rd' : TinyWiimoteData) : Prop :=
  ∀ parser parser' : WiimoteDataParser,
    (parser.parseReport rd).2.getButtonState = (parser'.parseReport rd').2.getButtonState ∧
      OnlyButtons (parser.parseReport rd).2.getButtonState ∧
        OnlyButtons (parser'.parseReport rd').2.getButtonState

/-- The button state after a report. -/
theorem getButtonState_parseReport (parser : WiimoteDataParser) {rd : TinyWiimoteData}
    (h : IsInputReport rd) :
    (parser.parseReport rd).2.getButtonState = buttonsAfter rd parser.getButtonState := by
  rw [parser.parseReport_of_input h]
  rfl

/-- Two reports with the same buttons leave the same state exactly when both are clean. -/
theorem leaveSameButtons_iff {rd rd' : TinyWiimoteData} (hinput : IsInputReport rd)
    (hinput' : IsInputReport rd') (hcore : HasCoreButtons rd) (h : SameButtons rd rd') :
    LeaveSameButtons rd rd' ↔ CleanReport rd ∧ CleanReport rd' := by
  have hcore' : HasCoreButtons rd' := by
    rw [HasCoreButtons, h.type]
    exact hcore
  simp only [LeaveSameButtons, getButtonState_parseReport _ hinput, getButtonState_parseReport _ hinput',
    onlyButtons_buttonsAfter_iff hcore, onlyButtons_buttonsAfter_iff hcore']
  constructor
  · intro hsame
    exact (hsame {} {}).2
  · rintro ⟨hclean, hclean'⟩ parser parser'
    exact ⟨(buttonsAfter_eq_of_clean hcore h hclean hclean' _ _).symm, hclean, hclean'⟩

/-! ## Runs -/

/-- The buttons after the step are buttons. -/
def ShowsOnlyButtons (s : InputState) (e : InputEvent) : Prop :=
  OnlyButtons (s.step e).parser.getButtonState

/-- A report that is parsed for its buttons is clean. -/
def ParsesClean (s : InputState) : InputEvent → Prop
  | .queued .. => True
  | .parsed => s.reports.available ≠ 0 → IsInputReport s.next → HasCoreButtons s.next → CleanReport s.next

/-- A step leaves only buttons exactly when the report it parses, if any, is clean. -/
theorem onlyButtons_step_iff {s : InputState} (hs : OnlyButtons s.parser.getButtonState)
    (e : InputEvent) : OnlyButtons (s.step e).parser.getButtonState ↔ ParsesClean s e := by
  cases e with
  | queued number data len => exact iff_of_true hs trivial
  | parsed =>
    by_cases hempty : s.reports.available = 0
    · rw [InputState.parser_step_parsed, if_pos hempty]
      exact iff_of_true hs fun h => absurd hempty h
    · rw [InputState.buttonState_step_parsed hempty, ParsesClean, forall_prop_of_true hempty]
      by_cases hinput : IsInputReport s.next
      · rw [if_pos hinput, forall_prop_of_true hinput]
        by_cases hcore : HasCoreButtons s.next
        · rw [forall_prop_of_true hcore, onlyButtons_buttonsAfter_iff hcore]
        · -- a report without core buttons has none of the Nunchuk either
          have hnunchuk : nunchukButtons s.next = 0 :=
            Decidable.byContradiction fun h => hcore (hasCoreButtons_of_nunchukButtons h)
          rw [buttonsAfter, sampledButtons, if_neg hcore, hnunchuk, UInt32.or_zero]
          exact iff_of_true hs fun h => absurd h hcore
      · rw [if_neg hinput]
        exact iff_of_true hs fun h => absurd h hinput

/-- Two reports with the same buttons leave the same state, and a run shows nothing but buttons,
exactly when the bits that are no buttons are zero in what is parsed. -/
theorem buttons_do_not_leak_iff (filter : Int32) (nunchukStickThreshold : ℤ)
    (events : List InputEvent) :
    (∀ rd rd', IsInputReport rd → IsInputReport rd' → HasCoreButtons rd → SameButtons rd rd' →
      (LeaveSameButtons rd rd' ↔ CleanReport rd ∧ CleanReport rd')) ∧
    (EveryStep ShowsOnlyButtons InputState.step (.initial filter nunchukStickThreshold) events ↔
      EveryStep ParsesClean InputState.step (.initial filter nunchukStickThreshold) events) := by
  constructor
  · intro rd rd' hinput hinput' hcore hsame
    exact leaveSameButtons_iff hinput hinput' hcore hsame
  · exact everyStep_invariant_iff (I := fun s : InputState => OnlyButtons s.parser.getButtonState)
      (J := fun _ => True) (fun _ _ _ _ => trivial) (fun _ e _ _ hs => onlyButtons_step_iff hs e) trivial
      (show OnlyButtons kNoButton by decide)

/-- A report of these bytes, as it is read from the ring. -/
def reportOf (bytes : List UInt8) : TinyWiimoteData where
  data := .ofFn fun i => bytes.getD i 0x00
  len := bytes.length.toUInt8

/-- The accelerometer moves while no button is held. -/
theorem buttons_leak :
    ¬∀ rd rd', IsInputReport rd → IsInputReport rd' → HasCoreButtons rd → SameButtons rd rd' →
      LeaveSameButtons rd rd' := by
  intro h
  have hsame := h (reportOf [0xA1, 0x31, 0x00, 0x00, 0x80, 0x80, 0x80])
    (reportOf [0xA1, 0x31, 0x60, 0x00, 0x80, 0x80, 0x80]) (by decide) (by decide) (by decide)
    ⟨by decide, by decide, by decide⟩
  exact absurd (hsame {} {}).1 (by decide +kernel)

/-- A and C are held, once with the accelerometer. -/
theorem buttons_do_not_leak_clean :
    LeaveSameButtons (reportOf [0xA1, 0x35, 0x00, 0x08, 0x80, 0x80, 0x80, 0x80, 0x80, 0x80, 0x80, 0x80, 0x01])
      (reportOf [0xA1, 0x35, 0x00, 0x08, 0x90, 0x90, 0x90, 0x90, 0x90, 0x90, 0x90, 0x90, 0xF1]) :=
  ((buttons_do_not_leak_iff 0 1 []).1 _ _ (by decide) (by decide) (by decide)
    ⟨by decide, by decide, by decide⟩).mpr ⟨by decide, by decide⟩

end Esp32Wiimote.Input
