import Esp32Wiimote.Input.DataParser
import Mathlib.Data.List.GetD

/-!
# Bytes of earlier reports

A slot of the ring keeps the bytes a shorter report does not overwrite, and the parser reads as far
as the type of a report says, whatever its length.
-/

namespace Esp32Wiimote.Input

open Bluetooth TransitionRun

/-! ## Histories of the ring -/

/-- What happens to the ring of reports. -/
inductive RingEvent where
  | put (number : UInt8) (data : BytePtr) (len : UInt8)
  | read
  | clear

/-- The ring after these operations, from the first on. -/
def ringAfter (history : List RingEvent) : WiimoteReports :=
  runFrom (fun reports e =>
    match e with
    | .put number data len => reports.put number data len
    | .read => reports.read.2
    | .clear => reports.clear) {} history

/-- The next report has exactly these bytes. -/
structure NextIs (bytes : List UInt8) (reports : WiimoteReports) : Prop where
  available : reports.available ≠ 0
  length : reports.read.1.len.toNat = bytes.length
  byte : ∀ i (h : i < bytes.length), byteAt reports.read.1 i = bytes[i]

/-- What a call of `parseData` shows. -/
structure ParseOutcome where
  result : ℕ
  buttons : ButtonState
  accel : AccelState
  nunchuk : NunchukState

/-- What a call of the parser shows. -/
def WiimoteDataParser.outcome (parser : WiimoteDataParser) (reports : WiimoteReports) :
    ParseOutcome where
  result := (parser.parseData reports).1
  buttons := (parser.parseData reports).2.1.getButtonState
  accel := (parser.parseData reports).2.1.getAccelState
  nunchuk := (parser.parseData reports).2.1.getNunchukState

/-- How many bytes the parser reads of a report of this type. -/
def readLength (type : UInt8) : ℕ :=
  if type = 0x31 then 7 else if type = 0x32 then 10 else if type = 0x35 then 13 else 4

/-- The report is dropped, or holds every byte that is read of it. -/
def HoldsWhatIsRead (bytes : List UInt8) : Prop :=
  bytes.length < 4 ∨ bytes.getD 0 0 ≠ 0xA1 ∨ readLength (bytes.getD 1 0) ≤ bytes.length

instance (bytes : List UInt8) : Decidable (HoldsWhatIsRead bytes) :=
  inferInstanceAs (Decidable (_ ∨ _ ∨ _))

/-! ## The bytes that are read -/

section Read

variable {rd rd' : TinyWiimoteData}

/-- Every report is read up to the buttons. -/
theorem four_le_readLength (type : UInt8) : 4 ≤ readLength type := by
  rw [readLength]
  split_ifs <;> omega

/-- The accelerometer is within what is read. -/
theorem accelOffset_lt_readLength {type : UInt8} (h : WiimoteDataParser.accelOffset type ≠ 0) :
    WiimoteDataParser.accelOffset type + 2 < readLength type := by
  rw [WiimoteDataParser.accelOffset] at h ⊢
  split at h
  next htype =>
    rw [if_pos htype, readLength]
    rcases htype with rfl | rfl <;> decide
  next => exact absurd rfl h

/-- So is the Nunchuk. -/
theorem nunchukOffset_lt_readLength {type : UInt8} (h : WiimoteDataParser.nunchukOffset type ≠ 0) :
    WiimoteDataParser.nunchukOffset type + 5 < readLength type := by
  rw [WiimoteDataParser.nunchukOffset] at h ⊢
  split_ifs at h ⊢ with htype htype'
  · subst htype
    decide
  · subst htype'
    decide
  · exact absurd rfl h

namespace WiimoteDataParser

variable (parser : WiimoteDataParser)
  (hbytes : ∀ i, i < readLength (byteAt rd 1) → byteAt rd' i = byteAt rd i)

include hbytes

/-- The button part depends on the bytes read only. -/
theorem parseButtonData_congr : parser.parseButtonData rd' = parser.parseButtonData rd := by
  have hfour := four_le_readLength (byteAt rd 1)
  simp only [parseButtonData, hbytes 1 (by omega), hbytes 2 (by omega), hbytes 3 (by omega)]

/-- So does the accelerometer part. -/
theorem parseAccelData_congr : parser.parseAccelData rd' = parser.parseAccelData rd := by
  have hfour := four_le_readLength (byteAt rd 1)
  simp only [parseAccelData, hbytes 1 (by omega)]
  by_cases hoffs : accelOffset (byteAt rd 1) = 0
  · rw [if_neg (not_not_intro hoffs), if_neg (not_not_intro hoffs)]
  · have hin := accelOffset_lt_readLength hoffs
    rw [if_pos hoffs, if_pos hoffs, hbytes _ (by omega), hbytes _ (by omega), hbytes _ (by omega)]

/-- So does the Nunchuk part. -/
theorem parseNunchukData_congr (flags : ChangeFlags) :
    parser.parseNunchukData rd' flags = parser.parseNunchukData rd flags := by
  have hfour := four_le_readLength (byteAt rd 1)
  simp only [parseNunchukData, hbytes 1 (by omega)]
  by_cases hoffs : nunchukOffset (byteAt rd 1) = 0
  · rw [if_neg (not_not_intro hoffs), if_neg (not_not_intro hoffs)]
  · have hin := nunchukOffset_lt_readLength hoffs
    have hread (k : ℕ) (hk : k ≤ 5) : byteAt rd' (nunchukOffset (byteAt rd 1) + k) =
        byteAt rd (nunchukOffset (byteAt rd 1) + k) := hbytes _ (by omega)
    rw [if_pos hoffs, if_pos hoffs, hread 0 (by omega), hread 1 (by omega), hread 2 (by omega),
      hread 3 (by omega), hread 4 (by omega), hread 5 (by omega)]

/-- So does the whole parser. -/
theorem parseReport_congr (hlen : rd'.len = rd.len) :
    parser.parseReport rd' = parser.parseReport rd := by
  have hfour := four_le_readLength (byteAt rd 1)
  rw [parseReport, parseReport, hlen, hbytes 0 (by omega)]
  simp only [parseButtonData_congr _ hbytes, parseAccelData_congr _ hbytes,
    parseNunchukData_congr _ hbytes]

end WiimoteDataParser

end Read

/-- Two reports with the same bytes are parsed alike where these hold what is read. -/
theorem parseReport_eq_of_holds (parser : WiimoteDataParser) {bytes : List UInt8}
    {reports reports' : WiimoteReports} (h : NextIs bytes reports) (h' : NextIs bytes reports')
    (hholds : HoldsWhatIsRead bytes) :
    parser.parseReport reports'.read.1 = parser.parseReport reports.read.1 := by
  have hlen : reports'.read.1.len = reports.read.1.len :=
    UInt8.toNat_inj.mp (h'.length.trans h.length.symm)
  have hbyte (i : ℕ) (hi : i < bytes.length) : byteAt reports.read.1 i = bytes.getD i 0 := by
    rw [h.byte i hi, List.getD_eq_getElem _ _ hi]
  have hsame (i : ℕ) (hi : i < bytes.length) :
      byteAt reports'.read.1 i = byteAt reports.read.1 i := by
    rw [h'.byte i hi, h.byte i hi]
  have hignored (hdropped : ¬IsInputReport reports.read.1)
      (hdropped' : ¬IsInputReport reports'.read.1) :
      parser.parseReport reports'.read.1 = parser.parseReport reports.read.1 := by
    rw [parser.parseReport_of_not_input hdropped, parser.parseReport_of_not_input hdropped']
  by_cases hfour : bytes.length < 4
  · have hshort : ¬4 ≤ reports.read.1.len := by
      rw [UInt8.le_iff_toNat_le, h.length]
      exact Nat.not_le.mpr hfour
    exact hignored (fun hinput => hshort hinput.1) fun hinput => hshort (hlen ▸ hinput.1)
  · rcases hholds with hlt | hfront | hread
    · exact absurd hlt hfour
    · rw [← hbyte 0 (by omega)] at hfront
      refine hignored (fun hinput => hfront hinput.2) fun hinput => hfront ?_
      rw [← hsame 0 (by omega)]
      exact hinput.2
    · rw [← hbyte 1 (by omega)] at hread
      exact parser.parseReport_congr (fun i hi => hsame i (by omega)) hlen

/-! ## Stale bytes -/

/-- The pointer to these bytes, with zeroes behind them. -/
def pointerTo (bytes : List UInt8) : BytePtr := ⟨fun i => bytes.getD i 0, bytes.length, 0⟩

/-- A report of full length whose bytes from the fifth on are all `fill`. -/
def filledBytes (fill : UInt8) : List UInt8 := [0xA1, 0x30, 0, 0] ++ List.replicate 46 fill

/-- Such a report went through every slot, and was read. -/
def filledHistory (fill : UInt8) : List RingEvent :=
  (List.replicate receivedDataMaxNum
    [RingEvent.put 0 (pointerTo (filledBytes fill)) 50, .read]).flatten

/-- A ring with the same filling in every slot. -/
def filledRing (fill : UInt8) : WiimoteReports where
  reportBuffer := .replicate _ { data := .ofFn fun i => (filledBytes fill).getD i 0, len := 50 }

/-- What is put into an empty ring is read next, over the bytes its slot held. -/
theorem read_put_of_empty (reports : WiimoteReports) (hempty : reports.itemCount.val = 0)
    (hindex : reports.readIndex = reports.writeIndex) (number : UInt8) (data : BytePtr) (len : UInt8) :
    (reports.put number data len).read.1 =
      { number
        data := .ofFn fun i =>
          if i.val < WiimoteReports.boundedLen len then data.at i
          else (reports.reportBuffer.get reports.writeIndex).data.get i
        len := (WiimoteReports.boundedLen len).toUInt8 } := by
  have hroom : reports.itemCount.val < receivedDataMaxNum := by
    rw [hempty]
    decide
  rw [WiimoteReports.put, dif_pos hroom, WiimoteReports.read, if_neg (Nat.succ_ne_zero _)]
  simp only [hindex]
  exact Vector.getElem_set_self _

/-- The next report after such a history holds its bytes in front of the fill. -/
theorem read_put_filledRing (fill : UInt8) {bytes : List UInt8} (h : bytes.length < 50) :
    ((filledRing fill).put 0 (pointerTo bytes) bytes.length.toUInt8).read.1.len.toNat = bytes.length ∧
      ∀ i, i < 50 →
        byteAt ((filledRing fill).put 0 (pointerTo bytes) bytes.length.toUInt8).read.1 i =
          if i < bytes.length then bytes.getD i 0 else (filledBytes fill).getD i 0 := by
  have hnat : bytes.length.toUInt8.toNat = bytes.length := by
    rw [Nat.toUInt8, UInt8.toNat_ofNat']
    omega
  have hbounded : WiimoteReports.boundedLen bytes.length.toUInt8 = bytes.length := by
    rw [WiimoteReports.boundedLen, hnat, receivedDataMaxLen]
    omega
  have hread := read_put_of_empty (filledRing fill) rfl rfl 0 (pointerTo bytes)
    bytes.length.toUInt8
  rw [hbounded] at hread
  rw [hread]
  refine ⟨hnat, fun i hi => ?_⟩
  rw [byteAt, dif_pos (show i < receivedDataMaxLen from hi)]
  simp [filledRing, pointerTo, BytePtr.at, Vector.get]
  rfl

/-- A ring with all reports read. -/
def emptyRing (index : Fin receivedDataMaxNum) (slots : Vector TinyWiimoteData receivedDataMaxNum) :
    WiimoteReports :=
  ⟨index, index, ⟨0, Nat.succ_pos receivedDataMaxNum⟩, slots⟩

/-- A report of full length takes the place of what its slot held, and is read. -/
theorem read_put_filledBytes (index : Fin receivedDataMaxNum)
    (slots : Vector TinyWiimoteData receivedDataMaxNum) (fill : UInt8) :
    (((emptyRing index slots).put 0 (pointerTo (filledBytes fill)) 50).read).2 =
      emptyRing (WiimoteReports.next index)
        (slots.set index { data := .ofFn fun i => (filledBytes fill).getD i 0, len := 50 }) := by
  have hbounded : WiimoteReports.boundedLen 50 = receivedDataMaxLen := by decide
  have hdata : (Vector.ofFn fun i : Fin receivedDataMaxLen =>
      if i.val < WiimoteReports.boundedLen 50 then (pointerTo (filledBytes fill)).at i
      else slots[index].data[i]) = .ofFn fun i => (filledBytes fill).getD i 0 := by
    congr 1
    funext i
    rw [hbounded, if_pos i.isLt, BytePtr.at]
    change (filledBytes fill).getD (0 + i.val) 0 = _
    rw [Nat.zero_add]
  have hroom : (emptyRing index slots).itemCount.val < receivedDataMaxNum := receivedDataMaxNum_pos
  rw [WiimoteReports.put, dif_pos hroom, WiimoteReports.read,
    if_neg (Nat.succ_ne_zero _)]
  simp only [emptyRing, hdata]
  rfl

/-- The history leaves every slot filled. -/
theorem ringAfter_filledHistory (fill : UInt8) : ringAfter (filledHistory fill) = filledRing fill := by
  have hsteps : ringAfter (filledHistory fill) =
      (List.range 5).foldl
        (fun reports _ => ((reports.put 0 (pointerTo (filledBytes fill)) 50).read).2)
        (emptyRing ⟨0, receivedDataMaxNum_pos⟩ (.replicate _ {})) := rfl
  rw [hsteps, filledRing]
  simp only [List.range, List.range.loop, List.foldl, read_put_filledBytes]
  generalize ({ data := .ofFn fun i => (filledBytes fill).getD i 0, len := 50 } : TinyWiimoteData) = report
  rfl

/-- The ring with the report behind the filled ones. -/
def ringWith (fill : UInt8) (bytes : List UInt8) : List RingEvent :=
  filledHistory fill ++ [.put 0 (pointerTo bytes) bytes.length.toUInt8]

/-- A put comes behind the history. -/
theorem ringAfter_append_put (history : List RingEvent) (number : UInt8) (data : BytePtr)
    (len : UInt8) :
    ringAfter (history ++ [.put number data len]) = (ringAfter history).put number data len := by
  rw [ringAfter, runFrom, List.foldl_append]
  rfl

section Filled

variable (fill : UInt8) {bytes : List UInt8} (h : bytes.length < 50)

include h

/-- The next report of the ring is the one put into it. -/
theorem nextIs_ringWith : NextIs bytes (ringAfter (ringWith fill bytes)) := by
  obtain ⟨hlength, hbyte⟩ := read_put_filledRing fill h
  rw [ringWith, ringAfter_append_put, ringAfter_filledHistory]
  refine ⟨Nat.succ_ne_zero _, hlength, fun i hi => ?_⟩
  rw [hbyte i (by omega), if_pos hi, List.getD_eq_getElem _ _ hi]

/-- Behind the report lies the fill. -/
theorem byteAt_ringWith {i : ℕ} (hstale : bytes.length ≤ i) (hfour : 4 ≤ i) (hi : i < 50) :
    byteAt (ringAfter (ringWith fill bytes)).read.1 i = fill := by
  obtain ⟨j, rfl⟩ := Nat.exists_eq_add_of_le hfour
  rw [ringWith, ringAfter_append_put, ringAfter_filledHistory, (read_put_filledRing fill h).2 _ hi,
    if_neg (Nat.not_lt.mpr hstale), filledBytes, List.getD_eq_getElem _ _ (by simp; omega),
    List.getElem_append_right (Nat.le_add_right 4 j), List.getElem_replicate]

end Filled

/-- The outcome of an input report. -/
theorem outcome_of_input (parser : WiimoteDataParser) {reports : WiimoteReports}
    (havailable : reports.available ≠ 0) (hinput : IsInputReport reports.read.1) :
    (parser.outcome reports).buttons = buttonsAfter reports.read.1 parser.getButtonState ∧
      (parser.outcome reports).accel = reportedAccel reports.read.1 := by
  have hparser : (parser.parseData reports).2.1 = (parser.parseReport reports.read.1).2 := by
    rw [WiimoteDataParser.parseData, if_neg havailable]
  simp only [WiimoteDataParser.outcome, hparser, parser.parseReport_of_input hinput]
  exact ⟨rfl, rfl⟩

/-- A report of four bytes with the right first one is an input report. -/
theorem NextIs.isInputReport {bytes : List UInt8} {reports : WiimoteReports} (h : NextIs bytes reports)
    (hlen : 4 ≤ bytes.length) (hfront : bytes.getD 0 0 = 0xA1) : IsInputReport reports.read.1 := by
  constructor
  · rw [UInt8.le_iff_toNat_le, h.length]
    exact hlen
  · rw [h.byte 0 (by omega), ← hfront, List.getD_eq_getElem _ _ (by omega)]

section Last

variable {rd rd' : TinyWiimoteData} (htype : byteAt rd' 1 = byteAt rd 1)

include htype

/-- The Nunchuk's buttons lie in the last byte that is read of its reports. -/
theorem buttonsAfter_ne_of_last (hcore : coreButtons rd' = coreButtons rd)
    (hoffs : WiimoteDataParser.nunchukOffset (byteAt rd 1) ≠ 0)
    (hlast : byteAt rd (WiimoteDataParser.nunchukOffset (byteAt rd 1) + 5) = 0x00)
    (hlast' : byteAt rd' (WiimoteDataParser.nunchukOffset (byteAt rd 1) + 5) = 0x03)
    (before : ButtonState) : buttonsAfter rd' before ≠ buttonsAfter rd before := by
  have hheld : nunchukButtons rd ≠ 0 := by
    simp only [nunchukButtons, hlast, if_neg hoffs]
    decide
  have hfree : nunchukButtons rd' = 0 := by
    simp only [nunchukButtons, htype, hlast', if_neg hoffs]
    decide
  have hbytes := hasCoreButtons_of_nunchukButtons hheld
  have hbytes' : HasCoreButtons rd' := by
    rw [HasCoreButtons, htype]
    exact hbytes
  rw [buttonsAfter, buttonsAfter, sampledButtons, sampledButtons, if_pos hbytes, if_pos hbytes', hfree,
    hcore, UInt32.or_zero]
  exact (coreButtons_or_ne hheld).symm

/-- So does the last axis of the accelerometer. -/
theorem reportedAccel_ne_of_last (h31 : byteAt rd 1 = 0x31) (hlast : byteAt rd 6 ≠ byteAt rd' 6) :
    reportedAccel rd' ≠ reportedAccel rd := by
  intro heq
  have hz := congrArg AccelState.zAxis heq
  simp only [reportedAccel, htype, h31] at hz
  exact hlast hz.symm

end Last

/-- A report that is too short shows what lies behind it in its slot. -/
theorem outcome_ne_of_stale (parser : WiimoteDataParser) {bytes : List UInt8}
    {reports reports' : WiimoteReports} (h : NextIs bytes reports) (h' : NextIs bytes reports')
    (hlen : 4 ≤ bytes.length) (hfront : bytes.getD 0 0 = 0xA1)
    (hshort : bytes.length < readLength (bytes.getD 1 0))
    (hstale : ∀ i, bytes.length ≤ i → 4 ≤ i → i < 50 → byteAt reports.read.1 i = 0x00)
    (hstale' : ∀ i, bytes.length ≤ i → 4 ≤ i → i < 50 → byteAt reports'.read.1 i = 0x03) :
    parser.outcome reports' ≠ parser.outcome reports := by
  intro heq
  obtain ⟨hbuttons, haccel⟩ := outcome_of_input parser h.available (h.isInputReport hlen hfront)
  obtain ⟨hbuttons', haccel'⟩ := outcome_of_input parser h'.available (h'.isInputReport hlen hfront)
  have htype : byteAt reports.read.1 1 = bytes.getD 1 0 := by
    rw [h.byte 1 (by omega), List.getD_eq_getElem _ _ (by omega)]
  have hsame : byteAt reports'.read.1 1 = byteAt reports.read.1 1 := by
    rw [h.byte 1 (by omega), h'.byte 1 (by omega)]
  have hcore : coreButtons reports'.read.1 = coreButtons reports.read.1 := by
    rw [coreButtons, coreButtons, h.byte 2 (by omega), h.byte 3 (by omega), h'.byte 2 (by omega),
      h'.byte 3 (by omega)]
  rw [← htype] at hshort
  by_cases hnunchuk : WiimoteDataParser.nunchukOffset (byteAt reports.read.1 1) = 0
  · -- a report of the accelerometer alone
    have h31 : byteAt reports.read.1 1 = 0x31 ∧ bytes.length ≤ 6 := by
      rw [readLength] at hshort
      rw [WiimoteDataParser.nunchukOffset] at hnunchuk
      split_ifs at hshort hnunchuk with hif
      · exact ⟨hif, by omega⟩
      · omega
    refine reportedAccel_ne_of_last hsame h31.1 ?_ ?_
    · rw [hstale 6 h31.2 (by omega) (by omega), hstale' 6 h31.2 (by omega) (by omega)]
      decide
    · rw [← haccel, ← haccel', heq]
  · have hlast : bytes.length ≤ WiimoteDataParser.nunchukOffset (byteAt reports.read.1 1) + 5 ∧
        WiimoteDataParser.nunchukOffset (byteAt reports.read.1 1) + 5 < 50 := by
      rw [readLength] at hshort
      rw [WiimoteDataParser.nunchukOffset] at hnunchuk ⊢
      split_ifs at hshort hnunchuk ⊢ <;> omega
    refine buttonsAfter_ne_of_last hsame hcore hnunchuk ?_ ?_ parser.getButtonState ?_
    · exact hstale _ hlast.1 (by omega) hlast.2
    · exact hstale' _ hlast.1 (by omega) hlast.2
    · rw [← hbuttons, ← hbuttons', heq]

/-- What a call shows is a function of the bytes of its report and of the parser before, for all
histories of the ring, exactly when the report is dropped or holds every byte that is read of it. -/
theorem parse_depends_on_report_iff (parser : WiimoteDataParser) (bytes : List UInt8) :
    (∀ history history', NextIs bytes (ringAfter history) → NextIs bytes (ringAfter history') →
      parser.outcome (ringAfter history') = parser.outcome (ringAfter history)) ↔
        HoldsWhatIsRead bytes := by
  constructor
  · intro hsame
    by_contra hnot
    simp only [HoldsWhatIsRead, not_or, Nat.not_lt, Nat.not_le, Decidable.not_not] at hnot
    obtain ⟨hlen, hfront, hshort⟩ := hnot
    have hfifty : bytes.length < 50 := by
      rw [readLength] at hshort
      split_ifs at hshort <;> omega
    have hnext := nextIs_ringWith 0x00 hfifty
    have hnext' := nextIs_ringWith 0x03 hfifty
    exact outcome_ne_of_stale parser hnext hnext' hlen hfront hshort
      (fun i => byteAt_ringWith 0x00 hfifty)
      (fun i => byteAt_ringWith 0x03 hfifty) (hsame _ _ hnext hnext')
  · intro hholds history history' h h'
    have hparse := parseReport_eq_of_holds parser h h' hholds
    simp only [WiimoteDataParser.outcome, WiimoteDataParser.parseData, if_neg h.available,
      if_neg h'.available, hparse]

/-- A Nunchuk report of four bytes shows C and Z as held after one kind of reports, not after
another. -/
theorem parse_shows_stale_bytes :
    ¬∀ (parser : WiimoteDataParser) (bytes : List UInt8) (history history' : List RingEvent),
      NextIs bytes (ringAfter history) → NextIs bytes (ringAfter history') →
        parser.outcome (ringAfter history') = parser.outcome (ringAfter history) := by
  intro h
  have hfifty : ([0xA1, 0x32, 0x00, 0x00] : List UInt8).length < 50 := by decide
  have hnext := nextIs_ringWith 0x00 hfifty
  have hnext' := nextIs_ringWith 0x03 hfifty
  exact outcome_ne_of_stale {} hnext hnext' (by decide) rfl (by decide)
    (fun i => byteAt_ringWith 0x00 hfifty)
    (fun i => byteAt_ringWith 0x03 hfifty) (h {} _ _ _ hnext hnext')

end Esp32Wiimote.Input
