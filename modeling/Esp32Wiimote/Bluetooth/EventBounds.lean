import Esp32Wiimote.Bluetooth.HciEffect

/-!
# Which bytes an event handler reads

The handlers do not look at the declared length of an event. Each reads what its format
asks for, so an event is handled safely exactly when it is dropped before dispatch, is
complete for its handler, or is an inquiry result of which only the tail of a last,
already listed response is missing.
-/

namespace Esp32Wiimote.Bluetooth

open StateProgram

/-! ## Complete events -/

/-- The device with this address is on the list. -/
def ScannedDevices.Listed (devices : ScannedDevices) (bdAddr : BdAddrT) : Prop :=
  (devices.findScannedDevice bdAddr).isSome

instance (devices : ScannedDevices) (bdAddr : BdAddrT) : Decidable (devices.Listed bdAddr) :=
  inferInstanceAs (Decidable (_ = true))

/-- No device can be added. -/
def ScannedDevices.Full (devices : ScannedDevices) : Prop :=
  devices.entries.length = kHciScannedDeviceListSize

/-- The declared parameter area holds every field the handler of the event needs. -/
def HciEventPacket.Complete (packet : HciEventPacket) (ctx : HciEventContext) (logLevel : UInt8) :
    Prop :=
  let data := packet.data
  let len := packet.len.toNat
  if packet.eventCode = kHciInquiryCompEvt then True
  else if packet.eventCode = kHciInquiryResultEvt then
    1 ≤ len ∧ 1 + inquiryResponseSize * (data.at 0).toNat ≤ len
  else if packet.eventCode = kHciConnectionCompEvt then
    1 ≤ len ∧ (data.at 0 = 0x00 → 3 ≤ len)
  else if packet.eventCode = kHciDisconnectionCompEvt then 4 ≤ len
  else if packet.eventCode = kHciRmtNameRequestCompEvt then
    -- the name is needed to its NUL for the log, and up to where it is decided for the comparison
    7 ≤ len ∧ (kWiimoteLogDebug ≤ logLevel → ∃ i < len - 7, data.at (7 + i) = 0) ∧
      (ctx.scannedDevices.Listed (data + 1).bdAddrAt → 7 + (data + 7).compared wiimoteName ≤ len)
  else if packet.eventCode = kHciCommandCompleteEvt then 4 ≤ len
  else if packet.eventCode = kHciCommandStatusEvt then 4 ≤ len
  else True

/-- Only the tail of the last inquiry response is missing, and nothing would be done for it
or for the responses before it. -/
structure HciEventPacket.HarmlesslyTruncated (packet : HciEventPacket) (ctx : HciEventContext) :
    Prop where
  code : packet.eventCode = kHciInquiryResultEvt
  count : 1 ≤ (packet.data.at 0).toNat
  address : 1 + inquiryResponseSize * ((packet.data.at 0).toNat - 1) + 6 ≤ packet.len.toNat
  listed : ctx.scannedDevices.Listed
    (inquiryResponse packet.data ((packet.data.at 0).toNat - 1)).bdAddrAt
  before : ctx.scannedDevices.Full ∨ ∀ j < (packet.data.at 0).toNat - 1,
    ctx.scannedDevices.Listed (inquiryResponse packet.data j).bdAddrAt

/-- The step that handles this packet reads only what was received and declared, and an event
that is not complete leaves the context and the send callback untouched. -/
def EventHandledSafely (w : TwWorld) (mem : Nat → UInt8) (len : Nat) (millis : UInt32)
    (logLevel : UInt8) : Prop :=
  let t := w.step ⟨.hci (some mem) len, millis, logLevel⟩
  (∀ i ∈ t.reads, i < len ∧ i < 3 + (mem 2).toNat) ∧
    ((∀ packet ∈ eventPacket (some mem) len,
        ¬packet.Complete w.gRuntime.hciEventContext logLevel) →
      t.gRuntime.hciEventContext = w.gRuntime.hciEventContext ∧ t.sent = [])

/-! ## Reads inside the parameter area -/

/-- Every read lies before the end of a parameter area of `n` bytes. -/
def TwWorld.Inside (n : Nat) (w : TwWorld) : Prop := ∀ i ∈ w.reads, i < 3 + n

variable {n : Nat} {w : TwWorld}

/-- The context is not a read. -/
@[simp] theorem inside_mapContext (f : HciEventContext → HciEventContext) :
    (w.mapContext f).Inside n ↔ w.Inside n := Iff.rfl

/-- More reads are inside if each of them is. -/
@[simp] theorem inside_noteReads (offsets : List Nat) :
    (w.noteReads offsets).Inside n ↔ w.Inside n ∧ ∀ i ∈ offsets, i < 3 + n := by
  simp only [TwWorld.Inside, TwWorld.reads_noteReads, List.mem_append]
  exact ⟨fun h => ⟨fun i hi => h i (.inl hi), fun i hi => h i (.inr hi)⟩,
    fun h i hi => hi.elim (h.1 i) (h.2 i)⟩

/-- A stretch of reads is inside when its last byte is. -/
theorem inside_range (off count : Nat) :
    (∀ i ∈ (List.range count).map (off + ·), i < 3 + n) ↔ count = 0 ∨ off + count ≤ 3 + n := by
  simp only [List.mem_map, List.mem_range, forall_exists_index, and_imp, forall_apply_eq_imp_iff₂]
  constructor
  · intro h
    rcases Nat.eq_zero_or_pos count with hzero | hpos
    · exact .inl hzero
    · have hlast := h (count - 1) (by omega)
      omega
  · intro h i hi
    omega

/-- The acting part of a handler reads nothing. -/
theorem ActionEffect.inside {t : TwWorld} (h : ActionEffect w t) : t.Inside n ↔ w.Inside n := by
  rw [TwWorld.Inside, h.reads, TwWorld.Inside]

/-- The scan for the NUL stays within `n` bytes exactly when one of them is the NUL. -/
theorem scanned_le_iff (p : BytePtr) {bound n : Nat} (hn : n < bound) :
    p.scanned bound ≤ n ↔ ∃ i < n, p.at i = 0 := by
  induction bound generalizing p n with
  | zero => exact absurd hn (Nat.not_lt_zero _)
  | succ bound ih =>
    by_cases h : p.at 0 = 0
    · simp only [BytePtr.scanned, h, ne_eq, not_true_eq_false, if_false]
      refine ⟨fun hle => ⟨0, hle, h⟩, fun hzero => ?_⟩
      obtain ⟨i, hi, -⟩ := hzero
      omega
    · simp only [BytePtr.scanned, h, ne_eq, not_false_eq_true, if_true]
      cases n with
      | zero => simp
      | succ n =>
        rw [Nat.add_le_add_iff_right, ih (p + 1) (by omega)]
        constructor
        · rintro ⟨i, hi, hat⟩
          exact ⟨i + 1, by omega, by rwa [BytePtr.at_add, Nat.add_comm] at hat⟩
        · rintro ⟨i, hi, hat⟩
          cases i with
          | zero => exact absurd hat h
          | succ i => exact ⟨i, by omega, by rwa [BytePtr.at_add, Nat.add_comm]⟩

/-! ## Handlers of fixed formats -/

section Handlers

variable {data : BytePtr} (hoff : data.off = 3) (hw : w.Inside n)
include hoff hw

/-- The handler of a Command Complete reads four bytes. -/
theorem inside_handleCommandComplete :
    (exec (handleCommandComplete data) w).2.Inside n ↔ 4 ≤ n := by
  simp only [handleCommandComplete, exec_readUInt16Le_bind, exec_readByte_bind,
    ((actionEffect_commandCompleted (R := ActionEffect) ..).rel _).inside, inside_noteReads, BytePtr.off_add, hoff]
  simp [hw]
  omega

/-- So does that of a Command Status. -/
theorem inside_handleCommandStatus :
    (exec (handleCommandStatus data) w).2.Inside n ↔ 4 ≤ n := by
  have hreads : (exec (handleCommandStatus data) w).2.Inside n ↔
      (w.noteReads [3, 4, 6, 5]).Inside n := by
    simp only [handleCommandStatus, exec_readUInt16Le_bind, exec_readByte_bind, exec_ite, exec_pure,
      TwWorld.noteReads_noteReads, BytePtr.off_add, hoff]
    split
    · exact ((actionEffect_fallback (R := ActionEffect)).rel _).inside
    · exact Iff.rfl
  simp [hreads, hw]
  omega

/-- So does that of a Disconnection Complete. -/
theorem inside_handleDisconnectionComplete :
    (exec (handleDisconnectionComplete callbacks data) w).2.Inside n ↔ 4 ≤ n := by
  have hreads : (exec (handleDisconnectionComplete callbacks data) w).2.Inside n ↔
      (w.noteReads [5, 4, 6]).Inside n := by
    simp only [handleDisconnectionComplete, exec_readUInt16Le_bind, exec_readByte_bind,
      exec_getContext_bind, exec_ite, exec_pure, TwWorld.noteReads_noteReads, BytePtr.off_add, hoff]
    split
    · exact ((actionEffect_onDisconnected (R := ActionEffect) 0 0).rel _).inside
    · exact Iff.rfl
  simp [hreads, hw]
  omega

/-- A Connection Complete is read up to its handle where it succeeded. -/
theorem inside_handleConnectionComplete :
    (exec (handleConnectionComplete callbacks data) w).2.Inside n ↔
      1 ≤ n ∧ (data.at 0 = 0x00 → 3 ≤ n) := by
  simp only [handleConnectionComplete, exec_readByte_bind, exec_ite]
  split
  next h =>
    rw [((actionEffect_fallback (R := ActionEffect)).rel _).inside]
    simp [hw, hoff, h]
    omega
  next h =>
    have hreads : (exec (do
        let connectionHandle ← readUInt16Le (data + 1)
        let now ← nowMs
        modifyContext fun ctx => { ctx.cacheConnectTarget now with pendingFastReconnect := false }
        let ctx ← getContext
        if ctx.onAclConnected then callbacks.onAclConnected connectionHandle)
        (w.noteReads [data.off + 0])).2.Inside n ↔ (w.noteReads [3, 5, 4]).Inside n := by
      simp only [exec_readUInt16Le_bind, exec_nowMs_bind, exec_then, exec_modifyContext,
        exec_getContext_bind, exec_ite, exec_pure, TwWorld.noteReads_noteReads, BytePtr.off_add, hoff]
      split
      · exact ((actionEffect_onAclConnected (R := ActionEffect) ..).rel _).inside
      · exact Iff.rfl
    rw [hreads, not_not.mp h]
    simp [hw]
    omega

/-- The address and what the log reads of the name are inside. -/
theorem inside_loggedName (hlen : 3 + n ≤ data.len) :
    ((w.noteReads ((List.range 6).map ((data + 1).off + ·))).noteReads
        ((List.range ((data + 7).logged w.logLevel)).map ((data + 7).off + ·))).Inside n ↔
      7 ≤ n ∧ (kWiimoteLogDebug ≤ w.logLevel → ∃ i < n - 7, data.at (7 + i) = 0) := by
  simp only [inside_noteReads, inside_range, hw, true_and, BytePtr.off_add, hoff]
  by_cases hseven : 7 ≤ n
  · have hscan := scanned_le_iff (data + 7) (show n - 7 < data.len + 1 - 10 by omega)
    simp only [BytePtr.at_add] at hscan
    by_cases hdebug : kWiimoteLogDebug ≤ w.logLevel
    · simp only [BytePtr.logged, hdebug, if_true, true_imp_iff, BytePtr.len_add, BytePtr.off_add,
        hoff, Nat.reduceAdd]
      rw [← hscan]
      omega
    · simp only [BytePtr.logged, hdebug, if_false, false_imp_iff, and_true, true_or]
      omega
  · omega

/-- A name is read up to its end: for the log, and to compare it where the device is listed. -/
theorem inside_handleRemoteNameRequestComplete (hlen : 3 + n ≤ data.len) :
    (exec (handleRemoteNameRequestComplete data) w).2.Inside n ↔
      7 ≤ n ∧ (kWiimoteLogDebug ≤ w.logLevel → ∃ i < n - 7, data.at (7 + i) = 0) ∧
        (w.gRuntime.hciEventContext.scannedDevices.Listed (data + 1).bdAddrAt →
          7 + (data + 7).compared wiimoteName ≤ n) := by
  rw [← and_assoc, ← inside_loggedName hoff hw hlen]
  simp only [handleRemoteNameRequestComplete, exec_streamToBdAddr_bind, exec_then,
    exec_logRemoteName, exec_getContext_bind, TwWorld.logLevel_noteReads, TwWorld.gRuntime_noteReads,
    ScannedDevices.Listed]
  cases w.gRuntime.hciEventContext.scannedDevices.findScannedDevice (data + 1).bdAddrAt with
  | none => simp
  | some scanned =>
    have hcompared : 0 < (data + 7).compared wiimoteName := by
      change 0 < ite _ _ _
      split <;> omega
    have hacts : ∀ v, (exec (if (data + 7).startsWith wiimoteName then do
        hciSend makeCmdInquiryCancel
        startCreateConnection scanned false
        else pure ()) v).2.Inside n ↔ v.Inside n := fun v =>
      ((Within.ite (R := ActionEffect) _
        (fun _ => Within.bind
          (actionEffect_hciSend formedCommand_makeCmdInquiryCancel (by decide)) fun _ =>
            actionEffect_startCreateConnection ..) fun _ => Within.pure _).rel v).inside
    simp only [exec_bind_of_exec (exec_readMatches ..), hacts]
    rw [inside_noteReads, inside_range]
    refine and_congr_right fun _ => ?_
    rw [BytePtr.off_add, hoff]
    simp only [Option.isSome_some, true_imp_iff]
    omega

end Handlers

/-! ## Inquiry results -/

section Inquiry

variable {response data : BytePtr}

/-- A response from a listed device is skipped once its address has been read. -/
theorem exec_handleInquiryResponse_of_listed
    (h : w.gRuntime.hciEventContext.scannedDevices.Listed response.bdAddrAt) :
    exec (handleInquiryResponse response) w =
      ((), w.noteReads ((List.range 6).map (response.off + ·))) := by
  rw [handleInquiryResponse, exec_streamToBdAddr_bind, exec_getContext_bind, if_pos]
  · rfl
  · exact h

/-- Any other response is read further, and its device is added if there is room. -/
theorem exec_handleInquiryResponse_of_not_listed
    (h : ¬w.gRuntime.hciEventContext.scannedDevices.Listed response.bdAddrAt) :
    exec (handleInquiryResponse response) w =
      exec (match w.gRuntime.hciEventContext.scannedDevices.addScannedDevice response.scannedAt with
        | none => pure ()
        | some devices => do
          modifyContext fun ctx => { ctx with scannedDevices := devices }
          let isWiimote ← readMatches (response + 9) wiimoteClassOfDevice
          if isWiimote then
            hciSend (makeCmdRemoteNameRequest ⟨response.bdAddrAt, response.at 6,
              clockOffset (response.at 12) (response.at 13)⟩))
        (w.noteReads ((List.range 6).map (response.off + ·) ++
          [response.off + 6, response.off + 12, response.off + 13])) := by
  rw [handleInquiryResponse, exec_streamToBdAddr_bind, exec_getContext_bind, if_neg]
  · simp only [exec_readByte_bind, TwWorld.noteReads_noteReads, List.append_assoc,
      List.cons_append, List.nil_append]
    rfl
  · exact h

/-- A new device does not fit into a full list. -/
theorem exec_handleInquiryResponse_of_full
    (h : ¬w.gRuntime.hciEventContext.scannedDevices.Listed response.bdAddrAt)
    (hfull : w.gRuntime.hciEventContext.scannedDevices.Full) :
    exec (handleInquiryResponse response) w =
      ((), w.noteReads ((List.range 6).map (response.off + ·) ++
        [response.off + 6, response.off + 12, response.off + 13])) := by
  rw [exec_handleInquiryResponse_of_not_listed h, ScannedDevices.addScannedDevice,
    dif_neg (by rw [hfull]; exact Nat.lt_irrefl _)]
  rfl

/-- What a response can do to the context: its device is appended to a list that has room. -/
theorem context_handleInquiryResponse_of_new
    (h : ¬w.gRuntime.hciEventContext.scannedDevices.Listed response.bdAddrAt)
    (hfull : ¬w.gRuntime.hciEventContext.scannedDevices.Full) :
    ∃ devices : ScannedDevices,
      devices.entries = w.gRuntime.hciEventContext.scannedDevices.entries ++ [response.scannedAt] ∧
      (exec (handleInquiryResponse response) w).2.gRuntime.hciEventContext =
        { w.gRuntime.hciEventContext with scannedDevices := devices } := by
  have hlt : w.gRuntime.hciEventContext.scannedDevices.entries.length < kHciScannedDeviceListSize :=
    Nat.lt_of_le_of_ne (ScannedDevices.length_le _) hfull
  refine ⟨⟨_, ?_⟩, rfl, ?_⟩
  · rw [List.length_append]
    exact hlt
  rw [exec_handleInquiryResponse_of_not_listed h, ScannedDevices.addScannedDevice, dif_pos hlt]
  simp only [exec_then, exec_modifyContext, exec_bind_of_exec (exec_readMatches ..), exec_ite,
    exec_hciSend, exec_pure]
  split <;> rfl

/-- A complete response is read inside. -/
theorem inside_handleInquiryResponse (hw : w.Inside n)
    (hfit : response.off + inquiryResponseSize ≤ 3 + n) :
    (exec (handleInquiryResponse response) w).2.Inside n := by
  simp only [inquiryResponseSize] at hfit
  by_cases h : w.gRuntime.hciEventContext.scannedDevices.Listed response.bdAddrAt
  · rw [exec_handleInquiryResponse_of_listed h, inside_noteReads, inside_range]
    exact ⟨hw, by omega⟩
  have hfields : (w.noteReads ((List.range 6).map (response.off + ·) ++
      [response.off + 6, response.off + 12, response.off + 13])).Inside n := by
    rw [← TwWorld.noteReads_noteReads, inside_noteReads, inside_noteReads, inside_range]
    refine ⟨⟨hw, by omega⟩, ?_⟩
    simp only [List.mem_cons, List.not_mem_nil, or_false, forall_eq_or_imp, forall_eq]
    omega
  rw [exec_handleInquiryResponse_of_not_listed h]
  cases w.gRuntime.hciEventContext.scannedDevices.addScannedDevice response.scannedAt with
  | none => exact hfields
  | some devices =>
    have hclass := (response + 9).compared_le wiimoteClassOfDevice
    have hthree : wiimoteClassOfDevice.length = 3 := rfl
    simp only [exec_then, exec_modifyContext, exec_bind_of_exec (exec_readMatches ..), exec_ite,
      exec_pure]
    have hmatched : ∀ v : TwWorld, v.Inside n → (v.noteReads
        ((List.range ((response + 9).compared wiimoteClassOfDevice)).map
          ((response + 9).off + ·))).Inside n := by
      intro v hv
      rw [inside_noteReads, inside_range, BytePtr.off_add]
      exact ⟨hv, by omega⟩
    split
    · exact ((actionEffect_hciSend (R := ActionEffect)
        (formedCommand_makeCmdRemoteNameRequest _) (by decide)).rel _).inside.mpr (hmatched _ hfields)
    · exact hmatched _ hfields

/-- Inquiry responses only append to the list of devices. -/
structure InquiryEffect (w t : TwWorld) : Prop where
  entries : w.gRuntime.hciEventContext.scannedDevices.entries <+:
    t.gRuntime.hciEventContext.scannedDevices.entries
  context : t.gRuntime.hciEventContext =
    { w.gRuntime.hciEventContext with
      scannedDevices := t.gRuntime.hciEventContext.scannedDevices }

instance : IsPreorder TwWorld InquiryEffect where
  refl _ := ⟨List.prefix_rfl, rfl⟩
  trans _ _ _ h h' := by
    refine ⟨h.entries.trans h'.entries, ?_⟩
    rw [h'.context, h.context]

/-- A list that did not get longer is the same list. -/
theorem InquiryEffect.context_eq {t : TwWorld} (h : InquiryEffect w t)
    (hlen : t.gRuntime.hciEventContext.scannedDevices.entries.length ≤
      w.gRuntime.hciEventContext.scannedDevices.entries.length) :
    t.gRuntime.hciEventContext = w.gRuntime.hciEventContext := by
  have hdevices : t.gRuntime.hciEventContext.scannedDevices =
      w.gRuntime.hciEventContext.scannedDevices :=
    ScannedDevices.ext (h.entries.eq_of_length_le hlen).symm
  rw [h.context, hdevices]

/-- A response is read and may be listed. -/
theorem inquiryEffect_handleInquiryResponse (response : BytePtr) :
    Within InquiryEffect (handleInquiryResponse response) := by
  refine ⟨fun w => ?_⟩
  by_cases h : w.gRuntime.hciEventContext.scannedDevices.Listed response.bdAddrAt
  · rw [exec_handleInquiryResponse_of_listed h]
    exact ⟨List.prefix_rfl, rfl⟩
  by_cases hfull : w.gRuntime.hciEventContext.scannedDevices.Full
  · rw [exec_handleInquiryResponse_of_full h hfull]
    exact ⟨List.prefix_rfl, rfl⟩
  · obtain ⟨devices, hentries, hctx⟩ := context_handleInquiryResponse_of_new h hfull
    refine ⟨?_, by rw [hctx]⟩
    rw [hctx, hentries]
    exact List.prefix_append ..

/-- So are all of them. -/
theorem inquiryEffect_handleInquiryResponses (data : BytePtr) (num : Nat) :
    Within InquiryEffect (handleInquiryResponses data num) := by
  induction num with
  | zero => exact Within.pure _
  | succ num ih => exact Within.bind ih fun _ => inquiryEffect_handleInquiryResponse _

/-- Nothing is done for the first `num` responses. -/
def HciEventContext.SkipsResponses (ctx : HciEventContext) (data : BytePtr) (num : Nat) : Prop :=
  ctx.scannedDevices.Full ∨
    ∀ j < num, ctx.scannedDevices.Listed (inquiryResponse data j).bdAddrAt

/-- One response is skipped exactly when it leaves the context as it is. -/
theorem context_handleInquiryResponse_eq_iff :
    (exec (handleInquiryResponse response) w).2.gRuntime.hciEventContext =
        w.gRuntime.hciEventContext ↔
      w.gRuntime.hciEventContext.scannedDevices.Full ∨
        w.gRuntime.hciEventContext.scannedDevices.Listed response.bdAddrAt := by
  by_cases h : w.gRuntime.hciEventContext.scannedDevices.Listed response.bdAddrAt
  · rw [exec_handleInquiryResponse_of_listed h]
    exact iff_of_true rfl (.inr h)
  by_cases hfull : w.gRuntime.hciEventContext.scannedDevices.Full
  · rw [exec_handleInquiryResponse_of_full h hfull]
    exact iff_of_true rfl (.inl hfull)
  · refine iff_of_false (fun heq => ?_) fun hskip => hskip.elim hfull h
    obtain ⟨devices, hentries, hctx⟩ := context_handleInquiryResponse_of_new h hfull
    have hdevices := congrArg (fun ctx => ctx.scannedDevices.entries.length) (hctx.symm.trans heq)
    simp only [hentries, List.length_append, List.length_singleton] at hdevices
    omega

/-- Skipped responses also send nothing. -/
theorem sent_handleInquiryResponse_of_skipped
    (h : w.gRuntime.hciEventContext.scannedDevices.Full ∨
      w.gRuntime.hciEventContext.scannedDevices.Listed response.bdAddrAt) :
    (exec (handleInquiryResponse response) w).2.sent = w.sent := by
  by_cases hlisted : w.gRuntime.hciEventContext.scannedDevices.Listed response.bdAddrAt
  · rw [exec_handleInquiryResponse_of_listed hlisted]
    rfl
  · rw [exec_handleInquiryResponse_of_full hlisted (h.resolve_right hlisted)]
    rfl

/-- The context after some responses is the one before exactly when all were skipped: it can
only grow, so it was the same before each of them. -/
theorem context_handleInquiryResponses_eq_iff (data : BytePtr) (num : Nat) :
    (exec (handleInquiryResponses data num) w).2.gRuntime.hciEventContext =
        w.gRuntime.hciEventContext ↔ w.gRuntime.hciEventContext.SkipsResponses data num := by
  induction num with
  | zero => exact iff_of_true rfl (.inr fun j hj => absurd hj (Nat.not_lt_zero j))
  | succ num ih =>
    let v := (exec (handleInquiryResponses data num) w).2
    have hfirst : InquiryEffect w v := (inquiryEffect_handleInquiryResponses data num).rel w
    have hsecond := (inquiryEffect_handleInquiryResponse (inquiryResponse data num)).rel v
    rw [handleInquiryResponses, exec_then]
    change (exec (handleInquiryResponse _) v).2.gRuntime.hciEventContext = _ ↔ _
    have hsplit : w.gRuntime.hciEventContext.SkipsResponses data (num + 1) ↔
        w.gRuntime.hciEventContext.SkipsResponses data num ∧
          (w.gRuntime.hciEventContext.scannedDevices.Full ∨
            w.gRuntime.hciEventContext.scannedDevices.Listed (inquiryResponse data num).bdAddrAt) := by
      rw [HciEventContext.SkipsResponses, HciEventContext.SkipsResponses, ← or_and_left,
        Nat.forall_lt_succ_right]
    rw [hsplit, ← ih]
    constructor
    · intro heq
      have hv : v.gRuntime.hciEventContext = w.gRuntime.hciEventContext := by
        have hlen := hsecond.entries.length_le
        rw [heq] at hlen
        exact hfirst.context_eq hlen
      exact ⟨hv, hv ▸ context_handleInquiryResponse_eq_iff.mp (heq.trans hv.symm)⟩
    · rintro ⟨hv, hskip⟩
      rw [← hv] at hskip
      exact (context_handleInquiryResponse_eq_iff.mpr hskip).trans hv

/-- Responses that are skipped send nothing. -/
theorem sent_handleInquiryResponses_of_skipped (data : BytePtr) (num : Nat)
    (h : w.gRuntime.hciEventContext.SkipsResponses data num) :
    (exec (handleInquiryResponses data num) w).2.sent = w.sent := by
  induction num with
  | zero => rfl
  | succ num ih =>
    have hbefore : w.gRuntime.hciEventContext.SkipsResponses data num :=
      h.imp_right fun hall j hj => hall j (Nat.lt_succ_of_lt hj)
    have hv := (context_handleInquiryResponses_eq_iff data num).mpr hbefore
    rw [handleInquiryResponses, exec_then, sent_handleInquiryResponse_of_skipped, ih hbefore]
    rw [hv]
    exact h.imp_right fun hall => hall num (Nat.lt_succ_self num)

/-- Complete responses are read inside. -/
theorem inside_handleInquiryResponses (hoff : data.off = 3) (hw : w.Inside n) {num : Nat}
    (hfit : 1 + inquiryResponseSize * num ≤ n) :
    (exec (handleInquiryResponses data num) w).2.Inside n := by
  induction num with
  | zero => exact hw
  | succ num ih =>
    simp only [inquiryResponseSize] at hfit ih
    rw [handleInquiryResponses, exec_then]
    refine inside_handleInquiryResponse (ih (by omega)) ?_
    simp only [inquiryResponse, inquiryResponseSize, BytePtr.off_add, hoff]
    omega

/-- If a response was read inside, its address was, and the rest of it unless it was skipped. -/
theorem of_inside_handleInquiryResponse
    (h : (exec (handleInquiryResponse response) w).2.Inside n) :
    w.Inside n ∧ response.off + 6 ≤ 3 + n ∧
      (¬w.gRuntime.hciEventContext.scannedDevices.Listed response.bdAddrAt →
        response.off + inquiryResponseSize ≤ 3 + n) := by
  by_cases hlisted : w.gRuntime.hciEventContext.scannedDevices.Listed response.bdAddrAt
  · rw [exec_handleInquiryResponse_of_listed hlisted, inside_noteReads, inside_range] at h
    exact ⟨h.1, by omega, fun hnot => absurd hlisted hnot⟩
  have hfields : (w.noteReads ((List.range 6).map (response.off + ·) ++
      [response.off + 6, response.off + 12, response.off + 13])).Inside n := by
    rw [exec_handleInquiryResponse_of_not_listed hlisted] at h
    revert h
    cases w.gRuntime.hciEventContext.scannedDevices.addScannedDevice response.scannedAt with
    | none => exact id
    | some devices =>
      simp only [exec_then, exec_modifyContext, exec_bind_of_exec (exec_readMatches ..), exec_ite,
        exec_pure]
      intro h
      have hbefore : ∀ v : TwWorld, ∀ offsets, (v.noteReads offsets).Inside n → v.Inside n :=
        fun v offsets hv => ((inside_noteReads offsets).mp hv).1
      split at h
      · exact (inside_mapContext _).mp (hbefore _ _ (((actionEffect_hciSend (R := ActionEffect)
          (formedCommand_makeCmdRemoteNameRequest _) (by decide)).rel _).inside.mp h))
      · exact (inside_mapContext _).mp (hbefore _ _ h)
  rw [← TwWorld.noteReads_noteReads, inside_noteReads, inside_noteReads, inside_range] at hfields
  have hlast := hfields.2 (response.off + 13) (by simp)
  exact ⟨hfields.1.1, by omega, fun _ => by simp only [inquiryResponseSize]; omega⟩

/-- The handler only adds reads. -/
theorem of_inside_handleInquiryResponses (data : BytePtr) (num : Nat)
    (h : (exec (handleInquiryResponses data num) w).2.Inside n) : w.Inside n := by
  induction num with
  | zero => exact h
  | succ num ih =>
    rw [handleInquiryResponses, exec_then] at h
    exact ih (of_inside_handleInquiryResponse h).1

/-- Responses that are cut short are handled safely only if nothing is done for them and the
cut lies behind the address of the last one. -/
theorem handleInquiryResponses_safe_iff (hoff : data.off = 3) (hw : w.Inside n) {num : Nat}
    (hcut : n < 1 + inquiryResponseSize * (num + 1)) :
    ((exec (handleInquiryResponses data (num + 1)) w).2.Inside n ∧
        (exec (handleInquiryResponses data (num + 1)) w).2.gRuntime.hciEventContext =
            w.gRuntime.hciEventContext ∧
          (exec (handleInquiryResponses data (num + 1)) w).2.sent = w.sent) ↔
      1 + inquiryResponseSize * num + 6 ≤ n ∧
        w.gRuntime.hciEventContext.scannedDevices.Listed (inquiryResponse data num).bdAddrAt ∧
        w.gRuntime.hciEventContext.SkipsResponses data num := by
  let v := (exec (handleInquiryResponses data num) w).2
  have hlast : exec (handleInquiryResponses data (num + 1)) w =
      exec (handleInquiryResponse (inquiryResponse data num)) v := exec_then ..
  have hpos : (inquiryResponse data num).off = 3 + (1 + inquiryResponseSize * num) := by
    rw [inquiryResponse, BytePtr.off_add, hoff]
  have hskip := context_handleInquiryResponses_eq_iff (w := w) data num
  constructor
  · rintro ⟨hinside, hctx, -⟩
    have hall := (context_handleInquiryResponses_eq_iff data (num + 1)).mp hctx
    have hbefore : w.gRuntime.hciEventContext.SkipsResponses data num :=
      hall.imp_right fun h j hj => h j (Nat.lt_succ_of_lt hj)
    rw [hlast] at hinside
    obtain ⟨-, haddr, hrest⟩ := of_inside_handleInquiryResponse hinside
    rw [hpos] at haddr hrest
    refine ⟨by omega, ?_, hbefore⟩
    by_contra hnot
    have hfit := hrest (by rwa [hskip.mpr hbefore])
    simp only [inquiryResponseSize] at hfit hcut
    omega
  · rintro ⟨haddr, hlisted, hbefore⟩
    have hvctx := hskip.mpr hbefore
    have hvlisted : v.gRuntime.hciEventContext.scannedDevices.Listed
        (inquiryResponse data num).bdAddrAt := by rwa [hvctx]
    rw [hlast, exec_handleInquiryResponse_of_listed hvlisted, inside_noteReads, inside_range, hpos]
    refine ⟨⟨inside_handleInquiryResponses hoff hw (by omega), by omega⟩, hvctx, ?_⟩
    exact sent_handleInquiryResponses_of_skipped data num hbefore

/-- An inquiry result is handled safely when it is complete or harmlessly cut short. -/
theorem handleInquiryResult_safe_iff (hoff : data.off = 3) (hw : w.Inside n) :
    ((exec (handleInquiryResult data) w).2.Inside n ∧
        (¬(1 ≤ n ∧ 1 + inquiryResponseSize * (data.at 0).toNat ≤ n) →
          (exec (handleInquiryResult data) w).2.gRuntime.hciEventContext =
              w.gRuntime.hciEventContext ∧
            (exec (handleInquiryResult data) w).2.sent = w.sent)) ↔
      (1 ≤ n ∧ 1 + inquiryResponseSize * (data.at 0).toNat ≤ n) ∨
        (1 ≤ (data.at 0).toNat ∧ 1 + inquiryResponseSize * ((data.at 0).toNat - 1) + 6 ≤ n ∧
          w.gRuntime.hciEventContext.scannedDevices.Listed
            (inquiryResponse data ((data.at 0).toNat - 1)).bdAddrAt ∧
          w.gRuntime.hciEventContext.SkipsResponses data ((data.at 0).toNat - 1)) := by
  have hcount : (w.noteReads [data.off + 0]).Inside n ↔ 1 ≤ n := by
    rw [inside_noteReads, hoff]
    simp only [hw, true_and, List.mem_singleton, forall_eq]
    omega
  simp only [handleInquiryResult, exec_readByte_bind]
  generalize (data.at 0).toNat = num
  by_cases hone : 1 ≤ n
  · have hv := hcount.mpr hone
    by_cases hfit : 1 + inquiryResponseSize * num ≤ n
    · exact iff_of_true ⟨inside_handleInquiryResponses hoff hv hfit, fun h => absurd ⟨hone, hfit⟩ h⟩
        (.inl ⟨hone, hfit⟩)
    · cases num with
      | zero => exact absurd hone (by simpa using hfit)
      | succ num =>
        have hsafe := handleInquiryResponses_safe_iff hoff hv
          (show n < 1 + inquiryResponseSize * (num + 1) by omega)
        simp only [hfit, and_false, not_false_eq_true, true_imp_iff, false_or, Nat.add_sub_cancel,
          Nat.le_add_left, true_and]
        exact hsafe
  · refine iff_of_false (fun h => ?_) fun h => ?_
    · exact hone (hcount.mp (of_inside_handleInquiryResponses data num h.1))
    · rcases h with h | h <;> omega

end Inquiry

/-! ## Steps -/

/-- An event declares no more bytes than there are. -/
theorem eventPacket_mem {mem : Nat → UInt8} {len : Nat} {packet : HciEventPacket}
    (h : eventPacket (some mem) len = some packet) :
    packet = ⟨mem 1, mem 2, { mem, len, off := 3 }⟩ ∧ 3 + (mem 2).toNat ≤ len := by
  simp only [eventPacket] at h
  split at h
  next hd => exact ⟨(Option.some.inj h).symm, hd.2.2.2⟩
  next => cases h

/-- Where reading inside means completeness, an incomplete event is not handled safely. -/
theorem safe_iff_of_inside_iff {inside complete truncated untouched : Prop}
    (h : inside ↔ complete) (hnot : ¬truncated) :
    (inside ∧ (¬complete → untouched)) ↔ complete ∨ truncated :=
  ⟨fun hs => .inl (h.mp hs.1), fun hs =>
    have hc := hs.resolve_right hnot
    ⟨h.mpr hc, fun hn => absurd hc hn⟩⟩

/-- Every event is handled safely exactly when it is complete or harmlessly cut short. -/
theorem hciEventsHandleEvent_safe_iff {packet : HciEventPacket} (hoff : packet.data.off = 3)
    (hlen : 3 + packet.len.toNat ≤ packet.data.len) (hw : w.Inside packet.len.toNat) :
    ((exec (hciEventsHandleEvent callbacks packet) w).2.Inside packet.len.toNat ∧
        (¬packet.Complete w.gRuntime.hciEventContext w.logLevel →
          (exec (hciEventsHandleEvent callbacks packet) w).2.gRuntime.hciEventContext =
              w.gRuntime.hciEventContext ∧
            (exec (hciEventsHandleEvent callbacks packet) w).2.sent = w.sent)) ↔
      packet.Complete w.gRuntime.hciEventContext w.logLevel ∨
        packet.HarmlesslyTruncated w.gRuntime.hciEventContext := by
  by_cases hres : packet.eventCode = kHciInquiryResultEvt
  · have hinq : packet.eventCode ≠ kHciInquiryCompEvt := by rw [hres]; decide
    simp only [hciEventsHandleEvent, HciEventPacket.Complete, if_neg hinq, if_pos hres]
    refine (handleInquiryResult_safe_iff hoff hw).trans (or_congr_right ⟨fun h => ?_, fun h => ?_⟩)
    · exact ⟨hres, h.1, h.2.1, h.2.2.1, h.2.2.2⟩
    · exact ⟨h.count, h.address, h.listed, h.before⟩
  refine safe_iff_of_inside_iff ?_ fun h => hres h.code
  simp only [hciEventsHandleEvent, HciEventPacket.Complete, hres, if_false]
  split_ifs
  · exact ((actionEffect_hciEventsResetDevice (R := ActionEffect)).rel w).inside.trans (iff_of_true hw trivial)
  · exact inside_handleConnectionComplete hoff hw
  · exact inside_handleDisconnectionComplete hoff hw
  · exact inside_handleRemoteNameRequestComplete hoff hw hlen
  · exact inside_handleCommandComplete hoff hw
  · exact inside_handleCommandStatus hoff hw
  · exact iff_of_true hw trivial

/-- An event that is dropped before dispatch costs the reads of its header. -/
theorem exec_handleHciData_of_dropped {mem : Nat → UInt8} {len : Nat} (htype : mem 0 = h4Event)
    (h : eventPacket (some mem) len = none) (w : TwWorld) :
    ∃ offsets, exec (handleHciData (some mem) len) w = ((), w.noteReads offsets) ∧
      ∀ i ∈ offsets, i < len ∧ i < 3 := by
  have hread : ∀ i, BytePtr.at { mem, len } i = mem i := fun i => by simp [BytePtr.at]
  by_cases hzero : len = 0
  · exact ⟨[], by simp [handleHciData, hzero], by simp⟩
  by_cases hshort : len < 3
  · refine ⟨[0], ?_, by simp; omega⟩
    simp [handleHciData, hzero, hread, htype, handleHciEvent, hshort]
  by_cases hdeclared : len < 3 + (mem 2).toNat
  · refine ⟨[0, 2], ?_, by simp; omega⟩
    simp [handleHciData, hzero, hread, htype, handleHciEvent, hshort, hdeclared]
  · have hd : len ≠ 0 ∧ mem 0 = h4Event ∧ 3 ≤ len ∧ 3 + (mem 2).toNat ≤ len :=
      ⟨hzero, htype, by omega, by omega⟩
    simp [eventPacket, hd] at h

/-- An event packet is handled safely, in any state of the runtime, exactly when it is dropped
before dispatch, complete for its handler, or harmlessly cut short. -/
theorem eventHandledSafely_iff (w : TwWorld) (mem : Nat → UInt8) (len : Nat) (millis : UInt32)
    (logLevel : UInt8) (htype : mem 0 = h4Event) :
    EventHandledSafely w mem len millis logLevel ↔
      ∀ packet ∈ eventPacket (some mem) len,
        packet.Complete w.gRuntime.hciEventContext logLevel ∨
          packet.HarmlesslyTruncated w.gRuntime.hciEventContext := by
  let e : TwEvent := ⟨.hci (some mem) len, millis, logLevel⟩
  change (∀ i ∈ (exec (handleHciData (some mem) len) (w.enter e)).2.reads, _) ∧ (_ → _) ↔ _
  cases hpacket : eventPacket (some mem) len with
  | none =>
    obtain ⟨offsets, hexec, hoffsets⟩ := exec_handleHciData_of_dropped htype hpacket (w.enter e)
    rw [show w.step e = (w.enter e).noteReads offsets from congrArg Prod.snd hexec, hexec]
    simp only [Option.mem_def, reduceCtorEq, false_imp_iff, implies_true, iff_true, true_imp_iff]
    refine ⟨fun i hi => ?_, rfl, rfl⟩
    have hi' := hoffsets i hi
    exact ⟨hi'.1, by omega⟩
  | some packet =>
    obtain ⟨rfl, hdeclared⟩ := eventPacket_mem hpacket
    have hexec := exec_handleHciData_of_eventPacket hpacket (w.enter e)
    have hw : ((w.enter e).noteReads [0, 2, 1]).Inside (mem 2).toNat := by
      rw [inside_noteReads]
      exact ⟨fun i hi => absurd hi List.not_mem_nil, by simp; omega⟩
    let packet : HciEventPacket := ⟨mem 1, mem 2, { mem, len, off := 3 }⟩
    have hsafe := hciEventsHandleEvent_safe_iff (show packet.data.off = 3 from rfl) hdeclared hw
    rw [← hexec] at hsafe
    have hmem : ∀ P : HciEventPacket → Prop,
        (∀ packet ∈ some (⟨mem 1, mem 2, { mem, len, off := 3 }⟩ : HciEventPacket), P packet) ↔
          P ⟨mem 1, mem 2, { mem, len, off := 3 }⟩ := by simp
    rw [hmem, hmem]
    refine Iff.trans (and_congr_left fun _ => ?_) hsafe
    exact forall₂_congr fun i _ => ⟨And.right, fun h => ⟨Nat.lt_of_lt_of_le h hdeclared, h⟩⟩

/-- A Command Complete event without parameters is read three bytes past its end. -/
theorem empty_commandComplete_not_handled_safely :
    ¬EventHandledSafely (({} : TwWorld).afterInit ⟨true⟩)
      (fun i => [0x04, 0x0E, 0x00].getD i 0) 3 0 2 := by
  intro h
  exact absurd (h.1 5 (by decide)).1 (by decide)

/-- The reply to Reset is complete. -/
theorem resetComplete_handled_safely :
    EventHandledSafely (({} : TwWorld).afterInit ⟨true⟩)
      (fun i => [0x04, 0x0E, 0x04, 0x01, 0x03, 0x0C, 0x00].getD i 0) 7 0 2 := by
  refine (eventHandledSafely_iff (({} : TwWorld).afterInit ⟨true⟩)
    (fun i => [0x04, 0x0E, 0x04, 0x01, 0x03, 0x0C, 0x00].getD i 0) 7 0 2 rfl).mpr ?_
  intro packet hpacket
  cases hpacket
  exact .inl (by decide : 4 ≤ 4)

end Esp32Wiimote.Bluetooth
