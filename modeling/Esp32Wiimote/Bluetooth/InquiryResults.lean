import Esp32Wiimote.Bluetooth.FreshInquiry

/-!
# What an Inquiry Result adds

The responses of one event are handled one after the other, each against the list as the earlier ones
left it. In the end the list is longer by the first response from every address that was not listed,
as far as there is room, and the Wiimotes among these are asked for their names.
-/

namespace Esp32Wiimote.Bluetooth

open StateProgram TransitionRun

/-- Of the responses, those that are listed: the first from each new address, while there is room. -/
def ScannedDevices.newlyListed (devices : ScannedDevices) (responses : List BytePtr) : List BytePtr :=
  FirstSeen.newItems 16 BytePtr.bdAddrAt devices.bdAddrs responses

/-- The Remote Name Request for the device of a response. -/
def BytePtr.nameRequest (response : BytePtr) : List UInt8 :=
  makeCmdRemoteNameRequest ⟨response.bdAddrAt, response.at 6, clockOffset (response.at 12) (response.at 13)⟩

/-- The step handles these responses: what is listed after it, and the names it asks for. -/
structure TwWorld.ProcessesResponses (w : TwWorld) (e : TwEvent) (responses : List BytePtr) : Prop where
  fits : (w.step e).gRuntime.hciEventContext.scannedDevices.entries.length ≤ 16
  distinct : (w.step e).gRuntime.hciEventContext.scannedDevices.bdAddrs.Nodup
  listed : (w.step e).gRuntime.hciEventContext.scannedDevices.entries =
    w.gRuntime.hciEventContext.scannedDevices.entries ++
      (w.gRuntime.hciEventContext.scannedDevices.newlyListed responses).map BytePtr.scannedAt
  asked : (w.step e).sent.filter (commandOpcode · = some kHciOpcodeRemoteNameRequest) =
    w.handed (((w.gRuntime.hciEventContext.scannedDevices.newlyListed responses).filter
      BytePtr.describesWiimote).map BytePtr.nameRequest)

/-! ## One response after the other -/

/-- A device that is added comes last. -/
theorem ScannedDevices.entries_of_addScannedDevice {devices devices' : ScannedDevices}
    {scanned : HciScannedDevice} (hadd : devices.addScannedDevice scanned = some devices') :
    devices'.entries = devices.entries ++ [scanned] := by
  simp only [addScannedDevice] at hadd
  split at hadd
  · rw [← Option.some.inj hadd]
  · cases hadd

namespace Host

variable (h : Host)

/-- The responses so far were listed and asked as they should. -/
structure Lists (responses : List BytePtr) (h' : Host) : Prop where
  listed : h'.context.scannedDevices.entries = h.context.scannedDevices.entries ++
    (h.context.scannedDevices.newlyListed responses).map BytePtr.scannedAt
  asked : h'.commands = h.commands ++ h.given (((h.context.scannedDevices.newlyListed responses).filter
    BytePtr.describesWiimote).map BytePtr.nameRequest)
  wiring : h'.context.sendPacket = h.context.sendPacket ∧ h'.callback = h.callback

variable {h}

/-- What the callback is given of two lists is what it is given of each. -/
theorem given_append (first second : List (List UInt8)) :
    h.given (first ++ second) = h.given first ++ h.given second := by
  simp only [given]
  split <;> simp

/-- Listing responses does not change whether the callback is set. -/
theorem Lists.given {responses : List BytePtr} {h' : Host} (hlists : h.Lists responses h')
    (packets : List (List UInt8)) : h'.given packets = h.given packets := by
  simp only [Host.given, hlists.wiring.1, hlists.wiring.2]

/-- The addresses listed are the old ones and then the new responses', in order. -/
theorem Lists.bdAddrs {responses : List BytePtr} {h' : Host} (hlists : h.Lists responses h') :
    h'.context.scannedDevices.bdAddrs = h.context.scannedDevices.bdAddrs ++
      (h.context.scannedDevices.newlyListed responses).map BytePtr.bdAddrAt := by
  rw [ScannedDevices.bdAddrs, hlists.listed, List.map_append, List.map_map]
  rfl

/-- No response lists nothing. -/
theorem lists_nil : h.Lists [] h := by
  refine ⟨?_, ?_, rfl, rfl⟩
  · simp [ScannedDevices.newlyListed, FirstSeen.newItems, FirstSeen.firstItems]
  · simp [ScannedDevices.newlyListed, FirstSeen.newItems, FirstSeen.firstItems]

/-- One more response: it is listed unless its address is, or there is no room. -/
theorem Lists.inquiryResponse {responses : List BytePtr} {h' : Host} (hlists : h.Lists responses h')
    (response : BytePtr) : h.Lists (responses ++ [response]) (h'.inquiryResponse response) := by
  obtain ⟨new, hnew⟩ : ∃ new, h.context.scannedDevices.newlyListed responses = new := ⟨_, rfl⟩
  have hbdAddrs := hlists.bdAddrs
  have hlast : h.context.scannedDevices.newlyListed (responses ++ [response]) =
      if response.bdAddrAt ∈ h'.context.scannedDevices.bdAddrs ∨ 16 ≤ h'.context.scannedDevices.bdAddrs.length
        then new else new ++ [response] := by
    rw [hbdAddrs, hnew, List.length_append, List.length_map, ← hnew]
    exact FirstSeen.newItems_append_singleton ..
  have hseen := h'.context.scannedDevices.isSome_findScannedDevice response.bdAddrAt
  have hkept (hold : response.bdAddrAt ∈ h'.context.scannedDevices.bdAddrs ∨
      16 ≤ h'.context.scannedDevices.bdAddrs.length) : h.Lists (responses ++ [response]) h' := by
    rw [if_pos hold, ← hnew] at hlast
    exact ⟨hlast ▸ hlists.listed, hlast ▸ hlists.asked, hlists.wiring⟩
  rw [Host.inquiryResponse]
  split
  next hfound => exact hkept (.inl (hseen.mp hfound))
  next hlost =>
    obtain ⟨hadd, hfull⟩ | ⟨devices, hadd, hroom, -⟩ :=
      h'.context.scannedDevices.addScannedDevice_cases response.scannedAt
    · rw [hadd]
      exact hkept (.inr hfull)
    rw [if_neg (not_or.mpr ⟨mt hseen.mpr hlost, hroom⟩)] at hlast
    have hentries : devices.entries = h.context.scannedDevices.entries ++
        (new ++ [response]).map BytePtr.scannedAt := by
      rw [ScannedDevices.entries_of_addScannedDevice hadd, hlists.listed, hnew, List.map_append,
        List.append_assoc]
      rfl
    have hasked := hlists.asked
    rw [hnew] at hasked
    have hclass : (response + 9).startsWith wiimoteClassOfDevice = response.describesWiimote := rfl
    simp only [hadd, hclass]
    -- a new device is asked for its name if it is a Wiimote
    split
    next hwiimote =>
      refine ⟨?_, ?_, ?_⟩
      · rw [Host.context_send, hlast]
        exact hentries
      · have hgiven (packets : List (List UInt8)) :
            (h'.update fun ctx => { ctx with scannedDevices := devices }).given packets = h.given packets :=
          hlists.given packets
        rw [Host.commands_send, hgiven, hlast, List.filter_append, List.filter_cons_of_pos hwiimote,
          List.map_append, given_append, ← List.append_assoc, ← hasked]
        rfl
      · rw [Host.context_send, Host.callback_send]
        exact hlists.wiring
    next hother =>
      refine ⟨hlast ▸ hentries, ?_, hlists.wiring⟩
      rw [hlast, List.filter_append, List.filter_cons_of_neg hother, List.filter_nil, List.append_nil]
      exact hasked

/-- `handleInquiryResult` lists the responses of its event. -/
theorem lists_inquiryResponses (h : Host) (data : BytePtr) (num : Nat) :
    h.Lists ((List.range num).map (Bluetooth.inquiryResponse data)) (h.inquiryResponses data num) := by
  induction num with
  | zero => exact lists_nil
  | succ num ih =>
    rw [inquiryResponses, List.range_succ, List.map_append]
    exact ih.inquiryResponse _

/-- A list without repetitions stays without. -/
theorem Lists.nodup {responses : List BytePtr} {h' : Host} (hlists : h.Lists responses h')
    (hnodup : h.context.scannedDevices.bdAddrs.Nodup) : h'.context.scannedDevices.bdAddrs.Nodup := by
  rw [hlists.bdAddrs]
  exact FirstSeen.nodup_newItems _ _ _ _ hnodup

end Host

/-! ## The list in a run -/

/-- So it does after every input. -/
theorem nodup_devicesAfter {h : Host} (hnodup : h.context.scannedDevices.bdAddrs.Nodup)
    (input : AttemptInput) : (h.devicesAfter input).bdAddrs.Nodup := by
  have hempty : ScannedDevices.empty.bdAddrs.Nodup := List.nodup_nil
  cases input with
  | superseded cause => cases cause <;> assumption
  | initialised => exact hempty
  | failed =>
    rw [Host.devicesAfter]
    split <;> assumption
  | reported data => exact (Host.lists_inquiryResponses h data _).nodup hnodup
  | _ => exact hnodup

/-- No step lists an address twice, be the callbacks set or not. -/
theorem nodup_react {h : Host} (hnodup : h.context.scannedDevices.bdAddrs.Nodup) (input : HostInput) :
    (h.react input).context.scannedDevices.bdAddrs.Nodup := by
  cases input with
  | event packet =>
    by_cases hdisc : packet.eventCode = kHciDisconnectionCompEvt → h.context.onDisconnected = true
    · have hdevices := (reacts_handleEvent h hdisc).devices
      exact hdevices ▸ nodup_devicesAfter hnodup _
    · -- nobody is told that the link is down
      obtain ⟨hcode, hunset⟩ := Classical.not_imp.mp hdisc
      obtain ⟨eventCode, len, data⟩ := packet
      subst hcode
      change h.disconnected.context.scannedDevices.bdAddrs.Nodup
      rw [Host.disconnected, if_neg hunset]
      exact hnodup
  | firstReport => exact hnodup
  | call c handle =>
    by_cases hdiscovery : c = .startDiscovery
    · subst hdiscovery
      change (h.call .startDiscovery handle).context.scannedDevices.bdAddrs.Nodup
      simp only [Host.call]
      split_ifs
      · exact hnodup
      · exact hnodup
      · exact hnodup
      · rw [Host.context_update, Host.context_hand]
        exact hnodup
    · have hdevices := (reacts_call h (c := c) (fun hc => absurd hc hdiscovery) handle).devices
      exact hdevices ▸ nodup_devicesAfter hnodup _
  | nothing => exact hnodup

/-- So it does after every step. -/
theorem nodup_step {w : TwWorld} (hnodup : w.gRuntime.hciEventContext.scannedDevices.bdAddrs.Nodup)
    (e : TwEvent) : (w.step e).gRuntime.hciEventContext.scannedDevices.bdAddrs.Nodup := by
  rw [TwWorld.scannedDevices_step]
  exact nodup_react hnodup _

/-- An Inquiry Result lists its responses and asks for the names of the Wiimotes among them. -/
theorem lists_step {w : TwWorld} {e : TwEvent} {packet : HciEventPacket}
    (hdispatched : e.dispatched = some packet) (hresult : packet.eventCode = kHciInquiryResultEvt) :
    (w.host.enter e.millis).Lists packet.responses (w.step e).host := by
  rw [host_step, hostInput_of_dispatched hdispatched]
  obtain ⟨eventCode, len, data⟩ := packet
  subst hresult
  exact Host.lists_inquiryResponses _ data _

/-- A step that lists the responses processes them as it should. -/
theorem processesResponses_of_lists {w : TwWorld} {e : TwEvent} {responses : List BytePtr}
    (hlists : (w.host.enter e.millis).Lists responses (w.step e).host)
    (hnodup : (w.step e).gRuntime.hciEventContext.scannedDevices.bdAddrs.Nodup) :
    w.ProcessesResponses e responses := by
  refine ⟨(w.step e).gRuntime.hciEventContext.scannedDevices.length_le, hnodup, hlists.listed, ?_⟩
  have hasked : (w.step e).sent.filter IsCommand = w.handed _ := hlists.asked
  have hcommand (packet : List UInt8) : decide (commandOpcode packet = some kHciOpcodeRemoteNameRequest) =
      (decide (commandOpcode packet = some kHciOpcodeRemoteNameRequest) && IsCommand packet) := by
    cases hop : commandOpcode packet <;> simp [IsCommand, hop]
  rw [List.filter_congr fun packet _ => hcommand packet, ← List.filter_filter, hasked]
  refine List.filter_eq_self.mpr fun packet hmem => ?_
  rw [TwWorld.handed] at hmem
  split at hmem
  · obtain ⟨response, -, rfl⟩ := List.mem_map.mp hmem
    exact decide_eq_true (commandOpcode_makeCmdRemoteNameRequest _)
  · cases hmem

/-- From power on, whatever was called and received before: an Inquiry Result with all the responses
it declares lists the first response of each new address, in order, until 16 devices are listed, and
asks the Wiimotes among the devices it lists for their names, each once. -/
theorem inquiry_result_processed (events : List TwEvent) (e : TwEvent) (packet : HciEventPacket)
    (hdispatched : e.dispatched = some packet) (hcomplete : packet.CompleteResult) :
    (runFrom TwWorld.step {} events).ProcessesResponses e packet.responses :=
  processesResponses_of_lists (lists_step hdispatched hcomplete.1) <|
    nodup_step (invariant_of_step
      (I := fun w : TwWorld => w.gRuntime.hciEventContext.scannedDevices.bdAddrs.Nodup)
      (fun _ e hnodup => nodup_step hnodup e) (s := {}) List.nodup_nil events) e

/-- An Inquiry Result with these responses. -/
def TwAction.inquiryResults (responses : List (List UInt8)) : TwAction :=
  .received ([0x04, 0x02, (1 + inquiryResponseSize * responses.length).toUInt8, responses.length.toUInt8] ++
    responses.flatten)

/-- The response of a Wiimote with these two bytes of its clock offset. -/
def wiimoteResponse (bdAddr : BdAddrT) (clock : List UInt8) : List UInt8 :=
  streamBdAddr bdAddr ++ [0x01, 0x00, 0x00] ++ wiimoteClassOfDevice ++ clock

/-- A device that is listed responds again, and one that is not responds twice. -/
def repeatedResponses : TwEvent :=
  ⟨.inquiryResults [wiimoteResponse ⟨1, 2, 3, 4, 5, 6⟩ [0x00, 0x00],
    wiimoteResponse ⟨1, 2, 3, 4, 5, 7⟩ [0x12, 0x34], wiimoteResponse ⟨1, 2, 3, 4, 5, 7⟩ [0x00, 0x00]], 0, 2⟩

/-- A result that names one address twice and another once is processed as it should. -/
theorem inquiry_result_processed_repeated : ∃ packet, repeatedResponses.dispatched = some packet ∧
    packet.CompleteResult ∧ (runFrom TwWorld.step {}
      (⟨.call (.init ⟨true⟩), 0, 2⟩ :: discoveredOnce.take 7)).ProcessesResponses repeatedResponses
      packet.responses :=
  have hcomplete : HciEventPacket.CompleteResult _ := by decide +kernel
  ⟨_, rfl, hcomplete, inquiry_result_processed _ repeatedResponses _ rfl hcomplete⟩

end Esp32Wiimote.Bluetooth
