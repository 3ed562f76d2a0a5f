import Esp32Wiimote.Bluetooth.InquiryResults

/-!
# Where the fields of a page come from

A device is named and paged with an address, a repetition mode and a clock offset that one of its
inquiry responses brought. Beside a run it is noted which response each listed device, the connect
target and the cached controller come from. The address and the mode are carried as they came; the two
bytes of the clock offset are swapped on the way.
-/

namespace Esp32Wiimote.Bluetooth

open StateProgram TransitionRun

/-! ## Fields on the wire -/

/-- What a page needs to know of a device. -/
structure PagingFields where
  /-- The six bytes of the BD_ADDR field, in their order. -/
  bdAddr : List UInt8
  pageScanRepetitionMode : UInt8
  clockOffset : UInt16
  deriving DecidableEq

/-- The fields of an inquiry response, the clock offset with bit 15 set. -/
def BytePtr.pagingFields (response : BytePtr) : PagingFields where
  bdAddr := (List.range 6).map response.at
  pageScanRepetitionMode := response.at 6
  clockOffset := uint16OfLe (response.at 12) (response.at 13) ||| 0x8000

/-- The fields of a Remote Name Request or a Create Connection. In the second the packet type stands
before the mode. -/
def commandPagingFields (packet : List UInt8) : Option PagingFields :=
  if commandOpcode packet = some kHciOpcodeRemoteNameRequest then
    some ⟨(packet.drop 4).take 6, packet.getD 10 0, uint16OfLe (packet.getD 12 0) (packet.getD 13 0)⟩
  else if commandOpcode packet = some kHciOpcodeCreateConnection then
    some ⟨(packet.drop 4).take 6, packet.getD 12 0, uint16OfLe (packet.getD 14 0) (packet.getD 15 0)⟩
  else none

/-! ## Where devices come from -/

/-- The responses the listed devices, the connect target and the cached controller come from. -/
structure Sightings where
  listed : List BytePtr := []
  target : Option BytePtr := none
  cached : Option BytePtr := none

namespace Sightings

variable (s : Sightings)

/-- Of the responses, those that are listed. -/
def newlyListed (responses : List BytePtr) : List BytePtr :=
  FirstSeen.newItems 16 BytePtr.bdAddrAt (s.listed.map BytePtr.bdAddrAt) responses

/-- The response that was listed for an address. -/
def find (bdAddr : BdAddrT) : Option BytePtr := s.listed.find? fun response => response.bdAddrAt = bdAddr

/-- The sightings after an input; `pending` is the flag of the fast reconnect. -/
def react (pending : Bool) : AttemptInput → Sightings
  | .superseded .discovery => s
  | .superseded _ => { s with listed := [] }
  | .failed => if pending then { s with listed := [] } else s
  | .connected _ => { s with cached := s.target.or s.cached }
  | .tried => { s with target := s.cached }
  | .targeted scanned => { s with target := s.find scanned.bdAddr }
  | .reported data => { s with listed := s.listed ++ s.newlyListed (AttemptInput.reported data).responses }
  | .cleared => { s with cached := none }
  | .initialised => {}
  | .nothing => s

/-- The responses of the devices an input asks for a name or connects to. -/
def paged : AttemptInput → List BytePtr
  | .reported data => (s.newlyListed (AttemptInput.reported data).responses).filter BytePtr.describesWiimote
  | .targeted scanned => (s.find scanned.bdAddr).toList
  | .tried => s.cached.toList
  | _ => []

/-- The sightings account for what the event context holds. -/
structure Tracks (s : Sightings) (ctx : HciEventContext) : Prop where
  listed : ctx.scannedDevices.entries = s.listed.map BytePtr.scannedAt
  target : s.target.map BytePtr.scannedAt =
    if ctx.hasCurrentConnectTarget then some ctx.currentConnectTarget else none
  cached : s.cached.map BytePtr.scannedAt = if ctx.hasLastWiimote then some ctx.lastWiimote else none

end Sightings

/-- A run with its sightings. -/
structure Sighted where
  world : TwWorld
  sightings : Sightings

namespace Sighted

/-- A world after an initialisation, with nothing seen. -/
def start (w : TwWorld) (hciInterface : TwHciInterface) : Sighted := ⟨w.afterInit hciInterface, {}⟩

/-- What the step is for the attempt. -/
def input (s : Sighted) (e : TwEvent) : AttemptInput :=
  (s.world.host.enter e.millis).attemptInput (s.world.hostInput e)

/-- What was seen is kept beside the world. -/
def step (s : Sighted) (e : TwEvent) : Sighted where
  world := s.world.step e
  sightings := s.sightings.react s.world.gRuntime.hciEventContext.pendingFastReconnect (s.input e)

/-- The responses the step sends a Remote Name Request or a Create Connection for. -/
def paged (s : Sighted) (e : TwEvent) : List BytePtr :=
  if s.world.canSend then s.sightings.paged (s.input e) else []

/-- Every Remote Name Request and Create Connection of the step carries the fields of the response the
device comes from. -/
def CarriesIdentity (s : Sighted) (e : TwEvent) : Prop :=
  (s.world.step e).sent.filterMap commandPagingFields = (s.paged e).map BytePtr.pagingFields

/-- In each of these responses the two bytes of the clock offset are the same. -/
def ClockBytesEqual (s : Sighted) (e : TwEvent) : Prop :=
  ∀ response ∈ s.paged e, response.at 12 = response.at 13

instance (s : Sighted) (e : TwEvent) : Decidable (s.CarriesIdentity e) := inferInstanceAs (Decidable (_ = _))

instance (s : Sighted) (e : TwEvent) : Decidable (s.ClockBytesEqual e) :=
  inferInstanceAs (Decidable (∀ response ∈ _, _))

end Sighted

/-! ## What the commands carry -/

/-- The fields of a device as it is listed: the bytes of the clock offset are swapped. -/
def HciScannedDevice.pagingFields (scanned : HciScannedDevice) : PagingFields :=
  ⟨streamBdAddr scanned.bdAddr, scanned.psrm, scanned.clkofs⟩

/-- A Remote Name Request carries its address, page scan mode and clock offset in its paging fields. -/
theorem commandPagingFields_nameRequest (bdAddr : BdAddrT) (mode : UInt8) (clock : UInt16) :
    commandPagingFields (makeCmdRemoteNameRequest ⟨bdAddr, mode, clock⟩) =
      some ⟨streamBdAddr bdAddr, mode, clock⟩ := by
  rw [commandPagingFields, if_pos (commandOpcode_makeCmdRemoteNameRequest _)]
  exact congrArg (fun clock => some (PagingFields.mk _ mode clock)) (uint16OfLe_split clock)

/-- A Create Connection pages the device with its own fields. -/
theorem commandPagingFields_createConnection (scanned : HciScannedDevice) :
    commandPagingFields (makeCmdCreateConnection
      ⟨scanned.bdAddr, 0x0008, scanned.psrm, scanned.clkofs, 0x00⟩) = some scanned.pagingFields := by
  have hname : commandOpcode (makeCmdCreateConnection
      ⟨scanned.bdAddr, 0x0008, scanned.psrm, scanned.clkofs, 0x00⟩) ≠ some kHciOpcodeRemoteNameRequest := by
    rw [commandOpcode_makeCmdCreateConnection]
    decide
  rw [commandPagingFields, if_neg hname, if_pos (commandOpcode_makeCmdCreateConnection _)]
  exact congrArg (fun clock => some (PagingFields.mk _ scanned.psrm clock)) (uint16OfLe_split scanned.clkofs)

/-- No other command pages a device. -/
theorem commandPagingFields_eq_none {packet : List UInt8}
    (hname : commandOpcode packet ≠ some kHciOpcodeRemoteNameRequest)
    (hconnect : commandOpcode packet ≠ some kHciOpcodeCreateConnection) :
    commandPagingFields packet = none := by
  rw [commandPagingFields, if_neg hname, if_neg hconnect]

/-- A shift by eight leaves nothing in the low byte. -/
theorem toUInt8_shiftLeft_eight (value : UInt16) : (value <<< 8).toUInt8 = 0 := by
  apply UInt8.toNat_inj.mp
  have hshift : (value <<< 8).toNat = value.toNat <<< 8 % 65536 := UInt16.toNat_shiftLeft value 8
  rw [UInt16.toNat_toUInt8, hshift, Nat.shiftLeft_eq]
  change value.toNat * 256 % 65536 % 256 = 0
  omega

/-- The low byte of a field is its first byte. -/
theorem toUInt8_uint16OfLe (low high : UInt8) : (uint16OfLe low high).toUInt8 = low := by
  rw [uint16OfLe, UInt16.toUInt8_or, toUInt8_shiftLeft_eight, UInt8.zero_or, UInt8.toUInt8_toUInt16]

/-- Bit 15 is set, but the first byte is taken for the high one. -/
theorem clockOffset_eq (first second : UInt8) :
    clockOffset first second = uint16OfLe second first ||| 0x8000 := by
  have hbit : (0x80 : UInt16) <<< 8 = 0x8000 := by decide
  rw [clockOffset, UInt16.shiftLeft_or, hbit, uint16OfLe, UInt16.or_assoc, UInt16.or_comm]

/-- What is listed of a response carries its clock offset exactly when its two bytes are the same. -/
theorem pagingFields_scannedAt_iff (response : BytePtr) :
    response.scannedAt.pagingFields = response.pagingFields ↔ response.at 12 = response.at 13 := by
  simp only [HciScannedDevice.pagingFields, BytePtr.scannedAt, BytePtr.pagingFields, clockOffset_eq]
  constructor
  · intro hsame
    have hlow := congrArg (fun fields => fields.clockOffset.toUInt8) hsame
    simp only [UInt16.toUInt8_or, toUInt8_uint16OfLe] at hlow
    have hnone : (0x8000 : UInt16).toUInt8 = 0 := by decide
    rw [hnone, UInt8.or_zero, UInt8.or_zero] at hlow
    exact hlow.symm
  · intro hclock
    rw [hclock]
    rfl

/-! ## Reactions -/

namespace Sightings

variable {s : Sightings}

/-- A listed device is found where its response is. -/
theorem Tracks.find {ctx : HciEventContext} (ht : s.Tracks ctx) (bdAddr : BdAddrT) :
    ctx.scannedDevices.findScannedDevice bdAddr = (s.find bdAddr).map BytePtr.scannedAt := by
  rw [ScannedDevices.findScannedDevice, ht.listed, List.find?_map, Sightings.find]
  congr 2

/-- The responses that are new to the list are new to what was seen. -/
theorem Tracks.newlyListed {ctx : HciEventContext} (ht : s.Tracks ctx) (responses : List BytePtr) :
    ctx.scannedDevices.newlyListed responses = s.newlyListed responses := by
  rw [ScannedDevices.newlyListed, Sightings.newlyListed, ScannedDevices.bdAddrs, ht.listed, List.map_map]
  rfl

variable {h : Host} {input : HostInput}

/-- The device that is connected to is a listed one. -/
theorem found_of_targeted {scanned : HciScannedDevice} (hinput : h.attemptInput input = .targeted scanned) :
    h.context.scannedDevices.findScannedDevice scanned.bdAddr = some scanned := by
  cases input with
  | event packet =>
    have hevent : h.attemptEvent packet = .targeted scanned := hinput
    by_cases hcode : packet.eventCode = kHciRmtNameRequestCompEvt
    · obtain ⟨eventCode, len, data⟩ := packet
      subst hcode
      simp +decide only [Host.attemptEvent, if_true, if_false] at hevent
      cases hfind : h.context.scannedDevices.findScannedDevice (data + 1).bdAddrAt with
      | none =>
        rw [hfind] at hevent
        cases hevent
      | some found =>
        simp only [hfind] at hevent
        split at hevent
        · cases hevent
          have hbdAddr : scanned.bdAddr = (data + 1).bdAddrAt := by simpa using List.find?_some hfind
          rw [hbdAddr, hfind]
        · cases hevent
    · exfalso
      simp only [Host.attemptEvent, hcode, if_false] at hevent
      split_ifs at hevent
  | call c handle =>
    have hcall := h.callInput_attemptInput c handle
    rw [hinput] at hcall
    exact hcall.elim
  | _ => cases hinput

/-- A fast reconnect is for the cached controller. -/
theorem cached_of_tried (hinput : h.attemptInput input = .tried) : h.context.hasLastWiimote = true := by
  cases input with
  | event packet =>
    have hevent := h.eventInput_attemptEvent packet
    rw [show h.attemptEvent packet = .tried from hinput] at hevent
    have hvalid : h.context.isFastReconnectCacheValid h.now = true := (Bool.and_eq_true_iff.mp hevent).2
    by_contra hnone
    simp [HciEventContext.isFastReconnectCacheValid, hnone] at hvalid
  | call c handle =>
    have hcall := h.callInput_attemptInput c handle
    rw [hinput] at hcall
    exact hcall.elim
  | _ => cases hinput

/-- An empty context agrees with nothing seen. -/
theorem tracks_empty {ctx : HciEventContext} (hdevices : ctx.scannedDevices = .empty)
    (htarget : ctx.hasCurrentConnectTarget = false) (hcached : ctx.hasLastWiimote = false) :
    ({} : Sightings).Tracks ctx := by
  refine ⟨by rw [hdevices]; rfl, ?_, ?_⟩
  · rw [htarget]
    rfl
  · rw [hcached]
    rfl

/-- The sightings account for the context after a reaction too. -/
theorem Tracks.react (ht : s.Tracks h.context) (hl : h.Listens) (input : HostInput) :
    (s.react h.context.pendingFastReconnect (h.attemptInput input)).Tracks (h.react input).context := by
  obtain ⟨hpart, hdevices, -⟩ := reacts_react h hl input
  have htarget := congrArg (fun part : AttemptPart =>
    if part.hasCurrentConnectTarget then some part.currentConnectTarget else none) hpart
  have hcached := congrArg (fun part : AttemptPart =>
    if part.hasLastWiimote then some part.lastWiimote else none) hpart
  have hentries := congrArg ScannedDevices.entries hdevices
  simp only [HciEventContext.attemptPart] at htarget hcached
  refine ⟨hentries.trans ?_, Eq.trans ?_ htarget.symm, Eq.trans ?_ hcached.symm⟩
  · cases hinput : h.attemptInput input with
    | superseded cause => cases cause <;> first | exact ht.listed | rfl
    | failed =>
      simp only [Host.devicesAfter, Sightings.react]
      split
      · rfl
      · exact ht.listed
    | reported data =>
      have hlists := (Host.lists_inquiryResponses h data (data.at 0).toNat).listed
      simp only [Host.devicesAfter, Sightings.react, List.map_append, ← ht.listed, ← ht.newlyListed]
      exact hlists
    | initialised => rfl
    | _ => exact ht.listed
  · cases hinput : h.attemptInput input with
    | superseded cause => cases cause <;> exact ht.target
    | failed =>
      simp only [Sightings.react, AttemptPart.react]
      split <;> exact ht.target
    | connected bdAddr =>
      simp only [Sightings.react, AttemptPart.react]
      rw [apply_ite AttemptPart.hasCurrentConnectTarget, apply_ite AttemptPart.currentConnectTarget]
      simpa using ht.target
    | tried =>
      have hlast := ht.cached
      rw [if_pos (cached_of_tried hinput)] at hlast
      exact hlast
    | targeted scanned =>
      have hfind := ht.find scanned.bdAddr
      rw [found_of_targeted hinput] at hfind
      exact hfind.symm
    | initialised => rfl
    | _ => exact ht.target
  · cases hinput : h.attemptInput input with
    | superseded cause => cases cause <;> exact ht.cached
    | failed =>
      simp only [Sightings.react, AttemptPart.react]
      split <;> exact ht.cached
    | connected bdAddr =>
      -- the connect target is cached, if there is one
      have htarget := ht.target
      simp only [Sightings.react, AttemptPart.react]
      cases hset : h.context.hasCurrentConnectTarget with
      | true =>
        rw [hset, if_pos rfl] at htarget
        obtain ⟨response, hresponse, hscanned⟩ := Option.map_eq_some_iff.mp htarget
        simp [hresponse, hscanned]
      | false =>
        rw [hset] at htarget
        have hnone : s.target = none := Option.map_eq_none_iff.mp htarget
        simpa [hnone] using ht.cached
    | cleared => rfl
    | initialised => rfl
    | _ => exact ht.cached

/-- The fields in the commands of a search are those of the devices it connects to. -/
theorem Tracks.searchCommands (ht : s.Tracks h.context) {attempt : AttemptInput}
    (hinput : h.attemptInput input = attempt) (hreported : ∀ data, attempt ≠ .reported data) :
    (h.searchCommands attempt).filterMap commandPagingFields =
      (s.paged attempt).map fun response => response.scannedAt.pagingFields := by
  have hinquiry : commandPagingFields Supersession.inquiry.command = none := by decide
  cases attempt with
  | superseded cause =>
    have hcause : commandPagingFields cause.command = none := by cases cause <;> decide
    rw [Host.searchCommands, List.filterMap_cons_none hcause]
    rfl
  | failed =>
    simp only [Host.searchCommands]
    split
    · rw [List.filterMap_cons_none hinquiry]
      rfl
    · rfl
  | tried =>
    have hlast := ht.cached
    rw [if_pos (cached_of_tried hinput)] at hlast
    obtain ⟨response, hresponse, hscanned⟩ := Option.map_eq_some_iff.mp hlast
    simp [Host.searchCommands, paged, hresponse, hscanned, commandPagingFields_createConnection]
  | targeted scanned =>
    have hfind := ht.find scanned.bdAddr
    rw [found_of_targeted hinput] at hfind
    obtain ⟨response, hresponse, hscanned⟩ := Option.map_eq_some_iff.mp hfind.symm
    have hcancel : commandPagingFields makeCmdInquiryCancel = none := by decide
    rw [Host.searchCommands, List.filterMap_cons_none hcancel]
    simp [paged, hresponse, hscanned, commandPagingFields_createConnection]
  | reported data => exact absurd rfl (hreported data)
  | _ => rfl

/-- The fields the commands of a reaction carry are those of the devices as they are listed. -/
theorem Tracks.commands (ht : s.Tracks h.context) (hl : h.Listens) (hcommands : h.commands = [])
    (input : HostInput) : (h.react input).commands.filterMap commandPagingFields =
      (if h.context.sendPacket && h.callback then s.paged (h.attemptInput input) else []).map
        fun response => response.scannedAt.pagingFields := by
  have hhanded := (reacts_react h hl input).commands
  have hgiven (packets : List (List UInt8)) (hsent : (h.react input).commands = h.commands ++ h.given packets)
      (hpackets : packets.filterMap commandPagingFields =
        (s.paged (h.attemptInput input)).map fun response => response.scannedAt.pagingFields) :
      (h.react input).commands.filterMap commandPagingFields =
        (if h.context.sendPacket && h.callback then s.paged (h.attemptInput input) else []).map
          fun response => response.scannedAt.pagingFields := by
    rw [hsent, hcommands, List.nil_append, Host.given]
    split
    · exact hpackets
    · rfl
  have hunrelated (hgrown : Grown Host.commands IsUnrelated h (h.react input))
      (hnone : s.paged (h.attemptInput input) = []) :
      (h.react input).commands.filterMap commandPagingFields =
        (if h.context.sendPacket && h.callback then s.paged (h.attemptInput input) else []).map
          fun response => response.scannedAt.pagingFields := by
    rw [hnone, ite_self, List.map_nil]
    refine List.filterMap_eq_nil_iff.mpr fun packet hmem => ?_
    have hidle := hgrown.forall_mem (by simp [hcommands]) packet hmem
    exact commandPagingFields_eq_none hidle.2 fun hconnect => hidle.1 (.inr (.inl hconnect))
  have hsearch (hsent : (h.react input).commands = h.commands ++ h.given (h.searchCommands (h.attemptInput input)))
      (hreported : ∀ data, h.attemptInput input ≠ .reported data) :=
    hgiven _ hsent (ht.searchCommands rfl hreported)
  cases hinput : h.attemptInput input with
  | reported data =>
    rw [hinput] at hhanded hgiven
    have hlists := (Host.lists_inquiryResponses h data (data.at 0).toNat).asked
    have hfields : commandPagingFields ∘ BytePtr.nameRequest =
        fun response => some response.scannedAt.pagingFields :=
      funext fun response => commandPagingFields_nameRequest ..
    refine hgiven _ ((show (h.react input).commands = _ from hhanded).trans hlists) ?_
    rw [ht.newlyListed, List.filterMap_map, hfields, List.filterMap_eq_map']
    rfl
  | superseded cause =>
    rw [hinput] at hhanded hsearch
    refine hsearch hhanded fun data hreported => ?_
    cases hreported
  | failed =>
    rw [hinput] at hhanded hsearch
    refine hsearch hhanded fun data hreported => ?_
    cases hreported
  | tried =>
    rw [hinput] at hhanded hsearch
    refine hsearch hhanded fun data hreported => ?_
    cases hreported
  | targeted scanned =>
    rw [hinput] at hhanded hsearch
    refine hsearch hhanded fun data hreported => ?_
    cases hreported
  | _ =>
    rw [hinput] at hhanded hunrelated
    exact hunrelated hhanded rfl

end Sightings

/-! ## Runs -/

namespace Sighted

variable {s : Sighted} {e : TwEvent}

/-- What the sightings need of a state: they account for it, and its callbacks are set. -/
structure Wellformed (s : Sighted) : Prop where
  listens : s.world.host.Listens
  tracks : s.sightings.Tracks s.world.gRuntime.hciEventContext

/-- It does so after an initialisation. -/
theorem wellformed_start (w : TwWorld) (hciInterface : TwHciInterface) :
    (start w hciInterface).Wellformed :=
  ⟨listens_afterInit w hciInterface, Sightings.tracks_empty rfl rfl rfl⟩

/-- What was seen agrees with the context after every step. -/
theorem Wellformed.step (hs : s.Wellformed) (e : TwEvent) : (s.step e).Wellformed := by
  refine ⟨listens_step hs.listens e, ?_⟩
  have hcontext : (s.world.step e).gRuntime.hciEventContext =
      ((s.world.host.enter e.millis).react (s.world.hostInput e)).context :=
    congrArg Host.context (host_step s.world e)
  rw [Sighted.step, hcontext]
  exact hs.tracks.react (h := s.world.host.enter e.millis) (hs.listens.enter e.millis) _

/-- Only the commands among the packets have the fields of a page. -/
theorem filterMap_commandPagingFields_filter (packets : List (List UInt8)) :
    (packets.filter IsCommand).filterMap commandPagingFields = packets.filterMap commandPagingFields := by
  rw [List.filterMap_filter]
  congr
  funext packet
  cases hop : commandOpcode packet <;> simp [IsCommand, commandPagingFields, hop]

/-- The clock offset goes out as it came exactly where its two bytes are equal. -/
theorem carriesIdentity_iff (hs : s.Wellformed) : s.CarriesIdentity e ↔ s.ClockBytesEqual e := by
  have hcommands : ((s.world.host.enter e.millis).react (s.world.hostInput e)).commands =
      (s.world.step e).sent.filter IsCommand :=
    (congrArg Host.commands (host_step s.world e)).symm
  have hfields := hs.tracks.commands (h := s.world.host.enter e.millis) (hs.listens.enter e.millis) rfl
    (s.world.hostInput e)
  rw [hcommands, filterMap_commandPagingFields_filter] at hfields
  have hpaged : (s.world.step e).sent.filterMap commandPagingFields =
      (s.paged e).map fun response => response.scannedAt.pagingFields := hfields
  rw [CarriesIdentity, hpaged, List.map_inj_left, ClockBytesEqual]
  exact forall₂_congr fun response _ => pagingFields_scannedAt_iff response

end Sighted

/-- In every run the names and the connections are asked for with the fields of the inquiry responses,
exactly when the two bytes of the clock offset are the same in each of these. -/
theorem device_identity_carried_iff (w : TwWorld) (hciInterface : TwHciInterface) (events : List TwEvent) :
    EveryStep Sighted.CarriesIdentity Sighted.step (.start w hciInterface) events ↔
      EveryStep Sighted.ClockBytesEqual Sighted.step (.start w hciInterface) events :=
  everyStep_congr (fun _ e _ hs => hs.step e) (fun _ _ _ hs => Sighted.carriesIdentity_iff hs)
    (Sighted.wellformed_start w hciInterface)

/-- A Wiimote is found, named and connected to; its clock offset is `0x3412`. -/
def pagedOnce : List TwEvent :=
  TwAction.allAt 0 (.call .resetDevice :: TwAction.setupReplies ++
    [.inquiryResults [wiimoteResponse ⟨1, 2, 3, 4, 5, 6⟩ [0x12, 0x34]], .wiimoteNamed ⟨1, 2, 3, 4, 5, 6⟩])

/-- The Remote Name Request and the Create Connection for it carry `0x9234`. -/
theorem device_identity_not_always_carried :
    ¬∀ (w : TwWorld) (hciInterface : TwHciInterface) (events : List TwEvent),
      EveryStep Sighted.CarriesIdentity Sighted.step (.start w hciInterface) events := by
  intro h
  have hcarries := h {} ⟨true⟩ pagedOnce
  revert hcarries
  decide +kernel

end Esp32Wiimote.Bluetooth
