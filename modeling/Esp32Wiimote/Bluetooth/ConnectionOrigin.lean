import Esp32Wiimote.Bluetooth.DeviceIdentity
import Esp32Wiimote.Library.RunHistory

/-!
# Which controllers are connected to

A Create Connection is sent for a listed device that gives the name of a Wiimote, or for the cached
controller, which was connected to in this way before. So behind every one of them the run has an
inquiry response of the device and later its name, both since the last initialisation, and the
command pages the device as it was listed.
-/

namespace Esp32Wiimote.Bluetooth

open StateProgram TransitionRun RunHistory

/-! ## What is heard of a device -/

/-- The event has an inquiry response that is listed as this device. -/
def TwEvent.Lists (device : HciScannedDevice) (e : TwEvent) : Prop :=
  ∃ packet ∈ e.dispatched, packet.eventCode = kHciInquiryResultEvt ∧
    ∃ response ∈ packet.responses, response.scannedAt = device

/-- The event completes a Remote Name Request and gives the device with this address the name of a
Wiimote. The handler does not read the status of the event, so any status counts. -/
def TwEvent.NamesWiimote (bdAddr : BdAddrT) (e : TwEvent) : Prop :=
  ∃ packet ∈ e.dispatched, packet.eventCode = kHciRmtNameRequestCompEvt ∧
    (packet.data + 1).bdAddrAt = bdAddr ∧ (packet.data + 7).startsWith wiimoteName = true

/-- The event is an initialisation. -/
def TwEvent.Initialises (e : TwEvent) : Prop := ∃ hciInterface, e.action = .call (.init hciInterface)

/-- Since the last initialisation the device was listed. -/
abbrev WasListed (events : List TwEvent) (device : HciScannedDevice) : Prop :=
  HeardSince TwEvent.Initialises [TwEvent.Lists device] events

/-- Since the last initialisation the device was listed, and after that named as a Wiimote. -/
abbrev WasNamed (events : List TwEvent) (device : HciScannedDevice) : Prop :=
  HeardSince TwEvent.Initialises [TwEvent.Lists device, TwEvent.NamesWiimote device.bdAddr] events

/-- What the event context holds is founded on the run. -/
structure Founded (events : List TwEvent) (ctx : HciEventContext) : Prop where
  listed : ∀ device ∈ ctx.scannedDevices.entries, WasListed events device
  target : ctx.hasCurrentConnectTarget = true → WasNamed events ctx.currentConnectTarget
  cached : ctx.hasLastWiimote = true → WasNamed events ctx.lastWiimote

section Founded

variable {w : TwWorld} {e : TwEvent} {events : List TwEvent} {device : HciScannedDevice}

/-- What the host side takes for its part in the search. -/
def TwWorld.attemptInput (w : TwWorld) (e : TwEvent) : AttemptInput :=
  (w.host.enter e.millis).attemptInput (w.hostInput e)

/-- An initialisation is an input of its own. -/
theorem attemptInput_of_initialises (he : e.Initialises) : w.attemptInput e = .initialised := by
  obtain ⟨hciInterface, haction⟩ := he
  obtain ⟨action, millis, logLevel⟩ := e
  cases haction
  rfl

/-- The events behind the inputs that found something. -/
theorem dispatched_of_event {packet : HciEventPacket} (h : w.hostInput e = .event packet) :
    packet ∈ e.dispatched := dispatched_of_hostInput h

/-- A device is targeted where it is named as a Wiimote. -/
theorem namesWiimote_of_targeted (h : w.attemptInput e = .targeted device) :
    e.NamesWiimote device.bdAddr := by
  cases hinput : w.hostInput e with
  | event packet =>
    have hevent : (w.host.enter e.millis).attemptEvent packet = .targeted device := by
      rw [TwWorld.attemptInput, hinput] at h
      exact h
    by_cases hcode : packet.eventCode = kHciRmtNameRequestCompEvt
    · refine ⟨packet, dispatched_of_event hinput, hcode, ?_⟩
      obtain ⟨eventCode, len, data⟩ := packet
      subst hcode
      simp +decide only [Host.attemptEvent, if_true, if_false] at hevent
      cases hfind : (w.host.enter e.millis).context.scannedDevices.findScannedDevice
          (data + 1).bdAddrAt with
      | none =>
        rw [hfind] at hevent
        cases hevent
      | some found =>
        simp only [hfind] at hevent
        split at hevent
        next hname =>
          cases hevent
          have hbdAddr : device.bdAddr = (data + 1).bdAddrAt := by simpa using List.find?_some hfind
          exact ⟨hbdAddr.symm, hname⟩
        next => cases hevent
    · exfalso
      simp only [Host.attemptEvent, hcode, if_false] at hevent
      split_ifs at hevent
  | call c handle =>
    have hcall := (w.host.enter e.millis).callInput_attemptInput c handle
    rw [TwWorld.attemptInput, hinput] at h
    rw [h] at hcall
    exact hcall.elim
  | firstReport =>
    rw [TwWorld.attemptInput, hinput] at h
    cases h
  | nothing =>
    rw [TwWorld.attemptInput, hinput] at h
    cases h

/-- A response that was reported lists its device. -/
theorem lists_of_reported {data : BytePtr} (h : w.attemptInput e = .reported data)
    {response : BytePtr} (hresponse : response ∈ (AttemptInput.reported data).responses) :
    e.Lists response.scannedAt := by
  cases hinput : w.hostInput e with
  | event packet =>
    have hevent : (w.host.enter e.millis).attemptEvent packet = .reported data := by
      rw [TwWorld.attemptInput, hinput] at h
      exact h
    have hcode := (w.host.enter e.millis).eventInput_attemptEvent packet
    rw [hevent] at hcode
    refine ⟨packet, dispatched_of_event hinput, hcode, response, ?_, rfl⟩
    obtain ⟨eventCode, len, data'⟩ := packet
    have hresult : eventCode = kHciInquiryResultEvt := hcode
    subst hresult
    cases hevent
    exact hresponse
  | call c handle =>
    have hcall := (w.host.enter e.millis).callInput_attemptInput c handle
    rw [TwWorld.attemptInput, hinput] at h
    rw [h] at hcall
    exact hcall.elim
  | firstReport =>
    rw [TwWorld.attemptInput, hinput] at h
    cases h
  | nothing =>
    rw [TwWorld.attemptInput, hinput] at h
    cases h

/-- What the step makes of the search. -/
theorem reacts_step (hl : w.host.Listens) (e : TwEvent) :
    (w.host.enter e.millis).Reacts (w.attemptInput e) (w.step e).host := by
  rw [host_step]
  exact reacts_react _ (hl.enter e.millis) _

/-- An empty context is founded on any run. -/
theorem founded_nil {ctx : HciEventContext} (hdevices : ctx.scannedDevices = .empty)
    (htarget : ctx.hasCurrentConnectTarget = false) (hcached : ctx.hasLastWiimote = false) :
    Founded events ctx := by
  refine ⟨fun device hmem => ?_, fun h => ?_, fun h => ?_⟩
  · rw [hdevices] at hmem
    cases hmem
  · cases htarget.symm.trans h
  · cases hcached.symm.trans h

/-- A device that is connected to was listed before it gave its name. -/
theorem wasNamed_of_targeted (hf : Founded events w.gRuntime.hciEventContext)
    (he : ¬e.Initialises) (h : w.attemptInput e = .targeted device) :
    WasNamed (events ++ [e]) device := by
  have hfind := Sightings.found_of_targeted h
  exact HeardSince.concat (hf.listed device (List.mem_of_find?_eq_some hfind)) he
    (namesWiimote_of_targeted h)

/-- A listed device was listed before, or is listed by the event. -/
theorem listed_step (hl : w.host.Listens) (hf : Founded events w.gRuntime.hciEventContext)
    (he : ¬e.Initialises) :
    ∀ device ∈ (w.step e).gRuntime.hciEventContext.scannedDevices.entries,
      WasListed (events ++ [e]) device := by
  intro device hmem
  have hkept (hold : device ∈ w.gRuntime.hciEventContext.scannedDevices.entries) :
      WasListed (events ++ [e]) device := HeardSince.append (hf.listed device hold) he
  have hdevices := congrArg ScannedDevices.entries (reacts_step hl e).devices
  have hafter : device ∈ ((w.host.enter e.millis).devicesAfter (w.attemptInput e)).entries :=
    hdevices ▸ hmem
  cases hinput : w.attemptInput e with
  | superseded cause =>
    rw [hinput] at hafter
    cases cause with
    | discovery => exact hkept hafter
    | _ => cases hafter
  | failed =>
    rw [hinput, Host.devicesAfter] at hafter
    split at hafter
    · cases hafter
    · exact hkept hafter
  | reported data =>
    rw [hinput] at hafter
    have hlisted := (Host.lists_inquiryResponses (w.host.enter e.millis) data (data.at 0).toNat).listed
    have hentries : device ∈ ((w.host.enter e.millis).inquiryResponses data
        (data.at 0).toNat).context.scannedDevices.entries := hafter
    rw [hlisted] at hentries
    rcases List.mem_append.mp hentries with hold | hnew
    · exact hkept hold
    · obtain ⟨response, hresponse, rfl⟩ := List.mem_map.mp hnew
      exact heardSince_singleton he (lists_of_reported hinput (FirstSeen.mem_of_mem_newItems hresponse))
  | initialised =>
    rw [hinput] at hafter
    cases hafter
  | _ =>
    rw [hinput] at hafter
    exact hkept hafter

/-- The part of the context the fast reconnect is about, after the step. -/
theorem attemptPart_step (hl : w.host.Listens) (e : TwEvent) :
    (w.step e).gRuntime.hciEventContext.attemptPart =
      w.gRuntime.hciEventContext.attemptPart.react (w.attemptInput e) := (reacts_step hl e).part

/-- A target was named before, or is named by the event. -/
theorem target_step (hl : w.host.Listens) (hf : Founded events w.gRuntime.hciEventContext)
    (he : ¬e.Initialises)
    (hset : (w.step e).gRuntime.hciEventContext.hasCurrentConnectTarget = true) :
    WasNamed (events ++ [e]) (w.step e).gRuntime.hciEventContext.currentConnectTarget := by
  have hpart := attemptPart_step hl e
  have htarget := congrArg AttemptPart.currentConnectTarget hpart
  have hhas := (congrArg AttemptPart.hasCurrentConnectTarget hpart).symm.trans hset
  change (w.step e).gRuntime.hciEventContext.currentConnectTarget = _ at htarget
  rw [htarget]
  have hkept (hold : w.gRuntime.hciEventContext.hasCurrentConnectTarget = true) :=
    HeardSince.append (hf.target hold) he
  cases hinput : w.attemptInput e with
  | connected bdAddr =>
    rw [hinput, AttemptPart.react] at hhas
    rw [AttemptPart.react]
    split at hhas
    next hold =>
      rw [if_pos hold]
      exact hkept hold
    next hold => exact absurd hhas hold
  | tried => exact HeardSince.append (hf.cached (Sightings.cached_of_tried hinput)) he
  | targeted device => exact wasNamed_of_targeted hf he hinput
  | initialised =>
    rw [hinput] at hhas
    cases hhas
  | _ =>
    rw [hinput] at hhas
    exact hkept hhas

/-- The cached controller was named before it was connected to. -/
theorem cached_step (hl : w.host.Listens) (hf : Founded events w.gRuntime.hciEventContext)
    (he : ¬e.Initialises) (hset : (w.step e).gRuntime.hciEventContext.hasLastWiimote = true) :
    WasNamed (events ++ [e]) (w.step e).gRuntime.hciEventContext.lastWiimote := by
  have hpart := attemptPart_step hl e
  have hlast := congrArg AttemptPart.lastWiimote hpart
  have hhas := (congrArg AttemptPart.hasLastWiimote hpart).symm.trans hset
  change (w.step e).gRuntime.hciEventContext.lastWiimote = _ at hlast
  rw [hlast]
  have hkept (hold : w.gRuntime.hciEventContext.hasLastWiimote = true) :=
    HeardSince.append (hf.cached hold) he
  cases hinput : w.attemptInput e with
  | connected bdAddr =>
    rw [hinput, AttemptPart.react] at hhas
    rw [AttemptPart.react]
    split at hhas
    next htarget =>
      rw [if_pos htarget]
      exact HeardSince.append (hf.target htarget) he
    next htarget =>
      rw [if_neg htarget]
      exact hkept hhas
  | cleared =>
    rw [hinput] at hhas
    cases hhas
  | initialised =>
    rw [hinput] at hhas
    cases hhas
  | _ =>
    rw [hinput] at hhas
    exact hkept hhas

/-- What the context holds after a step is founded on the run with it. -/
theorem Founded.step (hl : w.host.Listens) (hf : Founded events w.gRuntime.hciEventContext)
    (e : TwEvent) : Founded (events ++ [e]) (w.step e).gRuntime.hciEventContext := by
  by_cases he : e.Initialises
  · have hpart := attemptPart_step hl e
    have hdevices := (reacts_step hl e).devices
    rw [attemptInput_of_initialises he] at hpart hdevices
    exact founded_nil hdevices (congrArg AttemptPart.hasCurrentConnectTarget hpart)
      (congrArg AttemptPart.hasLastWiimote hpart)
  · exact ⟨listed_step hl hf he, target_step hl hf he, cached_step hl hf he⟩

end Founded

end Esp32Wiimote.Bluetooth
