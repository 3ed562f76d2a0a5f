import Esp32Wiimote.Library.EntryStore
import Esp32Wiimote.Library.StateProgram
import Esp32Wiimote.Device.Config

/-!
# The runtime configuration store

The snapshot lies under five keys of a namespace of the non-volatile storage. A write on an open
handle is refused or takes effect at once, and what each call answers where it could succeed is not
under the control of the store: the answers of the calls to come are a part of the storage's state.
-/

namespace Esp32Wiimote.Device

open CText StateProgram EntryStore

/-! ## Non-volatile storage -/

/-- The error codes the store looks at. -/
inductive EspErr
  | ESP_OK
  | ESP_FAIL
  | ESP_ERR_NVS_NOT_FOUND
  | ESP_ERR_NVS_NO_FREE_PAGES
  | ESP_ERR_NVS_NEW_VERSION_FOUND
  deriving DecidableEq, Repr

/-- How a namespace is opened. -/
inductive NvsOpenMode
  | NVS_READONLY
  | NVS_READWRITE
  deriving DecidableEq, Repr

/-- A stored value with its type. -/
inductive NvsEntry
  | u8 (value : UInt8)
  | u32 (value : UInt32)
  deriving DecidableEq, Repr

/-- A namespace that was never written to holds no entries. `answers` is what the next calls answer,
in order, where nothing else makes them fail. -/
structure Nvs where
  storage : CString → Store CString NvsEntry
  openHandles : ℕ → Option (CString × NvsOpenMode)
  nextHandle : ℕ
  answers : ℕ → EspErr

/-- A program over the storage. -/
abbrev NvsM := StateM Nvs

namespace Nvs

/-- The storage as it is, with other answers from now on. -/
def withAnswers (nvs : Nvs) (answers : ℕ → EspErr) : Nvs := { nvs with answers }

/-- The answer of one call was used. -/
def answered (nvs : Nvs) : Nvs := { nvs with answers := fun n => nvs.answers (n + 1) }

/-- One entry of a namespace was changed. -/
def store (nvs : Nvs) (name key : CString) (entry : Option NvsEntry) : Nvs :=
  { nvs with storage := Function.update nvs.storage name (Function.update (nvs.storage name) key entry) }

end Nvs

/-- The answer is the driver's. -/
def nvsFlashInit : NvsM EspErr := modifyGet fun nvs => (nvs.answers 0, nvs.answered)

/-- An erase that succeeds empties the storage and closes every handle. -/
def nvsFlashErase : NvsM EspErr := modifyGet fun nvs =>
  (nvs.answers 0,
    if nvs.answers 0 = .ESP_OK then
      { nvs.answered with storage := fun _ _ => none, openHandles := fun _ => none }
    else nvs.answered)

/-- The code, and the new handle where it is `ESP_OK`. -/
def nvsOpen (name : CString) (openMode : NvsOpenMode) : NvsM (EspErr × ℕ) := modifyGet fun nvs =>
  if nvs.answers 0 = .ESP_OK then
    ((.ESP_OK, nvs.nextHandle),
      { nvs.answered with
        openHandles := Function.update nvs.openHandles nvs.nextHandle (some (name, openMode))
        nextHandle := nvs.nextHandle + 1 })
  else ((nvs.answers 0, 0), nvs.answered)

/-- The handle is no longer open. -/
def nvsClose (handle : ℕ) : NvsM Unit :=
  modify fun nvs => { nvs with openHandles := Function.update nvs.openHandles handle none }

/-- A write is refused, or takes effect at once. -/
def nvsSet (handle : ℕ) (key : CString) (entry : NvsEntry) : NvsM EspErr := modifyGet fun nvs =>
  match nvs.openHandles handle with
  | some (name, .NVS_READWRITE) =>
    (nvs.answers 0,
      if nvs.answers 0 = .ESP_OK then nvs.answered.store name key (some entry) else nvs.answered)
  | _ => (.ESP_FAIL, nvs.answered)

/-- Sets a byte. -/
def nvsSetU8 (handle : ℕ) (key : CString) (value : UInt8) : NvsM EspErr := nvsSet handle key (.u8 value)

/-- Sets a number of 32 bits. -/
def nvsSetU32 (handle : ℕ) (key : CString) (value : UInt32) : NvsM EspErr :=
  nvsSet handle key (.u32 value)

/-- The value of an entry, `none` for every code other than `ESP_OK`. -/
def nvsGet {α : Type} (valueOf : NvsEntry → Option α) (handle : ℕ) (key : CString) : NvsM (Option α) :=
  modifyGet fun nvs =>
    (match nvs.openHandles handle with
      | some (name, _) =>
        if nvs.answers 0 = .ESP_OK then (nvs.storage name key).bind valueOf else none
      | none => none,
      nvs.answered)

/-- The value of an entry that is a byte. -/
def NvsEntry.u8Value : NvsEntry → Option UInt8
  | .u8 value => some value
  | .u32 _ => none

/-- The value of an entry of 32 bits. -/
def NvsEntry.u32Value : NvsEntry → Option UInt32
  | .u8 _ => none
  | .u32 value => some value

/-- Gets a byte. -/
def nvsGetU8 (handle : ℕ) (key : CString) : NvsM (Option UInt8) := nvsGet NvsEntry.u8Value handle key

/-- Gets a number of 32 bits. -/
def nvsGetU32 (handle : ℕ) (key : CString) : NvsM (Option UInt32) := nvsGet NvsEntry.u32Value handle key

/-- Erasing a key that is not there is answered with `ESP_ERR_NVS_NOT_FOUND`. -/
def nvsEraseKey (handle : ℕ) (key : CString) : NvsM EspErr := modifyGet fun nvs =>
  match nvs.openHandles handle with
  | some (name, .NVS_READWRITE) =>
    if nvs.answers 0 = .ESP_OK then
      if (nvs.storage name key).isSome then (.ESP_OK, nvs.answered.store name key none)
      else (.ESP_ERR_NVS_NOT_FOUND, nvs.answered)
    else (nvs.answers 0, nvs.answered)
  | _ => (.ESP_FAIL, nvs.answered)

/-- The writes took effect before: nothing is left to do. -/
def nvsCommit (handle : ℕ) : NvsM EspErr := modifyGet fun nvs =>
  (if (nvs.openHandles handle).isSome then nvs.answers 0 else .ESP_FAIL, nvs.answered)

/-! ## Snapshots -/

/-- The namespace of the settings and their five keys. -/
def kRuntimeConfigNamespace : CString := ascii "wm_cfg"
def kKeyAutoReconnect : CString := ascii "auto_reconn"
def kKeyFastReconnectTtlMs : CString := ascii "fast_ttl"
def kKeyLedMask : CString := ascii "led_mask"
def kKeyReportingMode : CString := ascii "rep_mode"
def kKeyReportingContinuous : CString := ascii "rep_cont"

/-- A storage that is full or of another version is erased once. -/
def ensureNvsReady : NvsM Bool := do
  let error ← nvsFlashInit
  if error = .ESP_OK then
    pure true
  else if error = .ESP_ERR_NVS_NO_FREE_PAGES ∨ error = .ESP_ERR_NVS_NEW_VERSION_FOUND then
    let erased ← nvsFlashErase
    if erased ≠ .ESP_OK then
      pure false
    else
      let error ← nvsFlashInit
      pure (error = .ESP_OK)
  else
    pure false

/-- The open handle. -/
def openStore (openMode : NvsOpenMode) : NvsM (Option ℕ) := do
  let opened ← nvsOpen kRuntimeConfigNamespace openMode
  pure (if opened.1 = .ESP_OK then some opened.2 else none)

/-- Go on only where the call before succeeded. -/
def andThen (call : NvsM EspErr) (rest : NvsM Bool) : NvsM Bool := do
  let error ← call
  if error ≠ .ESP_OK then pure false else rest

/-- The five settings and the commit; the first failure ends it. -/
def writeSnapshot (handle : ℕ) (snapshot : RuntimeConfigSnapshot) : NvsM Bool :=
  andThen (nvsSetU8 handle kKeyAutoReconnect (if snapshot.autoReconnectEnabled then 1 else 0)) <|
  andThen (nvsSetU32 handle kKeyFastReconnectTtlMs snapshot.fastReconnectTtlMs) <|
  andThen (nvsSetU8 handle kKeyLedMask snapshot.ledMask) <|
  andThen (nvsSetU8 handle kKeyReportingMode snapshot.reportingMode) <|
  andThen (nvsSetU8 handle kKeyReportingContinuous (if snapshot.reportingContinuous then 1 else 0)) <|
  do
    let committed ← nvsCommit handle
    pure (committed = .ESP_OK)

/-- Go on only with a value. -/
def withValue {α : Type} (call : NvsM (Option α)) (rest : α → NvsM (Option RuntimeConfigSnapshot)) :
    NvsM (Option RuntimeConfigSnapshot) := do
  match ← call with
  | none => pure none
  | some value => rest value

/-- The snapshot is filled in behind the last read, or not at all. -/
def readSnapshot (handle : ℕ) : NvsM (Option RuntimeConfigSnapshot) :=
  withValue (nvsGetU8 handle kKeyAutoReconnect) fun autoReconnect =>
  withValue (nvsGetU32 handle kKeyFastReconnectTtlMs) fun fastReconnectTtlMs =>
  withValue (nvsGetU8 handle kKeyLedMask) fun ledMask =>
  withValue (nvsGetU8 handle kKeyReportingMode) fun reportingMode =>
  withValue (nvsGetU8 handle kKeyReportingContinuous) fun reportingContinuous =>
    pure (some
      { autoReconnectEnabled := autoReconnect != 0
        fastReconnectTtlMs
        ledMask
        reportingMode
        reportingContinuous := reportingContinuous != 0 })

/-! ## The store -/

/-- Whether `init()` succeeded. -/
structure RuntimeConfigStore where
  initialized : Bool

namespace RuntimeConfigStore

/-- The store before `init()`. -/
def construct : RuntimeConfigStore := ⟨false⟩

/-- Whether the storage is ready, and the store afterwards. -/
def init : NvsM (Bool × RuntimeConfigStore) := do
  let ready ← ensureNvsReady
  pure (ready, ⟨ready⟩)

/-- A save opens the namespace, writes and closes it again. -/
def save (store : RuntimeConfigStore) (snapshot : RuntimeConfigSnapshot) : NvsM Bool := do
  if !store.initialized then
    pure false
  else
    match ← openStore .NVS_READWRITE with
    | none => pure false
    | some handle =>
      let kSaved ← writeSnapshot handle snapshot
      nvsClose handle
      pure kSaved

/-- Whether the snapshot was loaded, and what the pointer leads to afterwards. -/
def load (store : RuntimeConfigStore) (snapshot : Option RuntimeConfigSnapshot) :
    NvsM (Bool × Option RuntimeConfigSnapshot) := do
  match snapshot with
  | none => pure (false, none)
  | some caller =>
    if !store.initialized then
      pure (false, some caller)
    else
      match ← openStore .NVS_READONLY with
      | none => pure (false, some caller)
      | some handle =>
        let loaded ← readSnapshot handle
        nvsClose handle
        pure (loaded.isSome, some (loaded.getD caller))

/-- Every key is erased, and the erasure committed. -/
def clear (store : RuntimeConfigStore) : NvsM Bool := do
  if !store.initialized then
    pure false
  else
    match ← openStore .NVS_READWRITE with
    | none => pure false
    | some handle =>
      let kErrAutoReconnect ← nvsEraseKey handle kKeyAutoReconnect
      let kErrFastReconnectTtlMs ← nvsEraseKey handle kKeyFastReconnectTtlMs
      let kErrLedMask ← nvsEraseKey handle kKeyLedMask
      let kErrReportingMode ← nvsEraseKey handle kKeyReportingMode
      let kErrReportingContinuous ← nvsEraseKey handle kKeyReportingContinuous
      let kEraseOk := [kErrAutoReconnect, kErrFastReconnectTtlMs, kErrLedMask, kErrReportingMode,
        kErrReportingContinuous].all fun error => error == .ESP_OK || error == .ESP_ERR_NVS_NOT_FOUND
      let committed ← nvsCommit handle
      nvsClose handle
      pure (kEraseOk && committed == .ESP_OK)

end RuntimeConfigStore

end Esp32Wiimote.Device
