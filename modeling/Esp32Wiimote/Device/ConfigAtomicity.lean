import Esp32Wiimote.Device.ConfigStore

/-!
# Saves that are refused half way

A save writes the five entries of a snapshot one after the other and returns at the first that is
refused, with the entries before it in place. The next load reads all five. So a refused save
is without effect on it exactly where an entry that was not written cannot be read, or where the
written ones say what was stored before.
-/

namespace Esp32Wiimote.Device

open CText StateProgram EntryStore

/-! ## Snapshots as entries -/

/-- The entries of a snapshot in the order they are written. -/
def entriesOf (snapshot : RuntimeConfigSnapshot) : List (CString × NvsEntry) :=
  [(kKeyAutoReconnect, .u8 (if snapshot.autoReconnectEnabled then 1 else 0)),
    (kKeyFastReconnectTtlMs, .u32 snapshot.fastReconnectTtlMs),
    (kKeyLedMask, .u8 snapshot.ledMask),
    (kKeyReportingMode, .u8 snapshot.reportingMode),
    (kKeyReportingContinuous, .u8 (if snapshot.reportingContinuous then 1 else 0))]

/-- The keys under which the settings are stored, in the order they are written. -/
def configKeys : List CString :=
  [kKeyAutoReconnect, kKeyFastReconnectTtlMs, kKeyLedMask, kKeyReportingMode, kKeyReportingContinuous]

/-- The entry a save would have written for what a load reads: every flag other than zero is set. -/
def readConfigEntry (key : CString) : NvsEntry → Option NvsEntry
  | .u8 value =>
    if key = kKeyFastReconnectTtlMs then none
    else if key = kKeyAutoReconnect ∨ key = kKeyReportingContinuous then
      some (.u8 (if value != 0 then 1 else 0))
    else some (.u8 value)
  | .u32 value => if key = kKeyFastReconnectTtlMs then some (.u32 value) else none

/-- What is read of a key of the namespace. -/
abbrev readConfigKey (stored : Store CString NvsEntry) (key : CString) : Option NvsEntry :=
  readKey readConfigEntry stored key

/-- The snapshot that lies in the namespace. -/
def snapshotIn (stored : Store CString NvsEntry) : Option RuntimeConfigSnapshot := do
  let autoReconnect ← (stored kKeyAutoReconnect).bind NvsEntry.u8Value
  let fastReconnectTtlMs ← (stored kKeyFastReconnectTtlMs).bind NvsEntry.u32Value
  let ledMask ← (stored kKeyLedMask).bind NvsEntry.u8Value
  let reportingMode ← (stored kKeyReportingMode).bind NvsEntry.u8Value
  let reportingContinuous ← (stored kKeyReportingContinuous).bind NvsEntry.u8Value
  some
    { autoReconnectEnabled := autoReconnect != 0
      fastReconnectTtlMs
      ledMask
      reportingMode
      reportingContinuous := reportingContinuous != 0 }

/-- The entries of a snapshot are under these keys. -/
theorem map_fst_entriesOf (snapshot : RuntimeConfigSnapshot) :
    (entriesOf snapshot).map Prod.fst = configKeys := rfl

/-- No key is written twice. -/
theorem nodup_configKeys (snapshot : RuntimeConfigSnapshot) :
    ((entriesOf snapshot).map Prod.fst).Nodup := by
  rw [map_fst_entriesOf]
  decide

/-- A flag is read as it was written. -/
theorem flag_ne_zero (flag : Bool) :
    (if ((if flag then 1 else 0 : UInt8) != 0) = true then 1 else 0 : UInt8) = if flag then 1 else 0 := by
  cases flag <;> rfl

/-- Each entry is read as it was written. -/
theorem readConfigEntry_entriesOf (snapshot : RuntimeConfigSnapshot) :
    (entriesOf snapshot).map (fun e => readConfigEntry e.1 e.2) =
      ((entriesOf snapshot).map Prod.snd).map some := by
  have hkeys : kKeyAutoReconnect ≠ kKeyFastReconnectTtlMs ∧ kKeyLedMask ≠ kKeyFastReconnectTtlMs ∧
      kKeyReportingMode ≠ kKeyFastReconnectTtlMs ∧ kKeyReportingContinuous ≠ kKeyFastReconnectTtlMs ∧
      ¬(kKeyLedMask = kKeyAutoReconnect ∨ kKeyLedMask = kKeyReportingContinuous) ∧
      ¬(kKeyReportingMode = kKeyAutoReconnect ∨ kKeyReportingMode = kKeyReportingContinuous) := by decide
  obtain ⟨hauto, hled, hmode, hcont, hledFlag, hmodeFlag⟩ := hkeys
  simp only [entriesOf, List.map_cons, List.map_nil, readConfigEntry, if_neg hauto, if_neg hled,
    if_neg hmode, if_neg hcont, if_neg hledFlag, if_neg hmodeFlag, true_or, or_true, if_true,
    flag_ne_zero]

section Keys

variable (stored : Store CString NvsEntry)

/-- A flag is read as a byte that is zero or not. -/
theorem readConfigKey_flag {key : CString} (hkey : key = kKeyAutoReconnect ∨ key = kKeyReportingContinuous) :
    readConfigKey stored key =
      ((stored key).bind NvsEntry.u8Value).map fun value => .u8 (if value != 0 then 1 else 0) := by
  have hne : key ≠ kKeyFastReconnectTtlMs := by rcases hkey with rfl | rfl <;> decide
  rw [readConfigKey, readKey]
  rcases stored key with _ | value | value
  · rfl
  · exact (if_neg hne).trans (if_pos hkey)
  · exact if_neg hne

/-- LED mask and reporting mode are read as bytes. -/
theorem readConfigKey_u8 {key : CString} (hkey : key = kKeyLedMask ∨ key = kKeyReportingMode) :
    readConfigKey stored key = ((stored key).bind NvsEntry.u8Value).map .u8 := by
  have hne : key ≠ kKeyFastReconnectTtlMs := by rcases hkey with rfl | rfl <;> decide
  have hflag : ¬(key = kKeyAutoReconnect ∨ key = kKeyReportingContinuous) := by
    rcases hkey with rfl | rfl <;> decide
  rw [readConfigKey, readKey]
  rcases stored key with _ | value | value
  · rfl
  · exact (if_neg hne).trans (if_neg hflag)
  · exact if_neg hne

/-- The time to live is read as a number of 32 bits. -/
theorem readConfigKey_u32 : readConfigKey stored kKeyFastReconnectTtlMs =
    ((stored kKeyFastReconnectTtlMs).bind NvsEntry.u32Value).map .u32 := by
  rw [readConfigKey, readKey]
  rcases stored kKeyFastReconnectTtlMs with _ | value | value <;> rfl

/-- The snapshot in the namespace is the record that is read under the five keys. -/
theorem map_snapshotIn :
    (snapshotIn stored).map (fun snapshot => (entriesOf snapshot).map Prod.snd) =
      readAll readConfigEntry stored configKeys := by
  have hauto := readConfigKey_flag stored (Or.inl rfl)
  have hcont := readConfigKey_flag stored (Or.inr rfl)
  have hled := readConfigKey_u8 stored (Or.inl rfl)
  have hmode := readConfigKey_u8 stored (Or.inr rfl)
  simp only [readConfigKey] at hauto hcont hled hmode
  simp only [snapshotIn, configKeys, readAll, hauto, hcont, hled, hmode, readConfigKey_u32]
  cases (stored kKeyAutoReconnect).bind NvsEntry.u8Value with
  | none => rfl
  | some autoReconnect =>
  cases (stored kKeyFastReconnectTtlMs).bind NvsEntry.u32Value with
  | none => rfl
  | some fastReconnectTtlMs =>
  cases (stored kKeyLedMask).bind NvsEntry.u8Value with
  | none => rfl
  | some ledMask =>
  cases (stored kKeyReportingMode).bind NvsEntry.u8Value with
  | none => rfl
  | some reportingMode =>
  cases (stored kKeyReportingContinuous).bind NvsEntry.u8Value with
  | none => rfl
  | some reportingContinuous => rfl

end Keys

/-- The stored values determine the snapshot. -/
theorem values_entriesOf_injective :
    Function.Injective fun snapshot => (entriesOf snapshot).map Prod.snd := by
  rintro ⟨auto, ttl, led, mode, cont⟩ ⟨auto', ttl', led', mode', cont'⟩ heq
  simp only [entriesOf, List.map_cons, List.map_nil, List.cons.injEq, NvsEntry.u8.injEq,
    NvsEntry.u32.injEq, and_true] at heq
  obtain ⟨hauto, rfl, rfl, rfl, hcont⟩ := heq
  have hflag (a b : Bool) (h : (if a = true then 1 else 0 : UInt8) = if b = true then 1 else 0) : a = b := by
    cases a <;> cases b <;> first | rfl | exact absurd h (by decide)
  rw [hflag _ _ hauto, hflag _ _ hcont]

/-- Two namespaces hold the same snapshot, or both none, exactly when they are read alike. -/
theorem snapshotIn_eq_iff {stored stored' : Store CString NvsEntry} :
    snapshotIn stored = snapshotIn stored' ↔
      readAll readConfigEntry stored configKeys = readAll readConfigEntry stored' configKeys := by
  rw [← map_snapshotIn, ← map_snapshotIn]
  exact (Option.map_injective values_entriesOf_injective).eq_iff.symm

/-- A snapshot whose entries were all written lies in the namespace. -/
theorem snapshotIn_writeAll (stored : Store CString NvsEntry) (snapshot : RuntimeConfigSnapshot) :
    snapshotIn (writeAll stored (entriesOf snapshot)) = some snapshot := by
  apply Option.map_injective values_entriesOf_injective
  rw [map_snapshotIn]
  exact readAll_writeAll (nodup_configKeys snapshot) (readConfigEntry_entriesOf snapshot)

/-! ## What a save leaves behind -/

/-- How many of the next calls are answered `ESP_OK`, up to the first one that is not. -/
def acceptedCalls (answers : ℕ → EspErr) : ℕ → ℕ
  | 0 => 0
  | n + 1 => if answers 0 = .ESP_OK then acceptedCalls (fun i => answers (i + 1)) n + 1 else 0

/-- Write entries up to the first that is refused, and commit. -/
def writeEntries (handle : ℕ) : List (CString × NvsEntry) → NvsM Bool
  | [] => do
    let committed ← nvsCommit handle
    pure (committed = .ESP_OK)
  | e :: rest => andThen (nvsSet handle e.1 e.2) (writeEntries handle rest)

/-- `writeSnapshot` writes the entries one after the other. -/
theorem writeSnapshot_eq (handle : ℕ) (snapshot : RuntimeConfigSnapshot) :
    writeSnapshot handle snapshot = writeEntries handle (entriesOf snapshot) := rfl

namespace Nvs

/-- The entries of the namespace of the configuration. -/
abbrev config (nvs : Nvs) : Store CString NvsEntry := nvs.storage kRuntimeConfigNamespace

/-- The handle is open for writing the configuration. -/
abbrev Writes (nvs : Nvs) (handle : ℕ) : Prop :=
  nvs.openHandles handle = some (kRuntimeConfigNamespace, .NVS_READWRITE)

/-- What is stored under a key is written to the configuration. -/
theorem config_store (nvs : Nvs) (key : CString) (entry : NvsEntry) :
    (nvs.store kRuntimeConfigNamespace key (some entry)).config = write nvs.config key entry := by
  change Function.update nvs.storage kRuntimeConfigNamespace (write nvs.config key entry)
    kRuntimeConfigNamespace = _
  rw [Function.update_self]

/-- A handle of the configuration was opened. -/
def opened (nvs : Nvs) (openMode : NvsOpenMode) : Nvs :=
  { nvs.answered with
    openHandles :=
      Function.update nvs.openHandles nvs.nextHandle (some (kRuntimeConfigNamespace, openMode))
    nextHandle := nvs.nextHandle + 1 }

/-- A handle just opened is open for the namespace of the settings. -/
theorem openHandles_opened (nvs : Nvs) (openMode : NvsOpenMode) :
    (nvs.opened openMode).openHandles nvs.nextHandle = some (kRuntimeConfigNamespace, openMode) :=
  Function.update_self ..

end Nvs

/-- All of the first `n` calls are accepted exactly when each is answered with success. -/
theorem acceptedCalls_eq_iff {answers : ℕ → EspErr} {n : ℕ} :
    acceptedCalls answers n = n ↔ ∀ i < n, answers i = .ESP_OK := by
  induction n generalizing answers with
  | zero => simp [acceptedCalls]
  | succ n ih =>
    rw [acceptedCalls, Nat.forall_lt_succ_left]
    split
    next hok => simp only [hok, true_and, Nat.add_right_cancel_iff, ih]
    next hfail => simp [hfail]

/-- One write of a save, and the rest where it is accepted. -/
theorem exec_writeEntries_cons {nvs : Nvs} {handle : ℕ} (hopen : nvs.Writes handle)
    (e : CString × NvsEntry) (rest : List (CString × NvsEntry)) :
    exec (writeEntries handle (e :: rest)) nvs =
      if nvs.answers 0 = .ESP_OK then
        exec (writeEntries handle rest) (nvs.answered.store kRuntimeConfigNamespace e.1 (some e.2))
      else (false, nvs.answered) := by
  have hset : exec (nvsSet handle e.1 e.2) nvs = (nvs.answers 0,
      if nvs.answers 0 = .ESP_OK then nvs.answered.store kRuntimeConfigNamespace e.1 (some e.2)
      else nvs.answered) := by
    rw [nvsSet, exec_modifyGet, show nvs.openHandles handle = _ from hopen]
  rw [writeEntries, andThen, exec_bind_of_exec hset]
  by_cases hok : nvs.answers 0 = .ESP_OK
  · simp only [hok, ne_eq, not_true_eq_false, if_false, if_true]
  · simp only [hok, ne_eq, not_false_eq_true, if_true, if_false, exec_pure]

/-- The entries in front of the first refused one are written, and the result says whether all
were, and the commit was accepted. -/
theorem exec_writeEntries {nvs : Nvs} {handle : ℕ} (hopen : nvs.Writes handle)
    (entries : List (CString × NvsEntry)) :
    ((exec (writeEntries handle entries) nvs).1 = true ↔
        ∀ i < entries.length + 1, nvs.answers i = .ESP_OK) ∧
      (exec (writeEntries handle entries) nvs).2.config =
        writeAll nvs.config (entries.take (acceptedCalls nvs.answers entries.length)) := by
  induction entries generalizing nvs with
  | nil =>
    refine ⟨?_, rfl⟩
    have hcommit : exec (nvsCommit handle) nvs = (nvs.answers 0, nvs.answered) := by
      rw [nvsCommit, exec_modifyGet, show nvs.openHandles handle = _ from hopen]
      rfl
    rw [writeEntries, exec_bind_of_exec hcommit]
    simp
  | cons e rest ih =>
    rw [exec_writeEntries_cons hopen, List.length_cons, acceptedCalls]
    by_cases hok : nvs.answers 0 = .ESP_OK
    · have hwrites : (nvs.answered.store kRuntimeConfigNamespace e.1 (some e.2)).Writes handle := hopen
      have hrest := ih hwrites
      rw [if_pos hok, if_pos hok, List.take_succ_cons, hrest.2, Nvs.config_store]
      refine ⟨hrest.1.trans ?_, rfl⟩
      rw [Nat.forall_lt_succ_left (n := rest.length + 1), and_iff_right hok]
      exact Iff.rfl
    · rw [if_neg hok, if_neg hok]
      refine ⟨iff_of_false Bool.false_ne_true fun hall => hok (hall 0 (Nat.succ_pos _)), rfl⟩

/-- Opening answers a new handle, or nothing when the call fails. -/
theorem exec_openStore (nvs : Nvs) (openMode : NvsOpenMode) :
    exec (openStore openMode) nvs =
      if nvs.answers 0 = .ESP_OK then (some nvs.nextHandle, nvs.opened openMode)
      else (none, nvs.answered) := by
  rw [openStore, exec_bind, nvsOpen, exec_modifyGet]
  by_cases hok : nvs.answers 0 = .ESP_OK
  · rw [if_pos hok, if_pos hok]
    rfl
  · rw [if_neg hok, if_neg hok, exec_pure, if_neg hok]

/-- How many entries of a snapshot a save writes: the calls are the opening, the writes and the
commit. -/
def entriesWritten (nvs : Nvs) : ℕ := acceptedCalls nvs.answers 6 - 1

/-- A save succeeds where all of its calls do, and leaves the entries written before the first one
that does not. -/
theorem exec_save {store : RuntimeConfigStore} (hinit : store.initialized = true) (nvs : Nvs)
    (snapshot : RuntimeConfigSnapshot) :
    ((exec (store.save snapshot) nvs).1 = true ↔ ∀ i < 7, nvs.answers i = .ESP_OK) ∧
      (exec (store.save snapshot) nvs).2.config =
        writeAll nvs.config ((entriesOf snapshot).take (entriesWritten nvs)) := by
  rw [RuntimeConfigStore.save, hinit, entriesWritten, acceptedCalls]
  by_cases hok : nvs.answers 0 = .ESP_OK
  · have hopened := exec_openStore nvs .NVS_READWRITE
    rw [if_pos hok] at hopened
    obtain ⟨hresult, hwritten⟩ := exec_writeEntries (nvs.openHandles_opened .NVS_READWRITE)
      (entriesOf snapshot)
    rw [← writeSnapshot_eq] at hresult hwritten
    rw [Bool.not_true, if_neg Bool.false_ne_true, exec_bind_of_exec hopened, if_pos hok,
      Nat.add_sub_cancel]
    refine ⟨hresult.trans ?_, hwritten⟩
    rw [Nat.forall_lt_succ_left (n := 6), and_iff_right hok]
    exact Iff.rfl
  · have hopened := exec_openStore nvs .NVS_READWRITE
    rw [if_neg hok] at hopened
    rw [Bool.not_true, if_neg Bool.false_ne_true, exec_bind_of_exec hopened, if_neg hok]
    exact ⟨iff_of_false Bool.false_ne_true fun hall => hok (hall 0 (by decide)), rfl⟩

/-! ## What a load reads -/

/-- A read, and the rest with its value: where no call fails, the value is the stored one. -/
theorem exec_withValue {α : Type} {nvs : Nvs} {handle : ℕ} {openMode : NvsOpenMode}
    (hopen : nvs.openHandles handle = some (kRuntimeConfigNamespace, openMode))
    {valueOf : NvsEntry → Option α} {key : CString} {rest : α → NvsM (Option RuntimeConfigSnapshot)}
    {n : ℕ} {result : α → Option RuntimeConfigSnapshot}
    (hrest : ∀ value, (exec (rest value) nvs.answered).1 =
      if acceptedCalls nvs.answered.answers n = n then result value else none) :
    (exec (withValue (nvsGet valueOf handle key) rest) nvs).1 =
      if acceptedCalls nvs.answers (n + 1) = n + 1 then
        ((nvs.config key).bind valueOf).bind result
      else none := by
  have hget : exec (nvsGet valueOf handle key) nvs =
      (if nvs.answers 0 = .ESP_OK then (nvs.config key).bind valueOf else none, nvs.answered) := by
    rw [nvsGet, exec_modifyGet, hopen]
  rw [withValue, exec_bind_of_exec hget, acceptedCalls]
  by_cases hok : nvs.answers 0 = .ESP_OK
  · simp only [if_pos hok, Nat.add_right_cancel_iff]
    cases (nvs.config key).bind valueOf with
    | none => exact (ite_self none).symm
    | some value => exact hrest value
  · rw [if_neg hok, if_neg hok, if_neg (Nat.succ_ne_zero n).symm]
    rfl

/-- The five values are read where no call fails. -/
theorem exec_readSnapshot {nvs : Nvs} {handle : ℕ} {openMode : NvsOpenMode}
    (hopen : nvs.openHandles handle = some (kRuntimeConfigNamespace, openMode)) :
    (exec (readSnapshot handle) nvs).1 =
      if acceptedCalls nvs.answers 5 = 5 then snapshotIn nvs.config else none := by
  have hnext (next : Nvs) (h : next.openHandles = nvs.openHandles) :
      next.openHandles handle = some (kRuntimeConfigNamespace, openMode) := by rw [h, hopen]
  refine exec_withValue hopen fun autoReconnect => ?_
  refine exec_withValue (hnext nvs.answered rfl) fun fastReconnectTtlMs => ?_
  refine exec_withValue (hnext nvs.answered.answered rfl) fun ledMask => ?_
  refine exec_withValue (hnext nvs.answered.answered.answered rfl) fun reportingMode => ?_
  refine exec_withValue (hnext nvs.answered.answered.answered.answered rfl) fun reportingContinuous => ?_
  rw [exec_pure]
  exact (if_pos rfl).symm

/-- What a load gives for a call whose answers are given: the stored snapshot where every call
succeeds and all of it can be read, and else what the caller had. -/
def loadResult (stored : Store CString NvsEntry) (answers : ℕ → EspErr)
    (caller : RuntimeConfigSnapshot) : Bool × Option RuntimeConfigSnapshot :=
  let loaded := if acceptedCalls answers 6 = 6 then snapshotIn stored else none
  (loaded.isSome, some (loaded.getD caller))

/-- What a store that is ready gives for a load. -/
theorem exec_load {store : RuntimeConfigStore} (hinit : store.initialized = true) (nvs : Nvs)
    (caller : RuntimeConfigSnapshot) :
    (exec (store.load (some caller)) nvs).1 = loadResult nvs.config nvs.answers caller := by
  rw [RuntimeConfigStore.load, hinit]
  have hopened := exec_openStore nvs .NVS_READONLY
  simp only [Bool.not_true, Bool.false_eq_true, if_false]
  by_cases hok : nvs.answers 0 = .ESP_OK
  · rw [if_pos hok] at hopened
    have hread := exec_readSnapshot (nvs.openHandles_opened .NVS_READONLY)
    have hcalls : acceptedCalls nvs.answers 6 = 6 ↔
        acceptedCalls (nvs.opened .NVS_READONLY).answers 5 = 5 := by
      rw [acceptedCalls, if_pos hok, Nat.add_right_cancel_iff]
      rfl
    rw [exec_bind_of_exec hopened]
    simp only [exec_bind, exec_pure, loadResult, hcalls]
    rw [hread]
    rfl
  · rw [if_neg hok] at hopened
    rw [exec_bind_of_exec hopened, loadResult, acceptedCalls, if_neg hok]
    rfl

/-- The result of a load says what is stored. -/
theorem loadResult_eq_iff {stored stored' : Store CString NvsEntry} :
    (∀ answers caller, loadResult stored answers caller = loadResult stored' answers caller) ↔
      snapshotIn stored = snapshotIn stored' := by
  constructor
  · intro hsame
    have hcalls : acceptedCalls (fun _ => EspErr.ESP_OK) 6 = 6 := by decide
    have hload (caller : RuntimeConfigSnapshot) := hsame (fun _ => .ESP_OK) caller
    simp only [loadResult, if_pos hcalls, Prod.mk.injEq, Option.some.injEq] at hload
    rcases hstored : snapshotIn stored with _ | snapshot <;>
      rcases hstored' : snapshotIn stored' with _ | snapshot'
    · rfl
    · have hsome := (hload snapshot').1
      rw [hstored, hstored'] at hsome
      cases hsome
    · have hsome := (hload snapshot).1
      rw [hstored, hstored'] at hsome
      cases hsome
    · have hvalue := (hload snapshot).2
      rw [hstored, hstored'] at hvalue
      exact congrArg some hvalue
  · intro heq answers caller
    rw [loadResult, loadResult, heq]

/-! ## Atomic saves -/

/-- What is promised of a save and of the loads behind it, whatever the storage answers to them. -/
structure SavesAtomically (store : RuntimeConfigStore) (nvs : Nvs) (snapshot : RuntimeConfigSnapshot) :
    Prop where
  saved : (exec (store.save snapshot) nvs).1 = true →
    ∀ answers caller, (∀ i < 6, answers i = .ESP_OK) →
      (exec (store.load (some caller)) ((exec (store.save snapshot) nvs).2.withAnswers answers)).1 =
        (true, some snapshot)
  refused : (exec (store.save snapshot) nvs).1 = false →
    ∀ answers caller,
      (exec (store.load caller) ((exec (store.save snapshot) nvs).2.withAnswers answers)).1 =
        (exec (store.load caller) (nvs.withAnswers answers)).1
  untouched : ∀ loading caller, (exec (store.load caller) loading).1.1 = false →
    (exec (store.load caller) loading).1.2 = caller

/-- The loads to come do not notice that the first entries of the snapshot were written: one of the
others cannot be read, or each of the first is what was stored, as a load reads it. -/
def FirstEntriesUnnoticed (nvs : Nvs) (snapshot : RuntimeConfigSnapshot) (written : ℕ) : Prop :=
  (∃ e ∈ (entriesOf snapshot).drop written, readConfigKey nvs.config e.1 = none) ∨
    ∀ e ∈ (entriesOf snapshot).take written, readConfigKey nvs.config e.1 = some e.2

/-- A save that was cut off shows no change exactly when its first entries are unnoticed. -/
theorem snapshotIn_writeAll_take_iff (nvs : Nvs) (snapshot : RuntimeConfigSnapshot) (written : ℕ) :
    snapshotIn (writeAll nvs.config ((entriesOf snapshot).take written)) = snapshotIn nvs.config ↔
      FirstEntriesUnnoticed nvs snapshot written := by
  have hread : ∀ e ∈ entriesOf snapshot, readConfigEntry e.1 e.2 = some e.2 := by
    have hmap := readConfigEntry_entriesOf snapshot
    rw [List.map_map] at hmap
    exact List.map_inj_left.mp hmap
  have hreadable : ∀ e ∈ entriesOf snapshot, readConfigEntry e.1 e.2 ≠ none :=
    fun e he hnone => Option.some_ne_none e.2 ((hread e he).symm.trans hnone)
  rw [snapshotIn_eq_iff, ← map_fst_entriesOf snapshot,
    readAll_writeAll_take_iff (nodup_configKeys snapshot) hreadable written, FirstEntriesUnnoticed]
  exact or_congr Iff.rfl (forall₂_congr fun e he => by rw [hread e (List.mem_of_mem_take he)])

/-- A load that fails leaves the caller's snapshot as it was. -/
theorem load_untouched (store : RuntimeConfigStore) (nvs : Nvs) (caller : Option RuntimeConfigSnapshot)
    (hfalse : (exec (store.load caller) nvs).1.1 = false) : (exec (store.load caller) nvs).1.2 = caller := by
  cases caller with
  | none => rfl
  | some caller =>
    cases hinit : store.initialized with
    | false =>
      rw [RuntimeConfigStore.load, hinit]
      rfl
    | true =>
      rw [exec_load hinit, loadResult] at hfalse ⊢
      dsimp only at hfalse ⊢
      rw [Option.isNone_iff_eq_none.mp (Option.isSome_eq_false_iff.mp hfalse), Option.getD_none]

/-- An initialised store saves a snapshot atomically exactly where the storage accepts all calls of
the save, or the entries it wrote before a refusal go unnoticed. -/
theorem savesAtomically_iff {store : RuntimeConfigStore} (hinit : store.initialized = true) (nvs : Nvs)
    (snapshot : RuntimeConfigSnapshot) :
    SavesAtomically store nvs snapshot ↔
      (∀ i < 7, nvs.answers i = .ESP_OK) ∨ FirstEntriesUnnoticed nvs snapshot (entriesWritten nvs) := by
  obtain ⟨hresult, hwritten⟩ := exec_save hinit nvs snapshot
  -- what the loads to come give, after the save and without it
  have hafter (answers : ℕ → EspErr) (caller : RuntimeConfigSnapshot) :
      (exec (store.load (some caller)) ((exec (store.save snapshot) nvs).2.withAnswers answers)).1 =
        loadResult (exec (store.save snapshot) nvs).2.config answers caller := exec_load hinit _ caller
  have hbefore (answers : ℕ → EspErr) (caller : RuntimeConfigSnapshot) :
      (exec (store.load (some caller)) (nvs.withAnswers answers)).1 =
        loadResult nvs.config answers caller := exec_load hinit _ caller
  rw [← snapshotIn_writeAll_take_iff, ← hwritten, ← loadResult_eq_iff]
  constructor
  · intro hatomic
    cases hsaved : (exec (store.save snapshot) nvs).1 with
    | true => exact Or.inl (hresult.mp hsaved)
    | false =>
      refine Or.inr fun answers caller => ?_
      exact (hafter answers caller).symm.trans
        ((hatomic.refused hsaved answers (some caller)).trans (hbefore answers caller))
  · intro hcondition
    refine ⟨fun hsaved answers caller haccepted => ?_, fun hsaved answers caller => ?_,
      load_untouched store⟩
    · have hall := hresult.mp hsaved
      have hcomplete : entriesWritten nvs = (entriesOf snapshot).length := by
        rw [entriesWritten, acceptedCalls_eq_iff.mpr fun i hi => hall i (Nat.lt_succ_of_lt hi)]
        rfl
      have hstored : snapshotIn (exec (store.save snapshot) nvs).2.config = some snapshot := by
        rw [hwritten, hcomplete, List.take_length, snapshotIn_writeAll]
      rw [hafter, loadResult, if_pos (acceptedCalls_eq_iff.mpr haccepted), hstored]
      rfl
    · cases caller with
      | none => rfl
      | some caller =>
        rw [hafter, hbefore]
        rcases hcondition with hall | hsame
        · exact absurd (hresult.mpr hall) (Bool.eq_false_iff.mp hsaved)
        · exact hsame answers caller

/-- A storage that holds a snapshot, with the answers it gives. -/
def storageOf (snapshot : RuntimeConfigSnapshot) (answers : ℕ → EspErr) : Nvs where
  storage := fun _ => writeAll (fun _ => none) (entriesOf snapshot)
  openHandles := fun _ => none
  nextHandle := 1
  answers

/-- A store that was initialised saves atomically while nothing is refused. -/
theorem savesAtomically_of_accepted :
    let nvs := storageOf ⟨false, 180000, 0x01, 0x30, false⟩ fun _ => .ESP_OK
    let initialised := (exec RuntimeConfigStore.init nvs).1.2
    initialised.initialized = true ∧ SavesAtomically initialised nvs ⟨true, 60000, 0x0F, 0x31, true⟩ :=
  ⟨rfl, (savesAtomically_iff rfl _ _).mpr (Or.inl fun _ _ => rfl)⟩

/-- The second write is refused: the next load gives the new flag with the old rest. -/
theorem saves_not_always_atomic :
    ¬∀ (store : RuntimeConfigStore) (nvs : Nvs) (snapshot : RuntimeConfigSnapshot),
      store.initialized = true → SavesAtomically store nvs snapshot := by
  intro hclaim
  have hatomic := hclaim ⟨true⟩
    (storageOf ⟨false, 180000, 0x01, 0x30, false⟩ fun n => if n = 2 then .ESP_FAIL else .ESP_OK)
    ⟨true, 60000, 0x0F, 0x31, true⟩ rfl
  have hload := hatomic.refused (by decide +kernel) (fun _ => .ESP_OK) (some ⟨false, 0, 0, 0, false⟩)
  revert hload
  decide +kernel

end Esp32Wiimote.Device
