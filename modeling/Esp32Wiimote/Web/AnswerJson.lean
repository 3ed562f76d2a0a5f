import Esp32Wiimote.Library.JsonValue
import Esp32Wiimote.Web.Serializer

/-!
# The answers as JSON

What the serializers and the router format is the compact text of a JSON object, whatever the values in
it are: the strings are fixed and need no escape, and the numbers and truth values are written as JSON
writes them. So a body that is complete is read back, and what is read tells the values.
-/

namespace Esp32Wiimote.Web

open CText JsonValue

/-! ## Fixed texts -/

/-- A literal is the text of its characters. -/
theorem ascii_ofList (chars : List Char) :
    ascii (String.ofList chars) = chars.map fun c => c.toNat.toUInt8 := by
  rw [ascii, String.toList_ofList]

/-- The characters that a string shows as they are. -/
def isPlainChar (c : Char) : Bool :=
  0x20 ≤ c.toNat && c.toNat < 0x7F && c.toNat != 0x22 && c.toNat != 0x5C

/-- A plain character is printable and no quote or backslash. -/
theorem plain_of_isPlainChar {c : Char} (h : isPlainChar c = true) :
    isPrintable c.toNat.toUInt8 = true ∧ c.toNat.toUInt8 ≠ 0x22 ∧ c.toNat.toUInt8 ≠ 0x5C := by
  simp only [isPlainChar, Bool.and_eq_true, decide_eq_true_eq, bne_iff_ne] at h
  have hnat : c.toNat.toUInt8.toNat = c.toNat := Nat.mod_eq_of_lt (by omega)
  simp only [isPrintable, Bool.and_eq_true, decide_eq_true_eq, UInt8.le_iff_toNat_le, UInt8.lt_iff_toNat_lt,
    hnat, ne_eq, ← UInt8.toNat_inj]
  exact ⟨⟨h.1.1.1, h.1.1.2⟩, h.1.2, h.2⟩

/-- So is every byte of a text of plain characters. -/
theorem plain_ofList {chars : List Char} (h : chars.all isPlainChar = true) :
    ∀ c ∈ ascii (String.ofList chars), isPrintable c = true ∧ c ≠ 0x22 ∧ c ≠ 0x5C := by
  intro c hc
  rw [ascii_ofList] at hc
  obtain ⟨char, hchar, rfl⟩ := List.mem_map.mp hc
  exact plain_of_isPlainChar (List.all_eq_true.mp h char hchar)

/-- Such a text is printable. -/
theorem printable_ofList {chars : List Char} (h : chars.all isPlainChar = true) :
    ∀ c ∈ ascii (String.ofList chars), isPrintable c = true := fun c hc => (plain_ofList h c hc).1

/-- A fixed text as a JSON string. -/
def jsonText (text : String) (h : ∀ c ∈ ascii text, isPrintable c = true := by exact printable_ofList rfl) :
    JsonString := ⟨ascii text, h⟩

/-- A string without a quote or a backslash is written as it is. -/
theorem writeString_plain {s : JsonString} (h : ∀ c ∈ s.val, c ≠ 0x22 ∧ c ≠ 0x5C) :
    writeString s = 0x22 :: (s.val ++ [0x22]) := by
  have hplain : s.val.flatMap writeChar = s.val.flatMap fun c => [c] :=
    List.flatMap_congr fun c hc => if_neg (not_or.mpr (h c hc))
  rw [writeString, hplain, List.flatMap_singleton']

/-- It is written between quotes as it is. -/
theorem writeString_jsonText {chars : List Char} (hchars : chars.all isPlainChar = true)
    (h : ∀ c ∈ ascii (String.ofList chars), isPrintable c = true) :
    writeString (jsonText (String.ofList chars) h) = ascii (String.ofList ('"' :: (chars ++ ['"']))) := by
  have hval : (jsonText (String.ofList chars) h).val = ascii (String.ofList chars) := rfl
  rw [writeString_plain fun c hc => (plain_ofList hchars c hc).2, hval, ascii_ofList, ascii_ofList,
    List.map_cons, List.map_append]
  rfl

/-! ## Values -/

/-- `boolStr` writes a boolean. -/
theorem boolStr_eq (b : Bool) : boolStr b = writeBool b := by
  cases b <;> exact ascii_ofList _

/-- `decimalInt` writes an integer. -/
theorem decimalInt_eq (n : ℤ) : decimalInt n = writeNumber n := by
  have hminus : ascii "-" = [0x2D] := ascii_ofList _
  rw [decimalInt, writeNumber, hminus]
  rfl

/-- `decimal` writes a natural number. -/
theorem decimal_eq (n : ℕ) : decimal n = writeNumber (n : ℤ) := by
  rw [writeNumber, if_neg (Int.not_lt.mpr (Int.natCast_nonneg n)), Int.natAbs_natCast]

/-! ## Objects -/

/-- The text in front of the first value of an object. -/
def firstKey (key : JsonString) : CString := 0x7B :: (writeString key ++ [0x3A])

/-- The text in front of any other value of an object. -/
def nextKey (key : JsonString) : CString := 0x2C :: (writeString key ++ [0x3A])

/-- The first member of an object, and each other behind a comma. -/
theorem writeMembers_cons (key : JsonString) (value : Json) (members : List (JsonString × Json)) :
    writeMembers ((key, value) :: members) =
      writeString key ++ 0x3A :: (value.write ++ members.flatMap fun m => nextKey m.1 ++ m.2.write) := by
  induction members generalizing key value with
  | nil => rw [writeMembers, List.flatMap_nil, List.append_nil]
  | cons next rest ih =>
    rw [writeMembers, ih next.1 next.2, List.flatMap_cons]
    simp only [nextKey, List.append_assoc, List.cons_append, List.nil_append]

/-- The text of an object is made of its keys and values and the closing brace. -/
theorem write_object (key : JsonString) (value : Json) (members : List (JsonString × Json)) :
    (Json.object ((key, value) :: members)).write =
      firstKey key ++ (value.write ++
        (members.flatMap (fun m => nextKey m.1 ++ m.2.write) ++ [0x7D])) := by
  rw [Json.write, writeMembers_cons]
  simp only [firstKey, List.append_assoc, List.cons_append, List.nil_append]

/-- The body of a command that was carried out. -/
def okJson : Json := .object [(jsonText "status", .string (jsonText "ok"))]

/-- The body of an error. -/
def errorJson (message : JsonString) : Json :=
  .object [(jsonText "status", .string (jsonText "error")), (jsonText "message", .string message)]

/-- The body of a command that was queued. -/
def acceptedJson (commandId : UInt32) : Json :=
  .object [(jsonText "status", .string (jsonText "accepted")),
    (jsonText "commandId", .number commandId.toNat)]

/-- The body of a scan command. -/
def scanJson (command : JsonString) (scanEnabled : Bool) : Json :=
  .object [(jsonText "status", .string (jsonText "ok")), (jsonText "command", .string command),
    (jsonText "scanEnabled", .bool scanEnabled)]

/-- The body of the status of a queued command. -/
def commandStatusJson (commandId : UInt32) (status result : JsonString) : Json :=
  .object [(jsonText "commandId", .number commandId.toNat), (jsonText "status", .string status),
    (jsonText "result", .string result)]

/-- The body of a status snapshot. -/
def wiimoteStatusJson (st : WebWiimoteStatusSnapshot) : Json :=
  .object [(jsonText "connected", .bool st.connected),
    (jsonText "batteryLevel", .number st.batteryLevel.toNat)]

/-- The body of a configuration snapshot. -/
def configJson (cfg : WebConfigSnapshot) : Json :=
  .object [(jsonText "nunchukStickThreshold", .number cfg.nunchukStickThreshold),
    (jsonText "txQueueSize", .number cfg.txQueueSize), (jsonText "rxQueueSize", .number cfg.rxQueueSize),
    (jsonText "fastReconnectTtlMs", .number cfg.fastReconnectTtlMs.toNat)]

/-- The text of the delivery mode. -/
def deliveryModeText (restAndWebSocket : Bool) : JsonString :=
  if restAndWebSocket then jsonText "rest-ws" else jsonText "rest"

/-- The body of a Wi-Fi state. -/
def wifiControlStateJson (state : WebWifiControlStateSnapshot) : Json :=
  .object [(jsonText "enabled", .bool state.enabled), (jsonText "ready", .bool state.ready),
    (jsonText "networkCredentialsConfigured", .bool state.networkCredentialsConfigured),
    (jsonText "networkConnectAttempted", .bool state.networkConnectAttempted),
    (jsonText "networkConnected", .bool state.networkConnected),
    (jsonText "networkConnectFailed", .bool state.networkConnectFailed),
    (jsonText "serverStarted", .bool state.serverStarted),
    (jsonText "serverBindFailed", .bool state.serverBindFailed),
    (jsonText "deliveryMode", .string (deliveryModeText state.restAndWebSocket)),
    (jsonText "hasToken", .bool state.hasToken)]

/-! ## Serialized texts -/

/-- A closing brace is one byte. -/
theorem ascii_brace : ascii "\x7d" = [0x7D] := ascii_ofList _

/-- A quote and a closing brace are two. -/
theorem ascii_quote_brace : ascii "\"\x7d" = [0x22, 0x7D] := ascii_ofList _

/-- The text the source has for this body. -/
theorem write_okJson : okJson.write = ascii "\x7b\"status\":\"ok\"\x7d" := rfl

/-- The text of an error, if its message needs no escape. -/
theorem write_errorJson {message : JsonString} (h : ∀ c ∈ message.val, c ≠ 0x22 ∧ c ≠ 0x5C) :
    (errorJson message).write =
      ascii "\x7b\"status\":\"error\",\"message\":\"" ++ message.val ++ ascii "\"\x7d" := by
  have hopen : ascii "\x7b\"status\":\"error\",\"message\":\"" =
      firstKey (jsonText "status") ++ (writeString (jsonText "error") ++
        (nextKey (jsonText "message") ++ [0x22])) := by
    rw [firstKey, nextKey, writeString_jsonText, writeString_jsonText, writeString_jsonText, ascii_ofList,
      ascii_ofList, ascii_ofList, ascii_ofList] <;> rfl
  rw [errorJson, write_object, hopen, ascii_quote_brace]
  simp only [List.flatMap_cons, List.flatMap_nil, Json.write, writeString_plain h, List.append_assoc,
    List.cons_append, List.nil_append]

/-- The text of a command that was queued. -/
theorem write_acceptedJson (commandId : UInt32) : (acceptedJson commandId).write =
    ascii "\x7b\"status\":\"accepted\",\"commandId\":" ++ decimal commandId.toNat ++ ascii "\x7d" := by
  have hopen : ascii "\x7b\"status\":\"accepted\",\"commandId\":" =
      firstKey (jsonText "status") ++ (writeString (jsonText "accepted") ++ nextKey (jsonText "commandId")) := by
    rw [firstKey, nextKey, writeString_jsonText, writeString_jsonText, writeString_jsonText, ascii_ofList,
      ascii_ofList, ascii_ofList, ascii_ofList] <;> rfl
  rw [acceptedJson, write_object, hopen, ascii_brace, decimal_eq]
  simp only [List.flatMap_cons, List.flatMap_nil, Json.write, List.append_assoc, List.nil_append]

/-- The text of a scan command. -/
theorem write_scanJson {command : JsonString} (h : ∀ c ∈ command.val, c ≠ 0x22 ∧ c ≠ 0x5C)
    (scanEnabled : Bool) : (scanJson command scanEnabled).write =
      ascii "\x7b\"status\":\"ok\",\"command\":\"" ++ command.val ++ ascii "\",\"scanEnabled\":"
        ++ boolStr scanEnabled ++ ascii "\x7d" := by
  have hopen : ascii "\x7b\"status\":\"ok\",\"command\":\"" =
      firstKey (jsonText "status") ++ (writeString (jsonText "ok") ++
        (nextKey (jsonText "command") ++ [0x22])) := by
    rw [firstKey, nextKey, writeString_jsonText, writeString_jsonText, writeString_jsonText, ascii_ofList,
      ascii_ofList, ascii_ofList, ascii_ofList] <;> rfl
  have hnext : ascii "\",\"scanEnabled\":" = 0x22 :: nextKey (jsonText "scanEnabled") := by
    rw [nextKey, writeString_jsonText, ascii_ofList, ascii_ofList] <;> rfl
  rw [scanJson, write_object, hopen, hnext, ascii_brace, boolStr_eq]
  simp only [List.flatMap_cons, List.flatMap_nil, Json.write, writeString_plain h, List.append_assoc,
    List.cons_append, List.nil_append]

/-- The text of the status of a queued command. -/
theorem write_commandStatusJson (commandId : UInt32) {status result : JsonString}
    (hstatus : ∀ c ∈ status.val, c ≠ 0x22 ∧ c ≠ 0x5C) (hresult : ∀ c ∈ result.val, c ≠ 0x22 ∧ c ≠ 0x5C) :
    (commandStatusJson commandId status result).write =
      ascii "\x7b\"commandId\":" ++ decimal commandId.toNat ++ ascii ",\"status\":\""
        ++ status.val ++ ascii "\",\"result\":\"" ++ result.val ++ ascii "\"\x7d" := by
  have hopen : ascii "\x7b\"commandId\":" = firstKey (jsonText "commandId") := by
    rw [firstKey, writeString_jsonText, ascii_ofList, ascii_ofList] <;> rfl
  have hnext : ascii ",\"status\":\"" = nextKey (jsonText "status") ++ [0x22] := by
    rw [nextKey, writeString_jsonText, ascii_ofList, ascii_ofList] <;> rfl
  have hlast : ascii "\",\"result\":\"" = 0x22 :: (nextKey (jsonText "result") ++ [0x22]) := by
    rw [nextKey, writeString_jsonText, ascii_ofList, ascii_ofList] <;> rfl
  rw [commandStatusJson, write_object, hopen, hnext, hlast, ascii_quote_brace, decimal_eq]
  simp only [List.flatMap_cons, List.flatMap_nil, Json.write, writeString_plain hstatus,
    writeString_plain hresult, List.append_assoc, List.cons_append, List.nil_append]

/-- The serializer of the status writes its body. -/
theorem serializeWiimoteStatus_eq (size : ℕ) (st : WebWiimoteStatusSnapshot) :
    serializeWiimoteStatus size st = serialize size (wiimoteStatusJson st).write := by
  have hopen : ascii "\x7b\"connected\":" = firstKey (jsonText "connected") := by
    rw [firstKey, writeString_jsonText, ascii_ofList, ascii_ofList] <;> rfl
  have hnext : ascii ",\"batteryLevel\":" = nextKey (jsonText "batteryLevel") := by
    rw [nextKey, writeString_jsonText, ascii_ofList, ascii_ofList] <;> rfl
  rw [serializeWiimoteStatus, wiimoteStatusJson, write_object, hopen, hnext, ascii_brace, boolStr_eq, decimal_eq]
  simp only [List.flatMap_cons, List.flatMap_nil, Json.write, List.append_assoc, List.nil_append]

/-- So does that of the configuration. -/
theorem serializeConfig_eq (size : ℕ) (cfg : WebConfigSnapshot) :
    serializeConfig size cfg = serialize size (configJson cfg).write := by
  have hthreshold : ascii "\x7b\"nunchukStickThreshold\":" = firstKey (jsonText "nunchukStickThreshold") := by
    rw [firstKey, writeString_jsonText, ascii_ofList, ascii_ofList] <;> rfl
  have htx : ascii ",\"txQueueSize\":" = nextKey (jsonText "txQueueSize") := by
    rw [nextKey, writeString_jsonText, ascii_ofList, ascii_ofList] <;> rfl
  have hrx : ascii ",\"rxQueueSize\":" = nextKey (jsonText "rxQueueSize") := by
    rw [nextKey, writeString_jsonText, ascii_ofList, ascii_ofList] <;> rfl
  have httl : ascii ",\"fastReconnectTtlMs\":" = nextKey (jsonText "fastReconnectTtlMs") := by
    rw [nextKey, writeString_jsonText, ascii_ofList, ascii_ofList] <;> rfl
  rw [serializeConfig, configJson, write_object, hthreshold, htx, hrx, httl, ascii_brace, decimal_eq,
    decimalInt_eq, decimalInt_eq, decimalInt_eq]
  simp only [List.flatMap_cons, List.flatMap_nil, Json.write, List.append_assoc, List.nil_append]

/-- So does that of the Wi-Fi state. -/
theorem serializeWifiControlState_eq (size : ℕ) (state : WebWifiControlStateSnapshot) :
    serializeWifiControlState size state = serialize size (wifiControlStateJson state).write := by
  have hopen : ascii "\x7b\"enabled\":" = firstKey (jsonText "enabled") := by
    rw [firstKey, writeString_jsonText, ascii_ofList, ascii_ofList] <;> rfl
  have hready : ascii ",\"ready\":" = nextKey (jsonText "ready") := by
    rw [nextKey, writeString_jsonText, ascii_ofList, ascii_ofList] <;> rfl
  have hcredentials : ascii ",\"networkCredentialsConfigured\":" =
      nextKey (jsonText "networkCredentialsConfigured") := by
    rw [nextKey, writeString_jsonText, ascii_ofList, ascii_ofList] <;> rfl
  have hattempted : ascii ",\"networkConnectAttempted\":" = nextKey (jsonText "networkConnectAttempted") := by
    rw [nextKey, writeString_jsonText, ascii_ofList, ascii_ofList] <;> rfl
  have hconnected : ascii ",\"networkConnected\":" = nextKey (jsonText "networkConnected") := by
    rw [nextKey, writeString_jsonText, ascii_ofList, ascii_ofList] <;> rfl
  have hfailed : ascii ",\"networkConnectFailed\":" = nextKey (jsonText "networkConnectFailed") := by
    rw [nextKey, writeString_jsonText, ascii_ofList, ascii_ofList] <;> rfl
  have hstarted : ascii ",\"serverStarted\":" = nextKey (jsonText "serverStarted") := by
    rw [nextKey, writeString_jsonText, ascii_ofList, ascii_ofList] <;> rfl
  have hbind : ascii ",\"serverBindFailed\":" = nextKey (jsonText "serverBindFailed") := by
    rw [nextKey, writeString_jsonText, ascii_ofList, ascii_ofList] <;> rfl
  have hmode : ascii ",\"deliveryMode\":\"" = nextKey (jsonText "deliveryMode") ++ [0x22] := by
    rw [nextKey, writeString_jsonText, ascii_ofList, ascii_ofList] <;> rfl
  have htoken : ascii "\",\"hasToken\":" = 0x22 :: nextKey (jsonText "hasToken") := by
    rw [nextKey, writeString_jsonText, ascii_ofList, ascii_ofList] <;> rfl
  have hdelivery : writeString (deliveryModeText state.restAndWebSocket) =
      0x22 :: ((if state.restAndWebSocket then ascii "rest-ws" else ascii "rest") ++ [0x22]) := by
    cases state.restAndWebSocket <;> exact writeString_plain fun c hc => (plain_ofList rfl c hc).2
  rw [serializeWifiControlState, wifiControlStateJson, write_object, hopen, hready, hcredentials,
    hattempted, hconnected, hfailed, hstarted, hbind, hmode, htoken, ascii_brace]
  simp only [List.flatMap_cons, List.flatMap_nil, Json.write, hdelivery, boolStr_eq, List.append_assoc,
    List.cons_append, List.nil_append]

end Esp32Wiimote.Web
