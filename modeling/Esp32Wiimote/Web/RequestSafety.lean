import Esp32Wiimote.Web.RequestBuffers

/-!
# The request parser ends and stays in its arrays

Each loop of the source makes what is left of the body shorter with every round. The bytes in front of
the end of the body are read, each array is stored to inside of itself, and every array that holds a
string holds its NUL. On the way the parser in memory is followed by the parser on lists, which is at
the same position with the same strings.
-/

namespace Esp32Wiimote.Web

open CText StateProgram LoggedMemory Memory MemoryText BoundedLoop

/-! ## The tokenizer -/

namespace JsonReader

variable (body : List UInt8) (len : ℕ)

/-- The tokenizer on lists that is at the same position, and that has read nothing else. -/
abbrev spec (r : JsonReader) : JsonParser := ⟨body, len, r.pos, true⟩

/-- What is left of the body. -/
abbrev left (r : JsonReader) : ℕ := len - r.pos

/-- Bytes in front of the end were read, and cells of the value stored to. -/
structure Safe (r t : JsonReader) : Prop where
  reads : Grown JsonReader.reads (· < len) r t
  value : StoresInside kWebRequestMaxValueSize r.value t.value
  left : t.left len ≤ r.left len

/-- A token is the one of the tokenizer on lists, and the value of a string is in its array. -/
structure Token (r : JsonReader) (expected : JsonToken × JsonParser)
    (token : JsonTokenType × JsonReader) : Prop where
  safe : r.Safe len token.2
  type : token.1 = expected.1.type
  spec : token.2.spec body len = expected.2
  value : token.1 = .String →
    cString kWebRequestMaxValueSize token.2.value = expected.1.value.takeWhile (· != 0)

section Safe

variable {len} {r s t : JsonReader}

/-- Nothing read is safe. -/
theorem Safe.refl (r : JsonReader) : r.Safe len r := ⟨refl_of _ r, refl_of _ r.value, Nat.le_refl _⟩

/-- Two safe parts are safe together. -/
theorem Safe.trans (h : r.Safe len s) (h' : s.Safe len t) : r.Safe len t :=
  ⟨trans_of _ h.reads h'.reads, trans_of _ h.value h'.value, h'.left.trans h.left⟩

/-- A read in front of the end is safe. -/
theorem Safe.read (h : r.Safe len s) (hlt : s.pos < len) : r.Safe len s.read :=
  h.trans ⟨⟨[s.pos], rfl, by simpa using hlt⟩, refl_of _ s.value, Nat.le_refl _⟩

/-- Moving on is safe. -/
theorem Safe.advance (h : r.Safe len s) : r.Safe len s.advance :=
  h.trans ⟨Grown.of_eq rfl, refl_of _ s.value, Nat.sub_le_sub_left (Nat.le_succ _) len⟩

/-- So is a new token. -/
theorem Safe.makeToken (h : r.Safe len s) : r.Safe len s.makeToken :=
  h.trans ⟨Grown.of_eq rfl, Memory.storesInside_store _ _ _ (by decide), Nat.le_refl _⟩

/-- So is a character that is stored with room for it. -/
theorem Safe.putChar (h : r.Safe len s) (ch : UInt8) (hroom : s.valueLen < kWebRequestMaxValueSize) :
    r.Safe len (s.putChar ch) :=
  h.trans ⟨Grown.of_eq rfl, Memory.storesInside_store _ _ _ (by omega), Nat.le_refl _⟩

/-- So is the NUL behind the value. -/
theorem Safe.endValue (h : r.Safe len s) (hroom : s.valueLen < kWebRequestMaxValueSize) :
    r.Safe len s.endValue :=
  h.trans ⟨Grown.of_eq rfl, Memory.storesInside_store _ _ _ (by omega), Nat.le_refl _⟩

end Safe

variable {body len} {r : JsonReader}

/-- An access inside leaves no mark on lists. -/
theorem access_spec {inside : Bool} (h : inside = true) :
    (r.spec body len).access inside = r.spec body len := by
  rw [JsonParser.access, h]
  rfl

/-- Nor does a read in front of the end. -/
theorem read_spec (h : r.pos < len) : (r.spec body len).read = r.spec body len :=
  access_spec (decide_eq_true h)

/-- Both parsers see the same byte. -/
theorem peek_spec : (r.spec body len).peek = r.peek body := rfl

/-- What is left is no more than the body. -/
theorem left_lt (r : JsonReader) : r.left len < len + 1 := Nat.lt_succ_of_le (Nat.sub_le len r.pos)

/-- Moving on leaves less. -/
theorem left_advance_lt (h : r.pos < len) : r.advance.left len < r.left len :=
  Nat.sub_succ_lt_self len r.pos h

/-- Skipping white space ends safely, where it does on lists. -/
theorem skipWhitespace_ends (r : JsonReader) :
    Ends (len + 1) (fun rounds => r.skipWhitespace body len rounds) fun t =>
      r.Safe len t ∧
        t.spec body len = JsonParser.skipWhitespace (r.left len) (r.spec body len) := by
  -- from where a round starts, the loop on lists goes where it goes from the start
  refine Ends.repeatRounds
    (fun s => r.Safe len s ∧
      JsonParser.skipWhitespace (s.left len) (s.spec body len) =
        JsonParser.skipWhitespace (r.left len) (r.spec body len))
    (left len) (fun s hs => .of_some ?_) ⟨Safe.refl r, rfl⟩ r.left_lt
  obtain ⟨hsafe, hspec⟩ := hs
  rw [skipWhitespaceRound]
  by_cases hlt : s.pos < len
  · have hleft : s.left len = s.advance.left len + 1 := by
      change len - s.pos = len - (s.pos + 1) + 1
      omega
    rw [hleft, JsonParser.skipWhitespace, if_pos hlt, read_spec hlt, peek_spec] at hspec
    rw [if_pos hlt]
    by_cases hspace : JsonParser.isWhitespace (s.peek body) = true
    · rw [if_pos hspace]
      rw [if_pos hspace] at hspec
      exact ⟨⟨(hsafe.read hlt).advance, hspec⟩, left_advance_lt hlt⟩
    · rw [if_neg hspace]
      rw [if_neg hspace] at hspec
      exact ⟨hsafe.read hlt, hspec⟩
  · have hleft : s.left len = 0 := Nat.sub_eq_zero_of_le (Nat.not_lt.mp hlt)
    rw [hleft, JsonParser.skipWhitespace] at hspec
    rw [if_neg hlt]
    exact ⟨hsafe, hspec⟩

/-! ### Strings -/

/-- A character in the value, as the loop on lists has it. -/
theorem load_putChar (r : JsonReader) (ch : UInt8) :
    (r.putChar ch).value.load (r.putChar ch).valueLen = r.value.load r.valueLen ++ [ch] :=
  load_store_self r.value ch r.valueLen

/-- The value behind its NUL. -/
theorem cString_endValue (h : r.valueLen < kWebRequestMaxValueSize) :
    cString kWebRequestMaxValueSize r.endValue.value =
      (r.value.load r.valueLen).takeWhile (· != 0) := by
  have hlength := length_load r.value r.valueLen
  apply cString_of_load
  · rw [hlength]
    exact h
  · rw [hlength]
    exact load_store_self r.value 0 r.valueLen

/-- A state of the loop: the loop on lists goes from here where it goes from the start. -/
structure InString (body : List UInt8) (len : ℕ) (r : JsonReader) (expected : JsonToken × JsonParser)
    (s : JsonReader) : Prop where
  safe : r.Safe len s
  spec : ∃ n, s.left len < n ∧
    JsonParser.stringBody n (s.value.load s.valueLen) (s.spec body len) = expected

section StringRound

variable {s : JsonReader} {expected : JsonToken × JsonParser} {n : ℕ} (hsafe : r.Safe len s)
  (hn : s.left len < n + 1)
  (hspec : JsonParser.stringBody (n + 1) (s.value.load s.valueLen) (s.spec body len) = expected)
  (hroom : s.pos < len ∧ s.valueLen < kWebRequestMaxValueSize - 1)
include hsafe hspec

/-- The end of the body, or a full value. -/
theorem stringRound_end (hfull : ¬(s.pos < len ∧ s.valueLen < kWebRequestMaxValueSize - 1)) :
    RoundKeeps (InString body len r expected) (left len) (Token body len r expected) s
      (stringRound body len s) := by
  rw [JsonParser.stringBody, length_load, if_neg hfull] at hspec
  rw [stringRound, if_neg hfull, ← hspec]
  exact ⟨hsafe.makeToken, rfl, rfl, JsonTokenType.noConfusion⟩

include hroom

/-- The closing quote. -/
theorem stringRound_quote (hquote : s.peek body = 0x22) :
    RoundKeeps (InString body len r expected) (left len) (Token body len r expected) s
      (stringRound body len s) := by
  have hinside : s.valueLen < kWebRequestMaxValueSize := Nat.lt_of_lt_of_le hroom.2 (Nat.sub_le _ _)
  rw [JsonParser.stringBody, length_load, if_pos hroom, read_spec hroom.1, peek_spec] at hspec
  dsimp only at hspec
  rw [if_pos hquote, access_spec (decide_eq_true hinside)] at hspec
  rw [stringRound, if_pos hroom]
  dsimp only
  rw [if_pos hquote, ← hspec]
  exact ⟨((hsafe.read hroom.1).endValue hinside).advance, rfl, rfl,
    fun _ => cString_endValue (r := s.read) hinside⟩

include hn

/-- A backslash takes the character behind it, unless the body ends there. -/
theorem stringRound_backslash (hquote : s.peek body ≠ 0x22) (hbackslash : s.peek body = 0x5C) :
    RoundKeeps (InString body len r expected) (left len) (Token body len r expected) s
      (stringRound body len s) := by
  have hinside : s.valueLen < kWebRequestMaxValueSize := Nat.lt_of_lt_of_le hroom.2 (Nat.sub_le _ _)
  have hbehind := (hsafe.read hroom.1).advance
  have hadvance : (s.spec body len).advance = s.read.advance.spec body len := rfl
  rw [JsonParser.stringBody, length_load, if_pos hroom, read_spec hroom.1, peek_spec] at hspec
  dsimp only at hspec
  rw [if_neg hquote, if_pos hbackslash, hadvance] at hspec
  change (if len ≤ s.read.advance.pos then _ else _) = expected at hspec
  rw [stringRound, if_pos hroom]
  dsimp only
  rw [if_neg hquote, if_pos hbackslash]
  by_cases hend : len ≤ s.read.advance.pos
  · rw [if_pos hend] at hspec
    rw [if_pos hend, ← hspec]
    exact ⟨hbehind.makeToken, rfl, rfl, JsonTokenType.noConfusion⟩
  · have hlt : s.read.advance.pos < len := Nat.not_le.mp hend
    rw [if_neg hend, read_spec hlt, peek_spec, access_spec (decide_eq_true hinside),
      ← load_putChar s] at hspec
    rw [if_neg hend]
    have hless : s.read.advance.read.advance.left len < s.left len :=
      (left_advance_lt (r := s.read.advance) hlt).trans (left_advance_lt (r := s) hroom.1)
    exact ⟨⟨((hbehind.read hlt).putChar _ hinside).advance, n,
      Nat.lt_of_lt_of_le hless (Nat.le_of_lt_succ hn), hspec⟩, hless⟩

/-- A character that stands for itself. -/
theorem stringRound_plain (hquote : s.peek body ≠ 0x22) (hbackslash : s.peek body ≠ 0x5C) :
    RoundKeeps (InString body len r expected) (left len) (Token body len r expected) s
      (stringRound body len s) := by
  have hinside : s.valueLen < kWebRequestMaxValueSize := Nat.lt_of_lt_of_le hroom.2 (Nat.sub_le _ _)
  rw [JsonParser.stringBody, length_load, if_pos hroom, read_spec hroom.1, peek_spec] at hspec
  dsimp only at hspec
  rw [if_neg hquote, if_neg hbackslash, access_spec (decide_eq_true hinside), ← load_putChar s] at hspec
  rw [stringRound, if_pos hroom]
  dsimp only
  rw [if_neg hquote, if_neg hbackslash]
  have hless : s.advance.left len < s.left len := left_advance_lt hroom.1
  exact ⟨⟨((hsafe.read hroom.1).putChar _ hinside).advance, n,
    Nat.lt_of_lt_of_le hless (Nat.le_of_lt_succ hn), hspec⟩, hless⟩

end StringRound

/-- So does the loop over a string. -/
theorem stringLoop_ends (body : List UInt8) {fuel : ℕ} (hfuel : r.left len < fuel) :
    Ends (len + 1)
      (fun rounds => repeatRounds (fun r => some (stringRound body len r)) rounds r)
      (Token body len r (JsonParser.stringBody fuel (r.value.load r.valueLen) (r.spec body len))) := by
  refine Ends.repeatRounds (InString body len r _) (left len) (fun s hs => .of_some ?_)
    ⟨Safe.refl r, fuel, hfuel, rfl⟩ r.left_lt
  obtain ⟨hsafe, n, hn, hspec⟩ := hs
  obtain ⟨n, rfl⟩ := Nat.exists_eq_succ_of_ne_zero (Nat.ne_zero_of_lt hn)
  by_cases hroom : s.pos < len ∧ s.valueLen < kWebRequestMaxValueSize - 1
  · by_cases hquote : s.peek body = 0x22
    · exact stringRound_quote hsafe hspec hroom hquote
    · by_cases hbackslash : s.peek body = 0x5C
      · exact stringRound_backslash hsafe hn hspec hroom hquote hbackslash
      · exact stringRound_plain hsafe hn hspec hroom hquote hbackslash
  · exact stringRound_end hsafe hspec hroom

/-! ### Tokens -/

/-- A token that is one character. -/
theorem token_of_makeToken {t : JsonReader} (hsafe : r.Safe len t) {type : JsonTokenType} (htype : type ≠ .String) :
    Token body len r (Web.makeToken type, t.spec body len) (type, t.makeToken) :=
  ⟨hsafe.makeToken, rfl, rfl, fun h => absurd h htype⟩

/-- A string passes the opening quote. -/
theorem parseString_ends {r : JsonReader} (hlt : r.pos < len) (hquote : r.peek body = 0x22) :
    Ends (len + 1) (fun rounds => r.parseString body len rounds) fun token =>
      Token body len r (JsonParser.parseString (r.spec body len)) token ∧
        token.2.left len < r.left len := by
  have hstart := ((Safe.refl r).read hlt).advance.makeToken
  have hfuel : r.read.advance.makeToken.left len < len + 1 := left_lt _
  have hspec : JsonParser.parseString (r.spec body len) =
      JsonParser.stringBody (len + 1) [] (r.advance.spec body len) := by
    rw [JsonParser.parseString, peek_spec, if_neg (not_not.mpr hquote), read_spec hlt]
    rfl
  have hloop := stringLoop_ends body hfuel
  simp only [parseString, if_neg (not_not.mpr hquote)]
  rw [hspec]
  refine hloop.mono fun token htoken => ⟨⟨hstart.trans htoken.safe, htoken.type, htoken.spec,
    htoken.value⟩, ?_⟩
  exact Nat.lt_of_le_of_lt htoken.safe.left (left_advance_lt hlt)

/-- Each token is the one of the tokenizer on lists, and a string shortens what is left. -/
theorem next_ends (r : JsonReader) :
    Ends (len + 1) (fun rounds => r.next body len rounds) fun token =>
      Token body len r (JsonParser.next (r.spec body len)) token ∧
        (token.1 = .String → token.2.left len < r.left len) := by
  refine (skipWhitespace_ends r).bind fun start hstart => ?_
  obtain ⟨hsafe, hspec⟩ := hstart
  have hskip : JsonParser.skipWhitespace ((r.spec body len).len - (r.spec body len).pos)
      (r.spec body len) = start.spec body len := hspec.symm
  rw [JsonParser.next, hskip]
  dsimp only
  by_cases hend : len ≤ start.pos
  · simp only [if_pos hend]
    exact .of_some ⟨token_of_makeToken hsafe (by decide), JsonTokenType.noConfusion⟩
  have hlt : start.pos < len := Nat.not_le.mp hend
  have hread := hsafe.read hlt
  have hcharacter (type : JsonTokenType) (htype : type ≠ .String) :
      Ends (len + 1) (fun _ => start.read.punctuationToken type) fun token =>
        Token body len r (Web.makeToken type, (start.spec body len).advance) token ∧
          (token.1 = .String → token.2.left len < r.left len) :=
    .of_some ⟨token_of_makeToken hread.advance htype, fun h => absurd h htype⟩
  simp only [if_neg hend, read_spec hlt, peek_spec]
  by_cases hopen : start.peek body = 0x7B
  · simpa only [if_pos hopen] using hcharacter .ObjectStart (by decide)
  by_cases hclose : start.peek body = 0x7D
  · simpa only [if_neg hopen, if_pos hclose] using hcharacter .ObjectEnd (by decide)
  by_cases hcolon : start.peek body = 0x3A
  · simpa only [if_neg hopen, if_neg hclose, if_pos hcolon] using hcharacter .Colon (by decide)
  by_cases hcomma : start.peek body = 0x2C
  · simpa only [if_neg hopen, if_neg hclose, if_neg hcolon, if_pos hcomma] using
      hcharacter .Comma (by decide)
  simp only [if_neg hopen, if_neg hclose, if_neg hcolon, if_neg hcomma]
  by_cases hquote : start.peek body = 0x22
  · simp only [if_pos hquote]
    refine (parseString_ends (r := start.read) hlt hquote).mono fun token h => ?_
    exact ⟨⟨hread.trans h.1.safe, h.1.type, h.1.spec, h.1.value⟩,
      fun _ => Nat.lt_of_lt_of_le h.2 hread.left⟩
  · simp only [if_neg hquote]
    exact .of_some ⟨token_of_makeToken hread (by decide), JsonTokenType.noConfusion⟩

end JsonReader

/-! ## The command -/

/-- The array of a field behind the last one has no cell. -/
def fieldSize (size i : ℕ) : ℕ := if i < kWebRequestMaxFieldCount then size else 0

/-- Bytes in front of the end of the body were read, and each array stored to inside of itself. -/
structure RequestMemory.Safe (len : ℕ) (s t : RequestMemory) : Prop where
  reads : Grown JsonReader.reads (· < len) s.parser t.parser
  tokenValue : StoresInside kWebRequestMaxValueSize s.parser.value t.parser.value
  currentKey : StoresInside kKeySize s.currentKey t.currentKey
  verb : StoresInside kKeySize s.cmd.verb t.cmd.verb
  key (i : ℕ) : StoresInside (fieldSize kKeySize i) (s.cmd.key i) (t.cmd.key i)
  value (i : ℕ) : StoresInside (fieldSize kWebRequestMaxValueSize i) (s.cmd.value i) (t.cmd.value i)

/-- The arrays of a field hold its strings, with their NULs. -/
structure HoldsField (key value : Memory UInt8) (field : WebParsedField) : Prop where
  key_eq : cString kKeySize key = field.key
  value_eq : cString kWebRequestMaxValueSize value = field.value
  key_ends : IsTerminated kKeySize key
  value_ends : IsTerminated kWebRequestMaxValueSize value

/-- The arrays hold the strings of the command, and there is room for its fields. -/
structure CommandMemory.Holds (cmd : CommandMemory) (spec : WebParsedCommand) : Prop where
  fieldCount : cmd.fieldCount = spec.fieldCount
  fieldCount_le : cmd.fieldCount ≤ kWebRequestMaxFieldCount
  verb : cString kKeySize cmd.verb = spec.verb
  verb_ends : IsTerminated kKeySize cmd.verb
  field (i : ℕ) : ∀ field ∈ spec.fields[i]?, HoldsField (cmd.key i) (cmd.value i) field

section Command

variable {cmd : CommandMemory} {spec : WebParsedCommand} {currentKey tokenValue : Memory UInt8}

/-- A command just constructed is empty. -/
theorem holds_construct (storage : CommandMemory) : storage.construct.Holds .empty := by
  have hfirst : storage.construct.verb.load 1 = [0] := load_store_self storage.verb 0 0
  have hverb : cString kKeySize storage.construct.verb = [] :=
    cString_of_load (show ([] : CString).length < kKeySize by decide) hfirst
  have hends : IsTerminated kKeySize storage.construct.verb := by
    rw [← load_take storage.construct.verb (show 1 ≤ kKeySize by decide)] at hfirst
    exact List.mem_of_mem_take (hfirst ▸ List.mem_cons_self)
  exact ⟨rfl, Nat.zero_le _, hverb, hends, fun i field hfield => by cases hfield⟩

/-- A stored verb is the one on lists. -/
theorem CommandMemory.Holds.storeVerb (h : cmd.Holds spec) {value : List UInt8}
    (hvalue : cString kWebRequestMaxValueSize tokenValue = value.takeWhile (· != 0)) :
    CommandMemory.Holds { cmd with verb := copyText kKeySize cmd.verb tokenValue }
      { spec with verb := copyKey kKeySize value } := by
  refine ⟨h.fieldCount, h.fieldCount_le, ?_, isTerminated_copyText _ _ (by decide), h.field⟩
  rw [cString_copyText cmd.verb tokenValue (by decide)
    (show kKeySize - 1 ≤ kWebRequestMaxValueSize by decide), hvalue, copyKey]

/-- What a field is made of: the copy of the key, and the value of the token behind it. -/
theorem holdsField_copyText (key value : Memory UInt8) {text : List UInt8}
    (htext : cString kWebRequestMaxValueSize tokenValue = text.takeWhile (· != 0)) :
    HoldsField (copyText kKeySize key currentKey) (copyText kWebRequestMaxValueSize value tokenValue)
      ⟨copyKey kKeySize (cString kKeySize currentKey), copyKey kWebRequestMaxValueSize text⟩ := by
  have hkey : 0 < kKeySize := by decide
  have hvalue : 0 < kWebRequestMaxValueSize := by decide
  refine ⟨?_, ?_, isTerminated_copyText _ _ hkey, isTerminated_copyText _ _ hvalue⟩
  · rw [cString_copyText _ _ hkey (Nat.sub_le kKeySize 1)]
    dsimp only
    rw [copyKey, takeWhile_ne_nul (nul_not_mem_cString _ _)]
  · rw [cString_copyText _ _ hvalue (Nat.sub_le kWebRequestMaxValueSize 1), htext]
    rfl

/-- So is a field that is appended with room for it. -/
theorem CommandMemory.Holds.appendField (h : cmd.Holds spec)
    (hroom : cmd.fieldCount < kWebRequestMaxFieldCount) {text : List UInt8}
    (htext : cString kWebRequestMaxValueSize tokenValue = text.takeWhile (· != 0)) :
    (cmd.appendField currentKey tokenValue).Holds
      { spec with fields := spec.fields ++
          [⟨copyKey kKeySize (cString kKeySize currentKey), copyKey kWebRequestMaxValueSize text⟩] } := by
  have hcount : cmd.fieldCount = spec.fields.length := h.fieldCount
  refine ⟨?_, hroom, h.verb, h.verb_ends, fun i field hfield => ?_⟩
  · change cmd.fieldCount + 1 = (_ ++ [_]).length
    rw [hcount, List.length_append, List.length_singleton]
  dsimp only [CommandMemory.appendField]
  by_cases hlast : i = cmd.fieldCount
  · subst hlast
    rw [hcount, List.getElem?_concat_length] at hfield
    cases hfield
    rw [Function.update_self, Function.update_self]
    exact holdsField_copyText _ _ htext
  · rw [Function.update_of_ne hlast, Function.update_of_ne hlast]
    rw [hcount] at hlast
    rcases Nat.lt_or_gt_of_ne hlast with hlt | hgt
    · rw [List.getElem?_append_left hlt] at hfield
      exact h.field i field hfield
    · rw [List.getElem?_eq_none] at hfield
      · cases hfield
      · rw [List.length_append, List.length_singleton]
        exact hgt

end Command

/-! ## The pairs -/

namespace RequestMemory

section Safe

variable {len : ℕ} {r s : RequestMemory}

/-- Nothing read or stored is safe. -/
theorem Safe.refl (s : RequestMemory) : s.Safe len s :=
  ⟨refl_of _ s.parser, refl_of _ s.parser.value, refl_of _ s.currentKey, refl_of _ s.cmd.verb,
    fun i => refl_of _ (s.cmd.key i), fun i => refl_of _ (s.cmd.value i)⟩

/-- A safe token is safe for the whole memory. -/
theorem Safe.nextToken (h : r.Safe len s) {parser : JsonReader} (hparser : s.parser.Safe len parser) :
    r.Safe len { s with parser } :=
  ⟨trans_of _ h.reads hparser.reads, trans_of _ h.tokenValue hparser.value, h.currentKey, h.verb,
    h.key, h.value⟩

/-- So is the copy of a key. -/
theorem Safe.copyKey (h : r.Safe len s) : r.Safe len s.copyKey :=
  ⟨h.reads, h.tokenValue, trans_of _ h.currentKey (storesInside_copyText _ _ (by decide)), h.verb,
    h.key, h.value⟩

/-- So is the copy of a verb. -/
theorem Safe.storeVerb (h : r.Safe len s) : r.Safe len s.storeVerb :=
  ⟨h.reads, h.tokenValue, h.currentKey, trans_of _ h.verb (storesInside_copyText _ _ (by decide)),
    h.key, h.value⟩

/-- The copy into one of the arrays of the fields stays inside of it, and the others are left alone. -/
theorem storesInside_update {size : ℕ} (hsize : 0 < size) (arrays : ℕ → Memory UInt8)
    (src : Memory UInt8) {i : ℕ} (hi : i < kWebRequestMaxFieldCount) (j : ℕ) :
    StoresInside (fieldSize size j) (arrays j)
      (Function.update arrays i (copyText size (arrays i) src) j) := by
  by_cases hj : j = i
  · subst hj
    rw [fieldSize, if_pos hi, Function.update_self]
    exact storesInside_copyText _ _ hsize
  · rw [Function.update_of_ne hj]
    exact refl_of _ (arrays j)

/-- So is a field that is stored with room for it. -/
theorem Safe.storeField (h : r.Safe len s) (hroom : s.cmd.fieldCount < kWebRequestMaxFieldCount) :
    r.Safe len s.storeField :=
  ⟨h.reads, h.tokenValue, h.currentKey, h.verb,
    fun i => trans_of _ (h.key i) (storesInside_update (by decide) _ _ hroom i),
    fun i => trans_of _ (h.value i) (storesInside_update (by decide) _ _ hroom i)⟩

end Safe

variable (body : List UInt8) (len : ℕ)

/-- What the loop on lists does behind a pair. -/
def separatorSpec (fuel : ℕ) (foundCommand : Bool) (stored : WebParsedCommand) (parser : JsonParser) :
    (WebRequestParseResult ⊕ Bool) × WebParsedCommand × JsonParser :=
  let separator := parser.next
  if separator.1.type = .ObjectEnd then (.inr foundCommand, stored, separator.2)
  else if separator.1.type = .Comma then parsePairs fuel foundCommand stored separator.2
  else (.inl .MalformedJson, stored, separator.2)

/-- What the loop on lists does with a key and the text of a value. -/
def storeSpec (fuel : ℕ) (foundCommand : Bool) (cmd : WebParsedCommand) (currentKey : CString)
    (text : List UInt8) (parser : JsonParser) :
    (WebRequestParseResult ⊕ Bool) × WebParsedCommand × JsonParser :=
  if currentKey ≠ ascii "command" ∧ kWebRequestMaxFieldCount ≤ cmd.fieldCount then
    (.inl .BodyTooLarge, cmd, parser)
  else if currentKey = ascii "command" then
    separatorSpec fuel true { cmd with verb := Web.copyKey kKeySize text } parser
  else
    separatorSpec fuel foundCommand
      { cmd with fields := cmd.fields ++
          [⟨Web.copyKey kKeySize currentKey, Web.copyKey kWebRequestMaxValueSize text⟩] } parser

/-- What the loop on lists does behind a key. -/
def valueSpec (fuel : ℕ) (foundCommand : Bool) (cmd : WebParsedCommand) (currentKey : CString)
    (parser : JsonParser) : (WebRequestParseResult ⊕ Bool) × WebParsedCommand × JsonParser :=
  let colon := parser.next
  if colon.1.type ≠ .Colon then (.inl .MalformedJson, cmd, colon.2)
  else
    let value := colon.2.next
    if value.1.type ≠ .String then (.inl .InvalidFieldType, cmd, value.2)
    else storeSpec fuel foundCommand cmd currentKey value.1.value value.2

/-- One round of the loop on lists. -/
theorem parsePairs_succ (fuel : ℕ) (foundCommand : Bool) (cmd : WebParsedCommand)
    (parser : JsonParser) :
    parsePairs (fuel + 1) foundCommand cmd parser =
      let key := parser.next
      if key.1.type = .ObjectEnd then (.inr foundCommand, cmd, key.2)
      else if key.1.type ≠ .String then (.inl .MalformedJson, cmd, key.2)
      else valueSpec fuel foundCommand cmd (Web.copyKey kKeySize key.1.value) key.2 := by
  rw [parsePairs]
  unfold valueSpec storeSpec separatorSpec
  dsimp only [kKeySize]
  by_cases hkey : Web.copyKey 64 parser.next.1.value = ascii "command"
  · simp only [hkey, decide_true, Bool.or_true, if_true]
  · simp only [hkey, decide_false, Bool.or_false, if_false, Bool.false_eq_true]

/-- What is left of the body. -/
abbrev left (s : RequestMemory) : ℕ := s.parser.left len

/-- The loop on lists, from the same position with the same strings, comes to that. -/
structure Follows (start : RequestMemory)
    (expected : (WebRequestParseResult ⊕ Bool) × WebParsedCommand × JsonParser) (s : RequestMemory) :
    Prop where
  safe : start.Safe len s
  expected : ∃ spec fuel, s.cmd.Holds spec ∧ s.left len < fuel ∧
    parsePairs fuel s.foundCommand spec (s.parser.spec body len) = expected

/-- The loop was left as the loop on lists is left. -/
structure Leaves (start : RequestMemory)
    (expected : (WebRequestParseResult ⊕ Bool) × WebParsedCommand × JsonParser)
    (outcome : Option WebRequestParseResult × RequestMemory) : Prop where
  safe : start.Safe len outcome.2
  result : expected.1 = outcome.1.elim (.inr outcome.2.foundCommand) .inl
  holds : outcome.2.cmd.Holds expected.2.1
  parser : expected.2.2 = outcome.2.parser.spec body len

/-- The round follows the one of the loop on lists. -/
abbrev RoundFollows (start s : RequestMemory)
    (expected : (WebRequestParseResult ⊕ Bool) × WebParsedCommand × JsonParser) :
    PairRound → Prop :=
  RoundKeeps (Follows body len start expected) (left len) (Leaves body len start expected) s

variable {body len} {start first s : RequestMemory} {spec : WebParsedCommand} {fuel : ℕ}

/-- A token, and what is left alone. -/
theorem nextToken_ends (body : List UInt8) (s : RequestMemory) :
    Ends (len + 1) (fun rounds => s.nextToken body len rounds) fun token =>
      ∃ parser, token.2 = { s with parser } ∧
        JsonReader.Token body len s.parser (s.parser.spec body len).next (token.1, parser) ∧
        (token.1 = .String → parser.left len < s.left len) := by
  exact (JsonReader.next_ends s.parser).map fun token htoken => ⟨token.2, rfl, htoken⟩

/-- What comes behind a pair ends as it does on lists. -/
theorem separatorRound_ends (hsafe : start.Safe len s) (hholds : s.cmd.Holds spec)
    (hless : s.left len < first.left len) (hfuel : s.left len < fuel) :
    Ends (len + 1) (fun rounds => s.separatorRound body len rounds)
      (RoundFollows body len start first
        (separatorSpec fuel s.foundCommand spec (s.parser.spec body len))) := by
  refine (nextToken_ends body s).bind ?_
  rintro ⟨type, _⟩ ⟨parser, rfl, htoken, -⟩
  have hafter := hsafe.nextToken htoken.safe
  have htype := htoken.type
  have hspec := htoken.spec
  have hleft := htoken.safe.left
  rw [separatorSpec, ← hspec, ← htype]
  dsimp only
  by_cases hclose : type = .ObjectEnd
  · simp only [if_pos hclose]
    exact .of_some ⟨hafter, rfl, hholds, rfl⟩
  by_cases hcomma : type = .Comma
  · simp only [if_neg hclose, if_pos hcomma]
    exact .of_some ⟨⟨hafter, spec, fuel, hholds, Nat.lt_of_le_of_lt hleft hfuel, rfl⟩,
      Nat.lt_of_le_of_lt hleft hless⟩
  · simp only [if_neg hclose, if_neg hcomma]
    exact .of_some ⟨hafter, rfl, hholds, rfl⟩

/-- So does storing the pair. -/
theorem storeRound_ends (hsafe : start.Safe len s) (hholds : s.cmd.Holds spec)
    (hless : s.left len < first.left len) (hfuel : s.left len < fuel) {text : List UInt8}
    (htext : cString kWebRequestMaxValueSize s.parser.value = text.takeWhile (· != 0)) :
    Ends (len + 1) (fun rounds => s.storeRound body len rounds)
      (RoundFollows body len start first (storeSpec fuel s.foundCommand spec
        (cString kKeySize s.currentKey) text (s.parser.spec body len))) := by
  unfold storeRound storeSpec
  by_cases hcommand : cString kKeySize s.currentKey = ascii "command"
  · -- the verb
    have hisCommand : s.isCommand = true := beq_iff_eq.mpr hcommand
    simp only [if_pos hisCommand, hcommand, ne_eq, not_true, false_and, if_false, if_true]
    exact separatorRound_ends hsafe.storeVerb (hholds.storeVerb htext) hless hfuel
  have hisCommand : ¬s.isCommand = true := fun h => hcommand (beq_iff_eq.mp h)
  simp only [if_neg hisCommand, if_false, ne_eq, hcommand, not_false_eq_true, true_and]
  by_cases hfull : kWebRequestMaxFieldCount ≤ s.cmd.fieldCount
  · -- no room for the field
    have hfullSpec : kWebRequestMaxFieldCount ≤ spec.fieldCount := hholds.fieldCount ▸ hfull
    simp only [if_pos hfull, if_pos hfullSpec]
    exact .of_some ⟨hsafe, rfl, hholds, rfl⟩
  · have hroom : s.cmd.fieldCount < kWebRequestMaxFieldCount := Nat.not_le.mp hfull
    have hroomSpec : ¬kWebRequestMaxFieldCount ≤ spec.fieldCount := hholds.fieldCount ▸ hfull
    simp only [if_neg hfull, if_neg hroomSpec]
    exact separatorRound_ends (hsafe.storeField hroom) (hholds.appendField hroom htext) hless hfuel

/-- So does reading its value. -/
theorem valueRound_ends (hsafe : start.Safe len s) (hholds : s.cmd.Holds spec)
    (hless : s.left len < first.left len) (hfuel : s.left len < fuel) :
    Ends (len + 1) (fun rounds => s.valueRound body len rounds)
      (RoundFollows body len start first (valueSpec fuel s.foundCommand spec
        (cString kKeySize s.currentKey) (s.parser.spec body len))) := by
  refine (nextToken_ends body s).bind ?_
  rintro ⟨type, _⟩ ⟨colon, rfl, hcolon, -⟩
  have hbehind := hsafe.nextToken hcolon.safe
  have htype := hcolon.type
  have hspec := hcolon.spec
  rw [valueSpec, ← hspec, ← htype]
  dsimp only
  by_cases hcolonType : type ≠ .Colon
  · simp only [if_pos hcolonType]
    exact .of_some ⟨hbehind, rfl, hholds, rfl⟩
  simp only [if_neg hcolonType]
  refine (nextToken_ends body _).bind ?_
  rintro ⟨valueType, _⟩ ⟨value, rfl, hvalue, -⟩
  have hstored := hbehind.nextToken hvalue.safe
  have hleft : value.left len ≤ s.left len := hvalue.safe.left.trans hcolon.safe.left
  have hvalueType := hvalue.type
  have hvalueSpec := hvalue.spec
  have htext := hvalue.value
  dsimp only at hvalueType hvalueSpec htext ⊢
  rw [← hvalueSpec, ← hvalueType]
  by_cases hstring : valueType ≠ .String
  · simp only [if_pos hstring]
    exact .of_some ⟨hstored, rfl, hholds, rfl⟩
  · simp only [if_neg hstring]
    exact storeRound_ends hstored hholds (Nat.lt_of_le_of_lt hleft hless)
      (Nat.lt_of_le_of_lt hleft hfuel) (htext (not_not.mp hstring))

/-- So does the whole round. -/
theorem pairRound_ends (hsafe : start.Safe len s) (hholds : s.cmd.Holds spec)
    (hfuel : s.left len < fuel + 1) :
    Ends (len + 1) (fun rounds => s.pairRound body len rounds)
      (RoundFollows body len start s
        (parsePairs (fuel + 1) s.foundCommand spec (s.parser.spec body len))) := by
  refine (nextToken_ends body s).bind ?_
  rintro ⟨type, _⟩ ⟨key, rfl, htoken, hless⟩
  have hafter := hsafe.nextToken htoken.safe
  have htype := htoken.type
  have hspec := htoken.spec
  have htext := htoken.value
  rw [parsePairs_succ]
  dsimp only at htype hspec htext hless ⊢
  rw [← hspec, ← htype]
  by_cases hclose : type = .ObjectEnd
  · simp only [if_pos hclose]
    exact .of_some ⟨hafter, rfl, hholds, rfl⟩
  by_cases hstring : type = .String
  · have hcopied : cString kKeySize (copyText kKeySize s.currentKey key.value) =
        Web.copyKey kKeySize (s.parser.spec body len).next.1.value := by
      rw [cString_copyText _ _ (by decide) (show kKeySize - 1 ≤ kWebRequestMaxValueSize by decide),
        htext hstring, Web.copyKey]
    simp only [if_neg hclose, if_neg (not_not.mpr hstring), ← hcopied]
    exact valueRound_ends hafter.copyKey hholds (hless hstring)
      (Nat.lt_of_lt_of_le (hless hstring) (Nat.le_of_lt_succ hfuel))
  · simp only [if_neg hclose, if_pos hstring]
    exact .of_some ⟨hafter, rfl, hholds, rfl⟩

/-- The loop over the pairs follows the one on lists to its end. -/
theorem pairLoop_ends (hsafe : start.Safe len s) (hholds : s.cmd.Holds spec) (hfuel : s.left len < fuel) :
    Ends (len + 1) (fun rounds => repeatRounds (pairRound body len rounds) rounds s)
      (Leaves body len start
        (parsePairs fuel s.foundCommand spec (s.parser.spec body len))) := by
  refine Ends.repeatRounds
    (Follows body len start (parsePairs fuel s.foundCommand spec (s.parser.spec body len))) (left len)
    ?_ ⟨hsafe, spec, fuel, hholds, hfuel, rfl⟩ s.parser.left_lt
  rintro t ⟨hsafe, spec, fuel, hholds, hfuel, hexpected⟩
  obtain ⟨fuel, rfl⟩ := Nat.exists_eq_succ_of_ne_zero (Nat.ne_zero_of_lt hfuel)
  rw [← hexpected]
  exact pairRound_ends hsafe hholds hfuel

end RequestMemory

/-! ## The request -/

/-- What the parser on lists makes of the end of the loop. -/
def objectSpec :
    (WebRequestParseResult ⊕ Bool) × WebParsedCommand × JsonParser →
      WebRequestParseResult × WebParsedCommand × Bool
  | (.inl result, parsed, parser) => (result, parsed, parser.inBounds)
  | (.inr foundCommand, parsed, parser) =>
    if foundCommand = false ∨ parsed.verb = [] then (.MissingRequiredField, parsed, parser.inBounds)
    else (.Ok, parsed, parser.inBounds)

/-- The result is the expected one, and the command holds the expected strings. -/
structure Parses (len : ℕ) (start : RequestMemory)
    (expected : WebRequestParseResult × WebParsedCommand × Bool)
    (outcome : WebRequestParseResult × RequestMemory) : Prop where
  safe : start.Safe len outcome.2
  result : outcome.1 = expected.1
  holds : outcome.2.cmd.Holds expected.2.1
  inBounds : expected.2.2 = true

namespace RequestMemory

variable {body : List UInt8} {len : ℕ} {start s : RequestMemory}

/-- The loop being left, the parser ends as it does on lists. -/
theorem Leaves.parses
    {expected : (WebRequestParseResult ⊕ Bool) × WebParsedCommand × JsonParser}
    {outcome : Option WebRequestParseResult × RequestMemory} (h : Leaves body len start expected outcome) :
    Parses len start (objectSpec expected) (outcome.1.getD outcome.2.verdict, outcome.2) := by
  obtain ⟨end_, parsed, parser⟩ := expected
  obtain ⟨result, t⟩ := outcome
  obtain ⟨hsafe, rfl, hholds, rfl⟩ := h
  cases result with
  | some result => exact ⟨hsafe, rfl, hholds, rfl⟩
  | none =>
    have hverb : parsed.verb = [] ↔ t.cmd.verb.cell 0 = 0 := by
      rw [← hholds.verb, cString_eq_nil_iff _ (by decide)]
    change Parses len start (if t.foundCommand = false ∨ parsed.verb = [] then _ else _) (t.verdict, t)
    rw [verdict]
    by_cases hmissing : t.foundCommand = false ∨ parsed.verb = []
    · rw [if_pos hmissing, if_pos (hmissing.imp_right hverb.mp)]
      exact ⟨hsafe, rfl, hholds, rfl⟩
    · rw [if_neg hmissing, if_neg (fun h => hmissing (h.imp_right hverb.mpr))]
      exact ⟨hsafe, rfl, hholds, rfl⟩

/-- The parser ends as it does on lists. -/
theorem parseObject_ends (hsafe : start.Safe len s) (hholds : s.cmd.Holds .empty) :
    Ends (len + 1) (fun rounds => s.parseObject body len rounds)
      (Parses len start (objectSpec (parsePairs (len + 1) false .empty (s.parser.spec body len)))) := by
  have hstart : start.Safe len { s with foundCommand := false, cmd := { s.cmd with fieldCount := 0 } } :=
    ⟨hsafe.reads, hsafe.tokenValue, hsafe.currentKey, hsafe.verb, hsafe.key, hsafe.value⟩
  have hempty : CommandMemory.Holds { s.cmd with fieldCount := 0 } .empty :=
    ⟨rfl, Nat.zero_le _, hholds.verb, hholds.verb_ends, hholds.field⟩
  exact (pairLoop_ends hstart hempty s.parser.left_lt).map fun _ h => h.parses

/-- The locals of the parser and a default-constructed command, on whatever was in their memory. -/
def construct (storage : RequestMemory) : RequestMemory :=
  { storage with cmd := storage.cmd.construct }

end RequestMemory

open RequestMemory in
/-- The result is the one of the parser on lists, and the command holds its strings. -/
theorem webRequestParseIn_eq (body : Option (List UInt8)) (bodyLen : ℕ) (storage : RequestMemory) :
    Ends (bodyLen + 1) (fun rounds => webRequestParseIn body bodyLen rounds storage.construct)
      (Parses bodyLen storage.construct (webRequestParse body bodyLen .empty)) := by
  have hempty := holds_construct storage.cmd
  have hstart : storage.construct.Safe bodyLen storage.construct := Safe.refl _
  unfold webRequestParseIn webRequestParse
  cases body with
  | none => exact .of_some ⟨hstart, rfl, hempty, rfl⟩
  | some body =>
  dsimp only
  by_cases hlength : bodyLen = 0 ∨ kWebRequestMaxBodySize < bodyLen
  · simp only [if_pos hlength]
    exact .of_some ⟨hstart, rfl, hempty, rfl⟩
  simp only [if_neg hlength]
  have hparser : storage.construct.Safe bodyLen storage.construct.startParser :=
    ⟨hstart.reads, hstart.tokenValue, hstart.currentKey, hstart.verb, hstart.key, hstart.value⟩
  refine (nextToken_ends body _).bind ?_
  rintro ⟨type, _⟩ ⟨parser, rfl, htoken, -⟩
  have hafter := hparser.nextToken htoken.safe
  have htype := htoken.type
  have hspec := htoken.spec
  change type = (JsonParser.next ⟨body, bodyLen, 0, true⟩).1.type at htype
  change parser.spec body bodyLen = (JsonParser.next ⟨body, bodyLen, 0, true⟩).2 at hspec
  dsimp only
  rw [← hspec, ← htype]
  by_cases hopen : type ≠ .ObjectStart
  · simp only [if_pos hopen]
    exact .of_some ⟨hafter, rfl, hempty, rfl⟩
  · simp only [if_neg hopen]
    exact parseObject_ends hafter hempty

/-- On every body the parser ends, with the same result for every higher limit on the rounds of its
loops. It reads in front of the end of the body and writes inside of its arrays, there is room for the
fields it counts, and the strings it leaves have their NULs. -/
theorem webRequestParseIn_safe (body : Option (List UInt8)) (bodyLen : ℕ) (storage : RequestMemory) :
    ∃ result t,
      (∀ rounds, bodyLen + 1 ≤ rounds →
        webRequestParseIn body bodyLen rounds storage.construct = some (result, t)) ∧
      storage.construct.Safe bodyLen t ∧ t.cmd.fieldCount ≤ kWebRequestMaxFieldCount ∧
      (∀ i < t.cmd.fieldCount, IsTerminated kKeySize (t.cmd.key i) ∧
        IsTerminated kWebRequestMaxValueSize (t.cmd.value i)) ∧
      (result = .Ok → IsTerminated kKeySize t.cmd.verb) := by
  obtain ⟨⟨result, t⟩, hparses, hrounds⟩ := webRequestParseIn_eq body bodyLen storage
  have hholds := hparses.holds
  refine ⟨result, t, hrounds, hparses.safe, hholds.fieldCount_le, fun i hi => ?_,
    fun _ => hholds.verb_ends⟩
  rw [hholds.fieldCount] at hi
  have hfield := hholds.field i _ (List.getElem?_eq_getElem hi)
  exact ⟨hfield.key_ends, hfield.value_ends⟩

end Esp32Wiimote.Web
