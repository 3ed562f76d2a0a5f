import Esp32Wiimote.Library.BoundedLoop
import Esp32Wiimote.Library.MemoryText
import Esp32Wiimote.Web.RequestParser

/-!
# The request parser in memory

The value of a token, the copy of a key, the verb and the fields are arrays of a fixed size, and each
byte of the body that is read is recorded. The loops are the ones of the source, with no measure in
them. They end on every body, they touch nothing outside of the arrays and the body, and they compute
what the parser on lists computes.
-/

namespace Esp32Wiimote.Web

open CText StateProgram LoggedMemory MemoryText BoundedLoop

/-! ## The tokenizer -/

/-- The members of the class `JsonParser` that change, and the token it fills in: the array of a new
token holds what the last one left there. -/
structure JsonReader where
  pos : ℕ
  /-- The offsets of the body that were read, in order. -/
  reads : List ℕ
  value : Memory UInt8
  valueLen : ℕ

namespace JsonReader

/-- The byte at the position is read. -/
def read (r : JsonReader) : JsonReader := { r with reads := r.reads ++ [r.pos] }

/-- The position moves on. -/
def advance (r : JsonReader) : JsonReader := { r with pos := r.pos + 1 }

/-- `makeToken`, apart from the type, which is returned. -/
def makeToken (r : JsonReader) : JsonReader := { r with value := r.value.store 0 0, valueLen := 0 }

/-- `token.value[token.valueLen++] = ch`. -/
def putChar (r : JsonReader) (ch : UInt8) : JsonReader :=
  { r with value := r.value.store r.valueLen ch, valueLen := r.valueLen + 1 }

/-- `token.value[token.valueLen] = '\0'`. -/
def endValue (r : JsonReader) : JsonReader := { r with value := r.value.store r.valueLen 0 }

variable (body : List UInt8) (len : ℕ)

/-- The byte at the position. -/
def peek (r : JsonReader) : UInt8 := body.getD r.pos 0

/-- One round of `skipWhitespace`. -/
def skipWhitespaceRound (r : JsonReader) : Round JsonReader JsonReader :=
  if r.pos < len then
    if JsonParser.isWhitespace (r.peek body) then .again r.read.advance else .leave r.read
  else .leave r

/-- White space is skipped up to the end of the body. -/
def skipWhitespace (rounds : ℕ) (r : JsonReader) : Option JsonReader :=
  repeatRounds (fun r => some (r.skipWhitespaceRound body len)) rounds r

/-- A round of the loop over the characters of a string. -/
def stringRound (r : JsonReader) : Round JsonReader (JsonTokenType × JsonReader) :=
  if r.pos < len ∧ r.valueLen < kWebRequestMaxValueSize - 1 then
    let ch := r.peek body
    let seen := r.read
    if ch = 0x22 then .leave (.String, seen.endValue.advance)
    else if ch = 0x5C then
      let behind := seen.advance
      if len ≤ behind.pos then .leave (.Error, behind.makeToken)
      else .again (behind.read.putChar (JsonParser.unescape (behind.peek body))).advance
    else .again (seen.putChar ch).advance
  else .leave (.Error, r.makeToken)

/-- A string token; anything but a quote is an error. -/
def parseString (rounds : ℕ) (r : JsonReader) : Option (JsonTokenType × JsonReader) :=
  if r.peek body ≠ 0x22 then some (.Error, r.read.makeToken)
  else repeatRounds (fun r => some (r.stringRound body len)) rounds r.read.advance.makeToken

/-- A token that is one character. -/
def punctuationToken (r : JsonReader) (type : JsonTokenType) : Option (JsonTokenType × JsonReader) :=
  some (type, r.advance.makeToken)

/-- The next token. -/
def next (rounds : ℕ) (r : JsonReader) : Option (JsonTokenType × JsonReader) :=
  (r.skipWhitespace body len rounds).bind fun start =>
    if len ≤ start.pos then some (.Eof, start.makeToken)
    else
      let ch := start.peek body
      let seen := start.read
      if ch = 0x7B then seen.punctuationToken .ObjectStart
      else if ch = 0x7D then seen.punctuationToken .ObjectEnd
      else if ch = 0x3A then seen.punctuationToken .Colon
      else if ch = 0x2C then seen.punctuationToken .Comma
      else if ch = 0x22 then seen.parseString body len rounds
      else some (.Error, seen.makeToken)

end JsonReader

/-! ## The command -/

/-- The arrays of a `WebParsedCommand`. There is one for every index, so that a store behind the last
field has a place and shows. -/
structure CommandMemory where
  verb : Memory UInt8
  key : ℕ → Memory UInt8
  value : ℕ → Memory UInt8
  fieldCount : ℕ

/-- The size of the verb and of each key, and of the copy of a key. -/
def kKeySize : ℕ := 64

/-- What the default constructor makes of the storage. -/
def CommandMemory.construct (storage : CommandMemory) : CommandMemory :=
  { storage with verb := storage.verb.store 0 0, fieldCount := 0 }

/-- Fill in the field at `fieldCount`, and count it. -/
def CommandMemory.appendField (cmd : CommandMemory) (currentKey tokenValue : Memory UInt8) :
    CommandMemory :=
  let i := cmd.fieldCount
  { cmd with
    key := Function.update cmd.key i (copyText kKeySize (cmd.key i) currentKey)
    value := Function.update cmd.value i (copyText kWebRequestMaxValueSize (cmd.value i) tokenValue)
    fieldCount := i + 1 }

/-- The variables of `webRequestParse`, and the command it fills in. -/
structure RequestMemory where
  parser : JsonReader
  currentKey : Memory UInt8
  foundCommand : Bool
  cmd : CommandMemory

namespace RequestMemory

/-- The call `parser.next()`. -/
def nextToken (body : List UInt8) (len rounds : ℕ) (s : RequestMemory) :
    Option (JsonTokenType × RequestMemory) :=
  (s.parser.next body len rounds).map fun token => (token.1, { s with parser := token.2 })

/-- The key is kept while the value is read. -/
def copyKey (s : RequestMemory) : RequestMemory :=
  { s with currentKey := copyText kKeySize s.currentKey s.parser.value }

/-- The key is `command`. -/
def isCommand (s : RequestMemory) : Bool := cString kKeySize s.currentKey == ascii "command"

/-- The value of `command` is the verb. -/
def storeVerb (s : RequestMemory) : RequestMemory :=
  { s with cmd := { s.cmd with verb := copyText kKeySize s.cmd.verb s.parser.value }
           foundCommand := true }

/-- Any other value is a field. -/
def storeField (s : RequestMemory) : RequestMemory :=
  { s with cmd := s.cmd.appendField s.currentKey s.parser.value }

/-- A round of the loop over the pairs. It leaves the loop by a `return` with a result, or by a
`break`. -/
abbrev PairRound := Round RequestMemory (Option WebRequestParseResult × RequestMemory)

/-- What is behind a pair. -/
def separatorRound (body : List UInt8) (len rounds : ℕ) (s : RequestMemory) : Option PairRound :=
  (s.nextToken body len rounds).bind fun (type, s) =>
    if type = .ObjectEnd then some (.leave (none, s))
    else if type = .Comma then some (.again s)
    else some (.leave (some .MalformedJson, s))

/-- A pair whose key and value are known. -/
def storeRound (body : List UInt8) (len rounds : ℕ) (s : RequestMemory) : Option PairRound :=
  if s.isCommand then s.storeVerb.separatorRound body len rounds
  else if kWebRequestMaxFieldCount ≤ s.cmd.fieldCount then some (.leave (some .BodyTooLarge, s))
  else s.storeField.separatorRound body len rounds

/-- A pair behind its key. -/
def valueRound (body : List UInt8) (len rounds : ℕ) (s : RequestMemory) : Option PairRound :=
  (s.nextToken body len rounds).bind fun (type, s) =>
    if type ≠ .Colon then some (.leave (some .MalformedJson, s))
    else
      (s.nextToken body len rounds).bind fun (type, s) =>
        if type ≠ .String then some (.leave (some .InvalidFieldType, s))
        else s.storeRound body len rounds

/-- One round of the loop over the pairs. -/
def pairRound (body : List UInt8) (len rounds : ℕ) (s : RequestMemory) : Option PairRound :=
  (s.nextToken body len rounds).bind fun (type, s) =>
    if type = .ObjectEnd then some (.leave (none, s))
    else if type ≠ .String then some (.leave (some .MalformedJson, s))
    else s.copyKey.valueRound body len rounds

/-- The result behind the loop. -/
def verdict (s : RequestMemory) : WebRequestParseResult :=
  if s.foundCommand = false ∨ s.cmd.verb.cell 0 = 0 then .MissingRequiredField else .Ok

/-- The body behind the opening brace. -/
def parseObject (body : List UInt8) (len rounds : ℕ) (s : RequestMemory) :
    Option (WebRequestParseResult × RequestMemory) :=
  let s := { s with foundCommand := false, cmd := { s.cmd with fieldCount := 0 } }
  (repeatRounds (pairRound body len rounds) rounds s).map fun (result, s) =>
    (result.getD s.verdict, s)

/-- The constructor of `JsonParser`. -/
def startParser (s : RequestMemory) : RequestMemory := { s with parser := { s.parser with pos := 0 } }

end RequestMemory

open RequestMemory in
/-- `webRequestParse`, with at most that many rounds for each loop. A null body is `none`, and the
locals hold what is on the stack. -/
def webRequestParseIn (body : Option (List UInt8)) (bodyLen rounds : ℕ) (s : RequestMemory) :
    Option (WebRequestParseResult × RequestMemory) :=
  match body with
  | none => some (.MalformedJson, s)
  | some body =>
    if bodyLen = 0 ∨ kWebRequestMaxBodySize < bodyLen then some (.BodyTooLarge, s)
    else
      (s.startParser.nextToken body bodyLen rounds).bind fun (type, s) =>
        if type ≠ .ObjectStart then some (.MalformedJson, s)
        else s.parseObject body bodyLen rounds

end Esp32Wiimote.Web
