import Esp32Wiimote.Library.CText

/-!
# The web request parser

A state machine over the bytes of a request body: a tokenizer for the punctuation and the
strings of JSON, and a loop over the pairs of one object whose values are strings. The
pair with the key `command` is the verb, all others are fields. `inBounds` says whether
every byte read so far was in front of the end of the body, and every byte written inside
the value of its token.
-/

namespace Esp32Wiimote.Web

open CText

/-- The results of the parser. -/
inductive WebRequestParseResult
  | Ok
  | BodyTooLarge
  | MalformedJson
  | MissingRequiredField
  | InvalidFieldType
  deriving DecidableEq, Repr

/-- The bounds of bodies, values and fields. -/
def kWebRequestMaxBodySize : ℕ := 1024
def kWebRequestMaxValueSize : ℕ := 256
def kWebRequestMaxFieldCount : ℕ := 16

/-- A field: its key and its value. -/
structure WebParsedField where
  key : CString
  value : CString
  deriving DecidableEq, Repr

/-- A command: its verb and its fields. -/
structure WebParsedCommand where
  verb : CString
  fields : List WebParsedField
  deriving DecidableEq, Repr

/-- How many fields there are. -/
def WebParsedCommand.fieldCount (cmd : WebParsedCommand) : ℕ := cmd.fields.length

/-- The default-constructed command. -/
def WebParsedCommand.empty : WebParsedCommand := ⟨[], []⟩

/-! ## Tokens -/

/-- The types of tokens. -/
inductive JsonTokenType
  | ObjectStart
  | ObjectEnd
  | String
  | Colon
  | Comma
  | Eof
  | Error
  deriving DecidableEq, Repr

/-- A token, with the bytes of its value in front of the NUL. -/
structure JsonToken where
  type : JsonTokenType
  value : List UInt8
  deriving DecidableEq, Repr

/-- A token without a value. -/
def makeToken (type : JsonTokenType) : JsonToken := ⟨type, []⟩

/-- The body, its length and the position; `inBounds` is true as long as no byte behind the end was
read. -/
structure JsonParser where
  data : List UInt8
  len : ℕ
  pos : ℕ
  inBounds : Bool
  deriving DecidableEq, Repr

namespace JsonParser

/-- The byte at the position. -/
def peek (parser : JsonParser) : UInt8 := parser.data.getD parser.pos 0

/-- Note an access that is inside its object exactly when the condition holds. -/
def access (parser : JsonParser) (inside : Bool) : JsonParser :=
  { parser with inBounds := parser.inBounds && inside }

/-- Note the read of the byte at the position. -/
def read (parser : JsonParser) : JsonParser := parser.access (parser.pos < parser.len)

/-- The position moves on. -/
def advance (parser : JsonParser) : JsonParser := { parser with pos := parser.pos + 1 }

/-- The white space of JSON. -/
def isWhitespace (c : UInt8) : Bool := c == 0x20 || c == 0x09 || c == 0x0A || c == 0x0D

/-- Advance past white space; the fuel is the number of bytes left. -/
def skipWhitespace : ℕ → JsonParser → JsonParser
  | 0, parser => parser
  | fuel + 1, parser =>
    if parser.pos < parser.len then
      if isWhitespace parser.peek then skipWhitespace fuel parser.read.advance else parser.read
    else parser

/-- The character that an escape stands for: every other escape stands for itself. -/
def unescape (escaped : UInt8) : UInt8 :=
  if escaped = 0x6E then 0x0A
  else if escaped = 0x74 then 0x09
  else if escaped = 0x72 then 0x0D
  else escaped

/-- The loop over the characters of a string; it ends at the closing quote, at the end of the
body, or with a full value. -/
def stringBody : ℕ → List UInt8 → JsonParser → JsonToken × JsonParser
  | 0, _, parser => (makeToken .Error, parser)
  | fuel + 1, value, parser =>
    if parser.pos < parser.len ∧ value.length < kWebRequestMaxValueSize - 1 then
      let ch := parser.peek
      let seen := parser.read
      if ch = 0x22 then
        (⟨.String, value⟩, (seen.access (value.length < kWebRequestMaxValueSize)).advance)
      else if ch = 0x5C then
        let behind := seen.advance
        if behind.len ≤ behind.pos then (makeToken .Error, behind)
        else
          stringBody fuel (value ++ [unescape behind.peek])
            (behind.read.access (value.length < kWebRequestMaxValueSize)).advance
      else
        stringBody fuel (value ++ [ch]) (seen.access (value.length < kWebRequestMaxValueSize)).advance
    else (makeToken .Error, parser)

/-- A string token; anything but a quote is an error. -/
def parseString (parser : JsonParser) : JsonToken × JsonParser :=
  if parser.peek ≠ 0x22 then (makeToken .Error, parser.read)
  else stringBody (parser.len + 1) [] parser.read.advance

/-- The next token. -/
def next (parser : JsonParser) : JsonToken × JsonParser :=
  let start := skipWhitespace (parser.len - parser.pos) parser
  if start.len ≤ start.pos then (makeToken .Eof, start)
  else
    let seen := start.read
    if start.peek = 0x7B then (makeToken .ObjectStart, seen.advance)
    else if start.peek = 0x7D then (makeToken .ObjectEnd, seen.advance)
    else if start.peek = 0x3A then (makeToken .Colon, seen.advance)
    else if start.peek = 0x2C then (makeToken .Comma, seen.advance)
    else if start.peek = 0x22 then parseString seen
    else (makeToken .Error, seen)

end JsonParser

/-! ## The object -/

/-- `strncpy` of a token value into a buffer of the size, and the NUL at its end: the C string
in front of the first NUL, cut to what fits. -/
def copyKey (size : ℕ) (value : List UInt8) : CString := (value.takeWhile (· != 0)).take (size - 1)

/-- The loop over the pairs of the object: the result, or whether the key `command` was found
when the object ended. Each round passes at least one byte, so the length of the body bounds
the rounds. -/
def parsePairs : ℕ → Bool → WebParsedCommand → JsonParser →
    (WebRequestParseResult ⊕ Bool) × WebParsedCommand × JsonParser
  | 0, _, cmd, parser => (.inl .MalformedJson, cmd, parser)
  | fuel + 1, foundCommand, cmd, parser =>
    let key := parser.next
    if key.1.type = .ObjectEnd then (.inr foundCommand, cmd, key.2)
    else if key.1.type ≠ .String then (.inl .MalformedJson, cmd, key.2)
    else
      let currentKey := copyKey 64 key.1.value
      let colon := key.2.next
      if colon.1.type ≠ .Colon then (.inl .MalformedJson, cmd, colon.2)
      else
        let value := colon.2.next
        if value.1.type ≠ .String then (.inl .InvalidFieldType, cmd, value.2)
        else if currentKey ≠ ascii "command" ∧ kWebRequestMaxFieldCount ≤ cmd.fieldCount then
          (.inl .BodyTooLarge, cmd, value.2)
        else
          let isCommand := decide (currentKey = ascii "command")
          let stored : WebParsedCommand :=
            if isCommand then { cmd with verb := copyKey 64 value.1.value }
            else
              { cmd with fields := cmd.fields ++
                  [⟨copyKey 64 currentKey, copyKey kWebRequestMaxValueSize value.1.value⟩] }
          let separator := value.2.next
          if separator.1.type = .ObjectEnd then (.inr (foundCommand || isCommand), stored, separator.2)
          else if separator.1.type = .Comma then
            parsePairs fuel (foundCommand || isCommand) stored separator.2
          else (.inl .MalformedJson, stored, separator.2)

/-- Parse a body: the result, the command as far as it was filled in, and whether all accesses
stayed in bounds. A null body is `none`. -/
def webRequestParse (body : Option (List UInt8)) (bodyLen : ℕ) (cmd : WebParsedCommand) :
    WebRequestParseResult × WebParsedCommand × Bool :=
  match body with
  | none => (.MalformedJson, cmd, true)
  | some data =>
    if bodyLen = 0 ∨ kWebRequestMaxBodySize < bodyLen then (.BodyTooLarge, cmd, true)
    else
      let start := (⟨data, bodyLen, 0, true⟩ : JsonParser).next
      if start.1.type ≠ .ObjectStart then (.MalformedJson, cmd, start.2.inBounds)
      else
        match parsePairs (bodyLen + 1) false { cmd with fields := [] } start.2 with
        | (.inl result, parsed, parser) => (result, parsed, parser.inBounds)
        | (.inr foundCommand, parsed, parser) =>
          if foundCommand = false ∨ parsed.verb = [] then
            (.MissingRequiredField, parsed, parser.inBounds)
          else (.Ok, parsed, parser.inBounds)

end Esp32Wiimote.Web
