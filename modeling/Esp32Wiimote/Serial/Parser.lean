import Esp32Wiimote.Library.CText

/-!
# The serial line parser

The line is copied into the output buffer, and the tokenizer walks that buffer in
place: it stores the offset of each token and overwrites the blank behind it by a NUL.
A token is therefore the C string at its offset. Each access to the buffer and to the
token table is checked against its bounds, and `inBounds` says whether all were inside.
-/

namespace Esp32Wiimote.Serial

open CText

/-- Maximum input line length accepted by the parser, in bytes without the NUL. -/
def kSerialMaxLineLength : ℕ := 128

/-- Maximum number of tokens of a command line. -/
def kSerialMaxTokens : ℕ := 10

/-- The results of the parser. -/
inductive SerialParseResult
  | Ok
  | EmptyLine
  | NotACommand
  | LineTooLong
  | TooManyTokens
  deriving DecidableEq, Repr

/-- The parsed line: tokens are offsets into the buffer. -/
structure SerialParsedCommand where
  buf : List UInt8
  tokens : List ℕ
  inBounds : Bool
  deriving DecidableEq, Repr

namespace SerialParsedCommand

/-- The zero-initialised output of the caller. -/
def zeroed : SerialParsedCommand := ⟨List.replicate (kSerialMaxLineLength + 1) 0, [], true⟩

/-- How many tokens were found. -/
def tokenCount (cmd : SerialParsedCommand) : ℕ := cmd.tokens.length

/-- The C string that `tokens[i]` points to. -/
def token (cmd : SerialParsedCommand) (i : ℕ) : CString := cStringAt cmd.buf (cmd.tokens.getD i 0)

/-- Note an access that is inside its object exactly when the condition holds. -/
def access (cmd : SerialParsedCommand) (inside : Bool) : SerialParsedCommand :=
  { cmd with inBounds := cmd.inBounds && inside }

/-- The character at an offset of the buffer. -/
def charAt (cmd : SerialParsedCommand) (p : ℕ) : UInt8 := cmd.buf.getD p 0

/-- Note the read of the character at an offset. -/
def read (cmd : SerialParsedCommand) (p : ℕ) : SerialParsedCommand :=
  cmd.access (p < cmd.buf.length)

/-- Copy a line and its NUL to the start of the buffer. -/
def copyLine (cmd : SerialParsedCommand) (line : CString) : SerialParsedCommand :=
  { cmd.access (line.length + 1 ≤ cmd.buf.length) with
    buf := line ++ 0 :: cmd.buf.drop (line.length + 1), tokens := [] }

/-- Store the offset of the next token. -/
def pushToken (cmd : SerialParsedCommand) (p : ℕ) : SerialParsedCommand :=
  { cmd.access (cmd.tokenCount < kSerialMaxTokens) with tokens := cmd.tokens ++ [p] }

/-- Overwrite the character at an offset by a NUL. -/
def terminateAt (cmd : SerialParsedCommand) (p : ℕ) : SerialParsedCommand :=
  { cmd.access (p < cmd.buf.length) with buf := cmd.buf.set p 0 }

end SerialParsedCommand

open SerialParsedCommand

/-- The characters that separate tokens. -/
def isBlank (c : UInt8) : Bool := c == 0x20 || c == 0x09 || c == 0x0D

/-- Advance past blanks. -/
def skipBlanks : ℕ → ℕ → SerialParsedCommand → ℕ × SerialParsedCommand
  | 0, p, cmd => (p, cmd)
  | fuel + 1, p, cmd =>
    if isBlank (cmd.charAt p) then skipBlanks fuel (p + 1) (cmd.read p) else (p, cmd.read p)

/-- Advance past the token body. -/
def skipBody : ℕ → ℕ → SerialParsedCommand → ℕ × SerialParsedCommand
  | 0, p, cmd => (p, cmd)
  | fuel + 1, p, cmd =>
    if cmd.charAt p ≠ 0 ∧ isBlank (cmd.charAt p) = false then
      skipBody fuel (p + 1) (cmd.read p)
    else (p, cmd.read p)

/-- Overwrite the blank behind a token, unless the token ends the line. -/
def endToken (p : ℕ) (cmd : SerialParsedCommand) : ℕ × SerialParsedCommand :=
  if cmd.charAt p ≠ 0 then (p + 1, (cmd.read p).terminateAt p) else (p, cmd.read p)

/-- The tokenizer loop: the parsed line, and whether there were too many tokens. Each round
passes at least one character, so the length of the buffer bounds the rounds. -/
def tokenize : ℕ → ℕ → SerialParsedCommand → Bool × SerialParsedCommand
  | 0, _, cmd => (false, cmd)
  | fuel + 1, p, cmd =>
    if cmd.charAt p = 0 then (false, cmd.read p)
    else
      let start := skipBlanks cmd.buf.length p (cmd.read p)
      if start.2.charAt start.1 = 0 then (false, start.2.read start.1)
      else if kSerialMaxTokens ≤ start.2.tokenCount then (true, start.2.read start.1)
      else
        let stop := skipBody cmd.buf.length start.1 ((start.2.read start.1).pushToken start.1)
        let next := endToken stop.1 stop.2
        tokenize fuel next.1 next.2

/-- Note the reads of a comparison with a string, which ends at a NUL of the buffer. -/
def readToken (cmd : SerialParsedCommand) (i : ℕ) : SerialParsedCommand :=
  cmd.access ((cmd.buf.drop (cmd.tokens.getD i 0)).contains 0)

/-- The checks in the order of the source. -/
def serialCommandParse (line : CString) (out : SerialParsedCommand) :
    SerialParseResult × SerialParsedCommand :=
  if kSerialMaxLineLength < line.length then (.LineTooLong, out)
  else
    let copied := out.copyLine line
    let parsed := tokenize copied.buf.length 0 copied
    if parsed.2.tokenCount = 0 then (.EmptyLine, parsed.2)
    else if parsed.2.token 0 ≠ ascii "wm" then (.NotACommand, readToken parsed.2 0)
    else if parsed.1 then (.TooManyTokens, readToken parsed.2 0)
    else (.Ok, readToken parsed.2 0)

end Esp32Wiimote.Serial
