import Esp32Wiimote.Library.TerminatedText
import Esp32Wiimote.Library.Words
import Esp32Wiimote.Serial.Parser
import Mathlib.Data.List.GetD

/-!
# The words of a command line

The tokenizer moves one pointer over the copy of the line and cuts it up behind itself. What lies in
front of the pointer is not touched again, and what lies behind it is still the line. So each token
is a word of the line, with the NUL that was put behind it, or with the one at the end of the line.
-/

namespace Esp32Wiimote.Serial

open CText TerminatedText Words SerialParsedCommand

/-! ## The line in memory -/

/-- `memcpy` of bytes to the start of the buffer. -/
def SerialParsedCommand.copyBytes (cmd : SerialParsedCommand) (bytes : List UInt8) :
    SerialParsedCommand :=
  { cmd.access (bytes.length ≤ cmd.buf.length) with
    buf := bytes ++ cmd.buf.drop bytes.length, tokens := [] }

/-- What the parser does behind the copy. -/
def parseCopied (copied : SerialParsedCommand) : SerialParseResult × SerialParsedCommand :=
  let parsed := tokenize copied.buf.length 0 copied
  if parsed.2.tokenCount = 0 then (.EmptyLine, parsed.2)
  else if parsed.2.token 0 ≠ ascii "wm" then (.NotACommand, readToken parsed.2 0)
  else if parsed.1 then (.TooManyTokens, readToken parsed.2 0)
  else (.Ok, readToken parsed.2 0)

/-- The parser on a line where it lies in memory: `none` for a read behind the object. -/
def serialCommandParseIn (line : List UInt8) (out : SerialParsedCommand) :
    Option (SerialParseResult × SerialParsedCommand) :=
  (strlen line).bind fun kLen =>
    if kSerialMaxLineLength < kLen then some (.LineTooLong, out)
    else (loadBytes (kLen + 1) line).map fun bytes => parseCopied (out.copyBytes bytes)

/-- On a terminated line the parser on memory is the parser on strings. -/
theorem serialCommandParseIn_terminated {line : CString} (hline : 0 ∉ line)
    (out : SerialParsedCommand) :
    serialCommandParseIn (terminated line) out = some (serialCommandParse line out) := by
  have hcopy : out.copyBytes (terminated line) = out.copyLine line := by
    simp [copyBytes, copyLine]
  rw [serialCommandParseIn, strlen_terminated hline, Option.bind_some, serialCommandParse]
  split
  · rfl
  · rw [loadBytes_terminated, Option.map_some, hcopy]
    rfl

/-! ## Reading and writing inside the buffer -/

section Access

variable {cmd : SerialParsedCommand} {front rest tail : List UInt8} {c : UInt8}

/-- An access inside leaves no mark. -/
theorem access_of {inside : Bool} (h : inside = true) : cmd.access inside = cmd := by
  rw [access, h, Bool.and_true]

/-- A position in front of a byte is inside. -/
theorem lt_of_buf (hbuf : cmd.buf = front ++ c :: rest) : front.length < cmd.buf.length := by
  rw [hbuf, List.length_append, List.length_cons]
  omega

/-- So reading there leaves no mark. -/
theorem read_of_buf (hbuf : cmd.buf = front ++ c :: rest) : cmd.read front.length = cmd :=
  access_of (decide_eq_true (lt_of_buf hbuf))

/-- The byte behind the front. -/
theorem charAt_of_buf (hbuf : cmd.buf = front ++ c :: rest) : cmd.charAt front.length = c := by
  rw [charAt, hbuf, List.getD_append_right _ _ _ _ (Nat.le_refl _), Nat.sub_self, List.getD_cons_zero]

/-- A loop that passes the characters it keeps ends at the first other one. -/
theorem pass_eq {pass : ℕ → ℕ → SerialParsedCommand → ℕ × SerialParsedCommand}
    {keeps : UInt8 → Prop} [DecidablePred keeps]
    (hpass : ∀ fuel p cmd, pass (fuel + 1) p cmd =
      if keeps (cmd.charAt p) then pass fuel (p + 1) (cmd.read p) else (p, cmd.read p))
    {fuel : ℕ} {run : List UInt8} (hrun : ∀ d ∈ run, keeps d) (hc : ¬keeps c)
    (hfuel : run.length < fuel) (hbuf : cmd.buf = front ++ (run ++ c :: rest)) :
    pass fuel front.length cmd = (front.length + run.length, cmd) := by
  induction run generalizing fuel front with
  | nil =>
    obtain ⟨fuel, rfl⟩ := Nat.exists_eq_succ_of_ne_zero (Nat.ne_zero_of_lt hfuel)
    rw [List.nil_append] at hbuf
    rw [hpass, charAt_of_buf hbuf, read_of_buf hbuf, if_neg hc]
    rfl
  | cons d run ih =>
    obtain ⟨fuel, rfl⟩ := Nat.exists_eq_succ_of_ne_zero (Nat.ne_zero_of_lt hfuel)
    rw [List.cons_append] at hbuf
    have hshift : cmd.buf = (front ++ [d]) ++ (run ++ c :: rest) := hbuf.trans (List.append_cons ..)
    have hnext := ih (fun e he => hrun e (List.mem_cons_of_mem d he))
      (Nat.lt_of_succ_lt_succ hfuel) hshift
    rw [hpass, charAt_of_buf hbuf, read_of_buf hbuf, if_pos (hrun d List.mem_cons_self)]
    rw [List.length_append, List.length_singleton] at hnext
    rw [hnext, List.length_cons, Nat.add_right_comm, Nat.add_assoc]

/-- Skipping blanks ends in front of the next other byte. -/
theorem skipBlanks_eq {fuel : ℕ} {blanks : List UInt8} (hblanks : ∀ d ∈ blanks, isBlank d = true)
    (hc : isBlank c = false) (hfuel : blanks.length < fuel)
    (hbuf : cmd.buf = front ++ (blanks ++ c :: rest)) :
    skipBlanks fuel front.length cmd = (front.length + blanks.length, cmd) :=
  pass_eq (fun _ _ _ => rfl) hblanks (Bool.eq_false_iff.mp hc) hfuel hbuf

/-- Skipping a token ends in front of the next blank or NUL. -/
theorem skipBody_eq {fuel : ℕ} {body : List UInt8} (hbody : ∀ d ∈ body, d ≠ 0 ∧ isBlank d = false)
    (hc : ¬(c ≠ 0 ∧ isBlank c = false)) (hfuel : body.length < fuel)
    (hbuf : cmd.buf = front ++ (body ++ c :: rest)) :
    skipBody fuel front.length cmd = (front.length + body.length, cmd) :=
  pass_eq (fun _ _ _ => rfl) hbody hc hfuel hbuf

end Access

/-! ## One round -/

/-- The word is at the offset, with a NUL behind it in the buffer. -/
def HoldsWord (buf : List UInt8) (offset : ℕ) (word : CString) : Prop :=
  ∃ before after, buf = before ++ (word ++ 0 :: after) ∧ before.length = offset

/-- The token table with one more entry. -/
abbrev withToken (cmd : SerialParsedCommand) (start : ℕ) : SerialParsedCommand :=
  { cmd with tokens := cmd.tokens ++ [start] }

section Round

variable {cmd : SerialParsedCommand} {front blanks body tail : List UInt8} {c : UInt8} (fuel : ℕ)

/-- The NUL is no blank. -/
theorem isBlank_nul : isBlank 0 = false := rfl

/-- The loop ends at the NUL. -/
theorem tokenize_nul (hbuf : cmd.buf = front ++ 0 :: tail) :
    tokenize fuel front.length cmd = (false, cmd) := by
  cases fuel with
  | zero => rfl
  | succ fuel => rw [tokenize, charAt_of_buf hbuf, read_of_buf hbuf, if_pos rfl]

variable (hblanks : ∀ d ∈ blanks, isBlank d = true) (hc : isBlank c = false)
  (hbuf : cmd.buf = front ++ (blanks ++ c :: tail))
include hblanks hc hbuf

/-- A round passes the blanks and looks at the character behind them. -/
theorem tokenize_blanks :
    tokenize (fuel + 1) front.length cmd =
      let start := front.length + blanks.length
      if c = 0 then (false, cmd)
      else if kSerialMaxTokens ≤ cmd.tokenCount then (true, cmd)
      else
        let stop := skipBody cmd.buf.length start (withToken cmd start)
        let next := endToken stop.1 stop.2
        tokenize fuel next.1 next.2 := by
  have hbehind : cmd.buf = (front ++ blanks) ++ c :: tail := by rw [hbuf, List.append_assoc]
  have hlength : front.length + blanks.length = (front ++ blanks).length := by rw [List.length_append]
  have hfuel : blanks.length < cmd.buf.length := by
    rw [hbuf]
    simp only [List.length_append, List.length_cons]
    omega
  have hskip := skipBlanks_eq hblanks hc hfuel hbuf
  have hread := read_of_buf hbehind
  have hchar := charAt_of_buf hbehind
  rw [← hlength] at hread hchar
  -- the first character is a blank, or the one behind them
  obtain ⟨d, rest, hfirst, hd⟩ : ∃ d rest, cmd.buf = front ++ d :: rest ∧ (d = 0 → c = 0 ∧ blanks = []) := by
    cases blanks with
    | nil => exact ⟨c, tail, hbuf, fun h => ⟨h, rfl⟩⟩
    | cons d rest =>
      refine ⟨d, _, hbuf, fun h => ?_⟩
      have hblank := hblanks d List.mem_cons_self
      rw [h, isBlank_nul] at hblank
      cases hblank
  rw [tokenize, charAt_of_buf hfirst, read_of_buf hfirst]
  by_cases hnul : d = 0
  · rw [if_pos hnul]
    simp only [(hd hnul).1, if_true]
  · rw [if_neg hnul]
    simp only [hskip, hchar, hread]
    by_cases hend : c = 0
    · rw [if_pos hend, if_pos hend]
    · rw [if_neg hend, if_neg hend]
      by_cases hfull : kSerialMaxTokens ≤ cmd.tokenCount
      · rw [if_pos hfull, if_pos hfull]
      · rw [if_neg hfull, if_neg hfull]
        have hpush : cmd.pushToken (front.length + blanks.length) =
            withToken cmd (front.length + blanks.length) := by
          rw [pushToken, access_of (decide_eq_true (Nat.not_le.mp hfull))]
        rw [hpush]

end Round

section Cut

variable {cmd : SerialParsedCommand} {front blanks word tail : List UInt8} {c : UInt8} (fuel : ℕ)

/-- A token in front of the NUL is terminated already. -/
theorem endToken_nul (hbuf : cmd.buf = front ++ 0 :: tail) :
    endToken front.length cmd = (front.length, cmd) := by
  rw [endToken, charAt_of_buf hbuf, read_of_buf hbuf, if_neg (not_not.mpr rfl)]

/-- The character behind a token becomes its NUL. -/
theorem endToken_blank (hc : c ≠ 0) (hbuf : cmd.buf = front ++ c :: tail) :
    endToken front.length cmd = (front.length + 1, { cmd with buf := front ++ 0 :: tail }) := by
  have hset : cmd.buf.set front.length 0 = front ++ 0 :: tail := by
    rw [hbuf, List.set_append_right _ _ (Nat.le_refl _), Nat.sub_self, List.set_cons_zero]
  rw [endToken, charAt_of_buf hbuf, read_of_buf hbuf, if_pos hc, terminateAt,
    access_of (decide_eq_true (lt_of_buf hbuf)), hset]

variable (hblanks : ∀ d ∈ blanks, isBlank d = true) (hword : IsWord isBlank word) (hnul : 0 ∉ word)
  (hroom : cmd.tokenCount < kSerialMaxTokens)
  (hbuf : cmd.buf = front ++ (blanks ++ (word ++ c :: tail)))
include hblanks hword hnul hroom hbuf

/-- A round with a token: the pointer is at its first character, and then at the end of it. -/
theorem tokenize_word (hc : ¬(c ≠ 0 ∧ isBlank c = false)) :
    tokenize (fuel + 1) front.length cmd =
      let next := endToken (front ++ (blanks ++ word)).length
        (withToken cmd (front.length + blanks.length))
      tokenize fuel next.1 next.2 := by
  obtain ⟨first, rest, rfl⟩ := List.exists_cons_of_ne_nil hword.1
  have hfirst : isBlank first = false := hword.2 first List.mem_cons_self
  have hne : first ≠ 0 := fun h => hnul (h ▸ List.mem_cons_self)
  have hbody : ∀ d ∈ first :: rest, d ≠ 0 ∧ isBlank d = false := by
    intro d hd
    exact ⟨fun h => hnul (h ▸ hd), hword.2 d hd⟩
  have hbehind : (withToken cmd (front.length + blanks.length)).buf =
      (front ++ blanks) ++ (first :: rest ++ c :: tail) := by
    rw [List.append_assoc]
    exact hbuf
  have hfuel : (first :: rest).length < cmd.buf.length := by
    rw [hbuf]
    simp only [List.length_append, List.length_cons]
    omega
  have hbody := skipBody_eq hbody hc hfuel hbehind
  rw [List.length_append] at hbody
  rw [tokenize_blanks fuel hblanks hfirst hbuf]
  simp only [if_neg hne, if_neg (Nat.not_le.mpr hroom)]
  rw [hbody]
  simp only [List.length_append, Nat.add_assoc]

end Cut

section Rounds

variable {cmd : SerialParsedCommand} {front blanks word rest : List UInt8} {c : UInt8} (fuel : ℕ)
  (hblanks : ∀ d ∈ blanks, isBlank d = true) (hword : IsWord isBlank word) (hnul : 0 ∉ word)
  (hroom : cmd.tokenCount < kSerialMaxTokens)
include hblanks hword hnul hroom

/-- The last word is ended by the NUL of the line, and the loop with it. -/
theorem tokenize_lastWord (hbuf : cmd.buf = front ++ (blanks ++ (word ++ 0 :: rest))) :
    tokenize (fuel + 1) front.length cmd =
      (false, withToken cmd (front.length + blanks.length)) := by
  have hend : (withToken cmd (front.length + blanks.length)).buf =
      (front ++ (blanks ++ word)) ++ 0 :: rest := by
    simp only [hbuf, List.append_assoc]
  rw [tokenize_word fuel hblanks hword hnul hroom hbuf (by simp), endToken_nul hend]
  exact tokenize_nul fuel hend

/-- A word with a blank behind it is cut off, and the loop goes on behind the new NUL. -/
theorem tokenize_cutWord (hc : isBlank c = true)
    (hbuf : cmd.buf = front ++ (blanks ++ (word ++ c :: rest))) :
    tokenize (fuel + 1) front.length cmd =
      tokenize fuel (front ++ (blanks ++ (word ++ [0]))).length
        { cmd with
          buf := (front ++ (blanks ++ (word ++ [0]))) ++ rest
          tokens := cmd.tokens ++ [front.length + blanks.length] } := by
  have hne : c ≠ 0 := by
    rintro rfl
    cases hc
  have hend : (withToken cmd (front.length + blanks.length)).buf =
      (front ++ (blanks ++ word)) ++ c :: rest := by
    simp only [hbuf, List.append_assoc]
  have hnext : front ++ (blanks ++ (word ++ [0])) = (front ++ (blanks ++ word)) ++ [0] := by
    simp only [List.append_assoc]
  rw [tokenize_word fuel hblanks hword hnul hroom hbuf (by rw [hc]; simp), endToken_blank hne hend,
    hnext, List.append_cons _ _ rest]
  simp only [List.length_append, List.length_singleton, Nat.add_assoc]

end Rounds

/-- A round that comes to a word, with no room for a token. -/
theorem tokenize_full {cmd : SerialParsedCommand} {front blanks word tail : List UInt8} (fuel : ℕ)
    (hblanks : ∀ d ∈ blanks, isBlank d = true) (hword : IsWord isBlank word) (hnul : 0 ∉ word)
    (hfull : kSerialMaxTokens ≤ cmd.tokenCount)
    (hbuf : cmd.buf = front ++ (blanks ++ (word ++ tail))) :
    tokenize (fuel + 1) front.length cmd = (true, cmd) := by
  obtain ⟨first, rest, rfl⟩ := List.exists_cons_of_ne_nil hword.1
  have hfirst : isBlank first = false := hword.2 first List.mem_cons_self
  have hne : first ≠ 0 := fun h => hnul (h ▸ List.mem_cons_self)
  rw [tokenize_blanks fuel hblanks hfirst hbuf]
  simp only [if_neg hne, if_pos hfull]

/-! ## All rounds -/

/-- The rest of the line was cut up: the tokens are its words, up to the number of tokens there is
room for, and the loop says whether there are more. -/
def CutsUp (fuel : ℕ) (cmd : SerialParsedCommand) (front rest tail : List UInt8) : Prop :=
  ∃ offsets changed, changed.length = rest.length ∧
    tokenize fuel front.length cmd =
      (decide (kSerialMaxTokens < cmd.tokenCount + (words isBlank rest).length),
        { cmd with buf := front ++ (changed ++ 0 :: tail), tokens := cmd.tokens ++ offsets }) ∧
    List.Forall₂ (HoldsWord (front ++ (changed ++ 0 :: tail))) offsets
      ((words isBlank rest).take (kSerialMaxTokens - cmd.tokenCount))

section Rest

variable {fuel : ℕ} {cmd : SerialParsedCommand} {front rest tail : List UInt8}

/-- Where the loop leaves the buffer as it is, no token is added. -/
theorem cutsUp_of_unchanged (hbuf : cmd.buf = front ++ (rest ++ 0 :: tail))
    (hloop : tokenize fuel front.length cmd =
      (decide (kSerialMaxTokens < cmd.tokenCount + (words isBlank rest).length), cmd))
    (hnone : (words isBlank rest).take (kSerialMaxTokens - cmd.tokenCount) = []) :
    CutsUp fuel cmd front rest tail := by
  have hsame : { cmd with buf := front ++ (rest ++ 0 :: tail), tokens := cmd.tokens ++ [] } = cmd := by
    rw [← hbuf, List.append_nil]
  refine ⟨[], rest, rfl, ?_, ?_⟩
  · rw [hloop, hsame]
  · rw [hnone]
    exact .nil

/-- Only blanks are left. -/
theorem cutsUp_blanks (hblanks : ∀ d ∈ rest, isBlank d = true) (hwords : words isBlank rest = [])
    (hcount : cmd.tokenCount ≤ kSerialMaxTokens) (hbuf : cmd.buf = front ++ (rest ++ 0 :: tail)) :
    CutsUp (fuel + 1) cmd front rest tail := by
  refine cutsUp_of_unchanged hbuf ?_ (by rw [hwords, List.take_nil])
  rw [tokenize_blanks fuel hblanks isBlank_nul hbuf, hwords]
  simp only [if_true, List.length_nil, Nat.add_zero, decide_eq_false (Nat.not_lt.mpr hcount)]

variable {blanks word after : List UInt8} (hblanks : ∀ d ∈ blanks, isBlank d = true)
  (hword : IsWord isBlank word) (hnul : 0 ∉ word)
include hblanks hword hnul

/-- A word is left, and the table is full. -/
theorem cutsUp_full (hrest : rest = blanks ++ (word ++ after)) (hwords : words isBlank rest ≠ [])
    (hfull : kSerialMaxTokens ≤ cmd.tokenCount) (hbuf : cmd.buf = front ++ (rest ++ 0 :: tail)) :
    CutsUp (fuel + 1) cmd front rest tail := by
  have hbehind : cmd.buf = front ++ (blanks ++ (word ++ (after ++ 0 :: tail))) := by
    rw [hbuf, hrest, List.append_assoc, List.append_assoc]
  have hpos := List.length_pos_of_ne_nil hwords
  refine cutsUp_of_unchanged hbuf ?_ (by rw [Nat.sub_eq_zero_of_le hfull, List.take_zero])
  rw [tokenize_full fuel hblanks hword hnul hfull hbehind, decide_eq_true (by omega)]

variable (hroom : cmd.tokenCount < kSerialMaxTokens)
include hroom

/-- A word is left, which the NUL of the line ends. -/
theorem cutsUp_lastWord (hwords : words isBlank (blanks ++ word) = [word])
    (hbuf : cmd.buf = front ++ (blanks ++ word ++ 0 :: tail)) :
    CutsUp (fuel + 1) cmd front (blanks ++ word) tail := by
  have hbehind : cmd.buf = front ++ (blanks ++ (word ++ 0 :: tail)) := by rw [hbuf, List.append_assoc]
  have hlast : List.take (kSerialMaxTokens - cmd.tokenCount) [word] = [word] :=
    List.take_of_length_le (by rw [List.length_singleton]; omega)
  rw [CutsUp, hwords, hlast]
  refine ⟨[front.length + blanks.length], blanks ++ word, rfl, ?_,
    .cons ⟨front ++ blanks, tail, ?_, List.length_append⟩ .nil⟩
  · rw [tokenize_lastWord fuel hblanks hword hnul hroom hbehind, List.length_singleton,
      decide_eq_false (by omega), ← hbuf]
  · simp only [List.append_assoc]

/-- A word is cut off, and the loop goes on behind the NUL that takes the place of the blank. -/
theorem cutsUp_cutWord {c : UInt8} (hc : isBlank c = true)
    (hwords : words isBlank (blanks ++ (word ++ c :: after)) = word :: words isBlank after)
    (hbuf : cmd.buf = front ++ (blanks ++ (word ++ c :: after) ++ 0 :: tail))
    (hcut : CutsUp fuel
      { cmd with
        buf := front ++ (blanks ++ (word ++ [0])) ++ (after ++ 0 :: tail)
        tokens := cmd.tokens ++ [front.length + blanks.length] }
      (front ++ (blanks ++ (word ++ [0]))) after tail) :
    CutsUp (fuel + 1) cmd front (blanks ++ (word ++ c :: after)) tail := by
  have hbehind : cmd.buf = front ++ (blanks ++ (word ++ c :: (after ++ 0 :: tail))) := by
    simp only [hbuf, List.append_assoc, List.cons_append]
  obtain ⟨offsets, changed, hchanged, htokens, hwordsAt⟩ := hcut
  have hbuffer : front ++ (blanks ++ (word ++ [0])) ++ (changed ++ 0 :: tail) =
      front ++ (blanks ++ (word ++ 0 :: changed) ++ 0 :: tail) := by
    simp only [List.append_assoc, List.cons_append, List.nil_append]
  have hcount : (cmd.tokens ++ [front.length + blanks.length]).length = cmd.tokens.length + 1 :=
    List.length_append
  have htake : kSerialMaxTokens - cmd.tokens.length = kSerialMaxTokens - (cmd.tokens.length + 1) + 1 :=
    (Nat.sub_add_cancel (Nat.sub_pos_of_lt hroom)).symm
  rw [hbuffer] at htokens hwordsAt
  simp only [tokenCount, hcount] at htokens hwordsAt
  rw [CutsUp, hwords, tokenCount, htake, List.take_succ_cons]
  refine ⟨(front.length + blanks.length) :: offsets, blanks ++ (word ++ 0 :: changed), ?_, ?_,
    .cons ⟨front ++ blanks, changed ++ 0 :: tail, ?_, List.length_append⟩ hwordsAt⟩
  · simp only [List.length_append, List.length_cons, hchanged]
  · rw [tokenize_cutWord fuel hblanks hword hnul hroom hc hbehind, htokens, List.length_cons,
      Nat.add_assoc, Nat.add_comm 1, List.append_cons cmd.tokens (front.length + blanks.length) offsets]
  · simp only [List.append_assoc, List.cons_append]

end Rest

/-- The loop finds the words in order, up to the number of tokens there is room for. -/
theorem tokenize_eq {fuel : ℕ} {cmd : SerialParsedCommand} {front rest tail : List UInt8}
    (hrest : 0 ∉ rest) (hfuel : rest.length < fuel) (hbuf : cmd.buf = front ++ (rest ++ 0 :: tail))
    (hcount : cmd.tokenCount ≤ kSerialMaxTokens) : CutsUp fuel cmd front rest tail := by
  induction fuel generalizing cmd front rest with
  | zero => exact absurd hfuel (Nat.not_lt_zero _)
  | succ fuel ih =>
    rcases words_cases isBlank rest with ⟨hall, hwords⟩ | ⟨blanks, word, hblanks, hword, hbehind⟩
    · exact cutsUp_blanks hall hwords hcount hbuf
    by_cases hfull : kSerialMaxTokens ≤ cmd.tokenCount
    · rcases hbehind with ⟨rfl, hwords⟩ | ⟨c, after, -, rfl, hwords⟩
      · rw [List.mem_append, not_or] at hrest
        have hend : blanks ++ word = blanks ++ (word ++ []) := by rw [List.append_nil]
        exact cutsUp_full hblanks hword hrest.2 hend (by rw [hwords]; exact List.cons_ne_nil _ _) hfull hbuf
      · rw [List.mem_append, List.mem_append, not_or, not_or] at hrest
        exact cutsUp_full hblanks hword hrest.2.1 rfl (by rw [hwords]; exact List.cons_ne_nil _ _) hfull hbuf
    have hroom : cmd.tokenCount < kSerialMaxTokens := Nat.not_le.mp hfull
    rcases hbehind with ⟨rfl, hwords⟩ | ⟨c, after, hc, rfl, hwords⟩
    · rw [List.mem_append, not_or] at hrest
      exact cutsUp_lastWord hblanks hword hrest.2 hroom hwords hbuf
    · rw [List.mem_append, List.mem_append, List.mem_cons, not_or, not_or, not_or] at hrest
      refine cutsUp_cutWord hblanks hword hrest.2.1 hroom hc hwords hbuf (ih hrest.2.2.2 ?_ rfl ?_)
      · simp only [List.length_append, List.length_cons] at hfuel
        omega
      · rw [tokenCount, List.length_append]
        exact hroom

/-! ## The result -/

/-- What a line is, by its length and its words. -/
def lineResult (line : CString) : SerialParseResult :=
  if kSerialMaxLineLength < line.length then .LineTooLong
  else if words isBlank line = [] then .EmptyLine
  else if (words isBlank line).head? ≠ some (ascii "wm") then .NotACommand
  else if kSerialMaxTokens < (words isBlank line).length then .TooManyTokens
  else .Ok

/-- A word in the buffer is the C string at its offset. -/
theorem HoldsWord.cStringAt_eq {buf : List UInt8} {offset : ℕ} {word : CString}
    (h : HoldsWord buf offset word) (hword : 0 ∉ word) : cStringAt buf offset = word := by
  obtain ⟨before, after, rfl, rfl⟩ := h
  rw [cStringAt, List.drop_left, List.takeWhile_append_of_pos, List.takeWhile_cons_of_neg (by simp),
    List.append_nil]
  intro c hc
  exact bne_iff_ne.mpr fun h => hword (h ▸ hc)

/-- The comparison with a token stays in the buffer. -/
theorem readToken_eq {cmd : SerialParsedCommand} {i : ℕ} {word : CString}
    (h : HoldsWord cmd.buf (cmd.tokens.getD i 0) word) : readToken cmd i = cmd := by
  obtain ⟨before, after, hbuf, hlength⟩ := h
  apply access_of
  rw [hbuf, ← hlength, List.drop_left, List.contains_iff_mem]
  exact List.mem_append_right _ List.mem_cons_self

/-- The first token is the first word. -/
theorem firstToken_eq {parsed : SerialParsedCommand} {word : CString} {rest : List CString}
    (h : List.Forall₂ (HoldsWord parsed.buf) parsed.tokens (word :: rest)) (hnul : 0 ∉ word) :
    parsed.tokenCount ≠ 0 ∧ parsed.token 0 = word ∧ readToken parsed 0 = parsed := by
  obtain ⟨offset, offsets, hword, -, hparsed⟩ := List.forall₂_cons_right_iff.mp h
  have hheld : HoldsWord parsed.buf (parsed.tokens.getD 0 0) word := by
    rw [hparsed]
    exact hword
  refine ⟨?_, hheld.cStringAt_eq hnul, readToken_eq hheld⟩
  rw [tokenCount, hparsed, List.length_cons]
  exact Nat.succ_ne_zero _

/-- What the tokenizer makes of a line that was copied. -/
theorem tokenize_copyLine {line : CString} (hline : 0 ∉ line) {out : SerialParsedCommand}
    (hfits : line.length < out.buf.length) (hin : out.inBounds = true) :
    ∃ parsed : SerialParsedCommand, parsed.inBounds = true ∧ parsed.buf.length = out.buf.length ∧
      tokenize (out.copyLine line).buf.length 0 (out.copyLine line) =
        (decide (kSerialMaxTokens < (words isBlank line).length), parsed) ∧
      List.Forall₂ (HoldsWord parsed.buf) parsed.tokens ((words isBlank line).take kSerialMaxTokens) := by
  have hroom : line.length + 1 ≤ out.buf.length := hfits
  have hcopied : out.copyLine line = ⟨line ++ 0 :: out.buf.drop (line.length + 1), [], true⟩ := by
    rw [copyLine, access_of (decide_eq_true hroom), hin]
  have hbuf : (out.copyLine line).buf = [] ++ (line ++ 0 :: out.buf.drop (line.length + 1)) := by
    rw [hcopied, List.nil_append]
  have hlength : (out.copyLine line).buf.length = out.buf.length := by
    simp only [hcopied, List.length_append, List.length_cons, List.length_drop]
    omega
  have hcount : (out.copyLine line).tokenCount = 0 := by
    rw [hcopied]
    rfl
  obtain ⟨offsets, changed, hchanged, htokens, hwords⟩ :=
    tokenize_eq hline (hlength.symm ▸ hfits) hbuf (hcount ▸ Nat.zero_le _)
  rw [hcount, Nat.zero_add, List.length_nil] at htokens
  rw [hcount, Nat.sub_zero, List.nil_append] at hwords
  refine ⟨_, ?_, ?_, htokens, ?_⟩
  · rw [hcopied]
  · simp only [List.nil_append, List.length_append, List.length_cons, List.length_drop, hchanged]
    omega
  · rw [hcopied]
    exact hwords

/-- The parser's result is what the line is, with no access outside of the output, and a line that
is accepted has its words as tokens. -/
theorem serialCommandParse_eq {line : CString} (hline : 0 ∉ line) {out : SerialParsedCommand}
    (hsize : out.buf.length = kSerialMaxLineLength + 1) (hin : out.inBounds = true) :
    ∃ parsed, serialCommandParse line out = (lineResult line, parsed) ∧ parsed.inBounds = true ∧
      parsed.buf.length = kSerialMaxLineLength + 1 ∧
      (lineResult line = .Ok →
        List.Forall₂ (HoldsWord parsed.buf) parsed.tokens (words isBlank line)) := by
  rw [serialCommandParse, lineResult]
  by_cases hlong : kSerialMaxLineLength < line.length
  · rw [if_pos hlong, if_pos hlong]
    exact ⟨out, rfl, hin, hsize, SerialParseResult.noConfusion⟩
  rw [if_neg hlong, if_neg hlong]
  have hfits : line.length < out.buf.length := by omega
  obtain ⟨parsed, hbounds, hbuf, htokens, hwords⟩ := tokenize_copyLine hline hfits hin
  have hnul : ∀ word ∈ words isBlank line, 0 ∉ word := fun word hword h =>
    hline (mem_of_mem_words hword h)
  refine ⟨parsed, ?_, hbounds, hbuf.trans hsize, ?_⟩
  · simp only [htokens]
    cases hfirst : words isBlank line with
    | nil =>
      rw [hfirst, List.take_nil] at hwords
      rw [tokenCount, List.forall₂_nil_right_iff.mp hwords, List.length_nil, if_pos rfl, if_pos rfl]
    | cons word rest =>
      rw [hfirst] at hwords hnul
      obtain ⟨hcount, htoken, hread⟩ := firstToken_eq hwords (hnul word List.mem_cons_self)
      rw [htoken, hread, if_neg hcount, if_neg (List.cons_ne_nil word rest), List.head?_cons]
      by_cases hwm : word = ascii "wm"
      · by_cases hmany : kSerialMaxTokens < (word :: rest).length
        · rw [if_neg (not_not.mpr hwm), if_pos (decide_eq_true hmany),
            if_neg (not_not.mpr (congrArg some hwm)), if_pos hmany]
        · rw [if_neg (not_not.mpr hwm), if_neg (fun h => hmany (of_decide_eq_true h)),
            if_neg (not_not.mpr (congrArg some hwm)), if_neg hmany]
      · rw [if_pos hwm, if_pos (fun h => hwm (Option.some.inj h))]
  · intro hok
    have hfew : (words isBlank line).length ≤ kSerialMaxTokens := by
      by_contra hmany
      rw [if_pos (Nat.not_le.mp hmany)] at hok
      split_ifs at hok
    rwa [List.take_of_length_le hfew] at hwords

/-- The parser on the line where it lies in memory: what it returns is said by the length and the
words of the line, it reads nothing behind the line and touches nothing outside of the output, and
the tokens of an accepted line are its words. -/
theorem serialCommandParse_words (line : CString) (hline : 0 ∉ line) (out : SerialParsedCommand)
    (hsize : out.buf.length = kSerialMaxLineLength + 1) (hin : out.inBounds = true) :
    ∃ parsed, serialCommandParseIn (terminated line) out = some (lineResult line, parsed) ∧
      parsed.inBounds = true ∧ parsed.buf.length = kSerialMaxLineLength + 1 ∧
      (lineResult line = .Ok →
        List.Forall₂ (HoldsWord parsed.buf) parsed.tokens (words isBlank line)) := by
  obtain ⟨parsed, hparse, hrest⟩ := serialCommandParse_eq hline hsize hin
  exact ⟨parsed, by rw [serialCommandParseIn_terminated hline, hparse], hrest⟩

/-- A line with blanks at both ends and between its words. -/
theorem serialCommandParse_words_led :
    ∃ parsed, serialCommandParseIn (terminated (ascii " wm led\t 5 ")) .zeroed = some (.Ok, parsed) ∧
      parsed.inBounds = true ∧
      List.Forall₂ (HoldsWord parsed.buf) parsed.tokens [ascii "wm", ascii "led", ascii "5"] := by
  have hresult : lineResult (ascii " wm led\t 5 ") = .Ok := by decide
  have hwords : words isBlank (ascii " wm led\t 5 ") = [ascii "wm", ascii "led", ascii "5"] := by rfl
  obtain ⟨parsed, hparse, hin, -, htokens⟩ :=
    serialCommandParse_words (ascii " wm led\t 5 ") (by decide) .zeroed List.length_replicate rfl
  rw [hresult] at hparse
  exact ⟨parsed, hparse, hin, hwords ▸ htokens hresult⟩

end Esp32Wiimote.Serial
