import Esp32Wiimote.Library.TerminatedText
import Esp32Wiimote.Web.Auth

/-!
# The language of accepted headers

The scanning loops of the authentication read both strings where they lie in memory. On strings that
end with a NUL they read no further, and what they accept is blanks, the scheme in any case, a space,
blanks, and the token up to the end.
-/

namespace Esp32Wiimote.Web

open CText TerminatedText

/-! ## The loops in memory -/

/-- The characters that `trimLeading` passes. -/
def isTrimmed (c : UInt8) : Bool := c == 0x20 || c == 0x09

/-- `trimLeading` on a string where it lies in memory. -/
def trimLeadingIn (str : List UInt8) : Option (List UInt8) := skipWhile isTrimmed str

/-- `startsWithCaseInsensitive` on strings where they lie in memory. -/
def startsWithCaseInsensitiveIn : (str prefixText : List UInt8) → Option Bool
  | _, [] => none
  | [], kPrefixChar :: _ => if kPrefixChar = 0 then some true else none
  | s :: str, kPrefixChar :: rest =>
    if kPrefixChar = 0 then some true
    else if tolower s ≠ kPrefixChar then some false
    else startsWithCaseInsensitiveIn str rest

/-- `webAuthValidateBearer` on strings where they lie in memory. -/
def webAuthValidateBearerIn (authHeaderValue wifiApiToken : Option (List UInt8)) :
    Option WebAuthResult :=
  match authHeaderValue, wifiApiToken with
  | none, _ => some .MissingHeader
  | some _, none => some .InvalidCredentials
  | some header, some wifiApiToken => do
    let trimmed ← trimLeadingIn header
    let bearer ← startsWithCaseInsensitiveIn trimmed (terminated (ascii "bearer "))
    if bearer then
      let token ← trimLeadingIn (trimmed.drop 7)
      let equal ← strcmpEqual token wifiApiToken
      some (if equal then .Ok else .InvalidCredentials)
    else some .UnsupportedScheme

/-- `webAuthValidate` on strings where they lie in memory. -/
def webAuthValidateIn (authHeaderValue wifiApiToken : Option (List UInt8)) : Option WebAuthResult :=
  match authHeaderValue with
  | none => some .MissingHeader
  | some header => do
    let trimmed ← trimLeadingIn header
    let first ← trimmed.head?
    if first = 0 then some .MissingHeader
    else webAuthValidateBearerIn (some header) wifiApiToken

/-- On a terminated text trimming in memory is trimming the text. -/
theorem trimLeadingIn_terminated (text : CString) :
    trimLeadingIn (terminated text) = some (terminated (trimLeading text)) :=
  skipWhile_terminated rfl text

/-- The comparison with the prefix ends at the NUL of the text at the latest. -/
theorem startsWithCaseInsensitiveIn_terminated (text : CString) {p : CString} (hp : 0 ∉ p) :
    startsWithCaseInsensitiveIn (terminated text) (terminated p) =
      some (startsWithCaseInsensitive text p) := by
  induction p generalizing text with
  | nil => cases text <;> rfl
  | cons c p ih =>
    rw [List.mem_cons, not_or] at hp
    have hc : c ≠ 0 := Ne.symm hp.1
    cases text with
    | nil =>
      change (if c = 0 then some true else if tolower 0 ≠ c then some false
        else startsWithCaseInsensitiveIn [] (terminated p)) = _
      have hnul : tolower 0 ≠ c := hp.1
      rw [if_neg hc, if_pos hnul]
      rfl
    | cons d text =>
      change (if c = 0 then some true else if tolower d ≠ c then some false
        else startsWithCaseInsensitiveIn (terminated text) (terminated p)) = _
      rw [if_neg hc, startsWithCaseInsensitive]
      by_cases hd : tolower d = c
      · rw [if_neg (not_not.mpr hd), ih text hp.2, beq_iff_eq.mpr hd, Bool.true_and]
      · rw [if_pos hd, beq_eq_false_iff_ne.mpr hd, Bool.false_and]

/-- The text behind the scheme is in the same object. -/
theorem drop_terminated {text : CString} {count : ℕ} (h : count ≤ text.length) :
    (terminated text).drop count = terminated (text.drop count) :=
  List.drop_append_of_le_length h

/-- A text is at least as long as its prefix. -/
theorem length_le_of_startsWithCaseInsensitive {text p : CString}
    (h : startsWithCaseInsensitive text p = true) : p.length ≤ text.length := by
  induction p generalizing text with
  | nil => exact Nat.zero_le _
  | cons c p ih =>
    cases text with
    | nil => cases h
    | cons d text =>
      rw [startsWithCaseInsensitive, Bool.and_eq_true] at h
      exact Nat.succ_le_succ (ih h.2)

/-- Trimming adds no NUL. -/
theorem not_mem_trimLeading {text : CString} (h : 0 ∉ text) : 0 ∉ trimLeading text :=
  fun hmem => h ((List.dropWhile_suffix _).subset hmem)

/-- On terminated texts the check in memory is the check on texts. -/
theorem webAuthValidateBearerIn_terminated {header token : CString} (hheader : 0 ∉ header)
    (htoken : 0 ∉ token) :
    webAuthValidateBearerIn (some (terminated header)) (some (terminated token)) =
      some (webAuthValidateBearer (some header) (some token)) := by
  have hscheme : 0 ∉ ascii "bearer " := by decide
  have hseven : (ascii "bearer ").length = 7 := by decide
  rw [webAuthValidateBearerIn, webAuthValidateBearer]
  simp only [trimLeadingIn_terminated, startsWithCaseInsensitiveIn_terminated _ hscheme,
    Option.bind_eq_bind, Option.bind_some]
  split
  · rename_i hbearer
    have hlength := length_le_of_startsWithCaseInsensitive hbearer
    rw [hseven] at hlength
    have hrest : 0 ∉ (trimLeading header).drop 7 := fun hmem =>
      not_mem_trimLeading hheader (List.mem_of_mem_drop hmem)
    rw [drop_terminated hlength, trimLeadingIn_terminated, Option.bind_some,
      strcmpEqual_terminated (not_mem_trimLeading hrest) htoken, Option.bind_some]
    simp only [decide_eq_true_eq]
  · rfl

/-- The authentication of NUL-terminated strings reads no further than their NULs. -/
theorem webAuthValidateIn_terminated {header token : CString} (hheader : 0 ∉ header)
    (htoken : 0 ∉ token) :
    webAuthValidateIn (some (terminated header)) (some (terminated token)) =
      some (webAuthValidate (some header) (some token)) := by
  rw [webAuthValidateIn, webAuthValidate]
  simp only [trimLeadingIn_terminated, Option.bind_eq_bind, Option.bind_some]
  cases htrimmed : trimLeading header with
  | nil => rfl
  | cons c rest =>
    have hc : c ≠ 0 := by
      rintro rfl
      exact not_mem_trimLeading hheader (htrimmed ▸ List.mem_cons_self)
    change (if c = 0 then some .MissingHeader
      else webAuthValidateBearerIn (some (terminated header)) (some (terminated token))) = _
    rw [if_neg hc, if_neg (List.cons_ne_nil c rest), webAuthValidateBearerIn_terminated hheader htoken]

/-! ## The grammar -/

/-- Blanks, the scheme in any mix of cases, one space, blanks, and the token up to the end. -/
def IsBearerHeader (token header : CString) : Prop :=
  ∃ before scheme between, header = before ++ (scheme ++ 0x20 :: (between ++ token)) ∧
    (∀ c ∈ before, isTrimmed c = true) ∧ scheme.map tolower = ascii "bearer" ∧
    ∀ c ∈ between, isTrimmed c = true

/-- What is left of a text behind its leading blanks. -/
theorem trimLeading_eq_iff {text rest : CString} (hrest : ∀ c ∈ rest.head?, isTrimmed c = false) :
    trimLeading text = rest ↔ ∃ before, (∀ c ∈ before, isTrimmed c = true) ∧ text = before ++ rest := by
  constructor
  · rintro rfl
    exact ⟨text.takeWhile isTrimmed, fun c => List.mem_takeWhile_imp,
      (List.takeWhile_append_dropWhile (p := isTrimmed)).symm⟩
  · rintro ⟨before, hbefore, rfl⟩
    change (before ++ rest).dropWhile isTrimmed = rest
    rw [List.dropWhile_append_of_pos hbefore]
    cases rest with
    | nil => rfl
    | cons c rest =>
      rw [List.dropWhile_cons_of_neg]
      rw [hrest c rfl]
      exact Bool.false_ne_true

/-- A text starts so exactly when its front is the prefix in small letters. -/
theorem startsWithCaseInsensitive_iff {text p : CString} :
    startsWithCaseInsensitive text p = true ↔ ∃ front rest, text = front ++ rest ∧ front.map tolower = p := by
  induction p generalizing text with
  | nil =>
    refine iff_of_true (by unfold startsWithCaseInsensitive; rfl) ⟨[], text, rfl, rfl⟩
  | cons c p ih =>
    cases text with
    | nil =>
      refine iff_of_false Bool.false_ne_true ?_
      rintro ⟨front, rest, happend, hmap⟩
      rw [(List.append_eq_nil_iff.mp happend.symm).1] at hmap
      cases hmap
    | cons d text =>
      rw [startsWithCaseInsensitive, Bool.and_eq_true, beq_iff_eq, ih]
      constructor
      · rintro ⟨rfl, front, rest, rfl, rfl⟩
        exact ⟨d :: front, rest, rfl, rfl⟩
      · rintro ⟨front, rest, happend, hmap⟩
        cases front with
        | nil => cases hmap
        | cons e front =>
          obtain ⟨rfl, rfl⟩ := List.cons.inj happend
          obtain ⟨hd, hfront⟩ := List.cons.inj hmap
          exact ⟨hd, front, rest, rfl, hfront⟩

/-- No letter becomes a space. -/
theorem eq_space_of_tolower {c : UInt8} (h : tolower c = 0x20) : c = 0x20 := by
  unfold tolower at h
  split at h
  · rename_i hupper
    rw [Bool.and_eq_true, decide_eq_true_eq, decide_eq_true_eq, UInt8.le_iff_toNat_le,
      UInt8.le_iff_toNat_le] at hupper
    have hsum := congrArg UInt8.toNat h
    rw [UInt8.toNat_add] at hsum
    simp at hupper hsum
    omega
  · exact h

/-- The prefix is the scheme in any mix of cases, and a space. -/
theorem startsWithCaseInsensitive_bearer_iff {text : CString} :
    startsWithCaseInsensitive text (ascii "bearer ") = true ↔
      ∃ scheme rest, text = scheme ++ 0x20 :: rest ∧ scheme.map tolower = ascii "bearer" := by
  have hsplit : ascii "bearer " = ascii "bearer" ++ [0x20] := by decide
  rw [startsWithCaseInsensitive_iff]
  constructor
  · rintro ⟨front, rest, rfl, hmap⟩
    rw [hsplit] at hmap
    obtain ⟨scheme, space, rfl, hscheme, hspace⟩ := List.map_eq_append_iff.mp hmap
    obtain ⟨c, rfl, hc⟩ := List.map_eq_singleton_iff.mp hspace
    refine ⟨scheme, rest, ?_, hscheme⟩
    rw [eq_space_of_tolower hc, List.append_assoc, List.singleton_append]
  · rintro ⟨scheme, rest, rfl, hscheme⟩
    refine ⟨scheme ++ [0x20], rest, by rw [List.append_assoc, List.singleton_append], ?_⟩
    rw [List.map_append, hscheme, hsplit]
    rfl

/-- The scheme begins with a letter. -/
theorem scheme_head {scheme rest : CString} (h : scheme.map tolower = ascii "bearer") :
    ∀ c ∈ (scheme ++ rest).head?, isTrimmed c = false := by
  cases scheme with
  | nil => cases h
  | cons d scheme =>
    rintro c ⟨⟩
    have hd : tolower d = 0x62 := (List.cons.inj h).1
    by_contra htrimmed
    rw [Bool.not_eq_false, isTrimmed, Bool.or_eq_true, beq_iff_eq, beq_iff_eq] at htrimmed
    rcases htrimmed with rfl | rfl <;> exact absurd hd (by decide)

/-- What the authentication checks, as one condition on the trimmed header. -/
theorem webAuthValidate_ok_iff {header token : CString} :
    webAuthValidate (some header) (some token) = .Ok ↔
      startsWithCaseInsensitive (trimLeading header) (ascii "bearer ") = true ∧
        trimLeading ((trimLeading header).drop 7) = token := by
  rw [webAuthValidate]
  by_cases hempty : trimLeading header = []
  · rw [if_pos hempty, hempty]
    refine iff_of_false WebAuthResult.noConfusion fun h => ?_
    cases h.1
  · rw [if_neg hempty, webAuthValidateBearer]
    by_cases hbearer : startsWithCaseInsensitive (trimLeading header) (ascii "bearer ") = true
    · rw [if_pos hbearer]
      by_cases htoken : trimLeading ((trimLeading header).drop 7) = token
      · exact iff_of_true (if_pos htoken) ⟨hbearer, htoken⟩
      · rw [if_neg htoken]
        exact iff_of_false WebAuthResult.noConfusion fun h => htoken h.2
    · rw [if_neg hbearer]
      exact iff_of_false WebAuthResult.noConfusion fun h => hbearer h.1

/-- The check accepts the bearer headers of the token and no others. -/
theorem webAuthValidate_iff_isBearerHeader {header token : CString}
    (htoken : ∀ c ∈ token.head?, isTrimmed c = false) :
    webAuthValidate (some header) (some token) = .Ok ↔ IsBearerHeader token header := by
  have hlength {scheme : CString} (h : scheme.map tolower = ascii "bearer") : scheme.length = 6 := by
    rw [← List.length_map tolower, h]
    rfl
  have hdrop {scheme rest : CString} (h : scheme.map tolower = ascii "bearer") :
      (scheme ++ 0x20 :: rest).drop 7 = rest := by
    rw [List.append_cons, List.drop_left' (by rw [List.length_append, hlength h]; rfl)]
  rw [webAuthValidate_ok_iff, startsWithCaseInsensitive_bearer_iff]
  constructor
  · rintro ⟨⟨scheme, rest, hrest, hscheme⟩, hbehind⟩
    rw [hrest, hdrop hscheme] at hbehind
    obtain ⟨before, hbefore, hheader⟩ := (trimLeading_eq_iff (scheme_head hscheme)).mp hrest
    obtain ⟨between, hbetween, rfl⟩ := (trimLeading_eq_iff htoken).mp hbehind
    exact ⟨before, scheme, between, hheader, hbefore, hscheme, hbetween⟩
  · rintro ⟨before, scheme, between, hheader, hbefore, hscheme, hbetween⟩
    have htrimmed := (trimLeading_eq_iff (scheme_head hscheme)).mpr ⟨before, hbefore, hheader⟩
    rw [htrimmed, hdrop hscheme]
    exact ⟨⟨scheme, _, rfl, hscheme⟩, (trimLeading_eq_iff htoken).mpr ⟨between, hbetween, rfl⟩⟩

/-- The authentication of NUL-terminated strings reads neither of them past its NUL, and accepts the
headers of the grammar. -/
theorem webAuthValidateIn_grammar (header token : CString) (hheader : 0 ∉ header) (htoken : 0 ∉ token)
    (hfirst : ∀ c ∈ token.head?, isTrimmed c = false) :
    ∃ result, webAuthValidateIn (some (terminated header)) (some (terminated token)) = some result ∧
      (result = .Ok ↔ IsBearerHeader token header) :=
  ⟨_, webAuthValidateIn_terminated hheader htoken, webAuthValidate_iff_isBearerHeader hfirst⟩

/-- A header with blanks in front of the scheme and of the token. -/
theorem webAuthValidateIn_grammar_secret :
    ∃ result, webAuthValidateIn (some (terminated (ascii "\tBEARER  secret")))
        (some (terminated (ascii "secret"))) = some result ∧
      (result = .Ok ↔ IsBearerHeader (ascii "secret") (ascii "\tBEARER  secret")) :=
  webAuthValidateIn_grammar (ascii "\tBEARER  secret") (ascii "secret") (by decide) (by decide)
    fun c hc => by
      obtain rfl : 0x73 = c := Option.some.inj hc
      rfl

end Esp32Wiimote.Web
