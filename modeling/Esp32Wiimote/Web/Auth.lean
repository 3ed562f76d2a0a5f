import Esp32Wiimote.Library.CText

/-!
# Bearer authentication

An Authorization header is accepted when, behind leading blanks, it is the scheme
`Bearer` in any case, a space, further blanks, and exactly the configured token.
-/

namespace Esp32Wiimote.Web

open CText

/-- The results of the check. -/
inductive WebAuthResult
  | Ok
  | MissingHeader
  | MalformedHeader
  | UnsupportedScheme
  | InvalidCredentials
  deriving DecidableEq, Repr

/-- Blanks and tabs in front are skipped. -/
def trimLeading (str : CString) : CString := str.dropWhile fun c => c == 0x20 || c == 0x09

/-- The text starts with the prefix, whose letters are lower case. -/
def startsWithCaseInsensitive : CString → CString → Bool
  | _, [] => true
  | [], _ :: _ => false
  | c :: str, p :: rest => tolower c == p && startsWithCaseInsensitive str rest

/-- The scheme in any case, then the token. -/
def webAuthValidateBearer (authHeaderValue wifiApiToken : Option CString) : WebAuthResult :=
  match authHeaderValue, wifiApiToken with
  | none, _ => .MissingHeader
  | some _, none => .InvalidCredentials
  | some header, some token =>
    let trimmed := trimLeading header
    if startsWithCaseInsensitive trimmed (ascii "bearer ") then
      if trimLeading (trimmed.drop 7) = token then .Ok else .InvalidCredentials
    else .UnsupportedScheme

/-- An empty header is a missing one. -/
def webAuthValidate (authHeaderValue wifiApiToken : Option CString) : WebAuthResult :=
  match authHeaderValue with
  | none => .MissingHeader
  | some header =>
    if trimLeading header = [] then .MissingHeader
    else webAuthValidateBearer (some header) wifiApiToken

/-- Without a token no header is accepted. -/
theorem webAuthValidate_none (authHeaderValue : Option CString) :
    webAuthValidate authHeaderValue none ≠ .Ok := by
  unfold webAuthValidate
  split
  · decide
  · split
    · decide
    · exact WebAuthResult.noConfusion

/-! ## Which token a header carries -/

/-- The header that presents a token. -/
def bearerHeader (token : CString) : CString := ascii "Bearer " ++ token

/-- A prefix of a text is one of every longer text. -/
theorem startsWithCaseInsensitive_append {str rest : CString} {p : CString}
    (h : startsWithCaseInsensitive str p = true) :
    startsWithCaseInsensitive (str ++ rest) p = true := by
  induction p generalizing str with
  | nil => unfold startsWithCaseInsensitive; rfl
  | cons c p ih =>
    cases str with
    | nil => exact Bool.noConfusion h
    | cons d str =>
      rw [startsWithCaseInsensitive, Bool.and_eq_true] at h
      rw [List.cons_append, startsWithCaseInsensitive, Bool.and_eq_true]
      exact ⟨h.1, ih h.2⟩

/-- A header is accepted where what it carries behind the blanks is the configured token. -/
theorem webAuthValidate_bearerHeader_iff (token wifiApiToken : CString) :
    webAuthValidate (some (bearerHeader token)) (some wifiApiToken) = .Ok ↔
      trimLeading token = wifiApiToken := by
  have hheader : trimLeading (bearerHeader token) = bearerHeader token := rfl
  have hscheme : startsWithCaseInsensitive (bearerHeader token) (ascii "bearer ") = true :=
    startsWithCaseInsensitive_append (by decide +kernel)
  have htoken : (bearerHeader token).drop 7 = token := rfl
  have hnonempty : bearerHeader token ≠ [] := List.cons_ne_nil _ _
  unfold webAuthValidate webAuthValidateBearer
  dsimp only
  rw [hheader, if_neg hnonempty, if_pos hscheme, htoken]
  split
  · rename_i heq
    exact iff_of_true rfl heq
  · rename_i hne
    exact iff_of_false WebAuthResult.noConfusion hne

/-- A token without leading blanks is accepted where it is the configured one. -/
theorem webAuthValidate_bearerHeader {token : CString} (htrim : trimLeading token = token)
    (wifiApiToken : CString) :
    webAuthValidate (some (bearerHeader token)) (some wifiApiToken) = .Ok ↔ token = wifiApiToken := by
  rw [webAuthValidate_bearerHeader_iff, htrim]

/-- Two tokens, either of which may be missing, accept the same headers exactly when they are the
same token. -/
theorem webAuthValidate_agree_iff {held effective : Option CString}
    (heffective : ∀ token ∈ effective, trimLeading token = token)
    (hheld : effective = none → ∀ token ∈ held, trimLeading token = token) :
    (∀ authHeaderValue, webAuthValidate authHeaderValue held = .Ok ↔
        ∃ token, effective = some token ∧ webAuthValidate authHeaderValue (some token) = .Ok) ↔
      held = effective := by
  constructor
  · intro hagree
    cases effective with
    | some token =>
      have hself := webAuthValidate_bearerHeader (heffective token rfl) token
      have haccepted := (hagree (bearerHeader token)).mpr ⟨token, rfl, hself.mpr rfl⟩
      cases held with
      | none => exact absurd haccepted (webAuthValidate_none _)
      | some other =>
        rw [webAuthValidate_bearerHeader (heffective token rfl) other] at haccepted
        rw [haccepted]
    | none =>
      cases held with
      | none => rfl
      | some other =>
        have hself := webAuthValidate_bearerHeader (hheld rfl other rfl) other
        obtain ⟨token, hnone, -⟩ := (hagree (bearerHeader other)).mp (hself.mpr rfl)
        exact absurd hnone.symm (Option.some_ne_none token)
  · rintro rfl authHeaderValue
    cases held with
    | none => exact iff_of_false (webAuthValidate_none _) nofun
    | some token =>
      constructor
      · intro haccepted
        exact ⟨token, rfl, haccepted⟩
      · rintro ⟨token', heq, haccepted⟩
        rwa [heq]

end Esp32Wiimote.Web
