import Esp32Wiimote.Library.CText

/-!
# The serial unlock session

The session keeps the token that unlocks it, and the start and the length of the
current unlock in 32-bit milliseconds of the device clock.
-/

namespace Esp32Wiimote.Serial

open CText

/-- A null token pointer is `none`. -/
structure SerialCommandSession where
  token : Option CString
  unlockedAtMs : UInt32
  unlockDurationMs : UInt32
  unlocked : Bool
  deriving DecidableEq, Repr

namespace SerialCommandSession

/-- A session without a token, locked. -/
def initial : SerialCommandSession := ⟨none, 0, 0, false⟩

/-- Sets the token; a session that is unlocked stays so. -/
def setToken (session : SerialCommandSession) (token : Option CString) : SerialCommandSession :=
  { session with token := token }

/-- Compared with the session's own; without one no token is valid. -/
def validateToken (session : SerialCommandSession) (token : Option CString) : Bool :=
  match session.token, token with
  | some expected, some given => given == expected
  | _, _ => false

/-- The session is locked at once. -/
def lock (session : SerialCommandSession) : SerialCommandSession :=
  { session with unlocked := false, unlockedAtMs := 0, unlockDurationMs := 0 }

/-- A duration of zero locks the session. -/
def unlock (session : SerialCommandSession) (durationMs nowMs : UInt32) : SerialCommandSession :=
  if durationMs = 0 then session.lock
  else { session with unlocked := true, unlockedAtMs := nowMs, unlockDurationMs := durationMs }

/-- The difference of the 32-bit clock is compared. -/
def isUnlocked (session : SerialCommandSession) (nowMs : UInt32) : Bool :=
  if !session.unlocked then false
  else nowMs - session.unlockedAtMs < session.unlockDurationMs

/-- A session that was locked is not unlocked. -/
@[simp] theorem lock_isUnlocked (session : SerialCommandSession) (nowMs : UInt32) :
    session.lock.isUnlocked nowMs = false := rfl

/-- Unlocking keeps the token. -/
@[simp] theorem unlock_token (session : SerialCommandSession) (durationMs nowMs : UInt32) :
    (session.unlock durationMs nowMs).token = session.token := by
  unfold unlock
  split <;> rfl

/-- A session just unlocked is unlocked for the length of the unlock, on the device clock. -/
theorem unlock_isUnlocked (session : SerialCommandSession) (durationMs startMs nowMs : UInt32) :
    (session.unlock durationMs startMs).isUnlocked nowMs = decide (nowMs - startMs < durationMs) := by
  unfold unlock
  by_cases hzero : durationMs = 0
  · rw [if_pos hzero, lock_isUnlocked, hzero]
    exact (decide_eq_false UInt32.not_lt_zero).symm
  · rw [if_neg hzero]
    rfl

/-- A null token, on either side, unlocks nothing. -/
theorem validateToken_iff (session : SerialCommandSession) (token : Option CString) :
    session.validateToken token = true ↔ ∃ t, session.token = some t ∧ token = some t := by
  unfold validateToken
  cases session.token with
  | none => simp
  | some expected =>
    cases token with
    | none => simp
    | some given =>
      constructor
      · intro h
        exact ⟨expected, rfl, congrArg some (eq_of_beq h)⟩
      · rintro ⟨t, hexpected, hgiven⟩
        rw [Option.some.inj hexpected, Option.some.inj hgiven]
        exact beq_self_eq_true t

end SerialCommandSession

end Esp32Wiimote.Serial
