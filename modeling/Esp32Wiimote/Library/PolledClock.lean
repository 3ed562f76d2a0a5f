import Esp32Wiimote.Library.TransitionRun
import Esp32Wiimote.Library.WrappingClock

/-!
# A system that polls a wrapping clock

The real time runs along with a system, and each of its events is stamped with the reading of the
clock. Some of the events are polls. Where a poll never comes later than a given gap behind the
one before it, and the gap and a length of time together fit in one turn of the clock, a poll that
has seen the length not to be over knows it: no whole turn is missed.
-/

namespace PolledClock

open TransitionRun WrappingClock

variable {σ ε : Type*}

/-- A system at a real time, with the real time of the latest poll. -/
structure Timed (σ : Type*) where
  now : ℕ
  polled : ℕ
  state : σ

/-- How the events of a system are stamped with a reading, and which of them poll. -/
structure Clock (ε : Type*) where
  stamp : UInt32 → ε → ε
  polls : ε → Bool

variable (clock : Clock ε) (step : σ → ε → σ)

/-- Some time passes, and the event happens. -/
def timedStep (s : Timed σ) (e : ℕ × ε) : Timed σ where
  now := s.now + e.1
  polled := if clock.polls e.2 then s.now + e.1 else s.polled
  state := step s.state (clock.stamp (reading (s.now + e.1)) e.2)

/-- The event comes at most the gap behind the latest poll. -/
def Punctual (gap : ℕ) (s : Timed σ) (e : ℕ × ε) : Prop := s.now + e.1 ≤ s.polled + gap

/-- A condition on the stamped event, in the state it is taken in. -/
def AtTime (allowed : σ → ε → Prop) (s : Timed σ) (e : ℕ × ε) : Prop :=
  allowed s.state (clock.stamp (reading (s.now + e.1)) e.2)

instance (allowed : σ → ε → Prop) [∀ s e, Decidable (allowed s e)] (s : Timed σ) (e : ℕ × ε) :
    Decidable (AtTime clock allowed s e) :=
  inferInstanceAs (Decidable (allowed _ _))

instance (gap : ℕ) (s : Timed σ) (e : ℕ × ε) : Decidable (Punctual gap s e) :=
  inferInstanceAs (Decidable (_ ≤ _))

variable {clock step} {gap : ℕ} {s : Timed σ}

/-- The time of the latest poll stays past, and stays recent. -/
theorem Punctual.polled {e : ℕ × ε} (he : Punctual gap s e) (hs : s.polled ≤ s.now) :
    (timedStep clock step s e).polled ≤ (timedStep clock step s e).now ∧
      (timedStep clock step s e).now ≤ (timedStep clock step s e).polled + gap := by
  change s.now + e.1 ≤ s.polled + gap at he
  change (if clock.polls e.2 then s.now + e.1 else s.polled) ≤ s.now + e.1 ∧
    s.now + e.1 ≤ (if clock.polls e.2 then s.now + e.1 else s.polled) + gap
  split <;> omega

/-- A poll in time reads the elapsed time right as far as the length is concerned. -/
theorem elapsed_lt_iff_of_polled {start polled t length : ℕ} (hstart : start ≤ polled)
    (hpolled : polled < start + length) (hnow : polled ≤ t) (hpunctual : t ≤ polled + gap)
    (hlength : length < 2 ^ 32) (hturn : gap + length ≤ 2 ^ 32) :
    reading t - reading start < UInt32.ofNat length ↔ t < start + length := by
  rw [elapsed_lt_iff (hstart.trans hnow) hlength]
  rw [Nat.mod_eq_of_lt (by omega)]
  omega

end PolledClock
