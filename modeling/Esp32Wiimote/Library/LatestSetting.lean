import Esp32Wiimote.Library.TransitionRun

/-!
# The latest setting along a run

Some events of a run set a value, which the state they are taken in and the event
determine. `LatestSets` says that a value was set and no later event set another one.
A recorder that runs beside the system and overwrites its record shows exactly the
value set last.
-/

namespace LatestSetting

open TransitionRun

variable {σ ε α : Type*}

/-- Some event of the run sets the value, and no event after it sets any. -/
def LatestSets (step : σ → ε → σ) (sets : σ → ε → Option α) (s : σ) (events : List ε) (a : α) :
    Prop :=
  ∃ before e after, events = before ++ e :: after ∧ sets (runFrom step s before) e = some a ∧
    EveryStep (fun s e => sets s e = none) step (runFrom step s (before ++ [e])) after

/-- The system with a record of the value set last. -/
def recordStep (step : σ → ε → σ) (sets : σ → ε → Option α) (r : σ × Option α) (e : ε) :
    σ × Option α :=
  (step r.1 e, (sets r.1 e).or r.2)

variable {step : σ → ε → σ} {sets : σ → ε → Option α}

/-- The record does not disturb the system. -/
theorem runFrom_recordStep_fst (r : σ × Option α) (events : List ε) :
    (runFrom (recordStep step sets) r events).1 = runFrom step r.1 events := by
  induction events generalizing r with
  | nil => rfl
  | cons e rest ih => exact ih (recordStep step sets r e)

/-- A condition on a run is one on the run with its record. -/
theorem everyStep_recordStep {P : σ → ε → Prop} (r : σ × Option α) (events : List ε) :
    EveryStep (fun r e => P r.1 e) (recordStep step sets) r events ↔
      EveryStep P step r.1 events := by
  induction events generalizing r with
  | nil => exact Iff.rfl
  | cons e rest ih => exact and_congr_right fun _ => ih (recordStep step sets r e)

/-- A setting behind the first event is a setting of the rest of the run. -/
theorem LatestSets.cons {s : σ} {e : ε} {rest : List ε} {a : α}
    (h : LatestSets step sets (step s e) rest a) : LatestSets step sets s (e :: rest) a := by
  obtain ⟨before, e', after, rfl, hset, hafter⟩ := h
  exact ⟨e :: before, e', after, rfl, hset, hafter⟩

/-- The first event sets the value last exactly when it sets it and nothing follows, and
otherwise the rest of the run decides. -/
theorem latestSets_cons_iff (s : σ) (e : ε) (rest : List ε) (a : α) :
    LatestSets step sets s (e :: rest) a ↔
      LatestSets step sets (step s e) rest a ∨
        sets s e = some a ∧ EveryStep (fun s e => sets s e = none) step (step s e) rest := by
  constructor
  · rintro ⟨before, e', after, heq, hset, hafter⟩
    cases before with
    | nil =>
      obtain ⟨rfl, rfl⟩ := List.cons.inj heq
      exact .inr ⟨hset, hafter⟩
    | cons b before =>
      obtain ⟨rfl, rfl⟩ := List.cons.inj heq
      exact .inl ⟨before, e', after, rfl, hset, hafter⟩
  · rintro (h | ⟨hset, hrest⟩)
    · exact h.cons
    · exact ⟨[], e, rest, rfl, hset, hrest⟩

/-- A record made before the run survives it exactly when no event sets a value. -/
theorem recorded_iff (r : σ × Option α) (events : List ε) (a : α) :
    (runFrom (recordStep step sets) r events).2 = some a ↔
      LatestSets step sets r.1 events a ∨
        r.2 = some a ∧ EveryStep (fun s e => sets s e = none) step r.1 events := by
  induction events generalizing r with
  | nil =>
    have hnone : ¬LatestSets step sets r.1 [] a := by
      rintro ⟨before, e, after, heq, -⟩
      cases before <;> cases heq
    simp [EveryStep, hnone]
  | cons e rest ih =>
    rw [show runFrom (recordStep step sets) r (e :: rest)
      = runFrom (recordStep step sets) (recordStep step sets r e) rest from rfl, ih,
      latestSets_cons_iff]
    cases hset : sets r.1 e with
    | none => simp [recordStep, hset, EveryStep]
    | some b => simp [recordStep, hset, EveryStep]

/-- From an empty record, the record shows the value set last. -/
theorem recorded_iff_latestSets (s : σ) (events : List ε) (a : α) :
    (runFrom (recordStep step sets) (s, none) events).2 = some a ↔
      LatestSets step sets s events a := by
  rw [recorded_iff]
  simp

end LatestSetting
