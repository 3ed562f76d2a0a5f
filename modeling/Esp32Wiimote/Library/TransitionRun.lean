import Mathlib.Data.List.Basic
import Mathlib.Tactic.Common

/-!
# Runs of a deterministic transition system

A system is a step function over states and events, and a run is the list of its
events. `EveryStep` says that each event of a run meets a condition in the state it
is taken in. An invariant that every allowed step preserves holds at the end of
every allowed run, and two conditions that agree under it agree on the run.
-/

namespace TransitionRun

variable {σ ε : Type*}

/-- The state at the end of a run. -/
abbrev runFrom (step : σ → ε → σ) (s : σ) (events : List ε) : σ := events.foldl step s

/-- Every event of the run meets the condition in the state it is taken in. -/
def EveryStep (allowed : σ → ε → Prop) (step : σ → ε → σ) : σ → List ε → Prop
  | _, [] => True
  | s, e :: rest => allowed s e ∧ EveryStep allowed step (step s e) rest

variable {allowed : σ → ε → Prop} {step : σ → ε → σ}

instance EveryStep.decidable [∀ s e, Decidable (allowed s e)] :
    ∀ (s : σ) (events : List ε), Decidable (EveryStep allowed step s events)
  | _, [] => isTrue trivial
  | s, e :: rest =>
    have := EveryStep.decidable (step s e) rest
    inferInstanceAs (Decidable (allowed s e ∧ EveryStep allowed step (step s e) rest))

/-- A run meets the condition exactly when both of its parts do. -/
theorem everyStep_append (s : σ) (first second : List ε) :
    EveryStep allowed step s (first ++ second) ↔
      EveryStep allowed step s first ∧ EveryStep allowed step (runFrom step s first) second := by
  induction first generalizing s with
  | nil => simp [EveryStep]
  | cons e rest ih => simp [EveryStep, ih, and_assoc]

/-- The condition on a run, stated at each position of the run. -/
theorem everyStep_iff (s : σ) (events : List ε) :
    EveryStep allowed step s events ↔
      ∀ before e after, events = before ++ e :: after → allowed (runFrom step s before) e := by
  constructor
  · rintro h before e after rfl
    exact ((everyStep_append s before (e :: after)).mp h).2.1
  · intro h
    induction events generalizing s with
    | nil => trivial
    | cons e rest ih =>
      refine ⟨h [] e rest rfl, ih (step s e) fun before e' after heq => ?_⟩
      exact h (e :: before) e' after (by rw [heq]; rfl)

/-- An invariant kept by every allowed step holds at the end of every allowed run. -/
theorem invariant_runFrom {I : σ → Prop} (hstep : ∀ s e, I s → allowed s e → I (step s e))
    {s : σ} {events : List ε} (hs : I s) (hrun : EveryStep allowed step s events) :
    I (runFrom step s events) := by
  induction events generalizing s with
  | nil => exact hs
  | cons e rest ih => exact ih (hstep s e hs hrun.1) hrun.2

/-- Two conditions that agree on the events of a run, under an invariant, agree on the run. -/
theorem everyStep_congr {I : σ → Prop} {P Q : σ → ε → Prop} {s : σ} {events : List ε}
    (hstep : ∀ s, ∀ e ∈ events, I s → I (step s e))
    (hPQ : ∀ s, ∀ e ∈ events, I s → (P s e ↔ Q s e)) (hs : I s) :
    EveryStep P step s events ↔ EveryStep Q step s events := by
  induction events generalizing s with
  | nil => exact Iff.rfl
  | cons e rest ih =>
    refine and_congr (hPQ s e List.mem_cons_self hs) (ih (fun s e' he => ?_) (fun s e' he => ?_) ?_)
    · exact hstep s e' (List.mem_cons_of_mem e he)
    · exact hPQ s e' (List.mem_cons_of_mem e he)
    · exact hstep s e List.mem_cons_self hs

/-- Where a property of a step gives the invariant again and under the invariant is exactly the
condition, a run has the property at each step exactly when it meets the condition. What every step
keeps anyway may be used for this. -/
theorem everyStep_property_iff {I J : σ → Prop} {P : σ → ε → Prop} {s : σ} {events : List ε}
    (hkept : ∀ s, ∀ e ∈ events, J s → J (step s e)) (hP : ∀ s e, P s e → I (step s e))
    (hstep : ∀ s, ∀ e ∈ events, J s → I s → (P s e ↔ allowed s e)) (hJ : J s) (hI : I s) :
    EveryStep P step s events ↔ EveryStep allowed step s events := by
  induction events generalizing s with
  | nil => exact Iff.rfl
  | cons e rest ih =>
    have hhere := hstep s e List.mem_cons_self hJ hI
    have hJ' := hkept s e List.mem_cons_self hJ
    have hrest := ih (fun s e' he => hkept s e' (List.mem_cons_of_mem e he))
      (fun s e' he => hstep s e' (List.mem_cons_of_mem e he)) hJ'
    constructor
    · intro h
      exact ⟨hhere.mp h.1, (hrest (hP s e h.1)).mp h.2⟩
    · intro h
      have hhere' := hhere.mpr h.1
      exact ⟨hhere', (hrest (hP s e hhere')).mpr h.2⟩

/-- Where the condition on a step is exactly that it keeps the invariant, a run meets the
condition exactly when the invariant holds after each of its steps. -/
theorem everyStep_invariant_iff {I J : σ → Prop} {s : σ} {events : List ε}
    (hkept : ∀ s, ∀ e ∈ events, J s → J (step s e))
    (hstep : ∀ s, ∀ e ∈ events, J s → I s → (I (step s e) ↔ allowed s e)) (hJ : J s) (hI : I s) :
    EveryStep (fun s e => I (step s e)) step s events ↔ EveryStep allowed step s events :=
  everyStep_property_iff hkept (fun _ _ => id) hstep hJ hI

/-- The unconditional form of the invariant rule. -/
theorem invariant_of_step {I : σ → Prop} (hstep : ∀ s e, I s → I (step s e)) {s : σ} (hs : I s)
    (events : List ε) : I (runFrom step s events) := by
  induction events generalizing s with
  | nil => exact hs
  | cons e rest ih => exact ih (hstep s e hs)

/-- Events that change nothing can be left out of a run. -/
theorem runFrom_of_ignored {s : σ} {events : List ε} (h : ∀ e ∈ events, step s e = s) :
    runFrom step s events = s := by
  induction events with
  | nil => rfl
  | cons e rest ih =>
    rw [runFrom, List.foldl_cons, h e List.mem_cons_self]
    exact ih fun e' he => h e' (List.mem_cons_of_mem e he)

/-- What is observed of a run is a run of the observed system, where each step is one. -/
theorem runFrom_observed {τ : Type*} {observe : σ → τ} {step' : τ → ε → τ} {I : σ → Prop}
    (hkept : ∀ s e, I s → I (step s e)) (hstep : ∀ s e, I s → observe (step s e) = step' (observe s) e)
    {s : σ} (hs : I s) (events : List ε) :
    observe (runFrom step s events) = runFrom step' (observe s) events := by
  induction events generalizing s with
  | nil => rfl
  | cons e rest ih =>
    rw [runFrom, List.foldl_cons, runFrom, List.foldl_cons, ← hstep s e hs]
    exact ih (hkept s e hs)

end TransitionRun
