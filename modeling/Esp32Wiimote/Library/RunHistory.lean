import Esp32Wiimote.Library.TransitionRun
import Mathlib.Data.List.Forall2

/-!
# What a state says of the run that led to it

A state is believed to stand for a past: certain events occurred in the run, in a certain order. A
list of conditions is heard when events that meet them occur in this order, with anything in
between, and it is heard since a stop when no stopping event occurred from the first of them on.
A property of a run together with the state it leads to is kept step by step, the run growing at
its end.
-/

namespace RunHistory

open TransitionRun

variable {σ ε : Type*}

/-- Events that meet the conditions occur in this order, with anything in between. -/
def Heard (conditions : List (ε → Prop)) (events : List ε) : Prop :=
  ∃ heard, List.Sublist heard events ∧ List.Forall₂ (fun condition e => condition e) conditions heard

/-- They occur behind the last event that stops. -/
def HeardSince (stops : ε → Prop) (conditions : List (ε → Prop)) (events : List ε) : Prop :=
  ∃ older recent, events = older ++ recent ∧ (∀ e ∈ recent, ¬stops e) ∧ Heard conditions recent

section Heard

variable {conditions : List (ε → Prop)} {condition : ε → Prop} {events : List ε} {e : ε}

/-- What was heard stays heard. -/
theorem Heard.append (h : Heard conditions events) (more : List ε) :
    Heard conditions (events ++ more) := by
  obtain ⟨heard, hsub, hmeet⟩ := h
  exact ⟨heard, hsub.trans (List.sublist_append_left events more), hmeet⟩

/-- What was heard is heard with earlier events in front. -/
theorem Heard.prepend (h : Heard conditions events) (earlier : List ε) :
    Heard conditions (earlier ++ events) := by
  obtain ⟨heard, hsub, hmeet⟩ := h
  exact ⟨heard, hsub.trans (List.sublist_append_right earlier events), hmeet⟩

/-- The event that comes next is heard behind the others. -/
theorem Heard.concat (h : Heard conditions events) (he : condition e) :
    Heard (conditions ++ [condition]) (events ++ [e]) := by
  obtain ⟨heard, hsub, hmeet⟩ := h
  exact ⟨heard ++ [e], hsub.append (List.Sublist.refl [e]), List.rel_append hmeet (.cons he .nil)⟩

/-- One condition is heard where an event meets it. -/
theorem heard_singleton_iff : Heard [condition] events ↔ ∃ e ∈ events, condition e := by
  constructor
  · rintro ⟨heard, hsub, hmeet⟩
    cases hmeet with
    | cons he hrest =>
      cases hrest
      exact ⟨_, List.singleton_sublist.mp hsub, he⟩
  · rintro ⟨e, he, hmeet⟩
    exact ⟨[e], List.singleton_sublist.mpr he, .cons hmeet .nil⟩

variable {stops : ε → Prop}

/-- What was heard behind the last stop was heard. -/
theorem HeardSince.heard (h : HeardSince stops conditions events) : Heard conditions events := by
  obtain ⟨older, recent, rfl, -, hheard⟩ := h
  exact hheard.prepend older

/-- An event that does not stop leaves what was heard. -/
theorem HeardSince.append (h : HeardSince stops conditions events) (he : ¬stops e) :
    HeardSince stops conditions (events ++ [e]) := by
  obtain ⟨older, recent, rfl, hrecent, hheard⟩ := h
  refine ⟨older, recent ++ [e], List.append_assoc .., ?_, hheard.append [e]⟩
  intro e' he'
  rcases List.mem_append.mp he' with he' | he'
  · exact hrecent e' he'
  · exact List.mem_singleton.mp he' ▸ he

/-- One more event that is no stop is heard as well. -/
theorem HeardSince.concat (h : HeardSince stops conditions events) (he : ¬stops e)
    (hmeet : condition e) : HeardSince stops (conditions ++ [condition]) (events ++ [e]) := by
  obtain ⟨older, recent, rfl, hrecent, hheard⟩ := h
  refine ⟨older, recent ++ [e], List.append_assoc .., ?_, hheard.concat hmeet⟩
  intro e' he'
  rcases List.mem_append.mp he' with he' | he'
  · exact hrecent e' he'
  · exact List.mem_singleton.mp he' ▸ he

/-- The first event of a sequence needs nothing before it. -/
theorem heardSince_singleton (he : ¬stops e) (hmeet : condition e) :
    HeardSince stops [condition] (events ++ [e]) := by
  refine ⟨events, [e], rfl, fun e' he' => List.mem_singleton.mp he' ▸ he, ?_⟩
  exact heard_singleton_iff.mpr ⟨e, List.mem_singleton_self e, hmeet⟩

end Heard

/-- A property of the run so far and the state it leads to, kept by every step, holds of every run. -/
theorem history_runFrom {I : List ε → σ → Prop} {step : σ → ε → σ}
    (hstep : ∀ before s e, I before s → I (before ++ [e]) (step s e)) {s : σ} (hs : I [] s)
    (events : List ε) : I events (runFrom step s events) := by
  -- the run grows at its end, so what came before is generalised
  suffices ∀ before s, I before s → I (before ++ events) (runFrom step s events) from this [] s hs
  induction events with
  | nil =>
    intro before s hs
    rw [List.append_nil]
    exact hs
  | cons e rest ih =>
    intro before s hs
    have hrest := ih (before ++ [e]) (step s e) (hstep before s e hs)
    rw [List.append_assoc] at hrest
    exact hrest

end RunHistory
