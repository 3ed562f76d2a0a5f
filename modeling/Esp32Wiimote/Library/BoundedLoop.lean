import Mathlib.Order.Basic
import Mathlib.Tactic.Common

/-!
# Loops that end

A loop repeats a round until a round leaves it. It is run with a number of rounds that it may take,
and has no result when they run out. A program ends when from some number on its result is the same
for every number of rounds, and a loop does so when each round keeps an invariant and makes a measure
smaller.
-/

namespace BoundedLoop

/-- What a round of a loop comes to. -/
inductive Round (σ τ : Type)
  | again (s : σ)
  | leave (result : τ)

variable {σ τ α β : Type}

/-- The loop, with a limit on its rounds. -/
def repeatRounds (round : σ → Option (Round σ τ)) : ℕ → σ → Option τ
  | 0, _ => none
  | rounds + 1, s =>
    (round s).bind fun
      | .again s' => repeatRounds round rounds s'
      | .leave result => some result

/-- With at least that many rounds for each of its loops the program has one result, and the result
satisfies the condition. -/
def Ends (bound : ℕ) (program : ℕ → Option α) (Q : α → Prop) : Prop :=
  ∃ result, Q result ∧ ∀ rounds, bound ≤ rounds → program rounds = some result

variable {bound : ℕ} {program : ℕ → Option α} {P Q : α → Prop}

/-- A program with one result at every bound ends. -/
theorem Ends.of_some {a : α} (h : Q a) : Ends bound (fun _ => some a) Q := ⟨a, h, fun _ _ => rfl⟩

/-- A program that ends ends with every weaker condition. -/
theorem Ends.mono (h : Ends bound program P) (hPQ : ∀ a, P a → Q a) : Ends bound program Q :=
  let ⟨a, ha, hrounds⟩ := h
  ⟨a, hPQ a ha, hrounds⟩

/-- What follows a program starts from its result. -/
theorem Ends.bind {Q : β → Prop} {next : ℕ → α → Option β} (h : Ends bound program P)
    (hnext : ∀ a, P a → Ends bound (fun rounds => next rounds a) Q) :
    Ends bound (fun rounds => (program rounds).bind (next rounds)) Q := by
  obtain ⟨a, ha, hprogram⟩ := h
  obtain ⟨b, hb, hrest⟩ := hnext a ha
  refine ⟨b, hb, fun rounds hrounds => ?_⟩
  change (program rounds).bind (next rounds) = some b
  rw [hprogram rounds hrounds, Option.bind_some, ← hrest rounds hrounds]

/-- Mapping the result maps the condition. -/
theorem Ends.map {Q : β → Prop} {f : α → β} (h : Ends bound program P) (hf : ∀ a, P a → Q (f a)) :
    Ends bound (fun rounds => (program rounds).map f) Q := by
  obtain ⟨a, ha, hprogram⟩ := h
  refine ⟨f a, hf a ha, fun rounds hrounds => ?_⟩
  change (program rounds).map f = some (f a)
  rw [hprogram rounds hrounds, Option.map_some]

/-- A round that goes on keeps the invariant and makes the measure smaller, and one that leaves
satisfies the condition. -/
abbrev RoundKeeps (I : σ → Prop) (measure : σ → ℕ) (Q : τ → Prop) (s : σ) : Round σ τ → Prop
  | .again s' => I s' ∧ measure s' < measure s
  | .leave result => Q result

/-- A loop ends if each of its rounds keeps the invariant and makes the measure smaller. -/
theorem Ends.repeatRounds {round : ℕ → σ → Option (Round σ τ)} (I : σ → Prop) (measure : σ → ℕ)
    {Q : τ → Prop}
    (hround : ∀ s, I s → Ends bound (fun rounds => round rounds s) (RoundKeeps I measure Q s))
    {s : σ} (hs : I s) (hmeasure : measure s < bound) :
    Ends bound (fun rounds => repeatRounds (round rounds) rounds s) Q := by
  suffices hrun : ∃ result, Q result ∧ ∀ rounds, bound ≤ rounds → ∀ limit, measure s < limit →
      BoundedLoop.repeatRounds (round rounds) limit s = some result by
    obtain ⟨result, hresult, hlimit⟩ := hrun
    exact ⟨result, hresult, fun rounds hrounds => hlimit rounds hrounds rounds (by omega)⟩
  clear hmeasure
  induction hn : measure s using Nat.strongRecOn generalizing s with
  | _ n ih =>
  obtain ⟨outcome, hkeeps, hstep⟩ := hround s hs
  change ∀ rounds, bound ≤ rounds → round rounds s = some outcome at hstep
  cases outcome with
  | again s' =>
    obtain ⟨result, hresult, hrun⟩ := ih (measure s') (hn ▸ hkeeps.2) hkeeps.1 rfl
    refine ⟨result, hresult, fun rounds hrounds limit hlimit => ?_⟩
    obtain ⟨limit, rfl⟩ := Nat.exists_eq_succ_of_ne_zero (Nat.ne_zero_of_lt hlimit)
    have hless := hkeeps.2
    rw [BoundedLoop.repeatRounds, hstep rounds hrounds]
    exact hrun rounds hrounds limit (by omega)
  | leave result =>
    refine ⟨result, hkeeps, fun rounds hrounds limit hlimit => ?_⟩
    obtain ⟨limit, rfl⟩ := Nat.exists_eq_succ_of_ne_zero (Nat.ne_zero_of_lt hlimit)
    rw [BoundedLoop.repeatRounds, hstep rounds hrounds]
    rfl

end BoundedLoop
