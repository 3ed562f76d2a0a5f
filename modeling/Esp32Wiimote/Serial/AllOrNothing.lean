import Esp32Wiimote.Serial.DispatchEffect

/-!
# A serial command is performed or has no effect

Every check of the dispatcher comes before the one call of the target. So what is not answered with Ok
was accepted by no method and left the session as it was, and what is answered with Ok made the call
that its tokens denote.
-/

namespace Esp32Wiimote.Serial

open CText

variable {σ : Type}

/-- A method that is called in this state accepts: it returns true, or it has no result. -/
def SerialCommandTarget.Accepts (target : SerialCommandTarget σ) (device : σ) (call : SerialTargetCall) : Prop :=
  call.isVoid = true ∨ (target.call call device).1 = true

/-- The target after some calls. -/
def TargetState.after (s : TargetState σ) (target : SerialCommandTarget σ) (made : List SerialTargetCall) :
    TargetState σ := made.foldl (fun t call => (target.invoke call t).2) s

/-- A dispatch that made these calls of state-changing methods is all or nothing. -/
structure AllOrNothing (cmd : SerialParsedCommand) (target : SerialCommandTarget σ) (s : SerialDispatchState σ)
    (outcome : SerialDispatchResult × SerialDispatchState σ) (made : List SerialTargetCall) : Prop where
  calls : outcome.2.target = s.target.after target made
  atMostOne : made.length ≤ 1
  nothing : outcome.1 ≠ .Ok →
    (∀ call ∈ made, ¬target.Accepts s.target.device call) ∧ outcome.2.session = s.session
  all : outcome.1 = .Ok → cmd.token 1 ≠ ascii "status" → cmd.token 1 ≠ ascii "unlock" →
    ∃ call, made = [call] ∧ cmd.Denotes call ∧ target.Accepts s.target.device call

section Dispatch

variable {cmd : SerialParsedCommand} {target : SerialCommandTarget σ} {s : SerialDispatchState σ}

/-- A refusal before any call. -/
theorem allOrNothing_refused {reason : SerialDispatchResult} (hreason : reason ≠ .Ok) :
    AllOrNothing cmd target s (reason, s) [] :=
  ⟨rfl, Nat.zero_le 1, fun _ => ⟨fun _ hcall => absurd hcall List.not_mem_nil, rfl⟩,
    fun hok => absurd hok hreason⟩

/-- `unlock` checks all its arguments before it unlocks, and calls no method. -/
theorem allOrNothing_unlock (options : SerialDispatchOptions) (hverb : cmd.token 1 = ascii "unlock") :
    AllOrNothing cmd target s ((handleUnlock cmd s.session options.nowMs).1,
      { s with session := (handleUnlock cmd s.session options.nowMs).2 }) [] := by
  have hkept : (handleUnlock cmd s.session options.nowMs).1 ≠ .Ok →
      (handleUnlock cmd s.session options.nowMs).2 = s.session := by
    unfold handleUnlock
    split
    · exact fun _ => rfl
    cases s.session with
    | none => exact fun _ => rfl
    | some session =>
      dsimp only
      split
      · exact fun _ => rfl
      cases if 4 ≤ cmd.tokenCount then serialParseUint16 (cmd.token 3) else some 60 with
      | none => exact fun _ => rfl
      | some seconds => exact fun hrefused => absurd rfl hrefused
  exact ⟨rfl, Nat.zero_le 1, fun hrefused => ⟨fun _ hcall => absurd hcall List.not_mem_nil, hkept hrefused⟩,
    fun _ _ hother => absurd hverb hother⟩

/-- A handler that performed its command made all of it or nothing. -/
theorem Performed.allOrNothing {outcome : SerialDispatchResult × TargetState σ}
    (h : Performed cmd target s.target outcome) :
    ∃ made, AllOrNothing cmd target s (outcome.1, { s with target := outcome.2 }) made := by
  cases h with
  | refused reason hreason => exact ⟨[], allOrNothing_refused hreason.1⟩
  | status hverb =>
    exact ⟨[], rfl, Nat.zero_le 1, fun hrefused => absurd rfl hrefused, fun _ hother => absurd hverb hother⟩
  | called call refused hrefused hcall hresult =>
    refine ⟨[call], rfl, le_refl 1, fun hnot => ⟨?_, rfl⟩, fun hok _ _ => ⟨call, rfl, hcall, .inr ?_⟩⟩
    · intro call' hmem haccepts
      obtain rfl := List.mem_singleton.mp hmem
      rcases haccepts with hvoid | haccepted
      · cases hvoid.symm.trans hresult
      · exact hnot (if_pos haccepted)
    · by_contra hrejected
      exact (hrefused _).1 ((if_neg hrejected).symm.trans hok)
  | calledVoid call hcall hvoid =>
    exact ⟨[call], rfl, le_refl 1, fun hrefused => absurd rfl hrefused, fun _ _ _ =>
      ⟨call, rfl, hcall, .inl hvoid⟩⟩

end Dispatch

/-- Whatever the command, the session, the time and the target, a dispatch makes at most one call. Without
Ok no call was accepted and the session is the same, and with Ok, other than to `status` and `unlock`, the
one call is the one that the tokens denote, and was accepted. -/
theorem serialCommandDispatch_allOrNothing (cmd : SerialParsedCommand) (target : SerialCommandTarget σ)
    (options : SerialDispatchOptions) (s : SerialDispatchState σ) :
    ∃ made, AllOrNothing cmd target s (serialCommandDispatch cmd target options s) made := by
  unfold serialCommandDispatch
  split
  · exact ⟨[], allOrNothing_refused (by decide)⟩
  next hcount =>
    split
    next hverb => exact ⟨[], allOrNothing_unlock options hverb⟩
    next =>
      split
      · exact ⟨[], allOrNothing_refused (by decide)⟩
      · exact (performed_dispatchToTable target s.target (Nat.not_lt.mp hcount)).allOrNothing

end Esp32Wiimote.Serial
