import Mathlib.Order.Defs.Unbundled
import Mathlib.Tactic.Common

/-!
# Programs over an explicit state

A program is a computation in the state monad. `exec` runs one and has the
equations a symbolic execution needs. `Within R` says that every run of a program
relates its start to its end by `R`; for a preorder this is closed under sequencing
and branching, so a long program is treated piece by piece without unfolding the
pieces. The preorders of use are keeping a property, leaving an observation alone,
and adding entries of one kind to a log.
-/

namespace StateProgram

variable {σ α β τ : Type}

/-! ## Running a program -/

/-- The result and the final state of a program. -/
def exec (x : StateM σ α) (s : σ) : α × σ := (x.run s).run

/-- How each program runs. -/
@[simp] theorem exec_pure (a : α) (s : σ) : exec (pure a : StateM σ α) s = (a, s) := rfl

/-- The second program runs in the state the first one leaves. -/
theorem exec_bind (x : StateM σ α) (f : α → StateM σ β) (s : σ) :
    exec (x >>= f) s = exec (f (exec x s).1) (exec x s).2 := rfl

/-- Sequencing after a program whose result is not used. -/
@[simp] theorem exec_then (x : StateM σ α) (y : StateM σ β) (s : σ) :
    exec (x >>= fun _ => y) s = exec y (exec x s).2 := rfl

/-- Sequencing after a program whose outcome is known. -/
theorem exec_bind_of_exec {x : StateM σ α} {s t : σ} {a : α} (h : exec x s = (a, t))
    (f : α → StateM σ β) : exec (x >>= f) s = exec (f a) t := by
  rw [exec_bind, h]

@[simp] theorem exec_discard (x : StateM σ α) (s : σ) :
    exec (discard x) s = ((), (exec x s).2) := rfl

@[simp] theorem exec_get_bind (f : σ → StateM σ β) (s : σ) : exec (get >>= f) s = exec (f s) s := rfl

@[simp] theorem exec_modify (f : σ → σ) (s : σ) : exec (modify f : StateM σ PUnit) s = (⟨⟩, f s) := rfl

@[simp] theorem exec_modifyGet (f : σ → α × σ) (s : σ) :
    exec (modifyGet f : StateM σ α) s = f s := rfl

@[simp] theorem exec_modifyGet_bind (f : σ → α × σ) (g : α → StateM σ β) (s : σ) :
    exec (modifyGet f >>= g) s = exec (g (f s).1) (f s).2 := rfl

/-- Branching on a condition the program has already decided. -/
@[simp] theorem exec_ite (p : Prop) [Decidable p] (x y : StateM σ α) (s : σ) :
    exec (if p then x else y) s = if p then exec x s else exec y s := by
  split <;> rfl

/-! ## Relating start and end -/

/-- Every run of the program relates its start to its end. -/
structure Within (R : σ → σ → Prop) (x : StateM σ α) : Prop where
  rel : ∀ s, R s (exec x s).2

section Within

variable {R : σ → σ → Prop}

/-- A program within a relation is within every weaker one. -/
theorem Within.mono {S : σ → σ → Prop} {x : StateM σ α} (h : Within R x)
    (hRS : ∀ s t, R s t → S s t) : Within S x := ⟨fun s => hRS _ _ (h.rel s)⟩

/-- A change of the state is within a relation that allows it. -/
theorem Within.modify {f : σ → σ} (hf : ∀ s, R s (f s)) :
    Within R (modify f : StateM σ PUnit) := ⟨hf⟩

/-- So is a change that answers. -/
theorem Within.modifyGet {f : σ → α × σ} (hf : ∀ s, R s (f s).2) :
    Within R (modifyGet f : StateM σ α) := ⟨hf⟩

/-- A choice is within the relation if each branch is. -/
theorem Within.ite (p : Prop) [Decidable p] {x y : StateM σ α} (hx : p → Within R x)
    (hy : ¬p → Within R y) : Within R (if p then x else y) := by
  by_cases h : p
  · rw [if_pos h]
    exact hx h
  · rw [if_neg h]
    exact hy h

/-- Dropping the answer changes nothing. -/
theorem Within.discard {x : StateM σ α} (h : Within R x) : Within R (discard x) := ⟨h.rel⟩

/-- Reading the state first leaves the rest to be shown for any state that was read. -/
theorem Within.get_bind {f : σ → StateM σ β} (hf : ∀ s, Within R (f s)) : Within R (get >>= f) :=
  ⟨fun s => (hf s).rel s⟩

variable [IsPreorder σ R]

/-- Answering alone is within every reflexive relation. -/
theorem Within.pure (a : α) : Within R (pure a : StateM σ α) := ⟨fun s => refl_of R s⟩

/-- Sequencing composes the steps of both parts. -/
theorem Within.bind {x : StateM σ α} {f : α → StateM σ β} (hx : Within R x)
    (hf : ∀ a, Within R (f a)) : Within R (x >>= f) :=
  ⟨fun s => trans_of R (hx.rel s) ((hf _).rel _)⟩

end Within

/-! ## Keeping a property -/

/-- The property is not lost. -/
def Kept (I : σ → Prop) (s t : σ) : Prop := I s → I t

instance (I : σ → Prop) : IsPreorder σ (Kept I) where
  refl _ := id
  trans _ _ _ h h' := h' ∘ h

/-! ## Leaving an observation alone -/

/-- The observation is unchanged. -/
def Same (f : σ → τ) (s t : σ) : Prop := f t = f s

instance (f : σ → τ) : IsPreorder σ (Same f) where
  refl _ := rfl
  trans _ _ _ h h' := Eq.trans h' h

/-! ## Adding to a log -/

section Grown

variable {ε : Type} {log : σ → List ε} {P Q : ε → Prop}

/-- Entries that satisfy `P` were added to the log, and nothing else happened to it. -/
def Grown (log : σ → List ε) (P : ε → Prop) (s t : σ) : Prop :=
  ∃ added, log t = log s ++ added ∧ ∀ e ∈ added, P e

instance : IsPreorder σ (Grown log P) where
  refl s := ⟨[], (List.append_nil _).symm, by simp⟩
  trans := by
    rintro r s t ⟨first, hs, hfirst⟩ ⟨second, ht, hsecond⟩
    refine ⟨first ++ second, by rw [ht, hs, List.append_assoc], fun e he => ?_⟩
    rcases List.mem_append.mp he with he | he
    · exact hfirst e he
    · exact hsecond e he

/-- A log that is left alone grows by nothing. -/
theorem Grown.of_eq {s t : σ} (h : log t = log s) : Grown log P s t :=
  ⟨[], by rw [h, List.append_nil], by simp⟩

/-- A log that grew by entries of one kind grew by entries of every wider kind. -/
theorem Grown.mono {s t : σ} (h : Grown log P s t) (hPQ : ∀ e, P e → Q e) : Grown log Q s t :=
  let ⟨added, heq, hP⟩ := h
  ⟨added, heq, fun e he => hPQ e (hP e he)⟩

/-- Entries never leave the log. -/
theorem Grown.mem {s t : σ} (h : Grown log P s t) {e : ε} (he : e ∈ log s) : e ∈ log t := by
  obtain ⟨added, heq, -⟩ := h
  rw [heq]
  exact List.mem_append_left added he

/-- If every logged entry satisfied `P` before, every one does afterwards. -/
theorem Grown.forall_mem {s t : σ} (h : Grown log P s t) (hs : ∀ e ∈ log s, P e) :
    ∀ e ∈ log t, P e := by
  obtain ⟨added, heq, hP⟩ := h
  intro e he
  rw [heq] at he
  rcases List.mem_append.mp he with he | he
  · exact hs e he
  · exact hP e he

end Grown

end StateProgram
