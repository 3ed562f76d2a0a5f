import Mathlib.Data.List.Basic
import Mathlib.Data.List.TakeWhile
import Mathlib.Tactic.Common

/-!
# The words of a text

A word is a maximal run of characters that do not separate: what is left of the text between two
separators, unless it is empty.
-/

namespace Words

variable {α : Type*} {sep : α → Bool}

/-- The words of a text in order. -/
def words (sep : α → Bool) (text : List α) : List (List α) :=
  (text.splitOnP sep).filter fun run => !run.isEmpty

/-- A text without separators, and not empty. -/
def IsWord (sep : α → Bool) (run : List α) : Prop := run ≠ [] ∧ ∀ c ∈ run, sep c = false

/-- There is no word in an empty text. -/
theorem words_nil : words sep [] = [] := by
  rw [words, List.splitOnP_nil]
  rfl

/-- A separator in front is skipped. -/
theorem words_cons_of_sep {c : α} (hc : sep c = true) (text : List α) :
    words sep (c :: text) = words sep text := by
  have hsplit : (c :: text).splitOnP sep = [] :: text.splitOnP sep :=
    List.splitOnP_append_cons_of_forall_mem (fun d (h : d ∈ []) => absurd h List.not_mem_nil) c hc text
  rw [words, hsplit]
  rfl

/-- A run without separators is one word. -/
theorem words_of_isWord {run : List α} (hrun : IsWord sep run) : words sep run = [run] := by
  rw [words, List.splitOnP_eq_singleton hrun.2, List.filter_cons_of_pos, List.filter_nil]
  simpa using hrun.1

/-- A separator ends the first word. -/
theorem words_append_cons {run : List α} (hrun : IsWord sep run) {c : α} (hc : sep c = true)
    (text : List α) : words sep (run ++ c :: text) = run :: words sep text := by
  rw [words, List.splitOnP_append_cons_of_forall_mem hrun.2 c hc, List.filter_cons_of_pos]
  · rfl
  · simpa using hrun.1

/-- Separators in front are skipped. -/
theorem words_append_of_sep {gap : List α} (hgap : ∀ c ∈ gap, sep c = true) (text : List α) :
    words sep (gap ++ text) = words sep text := by
  induction gap with
  | nil => rfl
  | cons c rest ih =>
    rw [List.cons_append, words_cons_of_sep (hgap c List.mem_cons_self)]
    exact ih fun d hd => hgap d (List.mem_cons_of_mem c hd)

/-- A text is a run of what is kept, which ends it or has something else behind. -/
theorem run_cases (keeps : α → Bool) (text : List α) :
    ∃ run, (∀ c ∈ run, keeps c = true) ∧
      (text = run ∨ ∃ c rest, keeps c = false ∧ text = run ++ c :: rest) := by
  have hsplit : text.takeWhile keeps ++ text.dropWhile keeps = text := List.takeWhile_append_dropWhile
  refine ⟨text.takeWhile keeps, fun c => List.mem_takeWhile_imp, ?_⟩
  cases hbehind : text.dropWhile keeps with
  | nil =>
    rw [hbehind, List.append_nil] at hsplit
    exact Or.inl hsplit.symm
  | cons c rest =>
    have hhead := List.head?_dropWhile_not keeps text
    rw [hbehind] at hhead hsplit
    exact Or.inr ⟨c, rest, hhead, hsplit.symm⟩

/-- A text has no words, or a first word that ends the text or is followed by a separator. -/
theorem words_cases (sep : α → Bool) (text : List α) :
    (∀ c ∈ text, sep c = true) ∧ words sep text = [] ∨
      ∃ gap run, (∀ c ∈ gap, sep c = true) ∧ IsWord sep run ∧
        (text = gap ++ run ∧ words sep text = [run] ∨
          ∃ c rest, sep c = true ∧ text = gap ++ (run ++ c :: rest) ∧
            words sep text = run :: words sep rest) := by
  obtain ⟨gap, hgap, rfl | ⟨first, behind, hfirst, rfl⟩⟩ := run_cases sep text
  · have hwords := words_append_of_sep hgap []
    rw [List.append_nil, words_nil] at hwords
    exact Or.inl ⟨hgap, hwords⟩
  · obtain ⟨body, hbody, hbehind⟩ := run_cases (fun c => !sep c) behind
    have hword : IsWord sep (first :: body) := by
      refine ⟨List.cons_ne_nil first body, fun c hc => ?_⟩
      rcases List.mem_cons.mp hc with rfl | hc
      · exact hfirst
      · simpa using hbody c hc
    refine Or.inr ⟨gap, first :: body, hgap, hword, ?_⟩
    rw [words_append_of_sep hgap]
    rcases hbehind with rfl | ⟨c, rest, hc, rfl⟩
    · exact Or.inl ⟨rfl, words_of_isWord hword⟩
    · have hsep : sep c = true := by simpa using hc
      exact Or.inr ⟨c, rest, hsep, rfl, words_append_cons hword hsep rest⟩

/-- The characters of the words are ones of the text. -/
theorem mem_of_mem_words {text run : List α} (hrun : run ∈ words sep text) {c : α} (hc : c ∈ run) :
    c ∈ text := by
  induction h : text.length using Nat.strong_induction_on generalizing text with
  | _ n ih =>
    rcases words_cases sep text with
      ⟨-, hwords⟩ | ⟨gap, first, -, -, ⟨rfl, hwords⟩ | ⟨d, rest, -, rfl, hwords⟩⟩
    · rw [hwords] at hrun
      cases hrun
    · rw [hwords, List.mem_singleton] at hrun
      exact List.mem_append_right _ (hrun ▸ hc)
    · rw [hwords, List.mem_cons] at hrun
      rcases hrun with rfl | hrun
      · exact List.mem_append_right _ (List.mem_append_left _ hc)
      · have hrest := ih rest.length (by simp at h; omega) hrun rfl
        exact List.mem_append_right _ (List.mem_append_right _ (List.mem_cons_of_mem _ hrest))

end Words
