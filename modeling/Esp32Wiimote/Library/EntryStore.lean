import Mathlib.Data.List.Basic
import Mathlib.Data.List.Nodup
import Mathlib.Logic.Function.Basic
import Mathlib.Tactic.Common

/-!
# A record stored under several keys

A record is written entry by entry and read entry by entry, and each read may fail. Writes that
end early leave the first entries new and the others old. A reader gets what it got before exactly
where one of the others cannot be read, or where each new entry already was what it read.
-/

namespace EntryStore

variable {κ ν ω : Type*}

/-- What is stored under each key. -/
abbrev Store (κ ν : Type*) := κ → Option ν

/-- What a reader makes of a key. -/
def readKey (read : κ → ν → Option ω) (s : Store κ ν) (k : κ) : Option ω := (s k).bind (read k)

/-- Read the keys in order, up to the first one that cannot be read. -/
def readAll (read : κ → ν → Option ω) (s : Store κ ν) : List κ → Option (List ω)
  | [] => some []
  | k :: rest => (readKey read s k).bind fun value => (readAll read s rest).map (List.cons value)

section Reading

variable {read : κ → ν → Option ω} {s t : Store κ ν}

/-- All keys are read exactly when each of them is. -/
theorem readAll_eq_some_iff {keys : List κ} {values : List ω} :
    readAll read s keys = some values ↔ keys.map (readKey read s) = values.map some := by
  induction keys generalizing values with
  | nil => cases values <;> simp [readAll]
  | cons k rest ih =>
    cases hvalue : readKey read s k with
    | none => cases values <;> simp [readAll, hvalue]
    | some value => cases values <;> simp [readAll, hvalue, ih, and_comm]

/-- The reading fails exactly when that of some key does. -/
theorem readAll_eq_none_iff {keys : List κ} :
    readAll read s keys = none ↔ ∃ k ∈ keys, readKey read s k = none := by
  induction keys with
  | nil => simp [readAll]
  | cons k rest ih => cases hvalue : readKey read s k <;> simp [readAll, hvalue, ih]

/-- Keys that are read alike give the same record. -/
theorem readAll_congr {keys : List κ} (h : ∀ k ∈ keys, readKey read s k = readKey read t k) :
    readAll read s keys = readAll read t keys := by
  induction keys with
  | nil => rfl
  | cons k rest ih =>
    rw [readAll, readAll, h k List.mem_cons_self, ih fun k hk => h k (List.mem_cons_of_mem _ hk)]

/-- Where all keys can be read in one store, the other gives the same record only if each key is
read alike. -/
theorem readAll_eq_iff_of_readable {keys : List κ} (h : ∀ k ∈ keys, readKey read s k ≠ none) :
    readAll read s keys = readAll read t keys ↔ ∀ k ∈ keys, readKey read t k = readKey read s k := by
  constructor
  · intro heq k hk
    cases hvalues : readAll read s keys with
    | none =>
      obtain ⟨k', hk', hnone⟩ := readAll_eq_none_iff.mp hvalues
      exact absurd hnone (h k' hk')
    | some values =>
      have hs := readAll_eq_some_iff.mp hvalues
      have ht := readAll_eq_some_iff.mp (heq ▸ hvalues)
      exact List.map_inj_left.mp (ht.trans hs.symm) k hk
  · intro heq
    exact readAll_congr fun k hk => (heq k hk).symm

end Reading

section Writing

variable [DecidableEq κ]

/-- The store with an entry under the key. -/
def write (s : Store κ ν) (k : κ) (v : ν) : Store κ ν := Function.update s k (some v)

/-- Write the entries in order. -/
def writeAll (s : Store κ ν) (entries : List (κ × ν)) : Store κ ν :=
  entries.foldl (fun s e => write s e.1 e.2) s

variable {s : Store κ ν} {read : κ → ν → Option ω}

/-- Keys without an entry keep what they held. -/
theorem writeAll_of_notMem {entries : List (κ × ν)} {k : κ} (hk : k ∉ entries.map Prod.fst) :
    writeAll s entries k = s k := by
  induction entries generalizing s with
  | nil => rfl
  | cons e rest ih =>
    rw [List.map_cons, List.mem_cons, not_or] at hk
    exact (ih hk.2).trans (Function.update_of_ne hk.1 _ _)

/-- Each key holds its entry. -/
theorem writeAll_of_mem {entries : List (κ × ν)} (hkeys : (entries.map Prod.fst).Nodup)
    {e : κ × ν} (he : e ∈ entries) : writeAll s entries e.1 = some e.2 := by
  induction entries generalizing s with
  | nil => cases he
  | cons e' rest ih =>
    rw [List.map_cons, List.nodup_cons] at hkeys
    rcases List.mem_cons.mp he with rfl | he
    · exact (writeAll_of_notMem hkeys.1).trans (Function.update_self _ _ _)
    · exact ih hkeys.2 he

/-- Of entries with different keys each is read back. -/
theorem readKey_writeAll_of_mem {entries : List (κ × ν)} (hkeys : (entries.map Prod.fst).Nodup)
    {e : κ × ν} (he : e ∈ entries) : readKey read (writeAll s entries) e.1 = read e.1 e.2 := by
  rw [readKey, writeAll_of_mem hkeys he, Option.bind_some]

/-- A record that was written completely is read as it was written. -/
theorem readAll_writeAll {entries : List (κ × ν)} (hkeys : (entries.map Prod.fst).Nodup)
    {values : List ω} (hread : entries.map (fun e => read e.1 e.2) = values.map some) :
    readAll read (writeAll s entries) (entries.map Prod.fst) = some values := by
  rw [readAll_eq_some_iff, ← hread, List.map_map]
  exact List.map_congr_left fun e he => readKey_writeAll_of_mem hkeys he

/-- After the first entries were written, a reader of all gets what it got before exactly where it
cannot read one of the rest, or already read each of the first as it was written. -/
theorem readAll_writeAll_take_iff {entries : List (κ × ν)} (hkeys : (entries.map Prod.fst).Nodup)
    (hread : ∀ e ∈ entries, read e.1 e.2 ≠ none) (n : ℕ) :
    readAll read (writeAll s (entries.take n)) (entries.map Prod.fst) =
        readAll read s (entries.map Prod.fst) ↔
      (∃ e ∈ entries.drop n, readKey read s e.1 = none) ∨
        ∀ e ∈ entries.take n, readKey read s e.1 = read e.1 e.2 := by
  have hsplit : ∀ e, e ∈ entries ↔ e ∈ entries.take n ∨ e ∈ entries.drop n := by
    intro e
    rw [← List.mem_append, List.take_append_drop]
  have hparts : ((entries.take n).map Prod.fst ++ (entries.drop n).map Prod.fst).Nodup := by
    rwa [← List.map_append, List.take_append_drop]
  have hfirst : ∀ e ∈ entries.take n,
      readKey read (writeAll s (entries.take n)) e.1 = read e.1 e.2 :=
    fun e he => readKey_writeAll_of_mem hparts.of_append_left he
  have hrest : ∀ e ∈ entries.drop n,
      readKey read (writeAll s (entries.take n)) e.1 = readKey read s e.1 := by
    intro e he
    have hdisjoint := List.disjoint_of_nodup_append hparts
    rw [readKey, writeAll_of_notMem fun hmem => hdisjoint hmem (List.mem_map_of_mem he), readKey]
  by_cases hmissing : ∃ e ∈ entries.drop n, readKey read s e.1 = none
  · -- neither reader gets past the missing key
    refine iff_of_true ?_ (Or.inl hmissing)
    obtain ⟨e, he, hnone⟩ := hmissing
    have hmem : e.1 ∈ entries.map Prod.fst := List.mem_map_of_mem ((hsplit e).mpr (Or.inr he))
    rw [readAll_eq_none_iff.mpr ⟨e.1, hmem, hnone⟩, readAll_eq_none_iff]
    exact ⟨e.1, hmem, (hrest e he).trans hnone⟩
  · have hreadable : ∀ k ∈ entries.map Prod.fst,
        readKey read (writeAll s (entries.take n)) k ≠ none := by
      intro k hk hnone
      obtain ⟨e, he, rfl⟩ := List.mem_map.mp hk
      rcases (hsplit e).mp he with hin | hin
      · exact hread e he ((hfirst e hin).symm.trans hnone)
      · exact hmissing ⟨e, hin, (hrest e hin).symm.trans hnone⟩
    rw [readAll_eq_iff_of_readable hreadable, or_iff_right hmissing]
    constructor
    · intro hsame e he
      rw [hsame e.1 (List.mem_map_of_mem ((hsplit e).mpr (Or.inl he))), hfirst e he]
    · intro hsame k hk
      obtain ⟨e, he, rfl⟩ := List.mem_map.mp hk
      rcases (hsplit e).mp he with hin | hin
      · rw [hfirst e hin, hsame e hin]
      · exact (hrest e hin).symm

end Writing

end EntryStore
