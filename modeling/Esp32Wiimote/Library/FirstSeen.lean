import Mathlib.Data.List.Induction
import Mathlib.Data.List.Nodup
import Mathlib.Tactic.Common

/-!
# Requests on first sight

Items come in one after the other, each with a key. A key that has not been noted is noted while there
is room for it, and requested if its item is wanted. The notes are then the first distinct keys, up to
the limit, and each of them is requested once where the first item with it is wanted.
-/

namespace FirstSeen

variable {α β : Type*}

/-- The keys seen so far, and those requested, both in order. -/
structure Notes (β : Type*) where
  noted : List β := []
  requested : List β := []

variable [DecidableEq β] (limit : Nat) (key : α → β) (wanted : α → Bool)

/-- One item: nothing where its key is noted already or the limit reached. -/
def note (notes : Notes β) (a : α) : Notes β :=
  if key a ∈ notes.noted ∨ limit ≤ notes.noted.length then notes
  else ⟨notes.noted ++ [key a], notes.requested ++ if wanted a then [key a] else []⟩

/-- Several items, in order. -/
def noteAll (notes : Notes β) (items : List α) : Notes β := items.foldl (note limit key wanted) notes

/-- The first distinct keys, up to the limit. -/
def firstKeys (items : List α) : List β := (items.map key).eraseDups.take limit

/-- The first item with this key is wanted. -/
def firstWanted (items : List α) (b : β) : Bool := (items.find? fun a => key a = b).any wanted

variable {limit key wanted}

@[simp] theorem noteAll_nil (notes : Notes β) : noteAll limit key wanted notes [] = notes := rfl

/-- Items of two lists are noted one list after the other. -/
@[simp] theorem noteAll_append (notes : Notes β) (first second : List α) :
    noteAll limit key wanted notes (first ++ second) =
      noteAll limit key wanted (noteAll limit key wanted notes first) second := List.foldl_append

@[simp] theorem noteAll_singleton (notes : Notes β) (a : α) :
    noteAll limit key wanted notes [a] = note limit key wanted notes a := rfl

/-- What was requested before stays in front. -/
theorem noteAll_requested (noted requested : List β) (items : List α) :
    noteAll limit key wanted ⟨noted, requested⟩ items =
      ⟨(noteAll limit key wanted ⟨noted, []⟩ items).noted,
        requested ++ (noteAll limit key wanted ⟨noted, []⟩ items).requested⟩ := by
  induction items using List.reverseRecOn with
  | nil => simp
  | append_singleton items a ih =>
    simp only [noteAll_append, noteAll_singleton, ih, note]
    split <;> simp [List.append_assoc]

/-! ## The first distinct keys -/

/-- One more item brings its key, unless the key is there or no room is left. -/
theorem firstKeys_append_singleton (items : List α) (a : α) : firstKeys limit key (items ++ [a]) =
    if key a ∈ firstKeys limit key items ∨ limit ≤ (firstKeys limit key items).length then
      firstKeys limit key items
    else firstKeys limit key items ++ [key a] := by
  have hkeys : [key a].removeAll (items.map key) = if key a ∈ items.map key then [] else [key a] := by
    simp only [List.removeAll, List.filter_cons, List.filter_nil]
    split <;> split <;> simp_all
  simp only [firstKeys, List.map_append, List.map_cons, List.map_nil, List.eraseDups_append, hkeys]
  obtain ⟨distinct, hdistinct⟩ : ∃ distinct, (items.map key).eraseDups = distinct := ⟨_, rfl⟩
  simp only [hdistinct]
  have hmem : key a ∈ items.map key ↔ key a ∈ distinct := by rw [← hdistinct, List.mem_eraseDups]
  by_cases hfull : limit ≤ distinct.length
  · rw [List.take_append_of_le_length hfull, if_pos (.inr (Nat.le_of_eq (List.length_take_of_le hfull).symm))]
  · have hroom : distinct.take limit = distinct := List.take_of_length_le (by omega)
    rw [hroom]
    by_cases hseen : key a ∈ distinct
    · simp only [hmem.mpr hseen, if_true, List.eraseDups_nil, List.append_nil, hseen, true_or, hroom]
    · have hone : [key a].eraseDups = [key a] := by simp [List.eraseDups_cons]
      simp only [mt hmem.mp hseen, if_false, hseen, hfull, or_self, hone]
      exact List.take_of_length_le (by rw [List.length_append, List.length_singleton]; omega)

/-- A first key is the key of an item. -/
theorem mem_map_of_mem_firstKeys {items : List α} {b : β} (h : b ∈ firstKeys limit key items) :
    b ∈ items.map key := List.mem_eraseDups.mp (List.mem_of_mem_take h)

/-- Of a key that is there, the first item is known already. -/
theorem firstWanted_append_of_mem {items : List α} {b : β} (h : b ∈ items.map key) (more : List α) :
    firstWanted key wanted (items ++ more) b = firstWanted key wanted items b := by
  obtain ⟨a, hmem, rfl⟩ := List.mem_map.mp h
  obtain ⟨found, hfound⟩ := Option.isSome_iff_exists.mp
    (List.find?_isSome.mpr ⟨a, hmem, decide_eq_true rfl⟩ : (items.find? fun a' => key a' = key a).isSome)
  rw [firstWanted, firstWanted, List.find?_append, hfound, Option.some_or]

/-- A new key is wanted where its first item is. -/
theorem firstWanted_append_self {items : List α} {a : α} (h : key a ∉ items.map key) :
    firstWanted key wanted (items ++ [a]) (key a) = wanted a := by
  have hnone : (items.find? fun a' => key a' = key a) = none :=
    List.find?_eq_none.mpr fun a' hmem heq => h (List.mem_map.mpr ⟨a', hmem, of_decide_eq_true heq⟩)
  simp [firstWanted, hnone]

/-! ## First items -/

/-- The first item with each key, in order. -/
def firstItems (key : α → β) (items : List α) : List α := items.eraseDupsBy fun a b => key a == key b

/-- The first item with each key that is not known yet, in order, until there are `limit` keys. -/
def newItems (limit : Nat) (key : α → β) (known : List β) (items : List α) : List α :=
  (firstItems key (items.filter fun a => key a ∉ known)).take (limit - known.length)

/-- The first item is new, and the others with its key are not. -/
theorem firstItems_cons (a : α) (items : List α) :
    firstItems key (a :: items) = a :: firstItems key (items.filter fun b => key b ≠ key a) := by
  rw [firstItems, List.eraseDupsBy_cons]
  congr 2
  refine List.filter_congr fun b _ => ?_
  simp

/-- The last item is new unless its key was there. -/
theorem firstItems_append_singleton (items : List α) (a : α) : firstItems key (items ++ [a]) =
    if key a ∈ items.map key then firstItems key items else firstItems key items ++ [a] := by
  -- the items behind the first one are fewer once its key is taken out of them
  induction hn : items.length using Nat.strongRecOn generalizing items with
  | ind n ih =>
  cases items with
  | nil => rfl
  | cons first rest =>
    rw [List.cons_append, firstItems_cons, firstItems_cons, List.filter_append, List.map_cons]
    have hlength : (rest.filter fun b => key b ≠ key first).length < n := by
      have hle := List.length_filter_le (fun b => key b ≠ key first) rest
      rw [← hn, List.length_cons]
      omega
    by_cases hsame : key a = key first
    · rw [if_pos (hsame ▸ List.mem_cons_self), List.filter_singleton]
      simp [hsame]
    · have hrest : key a ∈ (rest.filter fun b => key b ≠ key first).map key ↔
          key a ∈ key first :: rest.map key := by
        simp only [List.mem_map, List.mem_filter, List.mem_cons, hsame, false_or]
        constructor
        · rintro ⟨b, ⟨hb, -⟩, hkey⟩
          exact ⟨b, hb, hkey⟩
        · rintro ⟨b, hb, hkey⟩
          exact ⟨b, ⟨hb, by simpa [hkey] using hsame⟩, hkey⟩
      have hkept : ([a].filter fun b => key b ≠ key first) = [a] := by simp [hsame]
      rw [hkept, ih _ hlength _ rfl]
      simp only [hrest]
      split <;> rfl

/-- Each key has a first item. -/
theorem mem_map_firstItems {items : List α} {b : β} :
    b ∈ (firstItems key items).map key ↔ b ∈ items.map key := by
  induction items using List.reverseRecOn with
  | nil => rfl
  | append_singleton items a ih =>
    rw [firstItems_append_singleton]
    split
    next hseen =>
      rw [ih, List.map_append, List.mem_append]
      refine ⟨.inl, fun hb => hb.elim id fun hlast => ?_⟩
      rw [List.mem_singleton.mp hlast]
      exact hseen
    next => simp only [List.map_append, List.mem_append, ih]

/-- A first item is an item. -/
theorem mem_of_mem_firstItems {items : List α} {a : α} (h : a ∈ firstItems key items) : a ∈ items := by
  induction items using List.reverseRecOn with
  | nil => exact h
  | append_singleton items last ih =>
    rw [firstItems_append_singleton] at h
    split at h
    · exact List.mem_append_left _ (ih h)
    · rcases List.mem_append.mp h with h | h
      · exact List.mem_append_left _ (ih h)
      · exact List.mem_append_right _ h

/-- What is new is one of the items. -/
theorem mem_of_mem_newItems {limit : Nat} {known : List β} {items : List α} {a : α}
    (h : a ∈ newItems limit key known items) : a ∈ items :=
  List.mem_of_mem_filter (mem_of_mem_firstItems (List.mem_of_mem_take h))

/-- No two first items have one key. -/
theorem nodup_map_firstItems (items : List α) : ((firstItems key items).map key).Nodup := by
  induction items using List.reverseRecOn with
  | nil => exact List.nodup_nil
  | append_singleton items a ih =>
    rw [firstItems_append_singleton]
    split
    · exact ih
    next hnew =>
      rw [List.map_append, List.map_singleton, ← List.concat_eq_append]
      exact ih.concat (mt mem_map_firstItems.mp hnew)

section New

variable (limit key) (known : List β) (items : List α)

/-- One more item is new, unless its key is there or no room is left. -/
theorem newItems_append_singleton (a : α) :
    let new := newItems limit key known items
    newItems limit key known (items ++ [a]) =
      if key a ∈ known ++ new.map key ∨ limit ≤ known.length + new.length then new else new ++ [a] := by
  obtain ⟨first, hfirst⟩ : ∃ first, firstItems key (items.filter fun a => key a ∉ known) = first := ⟨_, rfl⟩
  have hmem : key a ∈ (items.filter fun a => key a ∉ known).map key ↔ key a ∈ first.map key := by
    rw [← hfirst, mem_map_firstItems]
  have hmore : firstItems key ((items ++ [a]).filter fun a => key a ∉ known) =
      if key a ∈ known ++ first.map key then first else first ++ [a] := by
    rw [List.filter_append]
    by_cases hknown : key a ∈ known
    · have hdropped : ([a].filter fun a => key a ∉ known) = [] := by simp [hknown]
      rw [hdropped, List.append_nil, hfirst, if_pos (List.mem_append_left _ hknown)]
    · have hkept : ([a].filter fun a => key a ∉ known) = [a] := by simp [hknown]
      rw [hkept, firstItems_append_singleton, hfirst]
      simp only [hmem, List.mem_append, hknown, false_or]
  simp only [newItems, hmore, hfirst]
  by_cases hfull : limit - known.length ≤ first.length
  · have htake : (if key a ∈ known ++ first.map key then first else first ++ [a]).take (limit - known.length) =
        first.take (limit - known.length) := by
      split
      · rfl
      · exact List.take_append_of_le_length hfull
    have hlimit : limit ≤ known.length + (first.take (limit - known.length)).length := by
      rw [List.length_take]
      omega
    rw [htake, if_pos (.inr hlimit)]
  · have hroom : ¬limit ≤ known.length + first.length := by omega
    rw [List.take_of_length_le (by omega : first.length ≤ limit - known.length)]
    simp only [hroom, or_false]
    split
    · exact List.take_of_length_le (by omega)
    · exact List.take_of_length_le (by rw [List.length_append, List.length_singleton]; omega)

/-- With those known before, no key is there twice. -/
theorem nodup_newItems (hknown : known.Nodup) : (known ++ (newItems limit key known items).map key).Nodup := by
  have hfirst : ((firstItems key (items.filter fun a => key a ∉ known)).map key).Nodup := nodup_map_firstItems _
  refine hknown.append (hfirst.sublist ((List.take_sublist ..).map key)) fun b hb hnew => ?_
  have hmem := mem_map_firstItems.mp (((List.take_sublist ..).map key).subset hnew)
  obtain ⟨a, ha, rfl⟩ := List.mem_map.mp hmem
  exact of_decide_eq_true (List.mem_filter.mp ha).2 hb

end New

/-! ## What is noted and requested -/

/-- The notes hold the first distinct keys, and those were requested whose first item was wanted. -/
theorem noteAll_eq (items : List α) : noteAll limit key wanted {} items =
    ⟨firstKeys limit key items, (firstKeys limit key items).filter (firstWanted key wanted items)⟩ := by
  induction items using List.reverseRecOn with
  | nil => simp [firstKeys]
  | append_singleton items a ih =>
    have hkept : (firstKeys limit key items).filter (firstWanted key wanted (items ++ [a])) =
        (firstKeys limit key items).filter (firstWanted key wanted items) :=
      List.filter_congr fun b hb => firstWanted_append_of_mem (mem_map_of_mem_firstKeys hb) [a]
    simp only [noteAll_append, noteAll_singleton, ih, note, firstKeys_append_singleton]
    split
    · rw [hkept]
    next hnew =>
      have hfresh : key a ∉ items.map key := by
        intro hseen
        obtain ⟨hout, hroom⟩ := not_or.mp hnew
        refine hout ?_
        rw [firstKeys, List.length_take] at hroom
        rw [firstKeys, List.take_of_length_le (by omega)]
        exact List.mem_eraseDups.mpr hseen
      rw [List.filter_append, hkept, List.filter_cons, firstWanted_append_self hfresh, List.filter_nil]

/-- No key is twice among the first. -/
theorem nodup_firstKeys (items : List α) : (firstKeys limit key items).Nodup := by
  induction items using List.reverseRecOn with
  | nil => simp [firstKeys]
  | append_singleton items a ih =>
    rw [firstKeys_append_singleton]
    split
    · exact ih
    next hnew =>
      rw [← List.concat_eq_append]
      exact ih.concat (not_or.mp hnew).1

/-- Each of the first keys whose first item is wanted is requested exactly once. -/
theorem count_requested {items : List α} {b : β} (hb : b ∈ firstKeys limit key items)
    (hwanted : firstWanted key wanted items b = true) :
    (noteAll limit key wanted {} items).requested.count b = 1 := by
  rw [noteAll_eq, List.count_filter hwanted]
  exact List.count_eq_one_of_mem (nodup_firstKeys items) hb

end FirstSeen
