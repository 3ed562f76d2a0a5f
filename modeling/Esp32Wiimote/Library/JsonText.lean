import Mathlib.Data.List.Forall2
import Mathlib.Data.List.TakeWhile
import Mathlib.Data.UInt
import Mathlib.Tactic.Common

/-!
# JSON objects of strings as texts

A text with every white space and every escape as it is written: the characters of a string, the
members of an object and the pairs up to the closing brace. The grammar of the pairs allows a
comma in front of the brace, which JSON does not. A text has at most one reading, whatever
stands behind it, so that what is proved of one reading holds of the text.
-/

namespace JsonText

/-! ## Texts -/

/-- The white space of JSON. -/
def isSpace (c : UInt8) : Bool := c == 0x20 || c == 0x09 || c == 0x0A || c == 0x0D

/-- White space. -/
abbrev Space := {text : List UInt8 // ∀ c ∈ text, isSpace c = true}

/-- No white space. -/
def noSpace : Space := ⟨[], fun _ hc => absurd hc List.not_mem_nil⟩

/-- One character of a string, as it is written. -/
inductive Item
  | plain (c : UInt8) (ne_quote : c ≠ 0x22) (ne_backslash : c ≠ 0x5C)
  | escaped (c : UInt8)

/-- The text of a character of a string. -/
def Item.render : Item → List UInt8
  | .plain c _ _ => [c]
  | .escaped c => [0x5C, c]

/-- A string in its quotes. -/
def quoted (items : List Item) : List UInt8 := 0x22 :: (items.flatMap Item.render ++ [0x22])

/-- A pair of strings with the white space around its tokens. -/
structure Member where
  before : Space
  key : List Item
  behindKey : Space
  behindColon : Space
  value : List Item
  behind : Space

/-- The text of a member, with its white space. -/
def Member.render (m : Member) : List UInt8 :=
  m.before.val ++ (quoted m.key ++ (m.behindKey.val ++ 0x3A ::
    (m.behindColon.val ++ (quoted m.value ++ m.behind.val))))

/-- The pairs of an object and the brace behind them. -/
inductive Pairs
  | close (before : Space)
  | last (m : Member)
  | more (m : Member) (next : Pairs)

namespace Pairs

/-- The text of the members, up to the closing brace. -/
def render : Pairs → List UInt8
  | close before => before.val ++ [0x7D]
  | last m => m.render ++ [0x7D]
  | more m next => m.render ++ 0x2C :: next.render

/-- The members in order. -/
def members : Pairs → List Member
  | close _ => []
  | last m => [m]
  | more m next => m :: next.members

/-- No comma stands in front of the brace. -/
def NoTrailingComma : Pairs → Prop
  | more _ (close _) => False
  | more _ next => next.NoTrailingComma
  | _ => True

end Pairs

/-! ## What a string stands for -/

/-- The character of an escape with one letter. -/
def escapeValue (c : UInt8) : Option UInt8 :=
  if c = 0x22 ∨ c = 0x5C ∨ c = 0x2F then some c
  else if c = 0x62 then some 0x08
  else if c = 0x66 then some 0x0C
  else if c = 0x6E then some 0x0A
  else if c = 0x72 then some 0x0D
  else if c = 0x74 then some 0x09
  else none

/-- The value of a hexadecimal digit. -/
def hexDigit (c : UInt8) : Option ℕ :=
  if 0x30 ≤ c ∧ c ≤ 0x39 then some (c.toNat - 0x30)
  else if 0x41 ≤ c ∧ c ≤ 0x46 then some (c.toNat - 0x41 + 10)
  else if 0x61 ≤ c ∧ c ≤ 0x66 then some (c.toNat - 0x61 + 10)
  else none

/-- The code unit of four hexadecimal digits. -/
def codeUnit : List Item → Option ℕ
  | [.plain a _ _, .plain b _ _, .plain c _ _, .plain d _ _] => do
    let a ← hexDigit a
    let b ← hexDigit b
    let c ← hexDigit c
    let d ← hexDigit d
    return ((a * 16 + b) * 16 + c) * 16 + d
  | _ => none

/-- The bytes of a code point. -/
def utf8 (codePoint : ℕ) : List UInt8 := String.utf8EncodeChar (Char.ofNat codePoint)

/-- The JSON string with these characters stands for the bytes. Control characters have to be
escaped, and a code point above the first 65536 is a pair of surrogates. -/
inductive Decodes : List Item → List UInt8 → Prop
  | nil : Decodes [] []
  | plain {c : UInt8} {ne_quote : c ≠ 0x22} {ne_backslash : c ≠ 0x5C} {items : List Item}
      {text : List UInt8} (hprintable : 0x20 ≤ c) (hrest : Decodes items text) :
      Decodes (.plain c ne_quote ne_backslash :: items) (c :: text)
  | escape {e c : UInt8} {items : List Item} {text : List UInt8} (hescape : escapeValue e = some c)
      (hrest : Decodes items text) : Decodes (.escaped e :: items) (c :: text)
  | unicode {digits items : List Item} {unit : ℕ} {text : List UInt8}
      (hunit : codeUnit digits = some unit) (hscalar : unit < 0xD800 ∨ 0xE000 ≤ unit)
      (hrest : Decodes items text) :
      Decodes (.escaped 0x75 :: (digits ++ items)) (utf8 unit ++ text)
  | surrogates {digits digits' items : List Item} {high low : ℕ} {text : List UInt8}
      (hhigh : codeUnit digits = some high) (hlow : codeUnit digits' = some low)
      (hhighRange : 0xD800 ≤ high ∧ high < 0xDC00) (hlowRange : 0xDC00 ≤ low ∧ low < 0xE000)
      (hrest : Decodes items text) :
      Decodes (.escaped 0x75 :: (digits ++ .escaped 0x75 :: (digits' ++ items)))
        (utf8 (0x10000 + (high - 0xD800) * 0x400 + (low - 0xDC00)) ++ text)

/-- The body is one object of strings up to surrounding white space, and its keys and values are
read as the entries. -/
def IsObjectOf (Reads : List Item → List UInt8 → Prop) (body : List UInt8)
    (entries : List (List UInt8 × List UInt8)) : Prop :=
  ∃ (before : Space) (pairs : Pairs) (behind : Space),
    body = before.val ++ 0x7B :: (pairs.render ++ behind.val) ∧ pairs.NoTrailingComma ∧
      List.Forall₂ (fun m entry => Reads m.key entry.1 ∧ Reads m.value entry.2) pairs.members entries

/-- The body is a JSON object of strings that stand for the entries. -/
def IsObject (body : List UInt8) (entries : List (List UInt8 × List UInt8)) : Prop :=
  IsObjectOf Decodes body entries

/-! ## Writing a string -/

/-- A quote and a backslash are escaped, and nothing else. -/
def Item.ofChar (c : UInt8) : Item :=
  if h : c = 0x22 ∨ c = 0x5C then .escaped c
  else .plain c (fun hquote => h (Or.inl hquote)) (fun hbackslash => h (Or.inr hbackslash))

/-- The characters that stand for a text. -/
def escapeText (text : List UInt8) : List Item := text.map Item.ofChar

/-- They stand for it if it has no control characters. -/
theorem decodes_escapeText {text : List UInt8} (h : ∀ c ∈ text, 0x20 ≤ c) :
    Decodes (escapeText text) text := by
  induction text with
  | nil => exact Decodes.nil
  | cons c rest ih =>
    have hrest := ih fun d hd => h d (List.mem_cons_of_mem c hd)
    rw [escapeText, List.map_cons, Item.ofChar]
    by_cases hescaped : c = 0x22 ∨ c = 0x5C
    · rw [dif_pos hescaped]
      rcases hescaped with rfl | rfl <;> exact Decodes.escape rfl hrest
    · rw [dif_neg hescaped]
      exact Decodes.plain (h c List.mem_cons_self) hrest

/-! ## A text has one reading -/

/-- A character is written with at least one byte. -/
theorem length_le_render (items : List Item) :
    items.length ≤ (items.flatMap Item.render).length := by
  induction items with
  | nil => exact Nat.le_refl 0
  | cons item items ih =>
    rw [List.flatMap_cons, List.length_append, List.length_cons]
    have hitem : 1 ≤ item.render.length := by cases item <;> simp [Item.render]
    omega

/-- What follows a string follows its closing quote. -/
theorem quoted_append (items : List Item) (rest : List UInt8) :
    quoted items ++ rest = 0x22 :: (items.flatMap Item.render ++ 0x22 :: rest) := by
  rw [quoted, List.cons_append, List.append_assoc, List.singleton_append]

/-- What follows a member follows its white space. -/
theorem Member.render_append (m : Member) (rest : List UInt8) :
    m.render ++ rest = m.before.val ++ 0x22 :: (m.key.flatMap Item.render ++ 0x22 ::
      (m.behindKey.val ++ 0x3A :: (m.behindColon.val ++ 0x22 ::
        (m.value.flatMap Item.render ++ 0x22 :: (m.behind.val ++ rest))))) := by
  simp only [Member.render, quoted, List.append_assoc, List.cons_append, List.nil_append]

/-- Skipping white space ends at the next other character. -/
theorem dropWhile_space (space : Space) {c : UInt8} (hc : isSpace c = false) (rest : List UInt8) :
    (space.val ++ c :: rest).dropWhile isSpace = c :: rest := by
  rw [List.dropWhile_append_of_pos space.property, List.dropWhile_cons_of_neg (by rw [hc]; decide)]

/-- White space ends at the first character that is none. -/
theorem space_unique {space space' : Space} {c c' : UInt8} {rest rest' : List UInt8}
    (hc : isSpace c = false) (hc' : isSpace c' = false)
    (h : space.val ++ c :: rest = space'.val ++ c' :: rest') :
    space = space' ∧ c = c' ∧ rest = rest' := by
  have hdrop : c :: rest = c' :: rest' := by
    rw [← dropWhile_space space hc rest, h, dropWhile_space space' hc' rest']
  obtain ⟨rfl, rfl⟩ := List.cons.inj hdrop
  exact ⟨Subtype.ext (List.append_cancel_right h), rfl, rfl⟩

/-- A string ends at its closing quote. -/
theorem items_unique {items items' : List Item} {rest rest' : List UInt8}
    (h : items.flatMap Item.render ++ 0x22 :: rest = items'.flatMap Item.render ++ 0x22 :: rest') :
    items = items' ∧ rest = rest' := by
  induction items generalizing items' with
  | nil =>
    cases items' with
    | nil => exact ⟨rfl, (List.cons.inj h).2⟩
    | cons item' items' =>
      cases item' with
      | plain c hquote _ => exact absurd (List.cons.inj h).1.symm hquote
      | escaped c => exact absurd (List.cons.inj h).1 (by decide)
  | cons item items ih =>
    cases items' with
    | nil =>
      cases item with
      | plain c hquote _ => exact absurd (List.cons.inj h).1 hquote
      | escaped c => exact absurd (List.cons.inj h).1 (by decide)
    | cons item' items' =>
      cases item with
      | plain c _ hbackslash =>
        cases item' with
        | plain c' _ _ =>
          obtain ⟨rfl, htail⟩ := List.cons.inj h
          obtain ⟨rfl, rfl⟩ := ih htail
          exact ⟨rfl, rfl⟩
        | escaped c' => exact absurd (List.cons.inj h).1 hbackslash
      | escaped c =>
        cases item' with
        | plain c' _ hbackslash => exact absurd (List.cons.inj h).1.symm hbackslash
        | escaped c' =>
          obtain ⟨rfl, htail⟩ := List.cons.inj (List.cons.inj h).2
          obtain ⟨rfl, rfl⟩ := ih htail
          exact ⟨rfl, rfl⟩

/-- A member is read in one way only. -/
theorem member_unique {m m' : Member} {c c' : UInt8} {rest rest' : List UInt8}
    (hc : isSpace c = false) (hc' : isSpace c' = false)
    (h : m.render ++ c :: rest = m'.render ++ c' :: rest') : m = m' ∧ c = c' ∧ rest = rest' := by
  rw [Member.render_append, Member.render_append] at h
  obtain ⟨hbefore, -, hkey⟩ := space_unique (by decide) (by decide) h
  obtain ⟨hkeyItems, hcolon⟩ := items_unique hkey
  obtain ⟨hbehindKey, -, hvalue⟩ := space_unique (by decide) (by decide) hcolon
  obtain ⟨hbehindColon, -, hvalueText⟩ := space_unique (by decide) (by decide) hvalue
  obtain ⟨hvalueItems, hend⟩ := items_unique hvalueText
  obtain ⟨hbehind, hcc, hrest⟩ := space_unique hc hc' hend
  cases m
  cases m'
  simp only at hbefore hkeyItems hbehindKey hbehindColon hvalueItems hbehind
  subst hbefore hkeyItems hbehindKey hbehindColon hvalueItems hbehind
  exact ⟨rfl, hcc, hrest⟩

/-- A closing brace is no member. -/
theorem close_ne_member {space : Space} {m : Member} {rest rest' : List UInt8} :
    space.val ++ 0x7D :: rest ≠ m.render ++ rest' := by
  intro h
  rw [Member.render_append] at h
  obtain ⟨-, hne, -⟩ := space_unique (by decide) (by decide) h
  exact absurd hne (by decide)

namespace Pairs

/-- What follows an empty object follows its brace. -/
theorem render_close_append (before : Space) (rest : List UInt8) :
    (close before).render ++ rest = before.val ++ 0x7D :: rest := by
  rw [render, List.append_assoc, List.singleton_append]

/-- What follows the last member. -/
theorem render_last_append (m : Member) (rest : List UInt8) :
    (last m).render ++ rest = m.render ++ 0x7D :: rest := by
  rw [render, List.append_assoc, List.singleton_append]

/-- What follows a member with others behind it. -/
theorem render_more_append (m : Member) (next : Pairs) (rest : List UInt8) :
    (more m next).render ++ rest = m.render ++ 0x2C :: (next.render ++ rest) := by
  rw [render, List.append_assoc, List.cons_append]

/-- The pairs end at their closing brace. -/
theorem unique {pairs pairs' : Pairs} {rest rest' : List UInt8}
    (h : pairs.render ++ rest = pairs'.render ++ rest') : pairs = pairs' ∧ rest = rest' := by
  induction pairs generalizing pairs' with
  | close before =>
    rw [render_close_append] at h
    cases pairs' with
    | close before' =>
      rw [render_close_append] at h
      obtain ⟨rfl, -, rfl⟩ := space_unique (by decide) (by decide) h
      exact ⟨rfl, rfl⟩
    | last m' => exact absurd (h.trans (render_last_append m' rest')) close_ne_member
    | more m' next' => exact absurd (h.trans (render_more_append m' next' rest')) close_ne_member
  | last m =>
    rw [render_last_append] at h
    cases pairs' with
    | close before' =>
      rw [render_close_append] at h
      exact absurd h.symm close_ne_member
    | last m' =>
      rw [render_last_append] at h
      obtain ⟨rfl, -, rfl⟩ := member_unique (by decide) (by decide) h
      exact ⟨rfl, rfl⟩
    | more m' next' =>
      rw [render_more_append] at h
      exact absurd (member_unique (by decide) (by decide) h).2.1 (by decide)
  | more m next ih =>
    rw [render_more_append] at h
    cases pairs' with
    | close before' =>
      rw [render_close_append] at h
      exact absurd h.symm close_ne_member
    | last m' =>
      rw [render_last_append] at h
      exact absurd (member_unique (by decide) (by decide) h).2.1 (by decide)
    | more m' next' =>
      rw [render_more_append] at h
      obtain ⟨rfl, -, hnext⟩ := member_unique (by decide) (by decide) h
      obtain ⟨rfl, rfl⟩ := ih hnext
      exact ⟨rfl, rfl⟩

end Pairs

/-- A body has one reading as an object. -/
theorem object_unique {before before' : Space} {pairs pairs' : Pairs} {rest rest' : List UInt8}
    (h : before.val ++ 0x7B :: (pairs.render ++ rest) =
      before'.val ++ 0x7B :: (pairs'.render ++ rest')) : pairs = pairs' ∧ rest = rest' :=
  Pairs.unique (space_unique (by decide) (by decide) h).2.2

end JsonText
