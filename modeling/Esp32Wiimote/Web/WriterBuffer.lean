import Esp32Wiimote.Library.LoggedMemory
import Esp32Wiimote.Web.Router
import Mathlib.Algebra.Order.BigOperators.Group.List
import Mathlib.Algebra.Order.Ring.Nat

/-!
# The JSON writer in memory

A text is formatted behind the ones before it as long as there is room, and over the last byte of the
buffer from then on, while the length of all of them goes on growing. The length is a `size_t` of 32
bits and `snprintf` reports an `int`: for texts that these types can count, the buffer holds as much of
all texts as it has room for.
-/

namespace Esp32Wiimote.Web

open CText StateProgram LoggedMemory

/-- `INT_MAX`. -/
def kIntMax : ℕ := 2 ^ 31 - 1

/-- What `snprintf` returns: a length that is no `int` is an error. -/
def snprintfResult (text : CString) : ℤ := if text.length ≤ kIntMax then text.length else -1

/-- What `snprintf` stores: as much of the text as there is room for, and a NUL. -/
def snprintfStore (buffer : Memory UInt8) (offset available : ℕ) (text : CString) : Memory UInt8 :=
  if available = 0 then buffer else buffer.storeAll offset (text.take (available - 1) ++ [0])

/-- The members of the struct `JsonWriter`. -/
structure JsonWriterMemory where
  buffer : Memory UInt8
  size : UInt32
  written : UInt32

/-- The two functions of that name: the one for a text, and the template for a format. -/
inductive AppendOverload
  | text
  | format
  deriving DecidableEq, Repr

namespace JsonWriterMemory

/-- The length as an offset of the buffer: the last one at most. -/
def clamped (size written : UInt32) : UInt32 := if written < size then written else size - 1

/-- What both functions do with the text that is formatted. -/
def appendFormatted (writer : JsonWriterMemory) (text : CString) : Bool × JsonWriterMemory :=
  let kOffset := clamped writer.size writer.written
  let kAvailable := writer.size - kOffset
  let printed := snprintfStore writer.buffer kOffset.toNat kAvailable.toNat text
  let kResult := snprintfResult text
  if kResult < 0 then (false, { writer with buffer := printed.store (writer.size - 1).toNat 0 })
  else
    let written := writer.written + UInt32.ofNat kResult.toNat
    (decide (kResult.toNat < kAvailable.toNat),
      { writer with buffer := printed.store (clamped writer.size written).toNat 0, written })

/-- `appendFormat`, where a null text or format is `none`. -/
def appendFormat (writer : JsonWriterMemory) (overload : AppendOverload) (text : Option CString) :
    Bool × JsonWriterMemory :=
  match text with
  | none => (false, writer)
  | some text =>
    if overload = .format ∧ writer.size = 0 then (false, writer) else writer.appendFormatted text

/-- Calls one after the other, each with the text that it formats. -/
def appendAll (writer : JsonWriterMemory) (calls : List (AppendOverload × CString)) : JsonWriterMemory :=
  calls.foldl (fun writer call => (writer.appendFormat call.1 (some call.2)).2) writer

/-- The characters in the buffer, without the NUL behind them. -/
def content (writer : JsonWriterMemory) : List UInt8 :=
  writer.buffer.load (min writer.written.toNat (writer.size.toNat - 1))

end JsonWriterMemory

/-- All texts of the calls. -/
def formattedTexts (calls : List (AppendOverload × CString)) : CString := calls.flatMap Prod.snd

/-- The calls leave as much of all texts as there is room for, with a NUL behind it, and nothing
outside of the buffer. The length is the one of all texts, and a call returns true where its own text
was added to what was in the buffer. -/
structure WritesTexts (buffer : Memory UInt8) (size : UInt32)
    (calls : List (AppendOverload × CString)) : Prop where
  content : ((JsonWriterMemory.mk buffer size 0).appendAll calls).buffer.load
      (min (formattedTexts calls).length (size.toNat - 1) + 1) =
    (formattedTexts calls).take (size.toNat - 1) ++ [0]
  written : ((JsonWriterMemory.mk buffer size 0).appendAll calls).written.toNat =
    (formattedTexts calls).length
  stores : StoresInside size.toNat buffer ((JsonWriterMemory.mk buffer size 0).appendAll calls).buffer
  answers : ∀ earlier call later, calls = earlier ++ call :: later →
    let writer := (JsonWriterMemory.mk buffer size 0).appendAll earlier
    let answer := writer.appendFormat call.1 (some call.2)
    answer.1 = true ↔ answer.2.content = writer.content ++ call.2

/-! ## One call -/

namespace JsonWriterMemory

/-- The last offset of a buffer that is not empty. -/
theorem toNat_last {size : UInt32} (hsize : 0 < size.toNat) : (size - 1).toNat = size.toNat - 1 := by
  have hone : (1 : UInt32) ≤ size := UInt32.le_iff_toNat_le.mpr hsize
  rw [UInt32.toNat_sub_of_le _ _ hone]
  rfl

/-- The offset is the length, or the last one of the buffer. -/
theorem toNat_clamped {size written : UInt32} (hsize : 0 < size.toNat) :
    (clamped size written).toNat = min written.toNat (size.toNat - 1) := by
  rw [clamped]
  split
  · rename_i h
    rw [UInt32.lt_iff_toNat_lt] at h
    omega
  · rename_i h
    rw [UInt32.lt_iff_toNat_lt] at h
    rw [toNat_last hsize]
    omega

/-- The buffer holds what there is room for, and the length is the one of all texts. -/
structure Holds (buffer : Memory UInt8) (size : UInt32) (texts : CString) (writer : JsonWriterMemory) :
    Prop where
  size_eq : writer.size = size
  written : writer.written.toNat = texts.length
  content : writer.content = texts.take (size.toNat - 1)
  stores : StoresInside size.toNat buffer writer.buffer

section Append

variable {buffer : Memory UInt8} {size : UInt32} {texts text : CString} {writer : JsonWriterMemory}

/-- A new writer holds no text. -/
theorem holds_start (buffer : Memory UInt8) (size : UInt32) : Holds buffer size [] ⟨buffer, size, 0⟩ where
  size_eq := rfl
  written := rfl
  content := by
    rw [JsonWriterMemory.content, List.take_nil]
    change buffer.load (min 0 _) = []
    rw [Nat.zero_min]
    rfl
  stores := refl_of _ buffer

/-- The memory behind a call: the part of the text that fits, and a NUL, twice. -/
def formatted (buffer : Memory UInt8) (offset : ℕ) (fits : CString) : Memory UInt8 :=
  (buffer.storeAll offset (fits ++ [0])).store (offset + fits.length : ℕ) 0

/-- A text that is formatted comes behind what was there. -/
theorem load_formatted (buffer : Memory UInt8) (offset : ℕ) (fits : CString) :
    (formatted buffer offset fits).load (offset + fits.length) = buffer.load offset ++ fits := by
  have hstored := buffer.load_storeAll_end (fits ++ [0]) offset
  have htake := (buffer.storeAll offset (fits ++ [0])).load_take
    (show offset + fits.length ≤ offset + (fits ++ [0]).length by
      rw [List.length_append]
      omega)
  rw [formatted, Memory.load_store_of_le _ _ (Nat.le_refl _), ← htake, hstored, ← List.append_assoc,
    List.take_left']
  rw [List.length_append, Memory.length_load]

/-- It is stored inside the buffer, with its NUL. -/
theorem storesInside_formatted (buffer : Memory UInt8) {offset bound : ℕ} {fits : CString}
    (h : offset + fits.length < bound) : StoresInside bound buffer (formatted buffer offset fits) := by
  refine trans_of _ (buffer.storesInside_storeAll offset _ (by omega) ?_)
    (Memory.storesInside_store _ _ 0 (by omega))
  rw [List.length_append, List.length_singleton]
  omega

/-- The part of a text that fits behind the ones before it. -/
def fitting (size : UInt32) (texts text : CString) : CString :=
  text.take (size.toNat - 1 - texts.length)

/-- What fits of two texts is what fits of the first, and of the second behind it. -/
theorem take_append_fitting (size : UInt32) (texts text : CString) :
    (texts ++ text).take (size.toNat - 1) = texts.take (size.toNat - 1) ++ fitting size texts text :=
  List.take_append

/-- Its length is the length of both, or the room there is. -/
theorem length_fitting (size : UInt32) (texts text : CString) :
    min texts.length (size.toNat - 1) + (fitting size texts text).length =
      min (texts ++ text).length (size.toNat - 1) := by
  rw [fitting, List.length_take, List.length_append]
  omega

/-- The length that is counted does not overflow. -/
theorem toNat_written (h : Holds buffer size texts writer)
    (htotal : (texts ++ text).length < 2 ^ 32) :
    (writer.written + UInt32.ofNat text.length).toNat = (texts ++ text).length := by
  rw [List.length_append] at htotal ⊢
  rw [UInt32.toNat_add, h.written, UInt32.toNat_ofNat', Nat.add_mod_mod, Nat.mod_eq_of_lt htotal]

/-- A call of which the length is counted. -/
theorem appendFormatted_eq (hsize : 0 < size.toNat) (h : Holds buffer size texts writer)
    (hint : text.length ≤ kIntMax) (htotal : (texts ++ text).length < 2 ^ 32) :
    writer.appendFormatted text =
      (decide (text.length < size.toNat - min texts.length (size.toNat - 1)),
        ⟨formatted writer.buffer (min texts.length (size.toNat - 1)) (fitting size texts text), size,
          writer.written + UInt32.ofNat text.length⟩) := by
  have hresult : snprintfResult text = (text.length : ℤ) := if_pos hint
  have hoffset : (clamped writer.size writer.written).toNat = min texts.length (size.toNat - 1) := by
    rw [h.size_eq, toNat_clamped hsize, h.written]
  have hend : (clamped writer.size (writer.written + UInt32.ofNat text.length)).toNat =
      min texts.length (size.toNat - 1) + (fitting size texts text).length := by
    rw [h.size_eq, toNat_clamped hsize, toNat_written h htotal, length_fitting]
  have havailable : (writer.size - clamped writer.size writer.written).toNat =
      size.toNat - min texts.length (size.toNat - 1) := by
    rw [UInt32.toNat_sub_of_le, hoffset, h.size_eq]
    rw [UInt32.le_iff_toNat_le, hoffset, h.size_eq]
    omega
  have hroom : size.toNat - min texts.length (size.toNat - 1) ≠ 0 := by omega
  have hfits : size.toNat - min texts.length (size.toNat - 1) - 1 = size.toNat - 1 - texts.length := by
    omega
  rw [appendFormatted]
  dsimp only
  rw [hresult, if_neg (Int.not_lt.mpr (Int.natCast_nonneg _)), Int.toNat_natCast, havailable, hend,
    hoffset, snprintfStore, if_neg hroom, hfits, h.size_eq]
  rfl

/-- A call goes on with its text, and says whether there was room for it. -/
theorem Holds.appendFormatted (hsize : 0 < size.toNat) (h : Holds buffer size texts writer)
    (hint : text.length ≤ kIntMax) (htotal : (texts ++ text).length < 2 ^ 32) :
    Holds buffer size (texts ++ text) (writer.appendFormatted text).2 ∧
      (writer.appendFormatted text).2.buffer.cell
        (min (texts ++ text).length (size.toNat - 1) : ℕ) = 0 ∧
      ((writer.appendFormatted text).1 = true ↔
        (writer.appendFormatted text).2.content = writer.content ++ text) := by
  have hlength := length_fitting size texts text
  have hwritten := toNat_written h htotal
  have hcontent := h.content
  rw [appendFormatted_eq hsize h hint htotal]
  rw [JsonWriterMemory.content, h.written, h.size_eq] at hcontent
  have hafter : JsonWriterMemory.content ⟨formatted writer.buffer (min texts.length (size.toNat - 1))
      (fitting size texts text), size, writer.written + UInt32.ofNat text.length⟩ =
        (texts ++ text).take (size.toNat - 1) := by
    rw [JsonWriterMemory.content, hwritten, ← hlength, load_formatted, hcontent, take_append_fitting]
  refine ⟨⟨rfl, hwritten, hafter, trans_of _ h.stores (storesInside_formatted _ ?_)⟩, ?_, ?_⟩
  · omega
  · rw [← hlength, formatted, Memory.cell_store_self]
  · rw [hafter, take_append_fitting, h.content, List.append_cancel_left_eq, decide_eq_true_iff, fitting,
      List.take_eq_self_iff]
    omega

end Append

/-! ## A sequence of calls -/

section Calls

variable {buffer : Memory UInt8} {size : UInt32} {texts : CString} {writer : JsonWriterMemory}
  {calls : List (AppendOverload × CString)}

/-- The text of the first call comes first. -/
theorem formattedTexts_cons (call : AppendOverload × CString) (calls : List (AppendOverload × CString)) :
    formattedTexts (call :: calls) = call.2 ++ formattedTexts calls :=
  List.flatMap_cons

/-- The texts of two lists are those of the first and then of the second. -/
theorem formattedTexts_append (earlier later : List (AppendOverload × CString)) :
    formattedTexts (earlier ++ later) = formattedTexts earlier ++ formattedTexts later :=
  List.flatMap_append

/-- So are the calls. -/
theorem appendAll_append (writer : JsonWriterMemory) (earlier later : List (AppendOverload × CString)) :
    writer.appendAll (earlier ++ later) = (writer.appendAll earlier).appendAll later :=
  List.foldl_append

/-- The functions differ in what they do without a buffer. -/
theorem appendFormat_eq (hsize : 0 < writer.size.toNat) (overload : AppendOverload) (text : CString) :
    writer.appendFormat overload (some text) = writer.appendFormatted text := by
  refine if_neg fun h => ?_
  rw [h.2] at hsize
  exact Nat.lt_irrefl 0 hsize

/-- A writer that holds its texts holds those of further calls. -/
theorem Holds.appendAll (hsize : 0 < size.toNat) (h : Holds buffer size texts writer)
    (hint : ∀ call ∈ calls, call.2.length ≤ kIntMax)
    (htotal : (texts ++ formattedTexts calls).length < 2 ^ 32) :
    Holds buffer size (texts ++ formattedTexts calls) (writer.appendAll calls) := by
  induction calls generalizing texts writer with
  | nil =>
    change Holds buffer size (texts ++ []) writer
    rwa [List.append_nil]
  | cons call calls ih =>
    rw [formattedTexts_cons, ← List.append_assoc] at htotal ⊢
    have hcall : (texts ++ call.2).length < 2 ^ 32 := by
      rw [List.length_append] at htotal
      omega
    have hstep := (h.appendFormatted hsize (hint call List.mem_cons_self) hcall).1
    rw [← appendFormat_eq (h.size_eq ▸ hsize) call.1] at hstep
    exact ih hstep (fun other hother => hint other (List.mem_cons_of_mem call hother)) htotal

/-- The lengths of the calls are ones that the types can count. -/
structure Countable (calls : List (AppendOverload × CString)) : Prop where
  text : ∀ call ∈ calls, call.2.length ≤ kIntMax
  total : (formattedTexts calls).length < 2 ^ 32

/-- The first calls of a countable list are countable. -/
theorem Countable.of_append {earlier later : List (AppendOverload × CString)}
    (h : Countable (earlier ++ later)) : Countable earlier where
  text call hcall := h.text call (List.mem_append_left later hcall)
  total := by
    have htotal := h.total
    rw [formattedTexts_append, List.length_append] at htotal
    omega

/-- After countable calls the writer holds their texts. -/
theorem holds_appendAll (buffer : Memory UInt8) (hsize : 0 < size.toNat) (h : Countable calls) :
    Holds buffer size (formattedTexts calls) ((mk buffer size 0).appendAll calls) :=
  (holds_start buffer size).appendAll hsize h.text h.total

/-- A call behind others. -/
theorem appendFormat_holds (buffer : Memory UInt8) (hsize : 0 < size.toNat)
    {earlier : List (AppendOverload × CString)} {call : AppendOverload × CString}
    (h : Countable (earlier ++ [call])) :
    let writer := (mk buffer size 0).appendAll earlier
    let answer := writer.appendFormat call.1 (some call.2)
    answer.2.buffer.cell (min (formattedTexts (earlier ++ [call])).length (size.toNat - 1) : ℕ) = 0 ∧
      (answer.1 = true ↔ answer.2.content = writer.content ++ call.2) := by
  have hholds := holds_appendAll buffer hsize h.of_append
  have htext := h.text call (List.mem_append_right earlier List.mem_cons_self)
  have htexts : formattedTexts (earlier ++ [call]) = formattedTexts earlier ++ call.2 := by
    rw [formattedTexts_append, formattedTexts_cons]
    exact congrArg _ (List.append_nil _)
  have htotal := h.total
  dsimp only
  rw [htexts] at htotal ⊢
  have hwriter : 0 < ((mk buffer size 0).appendAll earlier).size.toNat := by
    rw [hholds.size_eq]
    exact hsize
  rw [appendFormat_eq hwriter]
  exact (hholds.appendFormatted hsize htext htotal).2

/-- Texts that the types can count are written as far as there is room. -/
theorem writesTexts_of_countable (hsize : 0 < size.toNat) (hnul : calls ≠ [] ∨ buffer.cell 0 = 0)
    (h : Countable calls) : WritesTexts buffer size calls := by
  have hholds := holds_appendAll buffer hsize h
  have hcontent := hholds.content
  rw [content, hholds.written, hholds.size_eq] at hcontent
  have hend : ((mk buffer size 0).appendAll calls).buffer.cell
      (min (formattedTexts calls).length (size.toNat - 1) : ℕ) = 0 := by
    rcases List.eq_nil_or_concat calls with rfl | ⟨earlier, call, rfl⟩
    · change buffer.cell (min 0 (size.toNat - 1) : ℕ) = 0
      rw [Nat.zero_min]
      exact hnul.resolve_left (not_not.mpr rfl)
    · rw [List.concat_eq_append] at h ⊢
      rw [appendAll_append]
      exact (appendFormat_holds buffer hsize h).1
  refine ⟨?_, hholds.written, hholds.stores, fun earlier call later hcalls => ?_⟩
  · rw [Memory.load_succ, hcontent, hend]
  · rw [hcalls, List.append_cons] at h
    exact (appendFormat_holds buffer hsize h.of_append).2

/-! ## What the types cannot count -/

/-- The length that a call counts: none where no `int` can. -/
def countedLength (text : CString) : ℕ := if text.length ≤ kIntMax then text.length else 0

/-- No more is counted than a text has. -/
theorem countedLength_le (text : CString) : countedLength text ≤ text.length := by
  rw [countedLength]
  split
  · exact Nat.le_refl _
  · exact Nat.zero_le _

/-- A call counts the length of its text, if an `int` can. -/
theorem written_appendFormatted (writer : JsonWriterMemory) (text : CString) :
    (writer.appendFormatted text).2.written = writer.written + UInt32.ofNat (countedLength text) := by
  rw [appendFormatted, snprintfResult, countedLength]
  by_cases hint : text.length ≤ kIntMax
  · rw [if_pos hint, if_pos hint]
    dsimp only
    rw [if_neg (Int.not_lt.mpr (Int.natCast_nonneg _)), Int.toNat_natCast]
  · rw [if_neg hint, if_neg hint]
    exact (UInt32.add_zero _).symm

/-- No call counts more than that. -/
theorem toNat_written_appendFormat_le (writer : JsonWriterMemory) (call : AppendOverload × CString) :
    (writer.appendFormat call.1 (some call.2)).2.written.toNat ≤
      writer.written.toNat + countedLength call.2 := by
  rw [appendFormat]
  split
  · exact Nat.le_add_right _ _
  · rw [written_appendFormatted, UInt32.toNat_add, UInt32.toNat_ofNat']
    exact (Nat.mod_le _ _).trans (Nat.add_le_add_left (Nat.mod_le _ _) _)

/-- The length never grows by more than the texts that were counted. -/
theorem toNat_written_appendAll_le (writer : JsonWriterMemory)
    (calls : List (AppendOverload × CString)) :
    (writer.appendAll calls).written.toNat ≤
      writer.written.toNat + (calls.map fun call => countedLength call.2).sum := by
  induction calls generalizing writer with
  | nil => exact Nat.le_refl _
  | cons call calls ih =>
    have hstep := toNat_written_appendFormat_le writer call
    have hrest := ih (writer.appendFormat call.1 (some call.2)).2
    change ((writer.appendFormat call.1 (some call.2)).2.appendAll calls).written.toNat ≤ _
    rw [List.map_cons, List.sum_cons]
    omega

/-- A text that is not counted is missing in the sum. -/
theorem sum_countedLength_lt {call : AppendOverload × CString} (hcall : call ∈ calls)
    (hlong : kIntMax < call.2.length) :
    (calls.map fun call => countedLength call.2).sum < (formattedTexts calls).length := by
  rw [formattedTexts, List.length_flatMap]
  refine List.sum_lt_sum _ _ (fun other _ => countedLength_le other.2) ⟨call, hcall, ?_⟩
  rw [countedLength, if_neg (Nat.not_le.mpr hlong)]
  exact Nat.zero_lt_of_lt hlong

/-- Only lengths that the types can count are reported. -/
theorem countable_of_writesTexts (h : WritesTexts buffer size calls) : Countable calls where
  text call hcall := by
    by_contra hlong
    have hless := sum_countedLength_lt hcall (Nat.not_le.mp hlong)
    have hwritten := toNat_written_appendAll_le ⟨buffer, size, 0⟩ calls
    rw [h.written] at hwritten
    change _ ≤ 0 + _ at hwritten
    omega
  total := by
    rw [← h.written]
    exact UInt32.toNat_lt _

/-- Without a call the buffer is left alone. -/
theorem nul_of_writesTexts (h : WritesTexts buffer size calls) : calls ≠ [] ∨ buffer.cell 0 = 0 := by
  by_cases hcalls : calls = []
  · subst hcalls
    have hcontent := h.content
    change buffer.load (min 0 (size.toNat - 1) + 1) = List.take _ [] ++ [0] at hcontent
    rw [Nat.zero_min, List.take_nil, Memory.load_succ] at hcontent
    exact Or.inr (List.singleton_inj.mp (List.append_cancel_left hcontent))
  · exact Or.inl hcalls

end Calls

end JsonWriterMemory

open JsonWriterMemory

/-- The writer does what it is for exactly where there is a call, or a NUL in the buffer before, and the
types can count the lengths. -/
theorem writesTexts_iff (buffer : Memory UInt8) (size : UInt32) (hsize : 0 < size.toNat)
    (calls : List (AppendOverload × CString)) :
    WritesTexts buffer size calls ↔ (calls ≠ [] ∨ buffer.cell 0 = 0) ∧
      (∀ call ∈ calls, call.2.length ≤ kIntMax) ∧ (formattedTexts calls).length < 2 ^ 32 := by
  constructor
  · intro h
    exact ⟨nul_of_writesTexts h, (countable_of_writesTexts h).text, (countable_of_writesTexts h).total⟩
  · rintro ⟨hnul, htext, htotal⟩
    exact writesTexts_of_countable hsize hnul ⟨htext, htotal⟩

/-- A text that has room, and one that has not. -/
theorem writesTexts_iff_two :
    WritesTexts ⟨fun _ => 0x78, []⟩ 4 [(.text, ascii "ab"), (.format, ascii "cd")] :=
  (writesTexts_iff ⟨fun _ => 0x78, []⟩ 4 (by decide) [(.text, ascii "ab"), (.format, ascii "cd")]).mpr
    ⟨Or.inl (by decide), by decide, by decide⟩

/-- Texts of 2^32 characters in all, one text of 2^31 characters, and no text at all. -/
theorem not_writesTexts :
    ¬WritesTexts ⟨fun _ => 0, []⟩ 16 (List.replicate (2 ^ 32) (.text, [0x61])) ∧
      ¬WritesTexts ⟨fun _ => 0, []⟩ 16 [(.format, List.replicate (2 ^ 31) 0x61)] ∧
      ¬WritesTexts ⟨fun _ => 0x61, []⟩ 16 [] := by
  have hlength (n : ℕ) :
      (formattedTexts (List.replicate n (AppendOverload.text, [0x61]))).length = n := by
    induction n with
    | zero => rfl
    | succ n ih => rw [List.replicate_succ, formattedTexts_cons, List.length_append, ih, Nat.add_comm]; rfl
  refine ⟨fun h => ?_, fun h => ?_, fun h => ?_⟩
  · have htotal := (countable_of_writesTexts h).total
    rw [hlength] at htotal
    exact Nat.lt_irrefl _ htotal
  · have htext := (countable_of_writesTexts h).text _ List.mem_cons_self
    rw [List.length_replicate] at htext
    exact absurd htext (by decide)
  · rcases nul_of_writesTexts h with hcalls | hnul
    · exact hcalls rfl
    · exact absurd hnul (by decide)

/-! ## The writer on lists -/

/-- The writer on texts keeps what there is room for and counts all. -/
theorem JsonWriter.appendFormat_eq {size : ℕ} (hsize : 0 < size) (texts text : CString) :
    ((⟨texts.take (size - 1), size, texts.length⟩ : JsonWriter).appendFormat text).2 =
      ⟨(texts ++ text).take (size - 1), size, (texts ++ text).length⟩ := by
  have hoffset : (if texts.length < size then texts.length else size - 1) =
      min texts.length (size - 1) := by
    split <;> omega
  have hkeep : (texts.take (size - 1)).take (min texts.length (size - 1)) = texts.take (size - 1) := by
    rw [List.take_of_length_le]
    rw [List.length_take]
    omega
  have hfits : size - min texts.length (size - 1) - 1 = size - 1 - texts.length := by omega
  rw [JsonWriter.appendFormat, if_neg hsize.ne']
  dsimp only [snprintf]
  rw [if_neg (Int.not_lt.mpr (Int.natCast_nonneg _)), Int.toNat_natCast, hoffset, hkeep, hfits,
    ← List.take_append, List.length_append]

/-- The writer on lists keeps as much of all texts as there is room for. -/
theorem JsonWriter.appendAll_eq {size : ℕ} (hsize : 0 < size) (texts : List CString) :
    (⟨[], size, 0⟩ : JsonWriter).appendAll texts =
      ⟨texts.flatten.take (size - 1), size, texts.flatten.length⟩ := by
  suffices hrun : ∀ before : CString,
      (⟨before.take (size - 1), size, before.length⟩ : JsonWriter).appendAll texts =
        ⟨(before ++ texts.flatten).take (size - 1), size, (before ++ texts.flatten).length⟩ by
    have hstart := hrun []
    rwa [List.take_nil, List.nil_append] at hstart
  induction texts with
  | nil =>
    intro before
    rw [List.flatten_nil, List.append_nil]
    rfl
  | cons text texts ih =>
    intro before
    have hrest := ih (before ++ text)
    rw [← JsonWriter.appendFormat_eq hsize before text, List.append_assoc] at hrest
    exact hrest

/-- What is in the buffer, and the length of all texts, are the ones of the writer on lists. -/
theorem appendAll_eq_onLists (buffer : Memory UInt8) {size : UInt32} (hsize : 0 < size.toNat)
    {calls : List (AppendOverload × CString)} (h : Countable calls) :
    ((mk buffer size 0).appendAll calls).content =
        ((⟨[], size.toNat, 0⟩ : JsonWriter).appendAll (calls.map Prod.snd)).buffer ∧
      ((mk buffer size 0).appendAll calls).written.toNat =
        ((⟨[], size.toNat, 0⟩ : JsonWriter).appendAll (calls.map Prod.snd)).written := by
  have hholds := holds_appendAll buffer hsize h
  have htexts : (calls.map Prod.snd).flatten = formattedTexts calls := rfl
  rw [JsonWriter.appendAll_eq hsize, htexts]
  exact ⟨hholds.content, hholds.written⟩

end Esp32Wiimote.Web
