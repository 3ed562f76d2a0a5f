import Esp32Wiimote.Library.LoggedMemory
import Esp32Wiimote.Bluetooth.L2cap

/-!
# The payload buffer in memory

`PayloadBuilder` writes through a pointer to the first of `capacity_` bytes. Here the bytes lie in a
memory that goes on to both sides of the buffer and holds what earlier payloads left. The builder of
the packet model, which keeps only the bytes it wrote, is what these writes amount to.
-/

namespace Esp32Wiimote.Bluetooth

open StateProgram LoggedMemory

/-- The members of the class `PayloadBuilder`. -/
structure BufferWriter where
  buffer : Memory UInt8
  position : ℕ := 0
  capacity : ℕ

namespace BufferWriter

/-- A byte that does not fit is dropped. -/
def append (pb : BufferWriter) (val : UInt8) : BufferWriter :=
  if pb.position < pb.capacity then
    { pb with buffer := pb.buffer.store pb.position val, position := pb.position + 1 }
  else pb

/-- Two bytes, the high one first. -/
def appendU16BE (pb : BufferWriter) (val : UInt16) : BufferWriter :=
  (pb.append (val >>> 8).toUInt8).append (val &&& 0xFF).toUInt8

/-- The three low bytes, the highest first. -/
def appendU24BE (pb : BufferWriter) (val : UInt32) : BufferWriter :=
  ((pb.append ((val >>> 16) &&& 0xFF).toUInt8).append ((val >>> 8) &&& 0xFF).toUInt8).append
    (val &&& 0xFF).toUInt8

/-- The zeroes are stored all or not at all. -/
def reserveZeroed (pb : BufferWriter) (count : ℕ) : BufferWriter :=
  if pb.position + count ≤ pb.capacity then
    { pb with buffer := pb.buffer.storeAll pb.position (List.replicate count 0)
              position := pb.position + count }
  else pb

/-- What `length()` answers. -/
def length (pb : BufferWriter) : ℕ := pb.position

/-- `memcpy` of `count` bytes to `buffer[target]`, whether or not that lies in the buffer. -/
def memcpy (pb : BufferWriter) (target : ℤ) (data : ℕ → UInt8) (count : ℕ) : BufferWriter :=
  { pb with buffer := pb.buffer.storeAll target ((List.range count).map data) }

/-- The bytes that are sent. -/
def bytes (pb : BufferWriter) : List UInt8 := pb.buffer.load pb.length

/-! ## Refinement -/

/-- The buffer holds the bytes of the list-based builder, and since `before` nothing outside of
it was written to. -/
structure Holds {capacity : ℕ} (before : Memory UInt8) (pb : BufferWriter)
    (spec : PayloadBuilder capacity) : Prop where
  capacity_eq : pb.capacity = capacity
  position_eq : pb.position = spec.bytes.length
  cell : ∀ k (hk : k < spec.bytes.length), pb.buffer.cell k = spec.bytes[k]
  stores : StoresInside capacity before pb.buffer

section Refinement

variable {capacity : ℕ} {before : Memory UInt8} {pb : BufferWriter} {spec : PayloadBuilder capacity}

/-- A new builder holds nothing. -/
theorem holds_empty (before : Memory UInt8) (capacity : ℕ) :
    Holds before { buffer := before, capacity } (.empty : PayloadBuilder capacity) where
  capacity_eq := rfl
  position_eq := rfl
  cell _ hk := absurd hk (Nat.not_lt_zero _)
  stores := refl_of _ before

/-- A builder that holds a payload has its bytes. -/
theorem Holds.bytes_eq (h : Holds before pb spec) : pb.bytes = spec.bytes := by
  rw [bytes, length, h.position_eq]
  exact pb.buffer.load_eq_of_cell h.cell

/-- Appending keeps the two in step. -/
theorem Holds.append (h : Holds before pb spec) (val : UInt8) :
    Holds before (pb.append val) (spec.append val) := by
  rw [BufferWriter.append, PayloadBuilder.append, h.capacity_eq, h.position_eq]
  by_cases hroom : spec.bytes.length < capacity
  · rw [if_pos hroom, dif_pos hroom]
    constructor
    · rfl
    · simp
    · intro k hk
      rw [List.length_append, List.length_singleton] at hk
      rw [List.getElem_append]
      split
      · next hlt => rw [Memory.cell_store_ne _ _ _ (by omega), h.cell k hlt]
      · next hge =>
        obtain rfl : k = spec.bytes.length := by omega
        simp
    · exact trans_of _ h.stores (Memory.storesInside_store _ _ _ (by omega))
  · rw [if_neg hroom, dif_neg hroom]
    exact h

/-- So does appending two bytes. -/
theorem Holds.appendU16BE (h : Holds before pb spec) (val : UInt16) :
    Holds before (pb.appendU16BE val) (spec.appendU16BE val) :=
  (h.append _).append _

/-- So does appending three. -/
theorem Holds.appendU24BE (h : Holds before pb spec) (val : UInt32) :
    Holds before (pb.appendU24BE val) (spec.appendU24BE val) :=
  ((h.append _).append _).append _

/-- So does reserving zeroes. -/
theorem Holds.reserveZeroed (h : Holds before pb spec) (count : ℕ) :
    Holds before (pb.reserveZeroed count) (spec.reserveZeroed count) := by
  rw [BufferWriter.reserveZeroed, PayloadBuilder.reserveZeroed, h.capacity_eq, h.position_eq]
  by_cases hroom : spec.bytes.length + count ≤ capacity
  · rw [if_pos hroom, dif_pos hroom]
    constructor
    · rfl
    · simp
    · intro k hk
      rw [List.length_append, List.length_replicate] at hk
      rw [List.getElem_append]
      split
      · next hlt => rw [Memory.cell_storeAll_outside _ _ _ (by omega), h.cell k hlt]
      · next hge =>
        obtain ⟨j, rfl⟩ := Nat.exists_eq_add_of_le (Nat.le_of_not_lt hge)
        rw [Int.natCast_add, Memory.cell_storeAll_inside _ _ _ j (by simp; omega)]
        simp
    · exact trans_of _ h.stores
        (Memory.storesInside_storeAll _ _ _ (by omega) (by rw [List.length_replicate]; omega))
  · rw [if_neg hroom, dif_neg hroom]
    exact h

/-- Copying over bytes that were written stays in the buffer. -/
theorem Holds.memcpy (h : Holds before pb spec) {target : ℕ} (data : ℕ → UInt8) {count : ℕ}
    (hin : target + count ≤ spec.bytes.length) :
    Holds before (pb.memcpy target data count) (spec.overwrite target data count) := by
  have hcapacity := spec.length_le
  constructor
  · exact h.capacity_eq
  · simpa [PayloadBuilder.overwrite, BufferWriter.memcpy] using h.position_eq
  · intro k hk
    simp only [PayloadBuilder.overwrite, List.length_mapIdx] at hk
    simp only [PayloadBuilder.overwrite, List.getElem_mapIdx, BufferWriter.memcpy]
    split
    · next hinside =>
      obtain ⟨j, rfl⟩ := Nat.exists_eq_add_of_le hinside.1
      rw [Int.natCast_add, Memory.cell_storeAll_inside _ _ _ j (by simp; omega)]
      simp
    · next houtside =>
      rw [Memory.cell_storeAll_outside _ _ _ (by simp; omega), h.cell k hk]
  · exact trans_of _ h.stores
      (Memory.storesInside_storeAll _ _ _ (by omega) (by simp; omega))

end Refinement

end BufferWriter

end Esp32Wiimote.Bluetooth
