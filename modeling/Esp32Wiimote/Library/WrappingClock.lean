import Mathlib.Data.UInt

/-!
# A 32-bit millisecond clock

The clock shows the real time modulo `2 ^ 32`, and elapsed time is the difference of
two readings in the unsigned type. The difference is the elapsed real time modulo
`2 ^ 32`: it is exact for less than one turn of the clock and starts again after it.
-/

namespace WrappingClock

/-- The reading of the clock at a real time. -/
def reading (t : ℕ) : UInt32 := UInt32.ofNat t

/-- The difference of two readings is the time that passed, up to the turns of the clock. -/
theorem elapsed_toNat {start t : ℕ} (h : start ≤ t) :
    (reading t - reading start).toNat = (t - start) % 2 ^ 32 := by
  unfold reading
  rw [UInt32.toNat_sub, UInt32.toNat_ofNat', UInt32.toNat_ofNat']
  omega

/-- A comparison of the elapsed readings with a length of time. -/
theorem elapsed_lt_iff {start t length : ℕ} (h : start ≤ t) (hlength : length < 2 ^ 32) :
    reading t - reading start < UInt32.ofNat length ↔ (t - start) % 2 ^ 32 < length := by
  have hofNat : (UInt32.ofNat length).toNat = length := by
    rw [UInt32.toNat_ofNat']
    exact Nat.mod_eq_of_lt hlength
  rw [UInt32.lt_iff_toNat_lt, elapsed_toNat h, hofNat]

/-- The same for a length of time that is a machine integer, met from the other side. -/
theorem elapsed_le_iff {start t : ℕ} (h : start ≤ t) (length : UInt32) :
    reading t - reading start ≤ length ↔ (t - start) % 2 ^ 32 ≤ length.toNat := by
  rw [UInt32.le_iff_toNat_le, elapsed_toNat h]

end WrappingClock
