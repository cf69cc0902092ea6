import Mathlib.Data.UInt

/-! A clock of 32 bits that wraps around: what differences of its readings say about the times. -/

namespace Clock

/-- The reading at the time `t`. -/
def reading (t : Nat) : UInt32 := .ofNat t

theorem reading_add (t : Nat) (d : UInt32) : reading t + d = reading (t + d.toNat) := by
  unfold reading
  rw [UInt32.ofNat_add, UInt32.ofNat_toNat]

theorem toNat_reading (t : Nat) : (reading t).toNat = t % 2 ^ 32 := UInt32.toNat_ofNat'

/-- How far the clock has come since `d`. -/
theorem toNat_sub_of_le {t d : Nat} (hle : d ≤ t) (hlt : t < d + 2 ^ 32) :
    (reading t - reading d).toNat = t - d := by
  rw [UInt32.toNat_sub, toNat_reading, toNat_reading]
  omega

/-- A time ahead looks like one long ago. -/
theorem toNat_sub_of_lt {t d : Nat} (hlt : t < d) (hle : d ≤ t + 2 ^ 32) :
    (reading t - reading d).toNat = t + 2 ^ 32 - d := by
  rw [UInt32.toNat_sub, toNat_reading, toNat_reading]
  omega

/-- Times that are close enough are told apart by the sign bit of the difference. -/
theorem behind_iff {t d : Nat} (hahead : d ≤ t + 2 ^ 31) (hbehind : t < d + 2 ^ 31) :
    2 ^ 31 ≤ (reading t - reading d).toNat ↔ t < d := by
  by_cases hlt : t < d
  · rw [toNat_sub_of_lt hlt (by omega)]
    omega
  · rw [toNat_sub_of_le (by omega) (by omega)]
    omega

/-- A time not too far ahead is recognised. -/
theorem behind_of_lt {t d : Nat} (hlt : t < d) (hahead : d ≤ t + 2 ^ 31) :
    2 ^ 31 ≤ (reading t - reading d).toNat := (behind_iff hahead (by omega)).mpr hlt

end Clock
