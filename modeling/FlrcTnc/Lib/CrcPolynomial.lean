import FlrcTnc.Lib.Crc
import Mathlib.Algebra.CharP.Two
import Mathlib.Algebra.Polynomial.Div
import Mathlib.Algebra.Polynomial.RingDivision
import Mathlib.Algebra.Field.ZMod
import Mathlib.Data.List.GetD
import Mathlib.Tactic.LinearCombination

/-! The register of a cyclic redundancy check as the remainder of a division of polynomials over
GF(2). -/

namespace Crc

open Polynomial

/-- The polynomial with these coefficients, the highest one first. -/
noncomputable def ofBits : List Bool → (ZMod 2)[X]
  | [] => 0
  | b :: bs => (if b then X ^ bs.length else 0) + ofBits bs

theorem ofBits_append (bs bs' : List Bool) :
    ofBits (bs ++ bs') = X ^ bs'.length * ofBits bs + ofBits bs' := by
  induction bs with
  | nil => simp [ofBits]
  | cons b bs ih =>
    rw [List.cons_append, ofBits, ofBits, ih, List.length_append, pow_add]
    split <;> ring

theorem coeff_ofBits (bs : List Bool) (n : Nat) :
    (ofBits bs).coeff n = if bs.reverse.getD n false then 1 else 0 := by
  induction bs with
  | nil => simp [ofBits]
  | cons b bs ih =>
    have hself : (if b then X ^ bs.length else 0 : (ZMod 2)[X]).coeff n =
        if n = bs.length ∧ b then 1 else 0 := by
      cases b <;> simp [coeff_X_pow]
    rw [ofBits, coeff_add, ih, hself, List.reverse_cons]
    rcases lt_trichotomy n bs.length with hlt | rfl | hgt
    · rw [List.getD_append _ _ _ _ (by simpa using hlt), if_neg (by omega), zero_add]
    · rw [List.getD_append_right _ _ _ _ (by simp)]
      simp
    · rw [List.getD_append_right _ _ _ _ (by simp; omega), if_neg (by omega), zero_add,
        List.getD_eq_default _ _ (by simp; omega), List.getD_eq_default _ _ (by simp; omega)]

/-- The bits in the order in which they leave the register. -/
def bits {w : Nat} (c : BitVec w) : List Bool := (List.range w).map c.getLsbD

/-- The register as a polynomial. -/
noncomputable def toPoly {w : Nat} (c : BitVec w) : (ZMod 2)[X] := ofBits (bits c)

variable {w k : Nat}

@[simp] theorem bits_length (c : BitVec w) : (bits c).length = w := by simp [bits]

theorem coeff_toPoly (c : BitVec w) (n : Nat) :
    (toPoly c).coeff n = if n < w ∧ c.getLsbD (w - 1 - n) then 1 else 0 := by
  rw [toPoly, coeff_ofBits]
  by_cases hn : n < w
  · have hbit : (bits c).reverse.getD n false = c.getLsbD (w - 1 - n) := by
      rw [List.getD_eq_getElem _ _ (by simpa using hn), List.getElem_reverse]
      simp [bits]
    rw [hbit]
    simp [hn]
  · rw [List.getD_eq_default _ _ (by simpa using hn)]
    simp [hn]

theorem toPoly_degree_lt (c : BitVec w) : (toPoly c).degree < w := by
  rw [degree_lt_iff_coeff_zero]
  intro n hn
  rw [coeff_toPoly, if_neg (by omega)]

theorem toPoly_xor (a b : BitVec w) : toPoly (a ^^^ b) = toPoly a + toPoly b := by
  have hbits (b b' : Bool) : (if b ^^ b' then 1 else 0 : ZMod 2) =
      (if b then 1 else 0) + if b' then 1 else 0 := by
    revert b b'
    decide
  ext n
  rw [coeff_add, coeff_toPoly, coeff_toPoly, coeff_toPoly]
  by_cases hn : n < w
  · simp only [hn, true_and, BitVec.getLsbD_xor]
    exact hbits _ _
  · simp [hn]

theorem toPoly_feedback (poly : BitVec w) (b : Bool) :
    toPoly (feedback poly b) = (if b then 1 else 0) * toPoly poly := by
  cases b with
  | true => rw [feedback, if_pos rfl, if_pos rfl, one_mul]
  | false =>
    ext n
    simp [feedback, coeff_toPoly]

/-- The bit that leaves the register is the highest coefficient. -/
theorem toPoly_ushiftRight (c : BitVec w) :
    X * toPoly c = (if c.getLsbD 0 then X ^ w else 0) + toPoly (c >>> 1) := by
  ext n
  have hout : (if c.getLsbD 0 then X ^ w else 0 : (ZMod 2)[X]).coeff n =
      if n = w ∧ c.getLsbD 0 then 1 else 0 := by
    cases c.getLsbD 0 <;> simp [coeff_X_pow]
  rw [coeff_add, hout, coeff_toPoly, BitVec.getLsbD_ushiftRight]
  cases n with
  | zero =>
    rw [coeff_X_mul_zero]
    by_cases hw : 0 = w
    · subst hw
      simp
    · have hhigh : c.getLsbD (1 + (w - 1 - 0)) = false := BitVec.getLsbD_of_ge _ _ (by omega)
      rw [if_neg (by omega), hhigh]
      simp
  | succ n =>
    rw [coeff_X_mul, coeff_toPoly]
    by_cases hlast : n + 1 = w
    · subst hlast
      simp
    · by_cases hn : n + 1 < w
      · have hindex : 1 + (w - 1 - (n + 1)) = w - 1 - n := by omega
        rw [hindex]
        simp [hlast, hn, Nat.lt_of_succ_lt hn]
      · rw [if_neg (by omega), if_neg (by omega), if_neg (by omega), zero_add]

/-- A chunk stands in the high coefficients of the register. -/
theorem toPoly_setWidth (h : k ≤ w) (v : BitVec k) :
    X ^ k * toPoly (v.setWidth w) = X ^ w * toPoly v := by
  ext n
  rw [coeff_X_pow_mul', coeff_X_pow_mul', coeff_toPoly, coeff_toPoly, BitVec.getLsbD_setWidth]
  by_cases hn : w ≤ n
  · by_cases hfits : n - k < w
    · have hindex : w - 1 - (n - k) = k - 1 - (n - w) := by omega
      rw [if_pos (by omega), if_pos hn, hindex]
      simp [hfits, show n - w < k by omega, show k - 1 - (n - w) < w by omega]
    · rw [if_pos (by omega), if_pos hn, if_neg (by omega), if_neg (by omega)]
  · rw [if_neg hn]
    split
    · have hhigh : v.getLsbD (w - 1 - (n - k)) = false := BitVec.getLsbD_of_ge _ _ (by omega)
      rw [hhigh]
      simp
    · rfl

/-! ### Division -/

/-- The polynomial that is divided by. -/
noncomputable def generator (poly : BitVec w) : (ZMod 2)[X] := X ^ w + toPoly poly

theorem generator_monic (poly : BitVec w) : (generator poly).Monic :=
  monic_X_pow_add (toPoly_degree_lt poly)

theorem generator_degree (poly : BitVec w) : (generator poly).degree = w := by
  rw [generator, degree_add_eq_left_of_degree_lt, degree_X_pow]
  rw [degree_X_pow]
  exact toPoly_degree_lt poly

theorem dvd_shift (poly c : BitVec w) :
    generator poly ∣ X * toPoly c - toPoly (shift poly c) := by
  refine ⟨if c.getLsbD 0 then 1 else 0, ?_⟩
  rw [shift, toPoly_xor, toPoly_feedback, toPoly_ushiftRight, generator, CharTwo.sub_eq_add]
  have htwo : toPoly (c >>> 1) + toPoly (c >>> 1) = 0 := CharTwo.add_self_eq_zero _
  split
  · linear_combination htwo
  · linear_combination htwo

theorem dvd_shifts (poly : BitVec w) (n : Nat) (c : BitVec w) :
    generator poly ∣ X ^ n * toPoly c - toPoly (shifts poly n c) := by
  induction n generalizing c with
  | zero => simp [shifts]
  | succ n ih =>
    have hsplit : X ^ (n + 1) * toPoly c - toPoly (shifts poly (n + 1) c) =
        X ^ n * (X * toPoly c - toPoly (shift poly c)) +
          (X ^ n * toPoly (shift poly c) - toPoly (shifts poly n (shift poly c))) := by
      rw [shifts]
      ring
    rw [hsplit]
    exact dvd_add (Dvd.dvd.mul_left (dvd_shift poly c) _) (ih _)

/-- The register takes in a chunk as the next coefficients of the dividend. -/
theorem dvd_update (poly : BitVec w) (h : k ≤ w) (c : BitVec w) (v : BitVec k) :
    generator poly ∣ X ^ k * toPoly c + X ^ w * toPoly v - toPoly (update poly c v) := by
  rw [update, ← toPoly_setWidth h, ← mul_add, ← toPoly_xor]
  exact dvd_shifts poly k _

/-- The bits of a message, in the order in which the register takes them in. -/
def messageBits (vs : List (BitVec k)) : List Bool := vs.flatMap bits

theorem dvd_updates (poly : BitVec w) (h : k ≤ w) (c : BitVec w) (vs : List (BitVec k)) :
    generator poly ∣ X ^ (messageBits vs).length * toPoly c + X ^ w * ofBits (messageBits vs) -
      toPoly (updates poly c vs) := by
  induction vs generalizing c with
  | nil => simp [messageBits, updates, ofBits]
  | cons v vs ih =>
    have hbits : messageBits (v :: vs) = bits v ++ messageBits vs := List.flatMap_cons
    have hsplit : X ^ (messageBits (v :: vs)).length * toPoly c +
          X ^ w * ofBits (messageBits (v :: vs)) - toPoly (updates poly c (v :: vs)) =
        X ^ (messageBits vs).length *
            (X ^ k * toPoly c + X ^ w * toPoly v - toPoly (update poly c v)) +
          (X ^ (messageBits vs).length * toPoly (update poly c v) +
            X ^ w * ofBits (messageBits vs) - toPoly (updates poly (update poly c v) vs)) := by
      have hstep : updates poly c (v :: vs) = updates poly (update poly c v) vs := rfl
      have hchunk : ofBits (bits v) = toPoly v := rfl
      rw [hstep, hbits, ofBits_append, List.length_append, bits_length, pow_add, hchunk]
      ring
    rw [hsplit]
    exact dvd_add (Dvd.dvd.mul_left (dvd_update poly h c v) _) (ih _)

/-- The register is the remainder of the message behind what the register held at first. -/
theorem toPoly_updates (poly : BitVec w) (h : k ≤ w) (c : BitVec w) (vs : List (BitVec k)) :
    toPoly (updates poly c vs) = (X ^ (messageBits vs).length * toPoly c +
      X ^ w * ofBits (messageBits vs)) %ₘ generator poly := by
  have hself : toPoly (updates poly c vs) %ₘ generator poly = toPoly (updates poly c vs) := by
    rw [modByMonic_eq_self_iff (generator_monic poly), generator_degree]
    exact toPoly_degree_lt _
  rw [← hself]
  exact (modByMonic_eq_of_dvd_sub (generator_monic poly) (dvd_updates poly h c vs)).symm

end Crc
