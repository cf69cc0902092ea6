import Mathlib.Logic.Function.Basic
import Mathlib.Tactic.Ring

/-! Cyclic redundancy checks with a reflected polynomial: the register moves towards its low end,
and takes in a chunk of some bits at a time. -/

namespace Crc

variable {w k : Nat} (poly : BitVec w)

/-- What a bit that leaves the register brings back into it. -/
def feedback (b : Bool) : BitVec w := if b then poly else 0#w

/-- One step of the register. -/
def shift (c : BitVec w) : BitVec w := (c >>> 1) ^^^ feedback poly (c.getLsbD 0)

def shifts : Nat → BitVec w → BitVec w
  | 0, c => c
  | n + 1, c => shifts n (shift poly c)

/-- The register takes in a chunk. -/
def update (c : BitVec w) (v : BitVec k) : BitVec w := shifts poly k (c ^^^ v.setWidth w)

def updates (c : BitVec w) (vs : List (BitVec k)) : BitVec w := vs.foldl (update poly) c

/-! ### Steps -/

theorem feedback_xor (b b' : Bool) :
    feedback poly (b ^^ b') = feedback poly b ^^^ feedback poly b' := by
  cases b <;> cases b' <;> simp [feedback]

theorem shift_xor (a b : BitVec w) : shift poly (a ^^^ b) = shift poly a ^^^ shift poly b := by
  unfold shift
  rw [BitVec.getLsbD_xor, BitVec.ushiftRight_xor_distrib, feedback_xor]
  ac_rfl

theorem shifts_xor (n : Nat) (a b : BitVec w) :
    shifts poly n (a ^^^ b) = shifts poly n a ^^^ shifts poly n b := by
  induction n generalizing a b with
  | zero => rfl
  | succ n ih => rw [shifts, shift_xor, ih]; rfl

theorem shifts_add (m n : Nat) (c : BitVec w) :
    shifts poly (m + n) c = shifts poly n (shifts poly m c) := by
  induction m generalizing c with
  | zero => rw [Nat.zero_add]; rfl
  | succ m ih => rw [Nat.succ_add, shifts, ih]; rfl

theorem shift_shiftLeft {c : BitVec w} (h : c.toNat * 2 < 2 ^ w) : shift poly (c <<< 1) = c := by
  have hbit : (c <<< 1).getLsbD 0 = false := by simp
  have hdown : (c <<< 1) >>> 1 = c := by
    apply BitVec.eq_of_toNat_eq
    rw [BitVec.toNat_ushiftRight, BitVec.toNat_shiftLeft, Nat.shiftLeft_eq, pow_one,
      Nat.mod_eq_of_lt h, Nat.shiftRight_eq_div_pow, pow_one, Nat.mul_div_cancel _ Nat.two_pos]
  rw [shift, hbit, hdown]
  exact BitVec.xor_zero

/-- What is low enough comes down without loss. -/
theorem shifts_shiftLeft {n : Nat} {c : BitVec w} (h : c.toNat * 2 ^ n < 2 ^ w) :
    shifts poly n (c <<< n) = c := by
  induction n with
  | zero => exact BitVec.shiftLeft_zero c
  | succ n ih =>
    have hlow : c.toNat * 2 ^ n * 2 < 2 ^ w := by rwa [mul_assoc, ← pow_succ]
    have hn : c.toNat * 2 ^ n < 2 ^ w := by omega
    have hup : (c <<< n).toNat = c.toNat * 2 ^ n := by
      rw [BitVec.toNat_shiftLeft, Nat.shiftLeft_eq, Nat.mod_eq_of_lt hn]
    rw [shifts, BitVec.shiftLeft_add, shift_shiftLeft poly (by rwa [hup]), ih hn]

/-- No step loses anything if the polynomial sets the high end. -/
theorem shift_injective (hpoly : poly.msb) : Function.Injective (shift poly) := by
  have hzero (c : BitVec w) (h : shift poly c = 0#w) : c = 0#w := by
    have hdown : c >>> 1 = feedback poly (c.getLsbD 0) := BitVec.xor_eq_zero_iff.mp h
    cases hbit : c.getLsbD 0 with
    | true =>
      have hmsb := congrArg BitVec.msb hdown
      rw [hbit, BitVec.msb_ushiftRight, feedback, if_pos rfl, hpoly] at hmsb
      cases hmsb
    | false =>
      rw [hbit, feedback, if_neg Bool.false_ne_true] at hdown
      apply BitVec.eq_of_getLsbD_eq
      intro i _
      cases i with
      | zero => rw [hbit, BitVec.getLsbD_zero]
      | succ i =>
        have hnext := congrArg (fun c => c.getLsbD i) hdown
        rw [BitVec.getLsbD_ushiftRight, Nat.add_comm] at hnext
        rw [hnext, BitVec.getLsbD_zero, BitVec.getLsbD_zero]
  intro a b h
  apply BitVec.xor_eq_zero_iff.mp
  apply hzero
  rw [shift_xor, h, BitVec.xor_self]

theorem shifts_injective (hpoly : poly.msb) (n : Nat) : Function.Injective (shifts poly n) := by
  induction n with
  | zero => exact fun _ _ h => h
  | succ n ih => exact fun a b h => shift_injective poly hpoly (ih h)

/-! ### Chunks -/

theorem updates_append (c : BitVec w) (vs vs' : List (BitVec k)) :
    updates poly c (vs ++ vs') = updates poly (updates poly c vs) vs' := List.foldl_append

theorem updates_injective (hpoly : poly.msb) (vs : List (BitVec k)) :
    Function.Injective fun c => updates poly c vs := by
  induction vs with
  | nil => exact fun _ _ h => h
  | cons v vs ih =>
    intro a b h
    exact (BitVec.xor_left_inj _).mp (shifts_injective poly hpoly k (ih h))

/-- The chunks in one word, the first one lowest. -/
def pack : List (BitVec k) → BitVec w
  | [] => 0#w
  | v :: vs => v.setWidth w ^^^ pack vs <<< k

theorem pack_toNat_lt {vs : List (BitVec k)} (h : k * vs.length ≤ w) :
    (pack vs : BitVec w).toNat < 2 ^ (k * vs.length) := by
  induction vs with
  | nil => exact Nat.two_pow_pos _
  | cons v vs ih =>
    rw [List.length_cons, Nat.mul_succ] at h ⊢
    have hvs := ih (by omega)
    have hup : (pack vs : BitVec w).toNat <<< k < 2 ^ (k * vs.length + k) := by
      rw [Nat.shiftLeft_eq, pow_add]
      exact Nat.mul_lt_mul_of_pos_right hvs (Nat.two_pow_pos k)
    rw [pack, BitVec.toNat_xor, BitVec.toNat_setWidth, BitVec.toNat_shiftLeft]
    apply Nat.xor_lt_two_pow
    · calc v.toNat % 2 ^ w ≤ v.toNat := Nat.mod_le ..
        _ < 2 ^ k := v.isLt
        _ ≤ 2 ^ (k * vs.length + k) := Nat.pow_le_pow_right Nat.two_pos (Nat.le_add_left ..)
    · exact Nat.lt_of_le_of_lt (Nat.mod_le ..) hup

/-- The other chunks come down by the time that the first one is taken in. -/
theorem pack_down {v : BitVec k} {vs : List (BitVec k)} (h : k * (v :: vs).length ≤ w) :
    shifts poly k (pack vs <<< k) = pack vs := by
  rw [List.length_cons, Nat.mul_succ] at h
  apply shifts_shiftLeft
  calc (pack vs : BitVec w).toNat * 2 ^ k
      < 2 ^ (k * vs.length) * 2 ^ k :=
        Nat.mul_lt_mul_of_pos_right (pack_toNat_lt (by omega)) (Nat.two_pow_pos k)
    _ = 2 ^ (k * vs.length + k) := (pow_add ..).symm
    _ ≤ 2 ^ w := Nat.pow_le_pow_right Nat.two_pos h

/-- Chunks that fit into the register together. -/
theorem updates_eq {vs : List (BitVec k)} (h : k * vs.length ≤ w) (c : BitVec w) :
    updates poly c vs = shifts poly (k * vs.length) (c ^^^ pack vs) := by
  induction vs generalizing c with
  | nil => exact (BitVec.xor_zero).symm
  | cons v vs ih =>
    have hhere := pack_down poly h
    rw [List.length_cons, Nat.mul_succ, Nat.add_comm] at h ⊢
    rw [shifts_add, pack, ← BitVec.xor_assoc, shifts_xor, hhere]
    exact ih (by omega) _

theorem pack_injective {vs vs' : List (BitVec k)} (hlen : vs.length = vs'.length)
    (hfits : k * vs.length ≤ w) (h : (pack vs : BitVec w) = pack vs') : vs = vs' := by
  induction vs generalizing vs' with
  | nil => exact (List.length_eq_zero_iff.mp hlen.symm).symm
  | cons v vs ih =>
    obtain ⟨v', vs', rfl⟩ := List.exists_cons_of_length_eq_add_one hlen.symm
    have hk : k ≤ w := by
      rw [List.length_cons, Nat.mul_succ] at hfits
      omega
    have hv : v = v' := by
      have hlow (u : BitVec k) (us : List (BitVec k)) :
          (pack (u :: us) : BitVec w).setWidth k = u := by
        apply BitVec.eq_of_getLsbD_eq
        intro i hi
        simp [pack, hi, Nat.lt_of_lt_of_le hi hk]
      rw [← hlow v vs, h, hlow]
    subst hv
    have hup := (BitVec.xor_right_inj _).mp h
    have hdown := congrArg (shifts 0 k) hup
    rw [pack_down 0 hfits, pack_down 0 (v := v) (by rwa [← hlen])] at hdown
    rw [List.length_cons, Nat.mul_succ] at hfits
    rw [ih (Nat.succ.inj hlen) (by omega) hdown]

/-- A burst that fits into the register changes it. -/
theorem updates_burst (hpoly : poly.msb) (c : BitVec w) (before after : List (BitVec k))
    {vs vs' : List (BitVec k)} (hlen : vs.length = vs'.length) (hfits : k * vs.length ≤ w)
    (h : updates poly c (before ++ (vs ++ after)) = updates poly c (before ++ (vs' ++ after))) :
    vs = vs' := by
  rw [updates_append, updates_append, updates_append, updates_append] at h
  have hregister := updates_injective poly hpoly after h
  generalize updates poly c before = c' at hregister
  rw [updates_eq poly hfits, updates_eq poly (by rwa [← hlen]), ← hlen] at hregister
  have hpack := shifts_injective poly hpoly _ hregister
  exact pack_injective hlen hfits ((BitVec.xor_right_inj c').mp hpack)

end Crc
