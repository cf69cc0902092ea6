import Mathlib.Data.UInt

/-! Sixteen-bit words as sets of small numbers. -/

namespace Mask

/-- Bit `k` of the word. -/
def hasBit (m : UInt16) (k : Nat) : Bool := m.toNat.testBit k

/-- The word with bit `k` alone. -/
def bit (k : Nat) : UInt16 := UInt16.ofNat (2 ^ k)

/-- The word of the bits below `n`. -/
def below (n : Nat) : UInt16 := UInt16.ofNat (2 ^ n - 1)

@[simp] theorem hasBit_zero (k : Nat) : hasBit 0 k = false := by
  simp [hasBit]

@[simp] theorem hasBit_or (m n : UInt16) (k : Nat) :
    hasBit (m ||| n) k = (hasBit m k || hasBit n k) := by
  simp [hasBit, UInt16.toNat_or]

@[simp] theorem hasBit_and (m n : UInt16) (k : Nat) :
    hasBit (m &&& n) k = (hasBit m k && hasBit n k) := by
  simp [hasBit, UInt16.toNat_and]

theorem hasBit_not {m : UInt16} {k : Nat} (hk : k < 16) : hasBit (~~~ m) k = !hasBit m k := by
  have h : (~~~ m).toNat.testBit k = (~~~ m).toBitVec.getLsbD k := rfl
  rw [hasBit, h, UInt16.toBitVec_not, BitVec.getLsbD_not]
  simp [hk, hasBit, BitVec.getLsbD]

theorem hasBit_bit {j : Nat} (hj : j < 16) (k : Nat) : hasBit (bit j) k = decide (j = k) := by
  have hlt : 2 ^ j < 2 ^ 16 := Nat.pow_lt_pow_right (by decide) hj
  rw [hasBit, bit, UInt16.toNat_ofNat', Nat.mod_eq_of_lt hlt, Nat.testBit_two_pow]

theorem hasBit_below {n : Nat} (hn : n ≤ 16) (k : Nat) : hasBit (below n) k = decide (k < n) := by
  have hle : 2 ^ n ≤ 2 ^ 16 := Nat.pow_le_pow_right (by decide) hn
  have hpos : 0 < 2 ^ n := Nat.two_pow_pos n
  rw [hasBit, below, UInt16.toNat_ofNat', Nat.mod_eq_of_lt (by omega),
    Nat.testBit_two_pow_sub_one]

/-- Two words with the same bits are equal. -/
theorem ext {m n : UInt16} (h : ∀ k, hasBit m k = hasBit n k) : m = n :=
  UInt16.toNat_inj.mp (Nat.eq_of_testBit_eq h)

/-- `m` has every bit of `full`. -/
def Covers (m full : UInt16) : Prop := m &&& full = full

instance (m full : UInt16) : Decidable (Covers m full) := inferInstanceAs (Decidable (_ = _))

theorem covers_iff {m full : UInt16} : Covers m full ↔ ∀ k, hasBit full k → hasBit m k := by
  constructor
  · intro h k hk
    rw [Covers] at h
    rw [← h, hasBit_and, Bool.and_eq_true] at hk
    exact hk.1
  · intro h
    refine ext fun k => ?_
    rw [hasBit_and]
    cases hk : hasBit full k with
    | false => rw [Bool.and_false]
    | true => rw [h k hk, Bool.and_true]

/-- More bits cover no less. -/
theorem Covers.or {m full : UInt16} (h : Covers m full) (n : UInt16) : Covers (m ||| n) full := by
  rw [covers_iff] at h ⊢
  intro k hk
  rw [hasBit_or, h k hk, Bool.true_or]

theorem covers_below_iff {m : UInt16} {n : Nat} (hn : n ≤ 16) :
    Covers m (below n) ↔ ∀ k < n, hasBit m k := by
  simp [covers_iff, hasBit_below hn]

/-- A word that does not cover `below n` misses one of its bits. -/
theorem not_covers_below_iff {m : UInt16} {n : Nat} (hn : n ≤ 16) :
    ¬ Covers m (below n) ↔ ∃ k < n, hasBit m k = false := by
  simp [covers_below_iff hn]

theorem and_eq_zero_iff {m n : UInt16} : m &&& n = 0 ↔ ∀ k, hasBit m k → hasBit n k = false := by
  constructor
  · intro h k hm
    have hk : hasBit (m &&& n) k = false := by rw [h, hasBit_zero]
    rwa [hasBit_and, hm, Bool.true_and] at hk
  · intro h
    refine ext fun k => ?_
    rw [hasBit_and, hasBit_zero]
    cases hm : hasBit m k with
    | false => rfl
    | true => rw [h k hm]; rfl

/-- The test of a single bit, as C code writes it. -/
theorem and_bit_eq_zero {m : UInt16} {k : Nat} (hk : k < 16) :
    m &&& bit k = 0 ↔ hasBit m k = false := by
  rw [and_eq_zero_iff]
  constructor
  · intro h
    by_contra hm
    have hb := h k (by simpa using hm)
    rw [hasBit_bit hk] at hb
    simp at hb
  · intro h j hj
    rw [hasBit_bit hk, decide_eq_false_iff_not]
    rintro rfl
    rw [h] at hj
    exact absurd hj (by decide)

end Mask
