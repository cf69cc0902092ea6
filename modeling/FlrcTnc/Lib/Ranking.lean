import Mathlib.Data.Nat.Init

/-! Sequences in time: the last moment of what ends, and a rank that falls until there is rest. -/

namespace Ranking

/-- What holds goes on, or it has a last moment. -/
theorem lasts_or_ends {P : Nat → Prop} {n m : Nat} (hle : n ≤ m) (hn : P n) :
    (∀ j, n ≤ j → j ≤ m → P j) ∨
      ∃ k, n ≤ k ∧ k < m ∧ (∀ j, n ≤ j → j ≤ k → P j) ∧ ¬ P (k + 1) := by
  induction m, hle using Nat.le_induction with
  | base =>
    refine .inl fun j hle hge => ?_
    rw [Nat.le_antisymm hge hle]
    exact hn
  | succ m hle ih =>
    rcases ih with hlasts | ⟨k, hk, hlt, hends⟩
    · by_cases hnext : P (m + 1)
      · refine .inl fun j hj hjm => ?_
        rcases Nat.le_succ_iff.mp hjm with hjm | rfl
        · exact hlasts j hj hjm
        · exact hnext
      · exact .inr ⟨m, hle, Nat.lt_succ_self m, hlasts, hnext⟩
    · exact .inr ⟨k, hk, Nat.lt_succ_of_lt hlt, hends⟩

/-- The last moment of what is over later. -/
theorem exists_last {P : Nat → Prop} {n m : Nat} (hle : n ≤ m) (hn : P n) (hm : ¬ P m) :
    ∃ k, n ≤ k ∧ k < m ∧ (∀ j, n ≤ j → j ≤ k → P j) ∧ ¬ P (k + 1) :=
  (lasts_or_ends hle hn).resolve_left fun hlasts => hm (hlasts m hle (Nat.le_refl m))

/-- If from every moment without rest the rank falls sooner or later, or there is rest, then there
is rest in the end. -/
theorem exists_rest {rest : Nat → Prop} {rank : Nat → Nat} {start : Nat}
    (h : ∀ n, start ≤ n → ∃ m, n ≤ m ∧ (rest m ∨ rank m < rank n)) : ∃ m, start ≤ m ∧ rest m := by
  have hfrom (r : Nat) : ∀ n, start ≤ n → rank n = r → ∃ m, start ≤ m ∧ rest m := by
    induction r using Nat.strong_induction_on with
    | h r ih =>
      rintro n hn rfl
      obtain ⟨m, hm, hrest | hless⟩ := h n hn
      · exact ⟨m, Nat.le_trans hn hm, hrest⟩
      · exact ih (rank m) hless m (Nat.le_trans hn hm) rfl
  exact hfrom (rank start) start (Nat.le_refl start) rfl

end Ranking
