import Mathlib.Data.List.Basic
import Mathlib.Logic.Function.Basic

/-! Arrays that are filled from the front: the list of what they hold, and the loops that search
them, append to them and take the first cell out. -/

namespace Filled

variable {α β : Type*}

/-- The cells hold the list, from the first one on, and the rest of them is empty. -/
def Holds (cells : ℕ → Option α) (l : List α) : Prop := ∀ k, cells k = l[k]?

/-- The loop that moves the cells from index 1 on to the front. -/
def moveUp (cells : ℕ → β) : (passes : ℕ) → ℕ → β
  | 0 => cells
  | n + 1 => Function.update (moveUp cells n) n (moveUp cells n (n + 1))

theorem moveUp_apply (cells : ℕ → β) (n k : ℕ) :
    moveUp cells n k = if k < n then cells (k + 1) else cells k := by
  induction n generalizing k with
  | zero => simp [moveUp]
  | succ n ih =>
    rw [moveUp, Function.update_apply, ih, ih]
    split_ifs <;> first | rfl | omega | (congr 1; omega)

variable {cells : ℕ → Option α} {l : List α}

theorem Holds.isSome_iff (h : Holds cells l) (k : ℕ) : (cells k).isSome ↔ k < l.length := by
  rw [h k]
  simp

/-- A cell that is filled gets another content. -/
theorem Holds.set (h : Holds cells l) {i : ℕ} (hi : i < l.length) (a : α) :
    Holds (Function.update cells i (some a)) (l.set i a) := by
  intro k
  rw [Function.update_apply, List.getElem?_set]
  by_cases hk : k = i
  · subst hk
    rw [if_pos rfl, if_pos rfl, if_pos hi]
  · rw [if_neg hk, if_neg (Ne.symm hk)]
    exact h k

/-- The first empty cell is filled. -/
theorem Holds.push (h : Holds cells l) (a : α) :
    Holds (Function.update cells l.length (some a)) (l ++ [a]) := by
  intro k
  rw [Function.update_apply, h k, List.getElem?_append, List.getElem?_singleton]
  split_ifs <;> first | rfl | omega | (apply List.getElem?_eq_none; omega)

/-- The first cell is taken out. -/
theorem Holds.tail {a : α} (h : Holds cells (a :: l)) :
    Holds (Function.update (moveUp cells l.length) l.length none) l := by
  intro k
  rw [Function.update_apply, moveUp_apply, h, h]
  split_ifs with heq hlt
  · rw [heq]
    exact (List.getElem?_eq_none (Nat.le_refl _)).symm
  · exact List.getElem?_cons_succ
  · rw [List.getElem?_eq_none (by omega : l.length ≤ k), List.getElem?_eq_none]
    rw [List.length_cons]
    omega

/-- The first cell that passes a test is where the first entry of the list stands that passes it. -/
theorem Holds.find {P : α → Bool} {Q : ℕ → Bool} (h : Holds cells l)
    (hQ : ∀ k a, cells k = some a → Q k = P a) :
    (List.range l.length).find? Q = l.findIdx? P := by
  induction l generalizing cells Q with
  | nil => rfl
  | cons a l ih =>
    have htail : Holds (fun k => cells (k + 1)) l :=
      fun k => (h (k + 1)).trans List.getElem?_cons_succ
    have hrest : (List.range l.length).find? (fun k => Q (k + 1)) = l.findIdx? P :=
      ih htail fun k b hb => hQ (k + 1) b hb
    rw [List.length_cons, List.range_succ_eq_map, List.find?_cons, List.findIdx?_cons,
      hQ 0 a (h 0)]
    split
    · next hpass => rw [if_pos hpass]
    · next hfail =>
      rw [if_neg (by rw [hfail]; decide), List.find?_map, ← hrest]
      rfl

end Filled
