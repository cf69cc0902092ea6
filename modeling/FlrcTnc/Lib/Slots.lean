import Mathlib.Algebra.BigOperators.Fin
import Mathlib.Data.List.FinRange
import Mathlib.Logic.Function.Basic

/-! Tables of slots, each of which is empty or holds an entry, and their updates. -/

namespace Slots

variable {ι α β : Type*} [DecidableEq ι]

/-- What stands in a table after one slot was set. -/
theorem update_eq_some_iff {f : ι → Option α} {i j : ι} {x : Option α} {a : α} :
    Function.update f i x j = some a ↔ (j = i ∧ x = some a) ∨ (j ≠ i ∧ f j = some a) := by
  by_cases h : j = i
  · subst h
    simp
  · simp [h]

/-- An entry of a table of which one slot was cleared was there before. -/
theorem of_update_none {f : ι → Option α} {i j : ι} {a : α}
    (h : Function.update f i none j = some a) : j ≠ i ∧ f j = some a := by
  rcases update_eq_some_iff.mp h with ⟨_, hnone⟩ | hold
  · cases hnone
  · exact hold

/-- Reading a table through a view commutes with an update. -/
theorem map_update (f : ι → α) (view : α → β) (i : ι) (a : α) :
    (fun j => view (Function.update f i a j)) = Function.update (fun j => view (f j)) i (view a) :=
  funext fun j => Function.apply_update (fun _ => view) f i a j

/-- An update with what stands there already. -/
theorem map_update_same {f : ι → α} {g : α → β} {i : ι} {a : α} (h : g a = g (f i)) :
    (fun j => g (Function.update f i a j)) = fun j => g (f j) := by
  rw [map_update, h]
  exact Function.update_eq_self i _

/-! ### Counting -/

/-- The number of slots that satisfy a test. -/
def count {n : ℕ} (P : α → Bool) (f : Fin n → α) : ℕ := (List.finRange n).countP fun i => P (f i)

theorem count_le {n : ℕ} (P : α → Bool) (f : Fin n → α) : count P f ≤ n := by
  have hle := List.countP_le_length (p := fun i => P (f i)) (l := List.finRange n)
  rwa [List.length_finRange] at hle

/-- A slot that changes counts for what it holds afterwards. -/
theorem count_update {n : ℕ} (P : α → Bool) (f : Fin n → α) (i : Fin n) (a : α) :
    count P (Function.update f i a) + (P (f i)).toNat = count P f + (P a).toNat := by
  obtain ⟨before, after, hsplit⟩ := List.append_of_mem (List.mem_finRange i)
  have hnodup := List.nodup_finRange n
  rw [hsplit] at hnodup
  have hother {l : List (Fin n)} (hl : i ∉ l) :
      l.countP (fun k => P (Function.update f i a k)) = l.countP fun k => P (f k) := by
    refine List.countP_congr fun k hk => ?_
    rw [Function.update_of_ne (ne_of_mem_of_not_mem hk hl)]
  obtain ⟨hbefore, hafter⟩ : i ∉ before ∧ i ∉ after := by
    have hcons := List.nodup_append.mp hnodup
    exact ⟨fun hmem => hcons.2.2 i hmem i (List.mem_cons_self ..) rfl,
      (List.nodup_cons.mp hcons.2.1).1⟩
  have hone (b : Bool) : (if b = true then 1 else 0) = b.toNat := by cases b <;> rfl
  simp only [count, hsplit, List.countP_append, List.countP_cons, hother hbefore, hother hafter,
    Function.update_self, hone]
  omega

/-! ### Sums -/

/-- What the slots come to together. -/
def total {n : ℕ} (weight : α → ℕ) (f : Fin n → α) : ℕ := ∑ i, weight (f i)

/-- A slot that changes weighs what it holds afterwards. -/
theorem total_update {n : ℕ} (weight : α → ℕ) (f : Fin n → α) (i : Fin n) (a : α) :
    total weight (Function.update f i a) + weight (f i) = total weight f + weight a := by
  have hother : ∑ k ∈ Finset.univ.erase i, weight (Function.update f i a k) =
      ∑ k ∈ Finset.univ.erase i, weight (f k) := by
    refine Finset.sum_congr rfl fun k hk => ?_
    rw [Function.update_of_ne (Finset.ne_of_mem_erase hk)]
  have hold := Finset.add_sum_erase Finset.univ (fun k => weight (f k)) (Finset.mem_univ i)
  have hnew := Finset.add_sum_erase Finset.univ (fun k => weight (Function.update f i a k))
    (Finset.mem_univ i)
  simp only [Function.update_self, hother] at hnew
  unfold total
  omega

end Slots
