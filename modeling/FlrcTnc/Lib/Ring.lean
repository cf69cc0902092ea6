import Mathlib.Data.List.Basic
import Mathlib.Data.Nat.ModEq
import Mathlib.Logic.Function.Basic

/-! A queue in a ring of `n` cells: its elements stand in `count` cells from `tail` on, and the
next one goes to `head`. -/

namespace Ring

variable {α : Type*} {n tail count : Nat}

/-- The elements from the oldest one on. -/
def contents (n : Nat) (cells : Nat → α) (tail count : Nat) : List α :=
  (List.range count).map fun k => cells ((tail + k) % n)

/-- The indices are those of a ring of `n` cells. -/
structure InRange (n head tail count : Nat) : Prop where
  count_le : count ≤ n
  tail_lt : tail < n
  head_eq : head = (tail + count) % n

@[simp] theorem contents_length (cells : Nat → α) :
    (contents n cells tail count).length = count := by
  simp [contents]

/-- Different places of the queue are different cells. -/
theorem cell_ne {k m : Nat} (hk : k < m) (hm : m < n) :
    (tail + k) % n ≠ (tail + m) % n := by
  intro h
  have hdvd : n ∣ (tail + m) - (tail + k) := (Nat.modEq_iff_dvd' (by omega)).mp h
  have hle := Nat.le_of_dvd (by omega) hdvd
  omega

theorem contents_push (cells : Nat → α) (h : count < n) (a : α) :
    contents n (Function.update cells ((tail + count) % n) a) tail (count + 1) =
      contents n cells tail count ++ [a] := by
  rw [contents, List.range_succ, List.map_append, List.map_singleton, Function.update_self]
  refine congrArg (· ++ [a]) (List.map_congr_left fun k hk => ?_)
  exact Function.update_of_ne (cell_ne (List.mem_range.mp hk) h) ..

theorem contents_pop (cells : Nat → α) (h : tail < n) :
    contents n cells tail (count + 1) =
      cells tail :: contents n cells ((tail + 1) % n) count := by
  rw [contents, List.range_succ_eq_map, List.map_cons, Nat.add_zero, Nat.mod_eq_of_lt h,
    List.map_map]
  refine congrArg _ (List.map_congr_left fun k _ => ?_)
  simp only [Function.comp_apply, Nat.mod_add_mod]
  congr 2
  omega

theorem InRange.push {head : Nat} (h : InRange n head tail count) (hroom : count < n) :
    InRange n ((head + 1) % n) tail (count + 1) where
  count_le := hroom
  tail_lt := h.tail_lt
  head_eq := by
    rw [h.head_eq, Nat.mod_add_mod, Nat.add_assoc]

theorem InRange.pop {head : Nat} (h : InRange n head tail (count + 1)) :
    InRange n head ((tail + 1) % n) count where
  count_le := Nat.le_of_succ_le h.count_le
  tail_lt := Nat.mod_lt _ (Nat.lt_of_le_of_lt (Nat.zero_le _) h.tail_lt)
  head_eq := by
    rw [h.head_eq, Nat.mod_add_mod]
    congr 1
    omega

end Ring
