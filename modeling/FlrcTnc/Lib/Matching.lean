import Mathlib.Data.List.Forall2

/-! Lists that match entry by entry.  A search or a count that does not tell matching entries apart
has the same result in both lists, and an update with matching entries keeps the match. -/

namespace Matching

open List

variable {α β γ : Type*} {R : α → β → Prop} {l : List α} {l' : List β} {p : α → Bool} {q : β → Bool}

theorem find?_map_eq {f : α → γ} {g : β → γ} (h : Forall₂ R l l') (hp : ∀ a b, R a b → q b = p a)
    (hf : ∀ a b, R a b → g b = f a) : (l'.find? q).map g = (l.find? p).map f := by
  induction h with
  | nil => rfl
  | cons hab _ ih =>
    rw [find?_cons, find?_cons, hp _ _ hab]
    split
    · exact congrArg some (hf _ _ hab)
    · exact ih

theorem findIdx?_eq (h : Forall₂ R l l') (hp : ∀ a b, R a b → q b = p a) :
    l'.findIdx? q = l.findIdx? p := by
  induction h with
  | nil => rfl
  | cons hab _ ih => rw [findIdx?_cons, findIdx?_cons, hp _ _ hab, ih]

theorem countP_eq (h : Forall₂ R l l') (hp : ∀ a b, R a b → q b = p a) :
    l'.countP q = l.countP p := by
  induction h with
  | nil => rfl
  | cons hab _ ih => rw [countP_cons, countP_cons, hp _ _ hab, ih]

theorem set (h : Forall₂ R l l') {a : α} {b : β} (hab : R a b) (i : ℕ) :
    Forall₂ R (l.set i a) (l'.set i b) := by
  induction h generalizing i with
  | nil => exact .nil
  | cons hcd hrest ih =>
    cases i with
    | zero => exact .cons hab hrest
    | succ i => exact .cons hcd (ih i)

theorem getD (h : Forall₂ R l l') {d : α} {d' : β} (hd : R d d') (i : ℕ) :
    R (l.getD i d) (l'.getD i d') := by
  induction h generalizing i with
  | nil => exact hd
  | cons hcd _ ih =>
    cases i with
    | zero => exact hcd
    | succ i => exact ih i

end Matching
