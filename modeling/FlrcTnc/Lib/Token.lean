import Mathlib.Data.List.Basic

/-! One token for requests that come one after another: it goes to the first that asks for anything,
and whoever asks for an item gets it only with the token. -/

namespace Token

variable {α : Type*}

/-- A request asks for nothing, for an item, or for something else that uses the token up. -/
inductive Request (α : Type*)
  | idle
  | other
  | item (a : α)

def Request.wanted : Request α → Option α
  | .item a => some a
  | .idle | .other => none

def Request.isIdle : Request α → Bool
  | .idle => true
  | .other | .item _ => false

/-- The items that are handed out, if there is a token. -/
def granted : Bool → List (Request α) → List α
  | _, [] => []
  | token, r :: rs => (if token then r.wanted.toList else []) ++ granted (token && r.isIdle) rs

theorem granted_false (rs : List (Request α)) : granted false rs = [] := by
  induction rs with
  | nil => rfl
  | cons r rs ih => exact ih

/-- Nothing but items is asked for up to the first item. -/
def ItemFirst (rs : List (Request α)) : Prop :=
  ∀ past a rest, rs = past ++ .item a :: rest → (∀ r ∈ past, r.wanted = none) →
    ∀ r ∈ past, r.isIdle

theorem itemFirst_nil : ItemFirst ([] : List (Request α)) := by
  intro past a rest h
  simp at h

theorem itemFirst_item (a : α) (rs : List (Request α)) : ItemFirst (.item a :: rs) := by
  intro past b rest h hnone r hr
  cases past with
  | nil => cases hr
  | cons s past =>
    obtain ⟨rfl, -⟩ := List.cons.inj h
    cases hnone _ (.head _)

theorem itemFirst_idle {rs : List (Request α)} : ItemFirst (.idle :: rs) ↔ ItemFirst rs := by
  constructor
  · intro h past a rest hrs hnone r hr
    refine h (.idle :: past) a rest (congrArg _ hrs) (fun s hs => ?_) r (.tail _ hr)
    rcases List.mem_cons.mp hs with rfl | hs
    · rfl
    · exact hnone s hs
  · intro h past a rest hrs hnone r hr
    cases past with
    | nil => cases hr
    | cons s past =>
      obtain ⟨rfl, htail⟩ := List.cons.inj hrs
      rcases List.mem_cons.mp hr with rfl | hr
      · rfl
      · exact h past a rest htail (fun s hs => hnone s (.tail _ hs)) r hr

/-- Something else is asked for first, so no item may follow. -/
theorem itemFirst_other {rs : List (Request α)} :
    ItemFirst (.other :: rs) ↔ rs.findSome? Request.wanted = none := by
  constructor
  · intro h
    by_contra hsome
    obtain ⟨a, ha⟩ := Option.ne_none_iff_exists'.mp hsome
    obtain ⟨past, s, rest, rfl, hs, hnone⟩ := List.findSome?_eq_some_iff.mp ha
    obtain rfl : s = .item a := by
      cases s with
      | item b => exact congrArg Request.item (Option.some.inj hs)
      | idle | other => cases hs
    have hidle := h (.other :: past) a rest rfl (fun r hr => ?_) .other (.head _)
    · cases hidle
    · rcases List.mem_cons.mp hr with rfl | hr
      · rfl
      · exact hnone r hr
  · intro hnone past a rest hrs
    have hall := List.findSome?_eq_none_iff.mp hnone
    cases past with
    | nil => cases hrs
    | cons s past =>
      obtain ⟨-, rfl⟩ := List.cons.inj hrs
      cases hall (.item a) (List.mem_append_right _ (.head _))

/-- The first item that is asked for, and no other, is handed out just if nothing else is asked for
before it. -/
theorem granted_eq_iff (rs : List (Request α)) :
    granted true rs = (rs.findSome? Request.wanted).toList ↔ ItemFirst rs := by
  induction rs with
  | nil => exact ⟨fun _ => itemFirst_nil, fun _ => rfl⟩
  | cons r rs ih =>
    cases r with
    | idle =>
      rw [itemFirst_idle, ← ih]
      rfl
    | other =>
      rw [itemFirst_other]
      change granted false rs = (rs.findSome? Request.wanted).toList ↔ _
      rw [granted_false, eq_comm, Option.toList_eq_nil_iff]
    | item a =>
      refine ⟨fun _ => itemFirst_item a rs, fun _ => ?_⟩
      change a :: granted false rs = [a]
      rw [granted_false]

end Token
