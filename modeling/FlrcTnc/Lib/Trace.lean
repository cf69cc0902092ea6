import Mathlib.Data.List.Basic

/-! Transition systems whose steps leave events behind. -/

namespace Trace

variable {σ ε : Type*} {R S : σ → List ε → σ → Prop}

/-- A run of steps and all the events it leaves behind. -/
inductive Steps (R : σ → List ε → σ → Prop) : σ → List ε → σ → Prop
  | nil (s : σ) : Steps R s [] s
  | cons {s t u : σ} {a b : List ε} (head : R s a t) (tail : Steps R t b u) : Steps R s (a ++ b) u

namespace Steps

theorem single {s t : σ} {a : List ε} (h : R s a t) : Steps R s a t := by
  have hstep := cons h (nil t)
  rwa [List.append_nil] at hstep

theorem append {s t u : σ} {a b : List ε} (h : Steps R s a t) (h' : Steps R t b u) :
    Steps R s (a ++ b) u := by
  induction h with
  | nil => exact h'
  | cons head _ ih =>
    rw [List.append_assoc]
    exact cons head (ih h')

theorem mono (hRS : ∀ {s a t}, R s a t → S s a t) {s t : σ} {a : List ε} (h : Steps R s a t) :
    Steps S s a t := by
  induction h with
  | nil => exact nil _
  | cons head _ ih => exact cons (hRS head) ih

/-- What every step preserves, a run preserves. -/
theorem invariant {P : σ → Prop} (hR : ∀ {s a t}, P s → R s a t → P t) {s t : σ} {a : List ε}
    (h : Steps R s a t) (hs : P s) : P t := by
  induction h with
  | nil => exact hs
  | cons head _ ih => exact ih (hR hs head)

/-- An invariant of the state together with the events so far. -/
theorem invariant_trace {P : List ε → σ → Prop}
    (hR : ∀ {past s a t}, P past s → R s a t → P (past ++ a) t) {s t : σ} {a past : List ε}
    (h : Steps R s a t) (hs : P past s) : P (past ++ a) t := by
  induction h generalizing past with
  | nil => rwa [List.append_nil]
  | cons head _ ih =>
    rw [← List.append_assoc]
    exact ih (hR hs head)

end Steps

/-! ### Properties of events -/

/-- Every event of the trace is as `P` asks, given the events before it. -/
def Always (P : List ε → ε → Prop) (trace : List ε) : Prop :=
  ∀ past ev rest, trace = past ++ ev :: rest → P past ev

variable {P Q : List ε → ε → Prop}

theorem always_nil : Always P [] := by
  intro past ev rest h
  simp at h

theorem always_singleton {ev : ε} : Always P [ev] ↔ P [] ev := by
  constructor
  · exact fun h => h [] ev [] rfl
  · rintro h past ev' rest hsplit
    cases past with
    | nil =>
      cases hsplit
      exact h
    | cons a past => simp at hsplit

theorem Always.mono (h : ∀ {past ev}, P past ev → Q past ev) {trace : List ε}
    (hP : Always P trace) : Always Q trace :=
  fun past ev rest hsplit => h (hP past ev rest hsplit)

theorem always_append {a b : List ε} (ha : Always P a)
    (hb : Always (fun past => P (a ++ past)) b) : Always P (a ++ b) := by
  intro past ev rest h
  rcases List.append_eq_append_iff.mp h with ⟨mid, rfl, hb'⟩ | ⟨mid, ha', hrest⟩
  · exact hb mid ev rest hb'
  · cases mid with
    | nil =>
      rw [List.append_nil] at ha'
      subst ha'
      have hnow : P (a ++ []) ev := hb [] ev rest hrest.symm
      rwa [List.append_nil] at hnow
    | cons ev' mid =>
      obtain ⟨rfl, -⟩ := List.cons.inj hrest
      exact ha past ev mid ha'

/-- A trace of events that are as asked whatever comes before. -/
theorem always_of_forall {trace : List ε} (h : ∀ ev ∈ trace, ∀ past, P past ev) :
    Always P trace := by
  rintro past ev rest rfl
  exact h ev (by simp) past

end Trace
