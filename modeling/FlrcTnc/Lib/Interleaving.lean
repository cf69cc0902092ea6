import FlrcTnc.Lib.Trace

/-! Several parties in one log.  What holds of the events of one party by themselves holds of its
entries in the log, and causes of events add up to chains. -/

namespace Interleaving

open Trace

variable {ι ε : Type*} [DecidableEq ι]

/-- The events of one party, in order. -/
def eventsOf (i : ι) (log : List (ι × ε)) : List ε :=
  log.filterMap fun entry => if entry.1 = i then some entry.2 else none

variable {i : ι} {log : List (ι × ε)}

theorem eventsOf_append (i : ι) (log log' : List (ι × ε)) :
    eventsOf i (log ++ log') = eventsOf i log ++ eventsOf i log' := List.filterMap_append

@[simp] theorem eventsOf_cons_self (ev : ε) (log : List (ι × ε)) :
    eventsOf i ((i, ev) :: log) = ev :: eventsOf i log :=
  List.filterMap_cons_some (if_pos rfl)

theorem eventsOf_cons_of_ne {j : ι} (h : j ≠ i) (ev : ε) (log : List (ι × ε)) :
    eventsOf i ((j, ev) :: log) = eventsOf i log :=
  List.filterMap_cons_none (if_neg h)

theorem mem_eventsOf {ev : ε} : ev ∈ eventsOf i log ↔ (i, ev) ∈ log := by
  rw [eventsOf, List.mem_filterMap]
  constructor
  · rintro ⟨⟨j, ev'⟩, hmem, h⟩
    obtain ⟨hi, hev⟩ := Option.ite_none_right_eq_some.mp h
    cases hi
    cases hev
    exact hmem
  · exact fun hmem => ⟨(i, ev), hmem, if_pos rfl⟩

/-- What the events of a party are as, its entries in the log are as. -/
theorem always_of_eventsOf {P : List ε → ε → Prop} (h : ∀ i, Always P (eventsOf i log)) :
    Always (fun past entry => P (eventsOf entry.1 past) entry.2) log := by
  rintro past ⟨i, ev⟩ rest rfl
  refine h i (eventsOf i past) ev (eventsOf i rest) ?_
  rw [eventsOf_append, eventsOf_cons_self]

/-! ### Machines -/

variable {σ : Type*} (next : σ → ε → σ)

/-- The machine of one party takes a step. -/
def stepAt (states : ι → σ) (entry : ι × ε) : ι → σ :=
  Function.update states entry.1 (next (states entry.1) entry.2)

/-- The machines of all parties take their steps in the order of the log. -/
def runAll (states : ι → σ) (log : List (ι × ε)) : ι → σ := log.foldl (stepAt next) states

theorem stepAt_self (states : ι → σ) (entry : ι × ε) :
    stepAt next states entry entry.1 = next (states entry.1) entry.2 := Function.update_self ..

theorem stepAt_of_ne (states : ι → σ) {entry : ι × ε} (h : i ≠ entry.1) :
    stepAt next states entry i = states i := Function.update_of_ne h ..

/-- Each machine runs through its own entries. -/
theorem runAll_eq (states : ι → σ) (log : List (ι × ε)) (i : ι) :
    runAll next states log i = (eventsOf i log).foldl next (states i) := by
  induction log generalizing states with
  | nil => rfl
  | cons entry log ih =>
    refine (ih (stepAt next states entry)).trans ?_
    obtain ⟨j, ev⟩ := entry
    by_cases h : j = i
    · subst h
      rw [stepAt_self, eventsOf_cons_self]
      rfl
    · rw [stepAt_of_ne next states (Ne.symm h), eventsOf_cons_of_ne h]

end Interleaving

namespace Trace

variable {ε : Type*} {log chain : List ε}

/-- A chain of events in the log goes back to what caused its first one. -/
theorem exists_cause {C : ε → Prop} {ev : ε}
    (h : ∀ past rest, log = past ++ ev :: rest → ∃ cause ∈ past, C cause)
    (hchain : (ev :: chain).Sublist log) :
    ∃ cause, C cause ∧ (cause :: ev :: chain).Sublist log := by
  obtain ⟨before, after, rfl, hmem, hrest⟩ := List.cons_sublist_iff.mp hchain
  obtain ⟨past, rest, rfl⟩ := List.append_of_mem hmem
  rw [List.append_assoc] at h ⊢
  obtain ⟨cause, hcause, hcauses⟩ := h past (rest ++ after) rfl
  refine ⟨cause, hcauses, ?_⟩
  have htail : (ev :: chain).Sublist (ev :: (rest ++ after)) :=
    (hrest.trans (List.sublist_append_right ..)).cons_cons ev
  exact (List.singleton_sublist.mpr hcause).append htail

theorem always_cons {P : List ε → ε → Prop} {ev : ε} :
    Always P (ev :: log) ↔ P [] ev ∧ Always (fun past => P (ev :: past)) log := by
  constructor
  · refine fun h => ⟨h [] ev log rfl, fun past ev' rest hsplit => ?_⟩
    exact h (ev :: past) ev' rest (congrArg (ev :: ·) hsplit)
  · rintro ⟨hnow, hlater⟩
    exact always_append (always_singleton.mpr hnow) hlater

theorem Always.prefix {P : List ε → ε → Prop} {past : List ε} (h : Always P log)
    (hpast : past <+: log) : Always P past := by
  rintro before ev rest rfl
  obtain ⟨more, rfl⟩ := hpast
  exact h before ev (rest ++ more) (List.append_assoc ..)

end Trace
