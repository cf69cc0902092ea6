import FlrcTnc.Lib.Interleaving
import FlrcTnc.Lib.Transducer

/-! Writers that share a stream under a lock.  Each encodes what it has to write and writes all of
it while it holds the lock, in parts of any length, so the stream is the encodings of what is over,
in the order of the lock, and behind them a part of one encoding. -/

namespace LockedStream

open Interleaving

variable {ι β γ : Type*}

/-- A writer is between two writings, or it awaits the lock for what it has to write, or it holds
the lock and has written so much of that. -/
inductive Phase (γ : Type*)
  | ready
  | waiting (c : γ)
  | writing (c : γ) (offset : ℕ)
  deriving DecidableEq, Repr

structure State (ι γ : Type*) where
  phase : ι → Phase γ := fun _ => .ready
  lock : Option ι := none

/-- A writer gets something to write, asks for the lock, or has the stream take so many items. -/
inductive Input (ι γ : Type*)
  | submit (i : ι) (c : γ)
  | take (i : ι)
  | write (i : ι) (count : ℕ)
  deriving DecidableEq, Repr

inductive Output (ι β γ : Type*)
  | submitted (i : ι) (c : γ)
  | wrote (items : List β)
  | finished (i : ι) (c : γ)
  deriving DecidableEq, Repr

def Output.written : Output ι β γ → List β
  | .wrote items => items
  | _ => []

def Output.finished? : Output ι β γ → Option (ι × γ)
  | .finished i c => some (i, c)
  | _ => none

def Output.submitted? : Output ι β γ → Option (ι × γ)
  | .submitted i c => some (i, c)
  | _ => none

/-- The stream. -/
def written (outputs : List (Output ι β γ)) : List β := outputs.flatMap Output.written

/-- What is over, in the order of the lock. -/
def finished (outputs : List (Output ι β γ)) : List (ι × γ) := outputs.filterMap Output.finished?

def submitted (outputs : List (Output ι β γ)) : List (ι × γ) :=
  outputs.filterMap Output.submitted?

theorem written_append (outputs events : List (Output ι β γ)) :
    written (outputs ++ events) = written outputs ++ written events := List.flatMap_append

theorem finished_append (outputs events : List (Output ι β γ)) :
    finished (outputs ++ events) = finished outputs ++ finished events := List.filterMap_append

theorem submitted_append (outputs events : List (Output ι β γ)) :
    submitted (outputs ++ events) = submitted outputs ++ submitted events := List.filterMap_append

variable [DecidableEq ι]

/-- The writer `i` goes on to another phase and leaves the lock as it says. -/
def State.move (s : State ι γ) (i : ι) (phase : Phase γ) (lock : Option ι) : State ι γ :=
  { phase := Function.update s.phase i phase, lock }

@[simp] theorem move_phase_self (s : State ι γ) (i : ι) (phase : Phase γ) (lock : Option ι) :
    (s.move i phase lock).phase i = phase := Function.update_self ..

theorem move_phase_of_ne (s : State ι γ) {i j : ι} (h : j ≠ i) (phase : Phase γ)
    (lock : Option ι) : (s.move i phase lock).phase j = s.phase j := Function.update_of_ne h ..

@[simp] theorem move_lock (s : State ι γ) (i : ι) (phase : Phase γ) (lock : Option ι) :
    (s.move i phase lock).lock = lock := rfl

variable (encode : γ → List β)

/-- What has no encoding is not written.  Nothing happens that the phase of the writer does not
allow, and a writer that finds the lock taken waits on. -/
def step (s : State ι γ) : Input ι γ → State ι γ × List (Output ι β γ)
  | .submit i c =>
    match s.phase i with
    | .ready =>
      if (encode c).length = 0 then (s, [])
      else (s.move i (.waiting c) s.lock, [.submitted i c])
    | _ => (s, [])
  | .take i =>
    match s.phase i with
    | .waiting c => if s.lock.isNone then (s.move i (.writing c 0) (some i), []) else (s, [])
    | _ => (s, [])
  | .write i count =>
    match s.phase i with
    | .writing c offset =>
      let items := ((encode c).drop offset).take count
      if offset + items.length < (encode c).length then
        (s.move i (.writing c (offset + items.length)) s.lock, [.wrote items])
      else (s.move i .ready none, [.wrote items, .finished i c])
    | _ => (s, [])

def run : State ι γ → List (Input ι γ) → State ι γ × List (Output ι β γ) :=
  Transducer.run (step encode)

/-- What a step does. -/
inductive Step (s : State ι γ) : State ι γ → List (Output ι β γ) → Prop
  | idle : Step s s []
  | submit (i : ι) (c : γ) (hphase : s.phase i = .ready) (hne : (encode c).length ≠ 0) :
    Step s (s.move i (.waiting c) s.lock) [.submitted i c]
  | take (i : ι) (c : γ) (hphase : s.phase i = .waiting c) (hlock : s.lock = none) :
    Step s (s.move i (.writing c 0) (some i)) []
  | part (i : ι) (c : γ) (offset count : ℕ) (hphase : s.phase i = .writing c offset)
    (hpart : offset + (((encode c).drop offset).take count).length < (encode c).length) :
    Step s (s.move i (.writing c (offset + (((encode c).drop offset).take count).length)) s.lock)
      [.wrote (((encode c).drop offset).take count)]
  | last (i : ι) (c : γ) (offset : ℕ) (hphase : s.phase i = .writing c offset) :
    Step s (s.move i .ready none) [.wrote ((encode c).drop offset), .finished i c]

theorem step_cases (s : State ι γ) (input : Input ι γ) :
    Step encode s (step encode s input).1 (step encode s input).2 := by
  cases input with
  | submit i c =>
    rw [step]
    cases hphase : s.phase i with
    | ready =>
      dsimp only
      split
      · exact .idle
      · next hne => exact .submit i c hphase hne
    | waiting | writing => exact .idle
  | take i =>
    rw [step]
    cases hphase : s.phase i with
    | waiting c =>
      dsimp only
      split
      · next hlock => exact .take i c hphase (Option.isNone_iff_eq_none.mp hlock)
      · exact .idle
    | ready | writing => exact .idle
  | write i count =>
    rw [step]
    cases hphase : s.phase i with
    | writing c offset =>
      dsimp only
      split
      · next hpart => exact .part i c offset count hphase hpart
      · next hwhole =>
        have hitems : ((encode c).drop offset).take count = (encode c).drop offset := by
          apply List.take_of_length_le
          simp only [List.length_take, List.length_drop] at hwhole ⊢
          omega
        rw [hitems]
        exact .last i c offset hphase
    | ready | waiting => exact .idle

/-- Only what a writer gets is submitted. -/
theorem of_mem_submitted {s : State ι γ} {input : Input ι γ} {entry : ι × γ}
    (h : entry ∈ submitted (step encode s input).2) : input = .submit entry.1 entry.2 := by
  cases input with
  | submit i c =>
    rw [step] at h
    cases hphase : s.phase i with
    | ready =>
      rw [hphase] at h
      dsimp only at h
      split at h
      · cases h
      · rw [List.mem_singleton.mp h]
    | waiting | writing =>
      rw [hphase] at h
      cases h
  | take i =>
    rw [step] at h
    cases hphase : s.phase i with
    | waiting c =>
      rw [hphase] at h
      dsimp only at h
      split at h <;> cases h
    | ready | writing =>
      rw [hphase] at h
      cases h
  | write i count =>
    rw [step] at h
    cases hphase : s.phase i with
    | writing c offset =>
      rw [hphase] at h
      dsimp only at h
      split at h <;> cases h
    | ready | waiting =>
      rw [hphase] at h
      cases h

/-! ### Invariant -/

/-- What is written of what a writer has under way. -/
def Phase.begun : Phase γ → List β
  | .writing c offset => (encode c).take offset
  | _ => []

/-- What a writer has under way. -/
def Phase.pending : Phase γ → List γ
  | .ready => []
  | .waiting c => [c]
  | .writing c _ => [c]

/-- The part of an encoding at the end of the stream. -/
def State.begun (s : State ι γ) : List β := s.lock.elim [] fun i => (s.phase i).begun encode

/-- The one who writes has the lock, so no other writes.  The stream is the encodings of what is
over and the beginning of one that is not, and what a writer gets is over in this order. -/
structure Writes (outputs : List (Output ι β γ)) (s : State ι γ) : Prop where
  lock : ∀ i, s.lock = some i ↔ ∃ c offset, s.phase i = .writing c offset
  offset : ∀ i c offset, s.phase i = .writing c offset → offset < (encode c).length
  waiting : ∀ i c, s.phase i = .waiting c → 0 < (encode c).length
  whole : ∀ entry ∈ finished outputs, 0 < (encode entry.2).length
  written : written outputs =
    (finished outputs).flatMap (fun entry => encode entry.2) ++ s.begun encode
  order : ∀ i, eventsOf i (submitted outputs) =
    eventsOf i (finished outputs) ++ (s.phase i).pending

variable {encode} {s s' : State ι γ} {outputs events : List (Output ι β γ)}

theorem Writes.start : Writes encode ([] : List (Output ι β γ)) {} where
  lock i := by
    constructor
    · intro hlock
      cases hlock
    · rintro ⟨_, _, hwriting⟩
      cases hwriting
  offset i c offset hwriting := by cases hwriting
  waiting i c hwaiting := by cases hwaiting
  whole := List.forall_mem_nil _
  written := rfl
  order _ := rfl

theorem Writes.begun_eq (h : Writes encode outputs s) {i : ι} {c : γ} {offset : ℕ}
    (hphase : s.phase i = .writing c offset) : s.begun encode = (encode c).take offset := by
  rw [State.begun, (h.lock i).mpr ⟨c, offset, hphase⟩, Option.elim, hphase, Phase.begun]

/-- What is over was submitted. -/
theorem Writes.submitted_of_finished (h : Writes encode outputs s) {entry : ι × γ}
    (hmem : entry ∈ finished outputs) : entry ∈ submitted outputs := by
  have hown : entry.2 ∈ eventsOf entry.1 (submitted outputs) := by
    rw [h.order entry.1]
    exact List.mem_append_left _ (mem_eventsOf.mpr hmem)
  exact mem_eventsOf.mp hown

/-- The stream ends with an encoding, or within one. -/
theorem Writes.begun_cases (h : Writes encode outputs s) :
    s.begun encode = [] ∨
      ∃ c offset, offset < (encode c).length ∧ s.begun encode = (encode c).take offset := by
  cases hlock : s.lock with
  | none =>
    left
    rw [State.begun, hlock, Option.elim]
  | some i =>
    obtain ⟨c, offset, hphase⟩ := (h.lock i).mp hlock
    exact .inr ⟨c, offset, h.offset i c offset hphase, h.begun_eq hphase⟩

/-- A writer that does not hold the lock leaves the end of the stream as it is. -/
theorem begun_move (s : State ι γ) {i : ι} (h : s.lock ≠ some i) (phase : Phase γ) :
    (s.move i phase s.lock).begun encode = s.begun encode := by
  rw [State.begun, State.begun, move_lock]
  cases hlock : s.lock with
  | none => rfl
  | some j =>
    have hj : j ≠ i := fun heq => h (heq ▸ hlock)
    rw [Option.elim, Option.elim, move_phase_of_ne s hj]

/-- A writer goes on to another phase, and with it the lock. -/
theorem Writes.move (h : Writes encode outputs s) {i : ι} {phase : Phase γ} {lock : Option ι}
    (hlock : lock = some i ↔ ∃ c offset, phase = .writing c offset)
    (hothers : ∀ j, j ≠ i → (lock = some j ↔ s.lock = some j))
    (hoffset : ∀ c offset, phase = .writing c offset → offset < (encode c).length)
    (hwaiting : ∀ c, phase = .waiting c → 0 < (encode c).length)
    (hwhole : ∀ entry ∈ finished events, 0 < (encode entry.2).length)
    (hwritten : s.begun encode ++ LockedStream.written events =
      (finished events).flatMap (fun entry => encode entry.2) ++
        (s.move i phase lock).begun encode)
    (horder : (s.phase i).pending ++ eventsOf i (submitted events) =
      eventsOf i (finished events) ++ phase.pending)
    (hnone : ∀ j, j ≠ i → eventsOf j (submitted events) = [] ∧ eventsOf j (finished events) = []) :
    Writes encode (outputs ++ events) (s.move i phase lock) where
  lock j := by
    by_cases hj : j = i
    · subst hj
      rw [move_phase_self]
      exact hlock
    · rw [move_phase_of_ne s hj]
      exact (hothers j hj).trans (h.lock j)
  offset j c offset hphase := by
    by_cases hj : j = i
    · subst hj
      rw [move_phase_self] at hphase
      exact hoffset c offset hphase
    · rw [move_phase_of_ne s hj] at hphase
      exact h.offset j c offset hphase
  waiting j c hphase := by
    by_cases hj : j = i
    · subst hj
      rw [move_phase_self] at hphase
      exact hwaiting c hphase
    · rw [move_phase_of_ne s hj] at hphase
      exact h.waiting j c hphase
  whole entry hmem := by
    rw [finished_append, List.mem_append] at hmem
    exact hmem.elim (h.whole entry) (hwhole entry)
  written := by
    rw [written_append, finished_append, List.flatMap_append, h.written, List.append_assoc,
      List.append_assoc]
    exact congrArg _ hwritten
  order j := by
    rw [submitted_append, finished_append, eventsOf_append, eventsOf_append, h.order j]
    by_cases hj : j = i
    · subst hj
      rw [move_phase_self, List.append_assoc, List.append_assoc]
      exact congrArg _ horder
    · obtain ⟨hsubmitted, hfinished⟩ := hnone j hj
      rw [move_phase_of_ne s hj, hsubmitted, hfinished, List.append_nil, List.append_nil]

theorem Writes.step (h : Writes encode outputs s) (hstep : Step encode s s' events) :
    Writes encode (outputs ++ events) s' := by
  have hnone : ∀ j, eventsOf j ([] : List (ι × γ)) = [] ∧ eventsOf j ([] : List (ι × γ)) = [] :=
    fun _ => ⟨rfl, rfl⟩
  cases hstep with
  | idle => exact (List.append_nil outputs).symm ▸ h
  | submit i c hphase hne =>
    have hlock : s.lock ≠ some i := by
      intro hlock
      obtain ⟨_, _, hwriting⟩ := (h.lock i).mp hlock
      rw [hphase] at hwriting
      cases hwriting
    refine h.move ⟨fun heq => absurd heq hlock, ?_⟩ (fun _ _ => Iff.rfl) ?_ ?_
      (List.forall_mem_nil _) ?_ ?_ ?_
    · rintro ⟨_, _, hwriting⟩
      cases hwriting
    · intro _ _ hwriting
      cases hwriting
    · intro _ hwaiting
      cases hwaiting
      exact Nat.pos_of_ne_zero hne
    · rw [begun_move s hlock]
      exact List.append_nil _
    · rw [hphase]
      exact eventsOf_cons_self c []
    · exact fun j hj => ⟨eventsOf_cons_of_ne (Ne.symm hj) c [], rfl⟩
  | take i c hphase hlock =>
    refine h.move ⟨fun _ => ⟨c, 0, rfl⟩, fun _ => rfl⟩ (fun j hj => ?_) ?_ ?_
      (List.forall_mem_nil _) ?_ ?_ ?_
    · rw [hlock, Option.some_inj]
      exact ⟨fun heq => absurd heq.symm hj, fun heq => by cases heq⟩
    · intro _ _ hwriting
      cases hwriting
      exact h.waiting i c hphase
    · intro _ hwaiting
      cases hwaiting
    · rw [State.begun, State.begun, hlock, move_lock, Option.elim, Option.elim, move_phase_self]
      rfl
    · rw [hphase]
      exact List.append_nil _
    · exact fun j _ => hnone j
  | part i c offset count hphase hpart =>
    have hlock := (h.lock i).mpr ⟨c, offset, hphase⟩
    refine h.move ⟨fun _ => ⟨_, _, rfl⟩, fun _ => hlock⟩ (fun _ _ => Iff.rfl) ?_ ?_
      (List.forall_mem_nil _) ?_ ?_ ?_
    · intro _ _ hwriting
      cases hwriting
      exact hpart
    · intro _ hwaiting
      cases hwaiting
    · have hitems : ((encode c).drop offset).take (((encode c).drop offset).take count).length =
          ((encode c).drop offset).take count := by
        rw [List.length_take, ← List.take_take, List.take_length]
      rw [h.begun_eq hphase, State.begun, move_lock, hlock, Option.elim, move_phase_self,
        Phase.begun, List.take_add, hitems]
      exact congrArg _ (List.append_nil _)
    · rw [hphase]
      rfl
    · exact fun j _ => hnone j
  | last i c offset hphase =>
    have hlock := (h.lock i).mpr ⟨c, offset, hphase⟩
    have hpos := Nat.zero_lt_of_lt (h.offset i c offset hphase)
    refine h.move ⟨fun heq => (by cases heq), ?_⟩ (fun j hj => ?_) ?_ ?_
      (List.forall_mem_singleton.mpr hpos) ?_ ?_ ?_
    · rintro ⟨_, _, hwriting⟩
      cases hwriting
    · rw [hlock, Option.some_inj]
      exact ⟨fun heq => (by cases heq), fun heq => absurd heq.symm hj⟩
    · intro _ _ hwriting
      cases hwriting
    · intro _ hwaiting
      cases hwaiting
    · rw [h.begun_eq hphase, State.begun, move_lock]
      simp only [LockedStream.written, List.flatMap_cons, List.flatMap_nil, Output.written,
        List.append_nil, List.take_append_drop]
      exact ((List.append_nil _).trans (List.append_nil _)).symm
    · rw [hphase]
      exact (congrArg (· ++ []) (eventsOf_cons_self c [])).symm
    · exact fun j hj => ⟨rfl, eventsOf_cons_of_ne (Ne.symm hj) c []⟩

/-- What the writers have written, in any order of theirs. -/
theorem Writes.run (h : Writes encode outputs s) (inputs : List (Input ι γ)) :
    Writes encode (outputs ++ (LockedStream.run encode s inputs).2)
      (LockedStream.run encode s inputs).1 := by
  induction inputs generalizing s outputs with
  | nil => exact (List.append_nil outputs).symm ▸ h
  | cons input inputs ih =>
    have hrun := ih (h.step (step_cases encode s input))
    rw [LockedStream.run, Transducer.run_cons, ← List.append_assoc]
    exact hrun

/-- What is over had come to its writer. -/
theorem submit_of_finished {inputs : List (Input ι γ)} {entry : ι × γ}
    (h : entry ∈ finished (LockedStream.run encode {} inputs).2) :
    .submit entry.1 entry.2 ∈ inputs := by
  have hwrites := (Writes.start : Writes encode [] {}).run inputs
  rw [List.nil_append] at hwrites
  have hsubmitted := hwrites.submitted_of_finished h
  obtain ⟨output, houtput, heq⟩ := List.mem_filterMap.mp hsubmitted
  obtain ⟨before, input, after, rfl, hstep⟩ := Transducer.mem_run _ houtput
  rw [← of_mem_submitted encode (List.mem_filterMap.mpr ⟨output, hstep, heq⟩)]
  exact List.mem_append_right _ (List.mem_cons_self ..)

end LockedStream
