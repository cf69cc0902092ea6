import FlrcTnc.Lib.Interleaving
import FlrcTnc.Lib.Transducer

/-! Calls from many clients to one server through a slot that they share.  A client takes the gate,
puts its request into the slot, sends word of it and waits until it is done; the server looks at
the slot when it comes to execute.  Each client gets the answer to its own request. -/

namespace SharedCall

open Interleaving

variable {ι κ ρ : Type*}

/-- How far a client is with its call: it awaits the gate, has it, has filled the slot, has sent
word, or has seen that it is done. -/
inductive Phase (κ : Type*)
  | ready
  | waiting (c : κ)
  | entered (c : κ)
  | filled (c : κ)
  | sent (c : κ)
  | done (c : κ)
  deriving DecidableEq, Repr

/-- The client has the gate. -/
def Phase.inside : Phase κ → Bool
  | .ready | .waiting _ => false
  | .entered _ | .filled _ | .sent _ | .done _ => true

/-- What a client has under way. -/
def Phase.pending : Phase κ → List κ
  | .ready => []
  | .waiting c | .entered c | .filled c | .sent c | .done c => [c]

/-- The slot has a request and a result.  Word of the slot is in the queue of the server, or with
the server, which has it staged; `done` is what a client waits for. -/
structure State (ι κ ρ : Type*) [Inhabited ρ] where
  phase : ι → Phase κ := fun _ => .ready
  gate : Option ι := none
  request : Option κ := none
  result : ρ := default
  queued : Bool := false
  staged : Bool := false
  done : Bool := false

/-- A client calls or goes on with its call, or the server takes the word from its queue or executes
what is staged. -/
inductive Input (ι κ ρ : Type*)
  | call (i : ι) (c : κ)
  | advance (i : ι)
  | receive
  | execute (answer : κ → ρ)

inductive Output (ι κ ρ : Type*)
  | called (i : ι) (c : κ)
  | executed (c : κ) (r : ρ)
  | returned (i : ι) (c : κ) (r : ρ)
  deriving DecidableEq, Repr

def Output.called? : Output ι κ ρ → Option (ι × κ)
  | .called i c => some (i, c)
  | _ => none

def Output.executed? : Output ι κ ρ → Option (κ × ρ)
  | .executed c r => some (c, r)
  | _ => none

def Output.returned? : Output ι κ ρ → Option (ι × κ × ρ)
  | .returned i c r => some (i, c, r)
  | _ => none

def called (outputs : List (Output ι κ ρ)) : List (ι × κ) := outputs.filterMap Output.called?

def executed (outputs : List (Output ι κ ρ)) : List (κ × ρ) := outputs.filterMap Output.executed?

def returned (outputs : List (Output ι κ ρ)) : List (ι × κ × ρ) :=
  outputs.filterMap Output.returned?

theorem called_append (outputs events : List (Output ι κ ρ)) :
    called (outputs ++ events) = called outputs ++ called events := List.filterMap_append

theorem executed_append (outputs events : List (Output ι κ ρ)) :
    executed (outputs ++ events) = executed outputs ++ executed events := List.filterMap_append

theorem returned_append (outputs events : List (Output ι κ ρ)) :
    returned (outputs ++ events) = returned outputs ++ returned events := List.filterMap_append

variable [Inhabited ρ]

/-! ### The stages of a call -/

/-- Where the word of the slot is. -/
structure At (s : State ι κ ρ) (queued staged done : Bool) : Prop where
  queued : s.queued = queued
  staged : s.staged = staged
  done : s.done = done

/-- What the phase of the client with the gate goes with: where the word of the slot is, what is in
the slot, and that nothing is executed and not returned but its own request. -/
def Stage (s : State ι κ ρ) (executed returned : List (κ × ρ)) : Phase κ → Prop
  | .ready | .waiting _ | .entered _ => At s false false false ∧ executed = returned
  | .filled c => At s false false false ∧ s.request = some c ∧ executed = returned
  | .sent c =>
    ((At s true false false ∨ At s false true false) ∧ s.request = some c ∧ executed = returned) ∨
      (At s false false true ∧ executed = returned ++ [(c, s.result)])
  | .done c => At s false false false ∧ executed = returned ++ [(c, s.result)]

/-- The phase of the client with the gate. -/
def State.holder (s : State ι κ ρ) : Phase κ := s.gate.elim .ready s.phase

theorem holder_eq {s : State ι κ ρ} {i : ι} (hgate : s.gate = some i) : s.holder = s.phase i := by
  rw [State.holder, hgate, Option.elim_some]

/-- The word of a slot that is queued is that of the one who has sent it. -/
theorem Stage.of_queued {s : State ι κ ρ} {executed returned : List (κ × ρ)} {p : Phase κ}
    (h : Stage s executed returned p) (hqueued : s.queued = true) :
    ∃ c, p = .sent c ∧ At s true false false ∧ s.request = some c ∧ executed = returned := by
  have hnot {staged done : Bool} (hat : At s false staged done) : False :=
    Bool.false_ne_true (hat.queued.symm.trans hqueued)
  cases p with
  | ready | waiting | entered | filled | done => exact (hnot h.1).elim
  | sent c =>
    rcases h with ⟨hat | hat, hrequest, hsame⟩ | ⟨hat, _⟩
    · exact ⟨c, rfl, hat, hrequest, hsame⟩
    · exact (hnot hat).elim
    · exact (hnot hat).elim

theorem Stage.of_staged {s : State ι κ ρ} {executed returned : List (κ × ρ)} {p : Phase κ}
    (h : Stage s executed returned p) (hstaged : s.staged = true) :
    ∃ c, p = .sent c ∧ At s false true false ∧ s.request = some c ∧ executed = returned := by
  have hnot {queued done : Bool} (hat : At s queued false done) : False :=
    Bool.false_ne_true (hat.staged.symm.trans hstaged)
  cases p with
  | ready | waiting | entered | filled | done => exact (hnot h.1).elim
  | sent c =>
    rcases h with ⟨hat | hat, hrequest, hsame⟩ | ⟨hat, _⟩
    · exact (hnot hat).elim
    · exact ⟨c, rfl, hat, hrequest, hsame⟩
    · exact (hnot hat).elim

/-! ### Steps -/

variable [DecidableEq ι]

/-- The client `i` goes on to another phase. -/
def State.move (s : State ι κ ρ) (i : ι) (phase : Phase κ) : State ι κ ρ :=
  { s with phase := Function.update s.phase i phase }

@[simp] theorem move_phase_self (s : State ι κ ρ) (i : ι) (phase : Phase κ) :
    (s.move i phase).phase i = phase := Function.update_self ..

theorem move_phase_of_ne (s : State ι κ ρ) {i j : ι} (h : j ≠ i) (phase : Phase κ) :
    (s.move i phase).phase j = s.phase j := Function.update_of_ne h ..

/-- A client goes on with its call, if it need not wait. -/
def advance (s : State ι κ ρ) (i : ι) : State ι κ ρ × List (Output ι κ ρ) :=
  match s.phase i with
  | .ready => (s, [])
  | .waiting c =>
    if s.gate.isNone then ({ s.move i (.entered c) with gate := some i }, []) else (s, [])
  | .entered c => ({ s.move i (.filled c) with request := some c, result := default }, [])
  | .filled c => if s.queued then (s, []) else ({ s.move i (.sent c) with queued := true }, [])
  | .sent c => if s.done then ({ s.move i (.done c) with done := false }, []) else (s, [])
  | .done c => ({ s.move i .ready with gate := none }, [.returned i c s.result])

def step (s : State ι κ ρ) : Input ι κ ρ → State ι κ ρ × List (Output ι κ ρ)
  | .call i c =>
    match s.phase i with
    | .ready => (s.move i (.waiting c), [.called i c])
    | _ => (s, [])
  | .advance i => advance s i
  | .receive => if s.queued then ({ s with queued := false, staged := true }, []) else (s, [])
  | .execute answer =>
    match s.request with
    | none => (s, [])
    | some c =>
      if s.staged then
        ({ s with staged := false, result := answer c, done := true }, [.executed c (answer c)])
      else (s, [])

def run : State ι κ ρ → List (Input ι κ ρ) → State ι κ ρ × List (Output ι κ ρ) :=
  Transducer.run step

/-! ### Invariant -/

/-- The clients take turns at the gate, and each returns from its calls in order. -/
structure Serves (outputs : List (Output ι κ ρ)) (s : State ι κ ρ) : Prop where
  stage : Stage s (SharedCall.executed outputs) ((returned outputs).map Prod.snd) s.holder
  inside : ∀ i, (s.phase i).inside ↔ s.gate = some i
  order : ∀ i, eventsOf i (called outputs) =
    (eventsOf i (returned outputs)).map Prod.fst ++ (s.phase i).pending

variable {s : State ι κ ρ} {outputs : List (Output ι κ ρ)}

theorem Serves.start : Serves ([] : List (Output ι κ ρ)) {} where
  stage := ⟨⟨rfl, rfl, rfl⟩, rfl⟩
  inside _ := ⟨fun hinside => absurd hinside Bool.false_ne_true, fun hgate => by cases hgate⟩
  order _ := rfl

/-- A client without the gate leaves the one that has it where it is. -/
theorem holder_move {i : ι} (h : s.gate ≠ some i) (phase : Phase κ) :
    (s.move i phase).holder = s.holder := by
  have hgate : (s.move i phase).gate = s.gate := rfl
  cases hholder : s.gate with
  | none => rw [State.holder, State.holder, hgate, hholder, Option.elim_none, Option.elim_none]
  | some j =>
    have hj : j ≠ i := fun heq => h (heq ▸ hholder)
    rw [holder_eq (hgate.trans hholder), holder_eq hholder, move_phase_of_ne s hj]

theorem Stage.move {executed returned : List (κ × ρ)} {p : Phase κ}
    (h : Stage s executed returned p) (i : ι) (phase : Phase κ) :
    Stage (s.move i phase) executed returned p := by
  have hat {queued staged done : Bool} (hat : At s queued staged done) :
      At (s.move i phase) queued staged done := ⟨hat.queued, hat.staged, hat.done⟩
  cases p with
  | ready | waiting | entered | filled | done => exact h.imp_left hat
  | sent => exact h.imp (And.imp_left (Or.imp hat hat)) (And.imp_left hat)

/-- A step of one client, with the stage behind it. -/
theorem Serves.client (h : Serves outputs s) {s' : State ι κ ρ} {events : List (Output ι κ ρ)}
    {i : ι} {phase : Phase κ} (hphase : s'.phase = Function.update s.phase i phase)
    (hinside : phase.inside ↔ s'.gate = some i)
    (hgate : ∀ j, j ≠ i → (s.gate = some j ↔ s'.gate = some j))
    (hstage : Stage s' (SharedCall.executed outputs ++ SharedCall.executed events)
      ((returned outputs).map Prod.snd ++ (returned events).map Prod.snd) s'.holder)
    (horder : (s.phase i).pending ++ eventsOf i (called events) =
      (eventsOf i (returned events)).map Prod.fst ++ phase.pending)
    (hnone : ∀ j, j ≠ i → eventsOf j (called events) = [] ∧ eventsOf j (returned events) = []) :
    Serves (outputs ++ events) s' where
  stage := by
    rw [executed_append, returned_append, List.map_append]
    exact hstage
  inside j := by
    rw [hphase]
    by_cases hj : j = i
    · rw [hj, Function.update_self]
      exact hinside
    · rw [Function.update_of_ne hj]
      exact (h.inside j).trans (hgate j hj)
  order j := by
    rw [called_append, returned_append, eventsOf_append, eventsOf_append, h.order j,
      List.map_append, List.append_assoc, List.append_assoc, hphase]
    refine congrArg _ ?_
    by_cases hj : j = i
    · rw [hj, Function.update_self]
      exact horder
    · obtain ⟨hcalled, hreturned⟩ := hnone j hj
      rw [Function.update_of_ne hj, hcalled, hreturned]
      exact List.append_nil _

/-- A step of the server, with the stage behind it. -/
theorem Serves.server (h : Serves outputs s) {s' : State ι κ ρ} {events : List (Output ι κ ρ)}
    (hphase : s'.phase = s.phase) (hgate : s'.gate = s.gate)
    (hcalled : called events = []) (hreturned : returned events = [])
    (hstage : Stage s' (SharedCall.executed outputs ++ SharedCall.executed events)
      ((returned outputs).map Prod.snd) s'.holder) : Serves (outputs ++ events) s' where
  stage := by
    rw [executed_append, returned_append, hreturned, List.append_nil]
    exact hstage
  inside j := by
    rw [hphase, hgate]
    exact h.inside j
  order j := by
    rw [called_append, returned_append, hcalled, hreturned, List.append_nil, List.append_nil,
      hphase]
    exact h.order j

theorem Serves.idle (h : Serves outputs s) : Serves (outputs ++ []) s :=
  (List.append_nil outputs).symm ▸ h

/-- The client with the gate goes on and keeps it, and nothing comes of it. -/
theorem Serves.holds (h : Serves outputs s) {s' : State ι κ ρ} {i : ι} {phase : Phase κ}
    (hgate : s.gate = some i) (hphase : s'.phase = Function.update s.phase i phase)
    (hgate' : s'.gate = s.gate) (hinside : phase.inside)
    (hpending : (s.phase i).pending = phase.pending)
    (hstage : Stage s' (SharedCall.executed outputs) ((returned outputs).map Prod.snd) phase) :
    Serves (outputs ++ []) s' := by
  refine h.client hphase (iff_of_true hinside (hgate'.trans hgate)) (fun j _ => ?_) ?_ ?_
    fun _ _ => ⟨rfl, rfl⟩
  · rw [hgate']
  · have hholder : s'.holder = phase := by
      rw [holder_eq (hgate'.trans hgate), hphase, Function.update_self]
    rw [hholder]
    exact (congrArg₂ (fun e r => Stage s' e r phase) (List.append_nil _) (List.append_nil _)).mpr
      hstage
  · exact (List.append_nil _).trans hpending

theorem Serves.advance (h : Serves outputs s) (i : ι) :
    Serves (outputs ++ (SharedCall.advance s i).2) (SharedCall.advance s i).1 := by
  have hgate (hinside : (s.phase i).inside) : s.gate = some i := (h.inside i).mp hinside
  have hstage (hinside : (s.phase i).inside) : Stage s (SharedCall.executed outputs)
      ((returned outputs).map Prod.snd) (s.phase i) := holder_eq (hgate hinside) ▸ h.stage
  rw [SharedCall.advance]
  cases hphase : s.phase i with
  | ready => exact h.idle
  | waiting c =>
    dsimp only
    split
    · next hfree =>
      have hfree := Option.isNone_iff_eq_none.mp hfree
      have hstage := h.stage
      rw [State.holder, hfree, Option.elim_none] at hstage
      refine h.client rfl (iff_of_true rfl rfl) (fun j hj => ?_) ?_ ?_ fun _ _ => ⟨rfl, rfl⟩
      · rw [hfree, Option.some_inj]
        exact ⟨fun hnone => (by cases hnone), fun heq => absurd heq.symm hj⟩
      · rw [holder_eq rfl, move_phase_self]
        obtain ⟨hat, hsame⟩ := hstage
        exact ⟨⟨hat.queued, hat.staged, hat.done⟩, congrArg (· ++ []) hsame⟩
      · rw [hphase]
        rfl
    · exact h.idle
  | entered c =>
    rw [hphase] at hgate hstage
    obtain ⟨hat, hsame⟩ := hstage rfl
    exact h.holds (hgate rfl) rfl rfl rfl (by rw [hphase]; rfl)
      ⟨⟨hat.queued, hat.staged, hat.done⟩, rfl, hsame⟩
  | filled c =>
    rw [hphase] at hgate hstage
    obtain ⟨hat, hrequest, hsame⟩ := hstage rfl
    dsimp only
    rw [hat.queued, if_neg Bool.false_ne_true]
    exact h.holds (hgate rfl) rfl rfl rfl (by rw [hphase]; rfl)
      (.inl ⟨.inl ⟨rfl, hat.staged, hat.done⟩, hrequest, hsame⟩)
  | sent c =>
    rw [hphase] at hgate hstage
    dsimp only
    rcases hstage rfl with ⟨hat | hat, _⟩ | ⟨hat, hone⟩
    · rw [hat.done, if_neg Bool.false_ne_true]
      exact h.idle
    · rw [hat.done, if_neg Bool.false_ne_true]
      exact h.idle
    · rw [hat.done, if_pos rfl]
      exact h.holds (hgate rfl) rfl rfl rfl (by rw [hphase]; rfl)
        ⟨⟨hat.queued, hat.staged, rfl⟩, hone⟩
  | done c =>
    rw [hphase] at hgate hstage
    obtain ⟨hat, hone⟩ := hstage rfl
    refine h.client rfl (iff_of_false Bool.false_ne_true fun hnone => (by cases hnone))
      (fun j hj => ?_) ⟨⟨hat.queued, hat.staged, hat.done⟩, (List.append_nil _).trans hone⟩ ?_ ?_
    · rw [hgate rfl, Option.some_inj]
      exact ⟨fun heq => absurd heq.symm hj, fun hnone => (by cases hnone)⟩
    · rw [hphase]
      have hown : eventsOf i [(i, c, s.result)] = [(c, s.result)] := eventsOf_cons_self ..
      exact (congrArg (fun own => own.map Prod.fst ++ []) hown).symm
    · exact fun j hj => ⟨rfl, eventsOf_cons_of_ne (Ne.symm hj) (c, s.result) []⟩

theorem Serves.step (h : Serves outputs s) (input : Input ι κ ρ) :
    Serves (outputs ++ (SharedCall.step s input).2) (SharedCall.step s input).1 := by
  have hstage := h.stage
  cases input with
  | call i c =>
    rw [SharedCall.step]
    cases hphase : s.phase i with
    | ready =>
      have hgate : s.gate ≠ some i := by
        intro hgate
        have hinside := (h.inside i).mpr hgate
        rw [hphase] at hinside
        exact Bool.false_ne_true hinside
      refine h.client rfl (iff_of_false Bool.false_ne_true hgate) (fun _ _ => Iff.rfl) ?_ ?_
        fun j hj => ⟨eventsOf_cons_of_ne (Ne.symm hj) c [], rfl⟩
      · rw [holder_move hgate]
        exact (congrArg₂ (fun e r => Stage (s.move i (.waiting c)) e r s.holder)
          (List.append_nil _) (List.append_nil _)).mpr (hstage.move i _)
      · rw [hphase]
        exact eventsOf_cons_self c []
    | waiting | entered | filled | sent | done => exact h.idle
  | advance i => exact h.advance i
  | receive =>
    rw [SharedCall.step]
    split
    · next hqueued =>
      obtain ⟨c, hphase, hat, hrequest, hsame⟩ := hstage.of_queued hqueued
      refine h.server rfl rfl rfl rfl ((congrArg (Stage _ _ _) hphase).mpr ?_)
      exact .inl ⟨.inr ⟨rfl, rfl, hat.done⟩, hrequest, (List.append_nil _).trans hsame⟩
    · exact h.idle
  | execute answer =>
    rw [SharedCall.step]
    cases hslot : s.request with
    | none => exact h.idle
    | some c =>
      dsimp only
      split
      · next hstaged =>
        obtain ⟨c', hphase, hat, hrequest, hsame⟩ := hstage.of_staged hstaged
        cases hslot.symm.trans hrequest
        refine h.server rfl rfl rfl rfl ((congrArg (Stage _ _ _) hphase).mpr ?_)
        exact .inr ⟨⟨hat.queued, rfl, rfl⟩, congrArg (· ++ [(c, answer c)]) hsame⟩
      · exact h.idle

/-- What comes of the calls, in any order of the steps. -/
theorem Serves.run (h : Serves outputs s) (inputs : List (Input ι κ ρ)) :
    Serves (outputs ++ (SharedCall.run s inputs).2) (SharedCall.run s inputs).1 := by
  induction inputs generalizing s outputs with
  | nil => exact h.idle
  | cons input inputs ih =>
    have hrun := ih (h.step input)
    rw [SharedCall.run, Transducer.run_cons, ← List.append_assoc]
    exact hrun

/-! ### The word of the slot -/

/-- A client leaves the word where it is, and the slot that it is of; or there is none, and it
sends it. -/
theorem Serves.advance_word (h : Serves outputs s) (i : ι) :
    SharedCall.executed (SharedCall.advance s i).2 = [] ∧
      (SharedCall.advance s i).1.staged = s.staged ∧
      ((SharedCall.advance s i).1.queued = s.queued ∧
          (s.queued ∨ s.staged → (SharedCall.advance s i).1.request = s.request) ∨
        s.queued = false ∧ s.staged = false ∧ (SharedCall.advance s i).1.queued = true ∧
          ∃ c, (SharedCall.advance s i).1.request = some c) := by
  have hstage (hinside : (s.phase i).inside) : Stage s (SharedCall.executed outputs)
      ((returned outputs).map Prod.snd) (s.phase i) :=
    holder_eq ((h.inside i).mp hinside) ▸ h.stage
  rw [SharedCall.advance]
  cases hphase : s.phase i with
  | ready | done => exact ⟨rfl, rfl, .inl ⟨rfl, fun _ => rfl⟩⟩
  | waiting | sent =>
    dsimp only
    split <;> exact ⟨rfl, rfl, .inl ⟨rfl, fun _ => rfl⟩⟩
  | entered c =>
    rw [hphase] at hstage
    obtain ⟨hat, _⟩ := hstage rfl
    refine ⟨rfl, rfl, .inl ⟨rfl, ?_⟩⟩
    rw [hat.queued, hat.staged]
    rintro (hword | hword) <;> cases hword
  | filled c =>
    rw [hphase] at hstage
    obtain ⟨hat, hrequest, _⟩ := hstage rfl
    dsimp only
    rw [hat.queued, if_neg Bool.false_ne_true]
    exact ⟨rfl, rfl, .inr ⟨rfl, hat.staged, rfl, c, hrequest⟩⟩

/-- Word of the slot is in one place, and the slot has a request. -/
theorem Serves.of_queued (h : Serves outputs s) (hqueued : s.queued = true) :
    s.staged = false ∧ ∃ c, s.request = some c := by
  obtain ⟨c, _, hat, hrequest, _⟩ := h.stage.of_queued hqueued
  exact ⟨hat.staged, c, hrequest⟩

theorem Serves.of_staged (h : Serves outputs s) (hstaged : s.staged = true) :
    s.queued = false ∧ ∃ c, s.request = some c := by
  obtain ⟨c, _, hat, hrequest, _⟩ := h.stage.of_staged hstaged
  exact ⟨hat.queued, c, hrequest⟩

theorem run_receive (hqueued : s.queued = true) :
    run s [.receive] = ({ s with queued := false, staged := true }, []) := by
  rw [run, Transducer.run_singleton, step, if_pos hqueued]

theorem run_execute {c : κ} (hstaged : s.staged = true) (hrequest : s.request = some c)
    (answer : κ → ρ) :
    run s [.execute answer] =
      ({ s with staged := false, result := answer c, done := true },
        [.executed c (answer c)]) := by
  rw [run, Transducer.run_singleton, step, hrequest]
  exact if_pos hstaged

theorem run_receive_execute {c : κ} (hqueued : s.queued = true) (hrequest : s.request = some c)
    (answer : κ → ρ) :
    run s [.receive, .execute answer] =
      ({ s with queued := false, staged := false, result := answer c, done := true },
        [.executed c (answer c)]) := by
  have hreceive : step s .receive = ({ s with queued := false, staged := true }, []) :=
    if_pos hqueued
  rw [run, Transducer.run_cons, hreceive]
  exact run_execute (s := { s with queued := false, staged := true }) rfl hrequest answer

end SharedCall
