import FlrcTnc.Arq.Calls

/-! Runs of one engine: any calls in any order, each with its own answers of the callbacks. -/

namespace FlrcTnc.Arq

open Framing

namespace ArqEngine

/-- The engine after the calls. -/
def after (e : ArqEngine) : List (ArqCallbacks × Call) → ArqEngine
  | [] => e
  | (cb, call) :: calls => (e.run cb call).toArqEngine.after calls

/-- The events of the calls. -/
def trace (e : ArqEngine) : List (ArqCallbacks × Call) → List Event
  | [] => []
  | (cb, call) :: calls => (e.run cb call).events ++ (e.run cb call).toArqEngine.trace calls

theorem after_append (e : ArqEngine) (calls more : List (ArqCallbacks × Call)) :
    e.after (calls ++ more) = (e.after calls).after more := by
  induction calls generalizing e with
  | nil => rfl
  | cons step calls ih => exact ih _

theorem trace_append (e : ArqEngine) (calls more : List (ArqCallbacks × Call)) :
    e.trace (calls ++ more) = e.trace calls ++ (e.after calls).trace more := by
  induction calls generalizing e with
  | nil => rfl
  | cons step calls ih =>
    rw [List.cons_append, trace, ih, ← List.append_assoc]
    rfl

/-- One more call. -/
theorem after_concat (e : ArqEngine) (calls : List (ArqCallbacks × Call)) (cb : ArqCallbacks)
    (call : Call) : e.after (calls ++ [(cb, call)]) = ((e.after calls).run cb call).toArqEngine :=
  after_append e calls _

theorem trace_concat (e : ArqEngine) (calls : List (ArqCallbacks × Call)) (cb : ArqCallbacks)
    (call : Call) :
    e.trace (calls ++ [(cb, call)]) = e.trace calls ++ ((e.after calls).run cb call).events := by
  rw [trace_append, trace, trace, List.append_nil]

theorem after_valid {e : ArqEngine} (h : e.Valid) (calls : List (ArqCallbacks × Call)) :
    (e.after calls).Valid := by
  induction calls generalizing e with
  | nil => exact h
  | cons step calls ih => exact ih (run_spec h step.1 step.2).1

end ArqEngine

/-! ### Invariants -/

namespace Party

variable {P : List Event → Party → Prop}

theorem Light.own {p q : Party} {evs : List Event} (h : Light p evs q) : Own p evs q := by
  refine ⟨h.1, fun ev hev haccepts => h.2 ev hev ?_⟩
  cases ev with
  | accepted => trivial
  | sent | delivered | opened | failed | completed | ackQueued => exact haccepts.elim

/-- What every act but acceptance keeps, a tick keeps. -/
theorem Tick.invariant (hact : ∀ {past p evs q}, P past p → Own p evs q → P (past ++ evs) q)
    {p q : Party} {evs a : List Event} (h : Tick p evs q) (hp : P a p) : P (a ++ evs) q := by
  cases h with
  | light hidle hlight =>
    rw [← List.append_assoc]
    exact hlight.invariant_trace (fun hp hstep => hact hp hstep.own)
      (hidle.invariant_trace (fun hp hstep => hact hp hstep.light.own) hp)
  | decisive hidle hstep hlight =>
    rw [← List.append_assoc, ← List.append_assoc]
    exact hlight.invariant_trace (fun hp hstep => hact hp hstep.own)
      (hact (hidle.invariant_trace (fun hp hstep => hact hp hstep.light.own) hp) hstep)

theorem Submit.invariant (hact : ∀ {past p evs q}, P past p → Act p evs q → P (past ++ evs) q)
    {p q : Party} {evs a : List Event} (h : Submit p evs q) (hp : P a p) : P (a ++ evs) q := by
  cases h with
  | reject => rwa [List.append_nil]
  | accept h => exact hact hp h

end Party

/-- What the acts of the party and the packets it receives keep, a run keeps. -/
theorem ArqEngine.run_invariant {P : List Event → Party → Prop}
    (hact : ∀ {past p evs q}, P past p → Party.Act p evs q → P (past ++ evs) q)
    (hreceive : ∀ {past p evs q packet}, P past p → Party.Receive packet p evs q →
      P (past ++ evs) q) {e : ArqEngine} (h : e.Valid) {a : List Event} (he : P a e.party)
    (calls : List (ArqCallbacks × Call)) : P (a ++ e.trace calls) (e.after calls).party := by
  induction calls generalizing e a with
  | nil => rwa [trace, List.append_nil]
  | cons step calls ih =>
    obtain ⟨cb, call⟩ := step
    obtain ⟨hvalid, hdoes⟩ := run_spec h cb call
    rw [trace, ← List.append_assoc]
    refine ih hvalid ?_
    cases call with
    | onRxPacket packet now => exact hreceive he hdoes
    | onTxDatagram => exact Party.Submit.invariant hact hdoes he
    | onTick | flushPendingAck =>
      exact Party.Tick.invariant (fun hp hown => hact hp hown.1) hdoes he

/-! ### Open egress -/

theorem Party.Act.drains {p q : Party} {evs : List Event} (h : Act p evs q) :
    p.receiver.Drains q.receiver := by
  cases h with
  | sender => exact .refl _
  | receiver s hact =>
    cases hact with
    | refuse | sendAck => exact .refl _
    | deliver => exact fun j r hr _ => (Slots.of_update_none hr).2

/-- No call leaves a datagram waiting that did not wait before, if packets find the egress open. -/
theorem ArqEngine.run_drains {e : ArqEngine} (h : e.Valid) (cb : ArqCallbacks) (call : Call)
    (hcb : ∀ packet now, call = .onRxPacket packet now → cb.EgressOpen) :
    e.party.receiver.Drains (e.run cb call).party.receiver := by
  let P (_ : List Event) (q : Party) : Prop := e.party.receiver.Drains q.receiver
  cases call with
  | onRxPacket packet now =>
    obtain ⟨_, _, _, _, hdrains⟩ := Exec.onRxPacket_spec (e := { e with }) cb packet now h
    exact hdrains (hcb packet now rfl)
  | onTxDatagram data =>
    exact Party.Submit.invariant (P := P) (a := []) (fun hq hact => hq.trans hact.drains)
      (run_spec h cb (.onTxDatagram data)).2 (.refl _)
  | onTick now =>
    exact Party.Tick.invariant (P := P) (a := []) (fun hq hown => hq.trans hown.1.drains)
      (run_spec h cb (.onTick now)).2 (.refl _)
  | flushPendingAck now =>
    exact Party.Tick.invariant (P := P) (a := []) (fun hq hown => hq.trans hown.1.drains)
      (run_spec h cb (.flushPendingAck now)).2 (.refl _)

/-- The two halves are in order. -/
def Party.Inv (p : Party) : Prop := p.sender.Inv ∧ p.receiver.Inv

theorem Party.Inv.act {p q : Party} {evs : List Event} (h : p.Inv) (hact : Act p evs q) :
    q.Inv := by
  cases hact with
  | sender r hact => exact ⟨h.1.act hact, h.2⟩
  | receiver s hact => exact ⟨h.1, h.2.act hact⟩

theorem Party.Inv.receive {p q : Party} {evs : List Event} {packet : Packet} (h : p.Inv)
    (hreceive : Receive packet p evs q) : q.Inv := by
  cases hreceive with
  | ignore => exact h
  | data s hpacket hreceive => exact ⟨h.1, h.2.receive (parseDataPacket_sound hpacket).1 hreceive⟩
  | ack r hpacket hreceive => exact ⟨h.1.receive hreceive, h.2⟩

theorem ArqEngine.run_inv (config : ArqConfig) (calls : List (ArqCallbacks × Call)) :
    ((reset config).after calls).party.Inv :=
  run_invariant (P := fun _ p => p.Inv) (a := []) (fun h hact => h.act hact)
    (fun h hreceive => h.receive hreceive) (reset_valid config) ⟨.empty, .empty⟩ calls

end FlrcTnc.Arq
