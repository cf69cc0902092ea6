import FlrcTnc.Arq.Lockstep
import FlrcTnc.Arq.Run
import FlrcTnc.Lib.Transducer

/-! The calls of the public interface with what they let see, and their replay at other times and
with other datagram ids. -/

namespace FlrcTnc.Arq

open Framing

inductive PublicCall
  | reset (config : ArqConfig)
  | call (cb : ArqCallbacks) (call : Call)
  | nextDeadline (now : UInt32)

/-- What a public function returns. -/
inductive Answer
  | nothing
  | result (result : ArqResult)
  | flushed (ok : Bool)
  | deadline (deadline : Option UInt32)

/-- What is handed to the callbacks `send_packet` and `deliver_datagram`, with their answers. -/
inductive Handover
  | packet (packet : Packet) (ok : Bool)
  | datagram (data : List UInt8) (ok : Bool)

def Event.handover : Event → Option Handover
  | .sent packet ok => some (.packet packet ok)
  | .delivered _ data ok => some (.datagram data ok)
  | .accepted .. | .opened _ | .failed _ | .completed _ | .ackQueued .. => none

/-- What one call lets see: what it returns, what it hands over, and the counters after it. -/
structure Observation where
  answer : Answer
  handovers : List Handover
  counters : ArqCounters

namespace ArqEngine

def answer (e : ArqEngine) (cb : ArqCallbacks) : Call → Answer
  | .onTxDatagram data => .result (Exec.onTxDatagram { e with } data).1
  | .flushPendingAck now => .flushed (Exec.sendPendingAck cb { e with } now).1
  | .onRxPacket .. | .onTick _ => .nothing

/-- One public call, with what it lets see. -/
def observe (e : ArqEngine) : PublicCall → ArqEngine × List Observation
  | .reset config => (reset config, [⟨.nothing, [], (reset config).counters⟩])
  | .call cb call =>
    ((e.run cb call).toArqEngine,
      [⟨e.answer cb call, (e.run cb call).events.filterMap Event.handover,
        (e.run cb call).counters⟩])
  | .nextDeadline now => (e, [⟨.deadline (e.nextDeadline now), [], e.counters⟩])

end ArqEngine

/-! ### Shifts -/

def Call.shift (k : UInt32) (j : UInt16) : Call → Call
  | .onTxDatagram data => .onTxDatagram data
  | .onRxPacket packet now => .onRxPacket (packet.shiftId j) (now + k)
  | .onTick now => .onTick (now + k)
  | .flushPendingAck now => .flushPendingAck (now + k)

def PublicCall.shift (k : UInt32) (j : UInt16) : PublicCall → PublicCall
  | .reset config => .reset (config.shift j)
  | .call cb c => .call (cb.shift j) (c.shift k j)
  | .nextDeadline now => .nextDeadline (now + k)

def Answer.shift (k : UInt32) : Answer → Answer
  | .deadline d => .deadline (d.map (· + k))
  | .nothing => .nothing
  | .result r => .result r
  | .flushed ok => .flushed ok

def Handover.shift (j : UInt16) : Handover → Handover
  | .packet p ok => .packet (p.shiftId j) ok
  | .datagram data ok => .datagram data ok

def Observation.shift (k : UInt32) (j : UInt16) (seen : Observation) : Observation where
  answer := seen.answer.shift k
  handovers := seen.handovers.map (·.shift j)
  counters := seen.counters

theorem handover_shift (j : UInt16) (ev : Event) :
    (ev.shift j).handover = ev.handover.map (·.shift j) := by
  cases ev <;> rfl

/-! ### Replay -/

namespace ArqEngine

variable {k : UInt32} {j : UInt16} {e e' : ArqEngine}

theorem Shifted.exec (h : e.Shifted k j e') : Exec.Shifted k j { e with } { e' with } :=
  { h with calls := rfl, events := rfl }

theorem run_shifted (h : e.Shifted k j e') (hvalid : e.Valid) (cb : ArqCallbacks) (call : Call) :
    (e.run cb call).Shifted k j (e'.run (cb.shift j) (call.shift k j)) := by
  cases call with
  | onTxDatagram data => exact (Exec.onTxDatagram_agree h.exec data).shifted
  | onRxPacket packet now =>
    refine Exec.onRxPacket_shifted h.exec (fun l hl => ?_) cb packet now
    obtain ⟨_, hslot⟩ := hvalid.2.slot l hl
    exact hslot.active
  | onTick now => exact Exec.onTick_shifted h.exec cb now
  | flushPendingAck now => exact (Exec.sendPendingAck_agree h.exec cb now).shifted

theorem answer_shifted (h : e.Shifted k j e') (cb : ArqCallbacks) (call : Call) :
    e'.answer (cb.shift j) (call.shift k j) = (e.answer cb call).shift k := by
  cases call with
  | onTxDatagram data => exact congrArg Answer.result (Exec.onTxDatagram_agree h.exec data).answer
  | onRxPacket => rfl
  | onTick => rfl
  | flushPendingAck now =>
    exact congrArg Answer.flushed
      (Exec.sendPendingAck_agree h.exec cb now).answer

/-- One call keeps the engines shifted and lets the same be seen, but for the shift. -/
theorem observe_shifted (h : e.Shifted k j e') (hvalid : e.Valid) (call : PublicCall) :
    ((e.observe call).1.Valid ∧ (e.observe call).1.Shifted k j (e'.observe (call.shift k j)).1) ∧
      (e'.observe (call.shift k j)).2 = (e.observe call).2.map (·.shift k j) := by
  cases call with
  | reset config => exact ⟨⟨reset_valid config, reset_shifted k j config⟩, rfl⟩
  | nextDeadline now =>
    refine ⟨⟨hvalid, h⟩, ?_⟩
    rw [PublicCall.shift, observe, observe]
    dsimp only
    rw [nextDeadline_shifted h, h.counters]
    rfl
  | call cb call =>
    have hrun := run_shifted h hvalid cb call
    refine ⟨⟨(run_spec hvalid cb call).1, hrun.toShifted⟩, ?_⟩
    have hhanded : (e'.run (cb.shift j) (call.shift k j)).events.filterMap Event.handover =
        ((e.run cb call).events.filterMap Event.handover).map (·.shift j) := by
      rw [hrun.events, List.filterMap_map, List.map_filterMap]
      exact List.filterMap_congr fun ev _ => handover_shift j ev
    rw [PublicCall.shift, observe, observe]
    dsimp only
    rw [answer_shifted h, hhanded, hrun.counters]
    rfl

/-- A run is replayed at times that are `k` later and with ids that are `j` further on: the same
results, deliveries and counters, the same frames but for their ids, and the deadlines `k` later. -/
theorem replay_shifted (k : UInt32) (j : UInt16) (config : ArqConfig) (calls : List PublicCall) :
    (Transducer.run observe (reset (config.shift j)) (calls.map (·.shift k j))).2 =
      (Transducer.run observe (reset config) calls).2.map (·.shift k j) := by
  let R (e e' : ArqEngine) : Prop := e.Valid ∧ e.Shifted k j e'
  exact (Transducer.run_renamed (PublicCall.shift k j) (Observation.shift k j) R
    (fun e e' call h => observe_shifted h.2 h.1 call)
    ⟨reset_valid config, reset_shifted k j config⟩ calls).2

end ArqEngine

end FlrcTnc.Arq
