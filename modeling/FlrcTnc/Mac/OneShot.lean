import FlrcTnc.Arq.Deadline
import FlrcTnc.Arq.Demand
import FlrcTnc.Kiss.Codec

/-! The diagnostic egress modes of `mac/Mac.cpp`, and what the one-shot mode lets through: the ARQ
engine with `deliverArqDatagram` and `arqEgressCapacity` as its callbacks. -/

namespace FlrcTnc.Mac

open Arq Framing Kiss Token

inductive DiagnosticEgressMode
  | «open» | blocked | oneShotZeroCredit
  deriving DecidableEq, Repr

/-- `g_diagnostic_egress_mode` and `g_diagnostic_egress_one_available`. -/
structure DiagnosticEgress where
  mode : DiagnosticEgressMode := .open
  oneAvailable : Bool := false
  deriving DecidableEq, Repr

/-- `setDiagnosticEgressMode`, the wake-up of the MAC task apart. -/
def setDiagnosticEgressMode (mode : DiagnosticEgressMode) : DiagnosticEgress :=
  ⟨mode, mode = .oneShotZeroCredit⟩

/-- `arqEgressCapacity` with so many free places in `s_rxQueue`. -/
def arqEgressCapacity (d : DiagnosticEgress) (spaces : Nat) : UInt8 × DiagnosticEgress :=
  match d.mode with
  | .blocked => (0, d)
  | .oneShotZeroCredit => if d.oneAvailable then (1, { d with oneAvailable := false }) else (0, d)
  | .open => (if spaces > 255 then 255 else UInt8.ofNat spaces, d)

/-- `deliverArqDatagram` with so many free places in `s_rxQueue`. -/
def deliverArqDatagram (spaces : Nat) (data : List UInt8) : Bool :=
  if data.length = 0 ∨ data.length > tncPayloadMaxLen then false else spaces > 0

/-- A call of the engine, with the answers of `sendArqPacket` and the room in `s_rxQueue` at each
callback. -/
structure EgressCall where
  call : Call
  sendPacket : Nat → Packet → Bool
  spaces : Nat → Nat
  room : ∀ n, 0 < spaces n

/-- The callbacks of the engine.  The first callback of a call that asks `arqEgressCapacity` is such
a question, so that every later one finds the state that it leaves behind. -/
def DiagnosticEgress.callbacks (d : DiagnosticEgress) (c : EgressCall) : ArqCallbacks where
  sendPacket := some c.sendPacket
  deliverDatagram := some fun n data => deliverArqDatagram (c.spaces n) data
  egressCapacity := some fun n =>
    (arqEgressCapacity (if n = 0 then d else (arqEgressCapacity d (c.spaces 0)).2) (c.spaces n)).1

/-- The engine with the diagnostic state. -/
structure Diagnosed where
  arq : ArqEngine
  egress : DiagnosticEgress

namespace Diagnosed

/-- The events of a call. -/
def events (s : Diagnosed) (c : EgressCall) : List Event :=
  (s.arq.run (s.egress.callbacks c) c.call).events

def step (s : Diagnosed) (c : EgressCall) : Diagnosed where
  arq := (s.arq.run (s.egress.callbacks c) c.call).toArqEngine
  egress :=
    if s.arq.asksEgress (s.egress.callbacks c) c.call then
      (arqEgressCapacity s.egress (c.spaces 0)).2
    else s.egress

/-- The datagrams that `deliverArqDatagram` takes. -/
def delivered (s : Diagnosed) : List EgressCall → List (UInt16 × List UInt8)
  | [] => []
  | c :: calls => deliveries (s.events c) ++ (s.step c).delivered calls

/-- What the calls ask for, each in the state that it finds. -/
def requests (s : Diagnosed) : List EgressCall → List (Request (UInt16 × List UInt8))
  | [] => []
  | c :: calls => s.arq.demand c.call :: (s.step c).requests calls

/-- The first datagram that the engine finds complete. -/
def firstComplete (s : Diagnosed) (calls : List EgressCall) : Option (UInt16 × List UInt8) :=
  (s.requests calls).findSome? Request.wanted

variable {s : Diagnosed}

theorem callbacks_oneAtMost (c : EgressCall) (token : Bool) :
    (DiagnosticEgress.callbacks ⟨.oneShotZeroCredit, token⟩ c).OneAtMost token where
  egress := by
    refine ⟨_, rfl, ?_, fun n hn => ?_⟩
    · cases token <;> simp [arqEgressCapacity]
    · rw [if_neg (by omega)]
      cases token <;> rfl
  deliver := by
    refine ⟨_, rfl, fun n data hpos hmax => ?_⟩
    rw [deliverArqDatagram, if_neg (by simp only [tncPayloadMaxLen]; omega)]
    exact decide_eq_true (c.room n)

/-- A call in the one-shot mode. -/
theorem step_oneShot {token : Bool} (h : s.arq.Valid) (hs : s.egress = ⟨.oneShotZeroCredit, token⟩)
    (c : EgressCall) :
    deliveries (s.events c) = (if token then (s.arq.demand c.call).wanted.toList else []) ∧
      (s.step c).egress = ⟨.oneShotZeroCredit, token && (s.arq.demand c.call).isIdle⟩ ∧
      (s.step c).arq.Valid := by
  obtain ⟨hdeliveries, hasks⟩ := ArqEngine.run_meets h (callbacks_oneAtMost c token) c.call
  refine ⟨?_, ?_, (ArqEngine.run_spec h _ c.call).1⟩
  · rw [events, hs]
    exact hdeliveries
  · rw [step, hs, hasks]
    cases token <;> cases (s.arq.demand c.call).isIdle <;> rfl

/-- In the one-shot mode the token goes to the first call that asks for anything. -/
theorem delivered_eq_granted {token : Bool} (h : s.arq.Valid)
    (hs : s.egress = ⟨.oneShotZeroCredit, token⟩) (calls : List EgressCall) :
    s.delivered calls = granted token (s.requests calls) := by
  induction calls generalizing s token with
  | nil => cases token <;> rfl
  | cons c calls ih =>
    obtain ⟨hdeliveries, hegress, hvalid⟩ := step_oneShot h hs c
    rw [delivered, requests, granted, hdeliveries, ih hvalid hegress]

end Diagnosed

/-- The engine after any calls with any callbacks, when the one-shot mode is chosen. -/
def oneShot (config : ArqConfig) (before : List (ArqCallbacks × Call)) : Diagnosed :=
  ⟨(ArqEngine.reset config).after before, setDiagnosticEgressMode .oneShotZeroCredit⟩

/-- From the choice of the one-shot mode on, the first datagram that is complete is delivered, and
no other one, just if no ACK asks for credits before that datagram is complete. -/
theorem oneShot_delivers_iff (config : ArqConfig) (before : List (ArqCallbacks × Call))
    (calls : List EgressCall) :
    (oneShot config before).delivered calls =
        ((oneShot config before).firstComplete calls).toList ↔
      ItemFirst ((oneShot config before).requests calls) := by
  have hvalid := ArqEngine.after_valid (ArqEngine.reset_valid config) before
  rw [Diagnosed.delivered_eq_granted (s := oneShot config before) hvalid rfl]
  exact granted_eq_iff _

theorem room_one (_ : Nat) : 0 < 1 := Nat.one_pos

/-- A packet is received while every callback takes what it gets. -/
def receiving (packet : Packet) : EgressCall :=
  ⟨.onRxPacket packet 0, fun _ _ => true, fun _ => 1, room_one⟩

/-- Datagram 7 has two fragments, of which the second one is lost in the first round. -/
def lostFragmentCalls : List EgressCall :=
  [receiving (dataPacket ⟨1, 0, 7, 0, 2, 116, 115⟩ (List.replicate 115 5)),
    receiving (dataPacket ⟨1, 0, 7, 1, 2, 116, 1⟩ [6])]

set_option maxRecDepth 100000 in
/-- The ACK that asks for the lost fragment uses the token up, and nothing is ever delivered. -/
theorem lostFragmentCalls_delivers_nothing :
    (oneShot {} []).delivered lostFragmentCalls ≠
      ((oneShot {} []).firstComplete lostFragmentCalls).toList := by
  decide +kernel

end FlrcTnc.Mac
