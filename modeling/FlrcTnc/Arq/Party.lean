import FlrcTnc.Arq.Receiver
import FlrcTnc.Arq.Sender
import FlrcTnc.Lib.Trace

/-! One end of a link: a sender and a receiver that share nothing but the channel.  The calls of the
engine are runs of the acts of the two halves. -/

namespace FlrcTnc.Arq

open Framing

structure Party where
  sender : Sender
  receiver : Receiver

/-- The events that settle the fate of a datagram. -/
def Event.Decisive : Event → Prop
  | .accepted .. | .failed _ | .delivered _ _ true => True
  | _ => False

/-- A datagram was accepted. -/
def Event.Acceptance : Event → Prop
  | .accepted .. => True
  | _ => False

/-- The events of a callback that refused. -/
def Event.Refusal : Event → Prop
  | .sent _ false | .delivered _ _ false => True
  | _ => False

/-- The packet that `send_packet` took. -/
def Event.taken : Event → Option Packet
  | .sent packet true => some packet
  | _ => none

/-- The packets that `send_packet` took, in order. -/
def takenPackets (evs : List Event) : List Packet := evs.filterMap Event.taken

@[simp] theorem takenPackets_append (evs evs' : List Event) :
    takenPackets (evs ++ evs') = takenPackets evs ++ takenPackets evs' := List.filterMap_append

theorem takenPackets_eq_nil {evs : List Event} :
    takenPackets evs = [] ↔ ∀ ev ∈ evs, ev.taken = none := List.filterMap_eq_nil_iff

theorem Event.Refusal.taken {ev : Event} (h : ev.Refusal) : ev.taken = none := by
  cases ev with
  | sent packet ok =>
    cases ok with
    | true => exact h.elim
    | false => rfl
  | delivered | accepted | opened | failed | completed | ackQueued => rfl

/-- The events of the sending half. -/
def Event.OfSender : Event → Prop
  | .sent .. | .accepted .. | .opened _ | .failed _ | .completed _ => True
  | .delivered .. | .ackQueued .. => False

/-- The events of the receiving half. -/
def Event.OfReceiver : Event → Prop
  | .sent .. | .delivered .. | .ackQueued .. => True
  | .accepted .. | .opened _ | .failed _ | .completed _ => False

/-- The events of a received fragment, which come without a packet. -/
def Event.OfFragment : Event → Prop
  | .delivered .. | .ackQueued .. => True
  | .sent .. | .accepted .. | .opened _ | .failed _ | .completed _ => False

theorem Event.OfFragment.ofReceiver {ev : Event} (h : ev.OfFragment) : ev.OfReceiver := by
  cases ev with
  | delivered | ackQueued => trivial
  | sent | accepted | opened | failed | completed => exact h.elim

theorem Event.OfFragment.taken {ev : Event} (h : ev.OfFragment) : ev.taken = none := by
  cases ev with
  | delivered | ackQueued => rfl
  | sent | accepted | opened | failed | completed => exact h.elim

theorem Sender.Act.ofSender {s s' : Sender} {evs : List Event} (h : s.Act evs s') :
    ∀ ev ∈ evs, ev.OfSender := by
  cases h <;> exact fun ev hev => by rw [List.mem_singleton.mp hev]; trivial

theorem Sender.Receive.ofSender {s s' : Sender} {ack : AckFrame} {evs : List Event}
    (h : s.Receive ack evs s') : ∀ ev ∈ evs, ev.OfSender := by
  cases h with
  | ignore | withdraw | add => exact fun ev hev => by cases hev
  | complete => exact fun ev hev => by rw [List.mem_singleton.mp hev]; trivial

namespace Receiver

theorem ofFragment_of_mem_enqueueEvents {pending : List AckFrame} {ack : AckFrame}
    {source : AckSource} {ev : Event} (h : ev ∈ enqueueEvents pending ack source) :
    ev.OfFragment := by
  rw [eq_of_mem_enqueueEvents h]
  trivial

theorem ofFragment_of_mem_finishEvents {s : Receiver} {r : Incoming} {credits : UInt8} {ev : Event}
    (h : ev ∈ s.finishEvents r credits) : ev.OfFragment := by
  rcases List.mem_cons.mp h with rfl | hqueued
  · trivial
  · exact ofFragment_of_mem_enqueueEvents hqueued

theorem Act.ofReceiver {s s' : Receiver} {evs : List Event} (h : s.Act evs s') :
    ∀ ev ∈ evs, ev.OfReceiver := by
  cases h with
  | refuse | sendAck => exact fun ev hev => by rw [List.mem_singleton.mp hev]; trivial
  | deliver => exact fun ev hev => (ofFragment_of_mem_finishEvents hev).ofReceiver

theorem Settle.ofFragment {s s' : Receiver} {j : Fin 4} {r : Incoming} {evs : List Event}
    (h : s.Settle j r evs s') : ∀ ev ∈ evs, ev.OfFragment := by
  cases h with
  | partly => exact fun ev hev => by cases hev
  | roundEnd => exact fun ev hev => ofFragment_of_mem_enqueueEvents hev
  | deliver => exact fun ev hev => ofFragment_of_mem_finishEvents hev
  | block hcomplete refused hrefused =>
    intro ev hev
    rcases List.mem_append.mp hev with hev | hev
    · rcases hrefused with rfl | rfl
      · cases hev
      · rw [List.mem_singleton.mp hev]
        trivial
    · exact ofFragment_of_mem_enqueueEvents hev

theorem Receive.ofFragment {s s' : Receiver} {header : DataHeader} {payload : List UInt8}
    {evs : List Event} (h : s.Receive header payload evs s') : ∀ ev ∈ evs, ev.OfFragment := by
  cases h with
  | duplicate | noSlot | mismatch => exact fun ev hev => ofFragment_of_mem_enqueueEvents hev
  | taken j r hnew htakes hsettle => exact hsettle.ofFragment

theorem Receive.ofReceiver {s s' : Receiver} {header : DataHeader} {payload : List UInt8}
    {evs : List Event} (h : s.Receive header payload evs s') : ∀ ev ∈ evs, ev.OfReceiver :=
  fun ev hev => (h.ofFragment ev hev).ofReceiver

/-- A received fragment hands nothing to `send_packet`. -/
theorem Receive.takes_nothing {s s' : Receiver} {header : DataHeader} {payload : List UInt8}
    {evs : List Event} (h : s.Receive header payload evs s') : takenPackets evs = [] :=
  takenPackets_eq_nil.mpr fun ev hev => (h.ofFragment ev hev).taken

end Receiver

namespace Party

inductive Act : Party → List Event → Party → Prop
  | sender {s s' : Sender} {evs : List Event} (r : Receiver) (h : s.Act evs s') :
      Act ⟨s, r⟩ evs ⟨s', r⟩
  | receiver {r r' : Receiver} {evs : List Event} (s : Sender) (h : r.Act evs r') :
      Act ⟨s, r⟩ evs ⟨s, r'⟩

/-- An act that comes to nothing. -/
def Idle (p : Party) (evs : List Event) (p' : Party) : Prop :=
  Act p evs p' ∧ p' = p ∧ ∀ ev ∈ evs, ev.Refusal

/-- An act that decides nothing. -/
def Light (p : Party) (evs : List Event) (p' : Party) : Prop :=
  Act p evs p' ∧ ∀ ev ∈ evs, ¬ ev.Decisive

/-- An act that needs no call of `onTxDatagram`. -/
def Own (p : Party) (evs : List Event) (p' : Party) : Prop :=
  Act p evs p' ∧ ∀ ev ∈ evs, ¬ ev.Acceptance

theorem takes_nothing_of_idle {p p' : Party} {evs : List Event} (h : Trace.Steps Idle p evs p') :
    takenPackets evs = [] := by
  induction h with
  | nil => rfl
  | cons hidle _ ih =>
    rw [takenPackets_append, ih, List.append_nil]
    exact takenPackets_eq_nil.mpr fun ev hev => (hidle.2.2 ev hev).taken

/-- One tick: acts that come to nothing, at most one decisive act, and acts that decide nothing. -/
inductive Tick (p : Party) : List Event → Party → Prop
  | light {idle light : List Event} {q : Party} (hidle : Trace.Steps Idle p idle p)
      (hlight : Trace.Steps Light p light q) : Tick p (idle ++ light) q
  | decisive {idle act light : List Event} {q q' : Party} (hidle : Trace.Steps Idle p idle p)
      (hact : Own p act q) (hlight : Trace.Steps Light q light q') :
      Tick p (idle ++ act ++ light) q'

/-- What a call of `onTxDatagram` does: it accepts the datagram or changes nothing. -/
inductive Submit (p : Party) : List Event → Party → Prop
  | reject : Submit p [] p
  | accept {evs : List Event} {q : Party} (hact : Act p evs q) : Submit p evs q

/-- What a received packet does; one that is no DATA and no ACK frame does nothing. -/
inductive Receive (packet : Packet) : Party → List Event → Party → Prop
  | ignore (p : Party) (hdata : ∀ frame, parseDataPacket packet ≠ .ok frame)
      (hack : ∀ ack, parseAckPacket packet ≠ .ok ack) : Receive packet p [] p
  | data {header : DataHeader} {payload : List UInt8} {r r' : Receiver} {evs : List Event}
      (s : Sender) (hpacket : parseDataPacket packet = .ok (header, payload))
      (h : r.Receive header payload evs r') : Receive packet ⟨s, r⟩ evs ⟨s, r'⟩
  | ack {ack : AckFrame} {s s' : Sender} {evs : List Event} (r : Receiver)
      (hpacket : parseAckPacket packet = .ok ack) (h : s.Receive ack evs s') :
      Receive packet ⟨s, r⟩ evs ⟨s', r⟩

theorem Receive.takes_nothing {packet : Packet} {p q : Party} {evs : List Event}
    (h : Receive packet p evs q) : takenPackets evs = [] := by
  cases h with
  | ignore => rfl
  | data s hpacket h => exact h.takes_nothing
  | ack r hpacket h =>
    cases h with
    | ignore | withdraw | add | complete => rfl

end Party

end FlrcTnc.Arq
