import FlrcTnc.Link.Model

/-! The flow of datagrams from `s` to `r`, for its own sake: the sender, the receiver, the frames
between them and the log.  A move of the link is a run of the small steps here. -/

namespace FlrcTnc

open Framing Arq

/-- The part of a link that the datagrams of `s` go through. -/
structure Flow where
  sender : Sender
  receiver : Receiver
  data : List DataFrame
  acks : List AckFrame
  log : List Fate

namespace Flow

/-- Nothing has happened. -/
def empty (nextId : UInt16) : Flow :=
  ⟨⟨fun _ => none, nextId⟩, ⟨fun _ => none, {}, []⟩, [], [], []⟩

/-- A DATA frame with the id is in flight. -/
def InFlight (data : List DataFrame) (id : UInt16) : Prop := ∃ frame ∈ data, frame.1.datagramId = id

instance (data : List DataFrame) (id : UInt16) : Decidable (InFlight data id) :=
  inferInstanceAs (Decidable (∃ frame ∈ data, _))

/-- Sending an ACK makes no new one. -/
theorem mem_of_mem_sendAck {ack a : AckFrame} {rest acks : List AckFrame}
    (h : a ∈ rest ++ (acks ++ [ack])) : a ∈ ack :: rest ++ acks := by
  simp only [List.mem_append, List.mem_cons, List.not_mem_nil, or_false] at h ⊢
  rcases h with hmem | hmem | hmem
  · exact .inl (.inr hmem)
  · exact .inr hmem
  · exact .inl (.inl hmem)

/-- What a run is asked to keep to; each part is judged in the state before the step. -/
structure Rules where
  /-- A datagram is opened. -/
  opens : Receiver → List DataFrame → List AckFrame → Outgoing → Prop := fun _ _ _ _ => True
  /-- A datagram is given up. -/
  fails : Receiver → List DataFrame → Outgoing → Prop := fun _ _ _ => True
  /-- A datagram with the id is delivered. -/
  delivers : Sender → DuplicateWindow → List DataFrame → UInt16 → Prop := fun _ _ _ _ => True
  resetsS : Prop := True
  resetsR : Flow → Prop := fun _ => True

/-- The ACKs that the receiver may queue. -/
inductive Queues (f : Flow) : AckFrame → Prop
  | duplicate (id : UInt16) (stored : DuplicateAckState) (credits : UInt8)
      (hstored : duplicateWindowFind f.receiver.window id = some stored) :
      Queues f ⟨id, stored.fragmentBitmap, credits, stored.failure⟩
  | refused (frame : DataFrame) (hframe : frame ∈ f.data) (credits : UInt8)
      (hnew : ¬ f.receiver.window.Has frame.1.datagramId)
      (hfull : ∀ j, ∃ r, f.receiver.slots j = some r ∧ r.id ≠ frame.1.datagramId) :
      Queues f ⟨frame.1.datagramId, 0, credits, .allocationFailure⟩
  | mismatch (frame : DataFrame) (hframe : frame ∈ f.data) (j : Fin 4) (r : Incoming)
      (credits : UInt8) (hr : f.receiver.slots j = some r) (hid : r.id = frame.1.datagramId)
      (hlength : r.length ≠ frame.1.datagramLength) :
      Queues f ⟨frame.1.datagramId, r.bits, credits, .malformedInput⟩
  | partly (j : Fin 4) (r : Incoming) (credits : UInt8) (hr : f.receiver.slots j = some r)
      (hpart : ¬ r.Complete) : Queues f ⟨r.id, r.bits, credits, .none⟩
  | withdrawal (j : Fin 4) (r : Incoming) (hr : f.receiver.slots j = some r)
      (hcomplete : r.Complete) : Queues f (Receiver.withdrawalAck r)

variable (rules : Rules)

/-- One small step. -/
inductive Step : Flow → Flow → Prop
  | accept (f : Flow) (i : Fin 4) (data : List UInt8) (hpos : 0 < data.length)
      (hmax : data.length ≤ 1280) (hempty : f.sender.slots i = none) :
      Step f { f with
        sender := { f.sender.setSlot i (some ⟨false, f.sender.nextId, data, 0⟩) with
          nextId := f.sender.nextId + 1 }
        log := f.log ++ [.accepted i f.sender.nextId data] }
  | openSlot (f : Flow) (i : Fin 4) (t : Outgoing) (ht : f.sender.slots i = some t)
      (hnone : ∀ k u, f.sender.slots k = some u → ¬ u.opened)
      (hrules : rules.opens f.receiver f.data f.acks t) :
      Step f { f with
        sender := f.sender.setSlot i (some { t with opened := true, acked := 0 }) }
  | send (f : Flow) (i : Fin 4) (t : Outgoing) (ht : f.sender.Open i t) (frame : DataFrame)
      (hcarries : t.Carries frame.1 frame.2) : Step f { f with data := f.data ++ [frame] }
  | fail (f : Flow) (i : Fin 4) (t : Outgoing) (ht : f.sender.Open i t) (hmissing : ¬ t.AllAcked)
      (hrules : rules.fails f.receiver f.data t) :
      Step f { f with sender := f.sender.setSlot i none }
  | withdraw (f : Flow) (i : Fin 4) (t : Outgoing) (ht : f.sender.Open i t) (ack : AckFrame)
      (hack : ack ∈ f.acks) (hid : t.id = ack.datagramId)
      (hfailure : ack.failure = .creditWithdrawal) :
      Step f { f with
        sender := f.sender.setSlot i (some { t with acked := t.acked &&& ack.fragmentBitmap }) }
  | add (f : Flow) (i : Fin 4) (t : Outgoing) (ht : f.sender.Open i t) (ack : AckFrame)
      (hack : ack ∈ f.acks) (hid : t.id = ack.datagramId)
      (hfailure : ack.failure ≠ .creditWithdrawal) :
      Step f { f with
        sender := f.sender.setSlot i (some { t with acked := t.acked ||| ack.fragmentBitmap }) }
  | complete (f : Flow) (i : Fin 4) (t : Outgoing) (ht : f.sender.Open i t) (ack : AckFrame)
      (hack : ack ∈ f.acks) (hid : t.id = ack.datagramId) (hfailure : ack.failure = .none)
      (hall : { t with acked := t.acked ||| ack.fragmentBitmap }.AllAcked) :
      Step f { f with sender := f.sender.setSlot i none, log := f.log ++ [.completed i] }
  | take (f : Flow) (frame : DataFrame) (hframe : frame ∈ f.data) (j : Fin 4) (r : Incoming)
      (hnew : ¬ f.receiver.window.Has frame.1.datagramId)
      (htakes : f.receiver.Takes frame.1 frame.2 j r) :
      Step f { f with receiver := f.receiver.setSlot j (some r) }
  | queue (f : Flow) (ack : AckFrame) (hqueues : f.Queues ack) :
      Step f { f with receiver := f.receiver.queue ack }
  | deliver (f : Flow) (j : Fin 4) (r : Incoming) (hr : f.receiver.slots j = some r)
      (hcomplete : r.Complete) (stored credits : UInt8)
      (hrules : rules.delivers f.sender f.receiver.window f.data r.id) :
      Step f { f with
        receiver := f.receiver.finish j r stored credits
        log := f.log ++ [.delivered r.id r.content] }
  | sendAck (f : Flow) (ack : AckFrame) (rest : List AckFrame)
      (hpending : f.receiver.pending = ack :: rest) :
      Step f { f with
        receiver := { f.receiver with pending := rest }
        acks := f.acks ++ [ack] }
  | drop (f : Flow) (data : List DataFrame) (acks : List AckFrame) (hdata : data.Sublist f.data)
      (hacks : acks.Sublist f.acks) : Step f { f with data := data, acks := acks }
  | resetS (f : Flow) (nextId : UInt16) (hrules : rules.resetsS) :
      Step f { f with sender := ⟨fun _ => none, nextId⟩ }
  | resetR (f : Flow) (hrules : rules.resetsR f) :
      Step f { f with receiver := ⟨fun _ => none, {}, []⟩ }

/-- A run of small steps. -/
abbrev Run : Flow → Flow → Prop := Relation.ReflTransGen (Step rules)

namespace Rules

/-- The rules at an event of `s`. -/
def AtS (f : Flow) : Event → Prop
  | .opened i => ∀ t ∈ f.sender.slots i, rules.opens f.receiver f.data f.acks t
  | .failed i => ∀ t ∈ f.sender.slots i, rules.fails f.receiver f.data t
  | .sent .. | .delivered .. | .accepted .. | .completed _ | .ackQueued .. => True

/-- The rules at an event of `r`. -/
def AtR (f : Flow) : Event → Prop
  | .delivered id _ true => rules.delivers f.sender f.receiver.window f.data id
  | .delivered _ _ false | .sent .. | .accepted .. | .opened _ | .failed _ | .completed _
  | .ackQueued .. => True

/-- The rules can be checked. -/
class Decides (rules : Rules) where
  opens : ∀ receiver data acks t, Decidable (rules.opens receiver data acks t)
  fails : ∀ receiver data t, Decidable (rules.fails receiver data t)
  delivers : ∀ sender window data id, Decidable (rules.delivers sender window data id)
  resetsS : Decidable rules.resetsS
  resetsR : ∀ f, Decidable (rules.resetsR f)

instance [h : Decides rules] (f : Flow) (ev : Event) : Decidable (rules.AtS f ev) :=
  match ev with
  | .opened i =>
    have := h.opens f.receiver f.data f.acks
    inferInstanceAs (Decidable (∀ t ∈ f.sender.slots i, rules.opens f.receiver f.data f.acks t))
  | .failed i =>
    have := h.fails f.receiver f.data
    inferInstanceAs (Decidable (∀ t ∈ f.sender.slots i, rules.fails f.receiver f.data t))
  | .sent .. | .delivered .. | .accepted .. | .completed _ | .ackQueued .. => instDecidableTrue

instance [h : Decides rules] (f : Flow) (ev : Event) : Decidable (rules.AtR f ev) :=
  match ev with
  | .delivered id _ true => h.delivers f.sender f.receiver.window f.data id
  | .delivered _ _ false | .sent .. | .accepted .. | .opened _ | .failed _ | .completed _
  | .ackQueued .. => instDecidableTrue

end Rules

end Flow

/-! ### The flow of a link -/

namespace Link

def dataFrame (packet : Packet) : Option DataFrame := (parseDataPacket packet).toOption

def ackFrame (packet : Packet) : Option AckFrame := (parseAckPacket packet).toOption

def flow (l : Link) : Flow :=
  ⟨l.s.sender, l.r.receiver, l.toR.filterMap dataFrame, l.toS.filterMap ackFrame, l.log⟩

/-- The rules at a packet that arrives at `r`. -/
def ObeysArrival (rules : Flow.Rules) (l : Link) (cb : ArqCallbacks) (now : UInt32) :
    Option (Packet × List Packet) → Prop
  | some (packet, toR) =>
    ∀ ev ∈ (l.r.run cb (.onRxPacket packet now)).events, rules.AtR { l with toR }.flow ev
  | none => True

/-- The rules at one move. -/
def Obeys (rules : Flow.Rules) (channel : Channel) (l : Link) : Move → Prop
  | .submit .s data => ∀ ev ∈ (l.s.run {} (.onTxDatagram data)).events, rules.AtS l.flow ev
  | .submit .r data => ∀ ev ∈ (l.r.run {} (.onTxDatagram data)).events, rules.AtR l.flow ev
  | .tick .s cb now => ∀ ev ∈ (l.s.run cb (.onTick now)).events, rules.AtS l.flow ev
  | .tick .r cb now => ∀ ev ∈ (l.r.run cb (.onTick now)).events, rules.AtR l.flow ev
  | .flush .s cb now => ∀ ev ∈ (l.s.run cb (.flushPendingAck now)).events, rules.AtS l.flow ev
  | .flush .r cb now => ∀ ev ∈ (l.r.run cb (.flushPendingAck now)).events, rules.AtR l.flow ev
  | .receive .s .. => True
  | .receive .r k cb now => l.ObeysArrival rules cb now (channel.take l.toR k)
  | .lose .. => True
  | .reset .s => rules.resetsS
  | .reset .r => rules.resetsR l.flow

/-- Every move of the run keeps to the rules. -/
def Keeps (rules : Flow.Rules) (channel : Channel) (l : Link) : List Move → Prop
  | [] => True
  | move :: moves => l.Obeys rules channel move ∧ (l.step channel move).Keeps rules channel moves

instance (rules : Flow.Rules) [rules.Decides] (l : Link) (cb : ArqCallbacks) (now : UInt32)
    (taken : Option (Packet × List Packet)) : Decidable (l.ObeysArrival rules cb now taken) :=
  match taken with
  | some (packet, toR) => inferInstanceAs (Decidable
      (∀ ev ∈ (l.r.run cb (.onRxPacket packet now)).events, rules.AtR { l with toR }.flow ev))
  | none => instDecidableTrue

instance (rules : Flow.Rules) [h : rules.Decides] (channel : Channel) (l : Link) (move : Move) :
    Decidable (l.Obeys rules channel move) :=
  match move with
  | .submit .s data =>
    inferInstanceAs (Decidable (∀ ev ∈ (l.s.run {} (.onTxDatagram data)).events,
      rules.AtS l.flow ev))
  | .submit .r data =>
    inferInstanceAs (Decidable (∀ ev ∈ (l.r.run {} (.onTxDatagram data)).events,
      rules.AtR l.flow ev))
  | .tick .s cb now =>
    inferInstanceAs (Decidable (∀ ev ∈ (l.s.run cb (.onTick now)).events, rules.AtS l.flow ev))
  | .tick .r cb now =>
    inferInstanceAs (Decidable (∀ ev ∈ (l.r.run cb (.onTick now)).events, rules.AtR l.flow ev))
  | .flush .s cb now => inferInstanceAs
      (Decidable (∀ ev ∈ (l.s.run cb (.flushPendingAck now)).events, rules.AtS l.flow ev))
  | .flush .r cb now => inferInstanceAs
      (Decidable (∀ ev ∈ (l.r.run cb (.flushPendingAck now)).events, rules.AtR l.flow ev))
  | .receive .s .. | .lose .. => instDecidableTrue
  | .receive .r k cb now =>
    inferInstanceAs (Decidable (l.ObeysArrival rules cb now (channel.take l.toR k)))
  | .reset .s => h.resetsS
  | .reset .r => h.resetsR l.flow

instance decidableKeeps (rules : Flow.Rules) [rules.Decides] (channel : Channel) (l : Link)
    (moves : List Move) : Decidable (l.Keeps rules channel moves) :=
  match moves with
  | [] => instDecidableTrue
  | move :: moves =>
    have := decidableKeeps rules channel (l.step channel move) moves
    inferInstanceAs (Decidable (_ ∧ _))

end Link

end FlrcTnc
