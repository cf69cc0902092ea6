import FlrcTnc.Arq.Run
import FlrcTnc.Lib.Channel

/-! Two engines and the packets between them.  Both send and receive; the datagrams of `s` to `r`
are what the log is about. -/

namespace FlrcTnc

open Framing Arq

/-- What becomes of the datagrams of `s`: acceptance and completion at `s`, and what `r`
delivers. -/
inductive Fate
  | accepted (slot : Fin 4) (id : UInt16) (data : List UInt8)
  | completed (slot : Fin 4)
  | delivered (id : UInt16) (data : List UInt8)
  deriving DecidableEq, Repr

def Fate.ofS : Event → Option Fate
  | .accepted i id data => some (.accepted i id data)
  | .completed i => some (.completed i)
  | _ => none

def Fate.ofR : Event → Option Fate
  | .delivered id data true => some (.delivered id data)
  | _ => none

/-- The packet that `send_packet` took. -/
def sentPacket : Event → Option Packet
  | .sent packet true => some packet
  | _ => none

structure Link where
  s : ArqEngine
  r : ArqEngine
  toR : List Packet := []
  toS : List Packet := []
  log : List Fate := []

namespace Link

inductive Side
  | s | r
  deriving DecidableEq, Repr

/-- A move of the link; the calls bring their own answers of the callbacks. -/
inductive Move
  | submit (side : Side) (data : Option (List UInt8))
  | tick (side : Side) (cb : ArqCallbacks) (now : UInt32)
  | flush (side : Side) (cb : ArqCallbacks) (now : UInt32)
  /-- A packet arrives at the side. -/
  | receive (side : Side) (k : Nat) (cb : ArqCallbacks) (now : UInt32)
  /-- A packet on its way to the side is lost. -/
  | lose (side : Side) (k : Nat)
  | reset (side : Side)

def Move.isReset : Move → Bool
  | .reset _ => true
  | _ => false

/-- Callbacks that take everything. -/
def openCallbacks : ArqCallbacks :=
  { sendPacket := some fun _ _ => true, deliverDatagram := some fun _ _ => true,
    egressCapacity := some fun _ => 4 }

/-- The engines after their construction. -/
def start (s r : ArqConfig) : Link := { s := .reset s, r := .reset r }

/-- Engine `s` after a call, with what it sent. -/
def afterS (l : Link) (e : Exec) : Link :=
  { l with
    s := e.toArqEngine
    toR := l.toR ++ e.events.filterMap sentPacket
    log := l.log ++ e.events.filterMap Fate.ofS }

/-- Engine `r` after a call, with what it sent. -/
def afterR (l : Link) (e : Exec) : Link :=
  { l with
    r := e.toArqEngine
    toS := l.toS ++ e.events.filterMap sentPacket
    log := l.log ++ e.events.filterMap Fate.ofR }

def callS (l : Link) (cb : ArqCallbacks) (call : Call) : Link := l.afterS (l.s.run cb call)

def callR (l : Link) (cb : ArqCallbacks) (call : Call) : Link := l.afterR (l.r.run cb call)

/-- One move; a move that is not possible changes nothing. -/
def step (channel : Channel) (l : Link) : Move → Link
  | .submit .s data => l.callS {} (.onTxDatagram data)
  | .submit .r data => l.callR {} (.onTxDatagram data)
  | .tick .s cb now => l.callS cb (.onTick now)
  | .tick .r cb now => l.callR cb (.onTick now)
  | .flush .s cb now => l.callS cb (.flushPendingAck now)
  | .flush .r cb now => l.callR cb (.flushPendingAck now)
  | .receive .s k cb now =>
    match channel.take l.toS k with
    | some (packet, toS) => { l with toS }.callS cb (.onRxPacket packet now)
    | none => l
  | .receive .r k cb now =>
    match channel.take l.toR k with
    | some (packet, toR) => { l with toR }.callR cb (.onRxPacket packet now)
    | none => l
  | .lose .s k => { l with toS := Channel.lose l.toS k }
  | .lose .r k => { l with toR := Channel.lose l.toR k }
  | .reset .s => { l with s := .reset l.s.config }
  | .reset .r => { l with r := .reset l.r.config }

def after (channel : Channel) (l : Link) : List Move → Link
  | [] => l
  | move :: moves => (l.step channel move).after channel moves

/-! ### The log -/

/-- The datagram last accepted into the slot. -/
def occupant (i : Fin 4) (log : List Fate) : Option (UInt16 × List UInt8) :=
  log.foldl (fun held fate =>
    match fate with
    | .accepted k id data => if k = i then some (id, data) else held
    | .completed _ | .delivered .. => held) none

/-- What happened since the datagram of the slot was accepted. -/
def since (i : Fin 4) (log : List Fate) : List Fate :=
  log.foldl (fun past fate =>
    match fate with
    | .accepted k _ _ => if k = i then [] else past ++ [fate]
    | .completed _ | .delivered .. => past ++ [fate]) []

/-- Whatever is completed at `s` was delivered at `r`, bytes and all, since it was accepted. -/
def NoAcknowledgedLoss (log : List Fate) : Prop :=
  ∀ past i rest, log = past ++ .completed i :: rest →
    ∃ id data, occupant i past = some (id, data) ∧ .delivered id data ∈ since i past

/-- Whatever `r` delivers is a datagram that `s` accepted. -/
def Integrity (log : List Fate) : Prop :=
  ∀ past id data rest, log = past ++ .delivered id data :: rest → ∃ i, .accepted i id data ∈ past

/-- The ids of the deliveries. -/
def deliveredIds (log : List Fate) : List UInt16 :=
  log.filterMap fun
    | .delivered id _ => some id
    | _ => none

/-- The ids of the datagrams that `s` accepted. -/
def acceptedIds (log : List Fate) : List UInt16 :=
  log.filterMap fun
    | .accepted _ id _ => some id
    | _ => none

end Link

end FlrcTnc
