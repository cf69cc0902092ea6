import FlrcTnc.Arq.Pool

/-! The ARQ engine: `arq/ArqEngine.h` and `arq/ArqEngine.cpp`.  A call of the engine runs on an
`Exec`, which is the engine with the number of callback calls so far and the events of the call. -/

namespace FlrcTnc.Arq

open Framing

def arqMaxOutstanding : UInt8 := 4
def arqMaxRxDatagrams : UInt8 := 4
def arqPendingAckCapacity : Nat := 16
def arqMaxAttemptsDefault : UInt8 := 8

structure ArqConfig where
  retryTimeoutCycles : UInt32 := 8
  ackTurnaroundCycles : UInt32 := 0
  creditStallTimeoutCycles : UInt32 := 64
  maxAttempts : UInt8 := arqMaxAttemptsDefault
  initialRemoteCredits : UInt8 := arqMaxOutstanding
  initialDatagramId : UInt16 := 0
  deriving DecidableEq, Repr

structure ArqCounters where
  reset : UInt32 := 0
  retryExhaustion : UInt32 := 0
  saturation : UInt32 := 0
  malformedInput : UInt32 := 0
  creditWithdrawal : UInt32 := 0
  allocationFailure : UInt32 := 0
  duplicateSuppressed : UInt32 := 0
  delivered : UInt32 := 0
  txCompleted : UInt32 := 0
  txRejected : UInt32 := 0
  creditStallProbes : UInt32 := 0
  deriving DecidableEq, Repr

/-- The callbacks during one call of the engine; `none` is the null pointer.  The number is that of
the callback calls made before in the same call, so that every call may be answered anew. -/
structure ArqCallbacks where
  sendPacket : Option (Nat → Packet → Bool) := none
  deliverDatagram : Option (Nat → List UInt8 → Bool) := none
  egressCapacity : Option (Nat → UInt8) := none

/-- `deliver_datagram` takes everything, and `egress_capacity` does not say otherwise. -/
def ArqCallbacks.EgressOpen (cb : ArqCallbacks) : Prop :=
  (∀ egress, cb.egressCapacity = some egress → ∀ n, egress n ≠ 0) ∧
    ∃ deliver, cb.deliverDatagram = some deliver ∧ ∀ n data, deliver n data = true

inductive ArqResult
  | ok | badArgument | badLength | noTxSlot | allocationFailed
  deriving DecidableEq, Repr

inductive TxState
  | empty | queued | open
  deriving DecidableEq, Repr

structure TxSlot where
  state : TxState := .empty
  handle : DatagramHandle := {}
  data : Option BufferRef := none
  len : UInt16 := 0
  datagramId : UInt16 := 0
  fragmentCount : UInt8 := 0
  ackedBitmap : UInt16 := 0
  roundBitmap : UInt16 := 0
  nextFragment : UInt8 := 0
  attempts : UInt8 := 0
  retryDeadline : UInt32 := 0
  deriving DecidableEq, Repr

/-- The slot of a datagram that was just accepted. -/
def TxSlot.forDatagram (lease : DatagramLease) (len datagramId : UInt16) : TxSlot where
  state := .queued
  handle := lease.handle
  data := lease.data
  len
  datagramId
  fragmentCount := expectedFragmentCount len

structure RxSlot where
  active : Bool := false
  handle : DatagramHandle := {}
  reassembly : ReassemblyV3 := {}
  completeWaitingEgress : Bool := false
  deriving DecidableEq, Repr

structure PendingAck where
  ack : AckFrame
  readyDeadline : UInt32
  deriving DecidableEq, Repr

/-- `pending_acks_[0 .. pending_ack_count_)`, which are the valid ones. -/
theorem length_nil_pending : ([] : List PendingAck).length ≤ arqPendingAckCapacity := Nat.zero_le _

structure PendingAcks where
  entries : List PendingAck := []
  fits : entries.length ≤ arqPendingAckCapacity := by exact length_nil_pending
  deriving DecidableEq, Repr

structure ArqEngine where
  config : ArqConfig
  counters : ArqCounters := {}
  txPool : DatagramPool := {}
  rxPool : DatagramPool := {}
  duplicateWindow : DuplicateWindow := {}
  txSlots : Fin 4 → TxSlot
  rxSlots : Fin 4 → RxSlot
  pendingAcks : PendingAcks := {}
  remoteCredits : UInt8
  nextDatagramId : UInt16
  creditProbeArmed : Bool := false
  creditProbeDeadline : UInt32 := 0

/-- What an ACK was built from: a reassembly of so many fragments, an entry of the duplicate window,
or no state about the datagram at all. -/
inductive AckSource
  | reassembly (fragmentCount : UInt8)
  | duplicate
  | refused
  deriving DecidableEq, Repr

/-- The trace of a call: what it hands to the callbacks `send_packet` and `deliver_datagram` with
their answers, and how datagrams and ACKs move inside the engine. -/
inductive Event
  | sent (packet : Packet) (ok : Bool)
  | delivered (datagramId : UInt16) (data : List UInt8) (ok : Bool)
  | accepted (slot : Fin 4) (datagramId : UInt16) (data : List UInt8)
  | opened (slot : Fin 4)
  | failed (slot : Fin 4)
  | completed (slot : Fin 4)
  | ackQueued (ack : AckFrame) (source : AckSource)
  deriving DecidableEq, Repr

/-- The engine inside a call. -/
structure Exec extends ArqEngine where
  calls : Nat := 0
  events : List Event := []

def expectedBitmap (fragmentCount : UInt8) : UInt16 := fragmentExpectedBitmap fragmentCount

def clampCredits (value : UInt8) : UInt8 :=
  if value > arqMaxOutstanding then arqMaxOutstanding else value

/-- `static_cast<int32_t>(now - deadline) < 0`. -/
def isBefore (now deadline : UInt32) : Bool := (now - deadline).toInt32 < 0

/-- The state that `memset` leaves: the handle of a cleared slot is the number 0. -/
def ArqEngine.reset (config : ArqConfig) : ArqEngine where
  config
  counters := { reset := 1 }
  txSlots _ := { handle := ⟨0⟩ }
  rxSlots _ := { handle := ⟨0⟩ }
  remoteCredits := clampCredits config.initialRemoteCredits
  nextDatagramId := config.initialDatagramId

namespace ArqEngine

def txCount (e : ArqEngine) (state : TxState) : UInt8 :=
  UInt8.ofNat ((List.finRange 4).countP fun i => (e.txSlots i).state = state)

def txActiveCount (e : ArqEngine) : UInt8 := e.txCount .open

def txQueuedCount (e : ArqEngine) : UInt8 := e.txCount .queued

def rxActiveCount (e : ArqEngine) : UInt8 :=
  UInt8.ofNat ((List.finRange 4).countP fun i => (e.rxSlots i).active)

def hasPendingWork (e : ArqEngine) : Bool :=
  e.pendingAcks.entries.length > 0 ∨ e.txActiveCount > 0 ∨ e.txQueuedCount > 0 ∨ e.rxActiveCount > 0

/-- The last loop of `nextDeadline`, with the deadline found so far. -/
def earliestRetry (e : ArqEngine) (now : UInt32) : List (Fin 4) → Option UInt32 → Option UInt32
  | [], best => best
  | i :: rest, best =>
    let slot := e.txSlots i
    let full := expectedBitmap slot.fragmentCount
    if slot.state ≠ .open then e.earliestRetry now rest best
    else if slot.ackedBitmap &&& full = full then some now
    else if slot.roundBitmap = 0 ∧ best.all fun best => isBefore slot.retryDeadline best then
      e.earliestRetry now rest (some slot.retryDeadline)
    else e.earliestRetry now rest best

def nextDeadline (e : ArqEngine) (now : UInt32) : Option UInt32 :=
  match e.pendingAcks.entries with
  | pending :: _ => some pending.readyDeadline
  | [] =>
    if ∃ i, (e.rxSlots i).active ∧ (e.rxSlots i).completeWaitingEgress then some now
    else if ∃ i, (e.txSlots i).state = .open ∧ (e.txSlots i).roundBitmap ≠ 0 then some now
    else if e.txQueuedCount > 0 ∧ e.remoteCredits > 0 ∧ e.txActiveCount = 0 then some now
    else
      let probe :=
        if e.creditProbeArmed ∧ e.remoteCredits = 0 ∧ e.txQueuedCount > 0 ∧ e.txActiveCount = 0 then
          some e.creditProbeDeadline
        else none
      e.earliestRetry now (List.finRange 4) probe

end ArqEngine

namespace Exec

def setTx (e : Exec) (i : Fin 4) (slot : TxSlot) : Exec :=
  { e with txSlots := Function.update e.txSlots i slot }

def setRx (e : Exec) (i : Fin 4) (slot : RxSlot) : Exec :=
  { e with rxSlots := Function.update e.rxSlots i slot }

def emit (e : Exec) (event : Event) : Exec := { e with events := e.events ++ [event] }

/-- A change of the counters. -/
def count (e : Exec) (f : ArqCounters → ArqCounters) : Exec := { e with counters := f e.counters }

/-- One more callback call. -/
def called (e : Exec) : Exec := { e with calls := e.calls + 1 }

def clearTxSlot (e : Exec) (i : Fin 4) : Exec :=
  let handle := (e.txSlots i).handle
  let e := if handle.isValid then { e with txPool := (releaseDatagram e.txPool handle).2 } else e
  e.setTx i {}

def failTxSlot (e : Exec) (i : Fin 4) : Exec :=
  let e := e.count fun c => { c with retryExhaustion := c.retryExhaustion + 1 }
  (e.clearTxSlot i).emit (.failed i)

def completeTxSlot (e : Exec) (i : Fin 4) : Exec :=
  let e := e.count fun c => { c with txCompleted := c.txCompleted + 1 }
  (e.clearTxSlot i).emit (.completed i)

/-- `onTxDatagram`; `none` is the null pointer. -/
def onTxDatagram (e : Exec) (data : Option (List UInt8)) : ArqResult × Exec :=
  let rejected := e.count fun c => { c with txRejected := c.txRejected + 1 }
  match data with
  | none => (.badArgument, rejected)
  | some data =>
    if data.length = 0 ∨ data.length > v3MaxDatagram.toNat then (.badLength, rejected)
    else
      match (List.finRange 4).find? fun i => (e.txSlots i).state = .empty with
      | none =>
        (.noTxSlot, rejected.count fun c => { c with saturation := c.saturation + 1 })
      | some i =>
        match acquireDatagram e.txPool with
        | (.ok, pool, lease) =>
          let len := UInt16.ofNat data.length
          let datagramId := e.nextDatagramId
          let e := { e with
            txPool := pool.setMemory lease.data ((pool.memory lease.data).write 0 data)
            nextDatagramId := datagramId + 1 }
          let e := e.setTx i (.forDatagram lease len datagramId)
          (.ok, e.emit (.accepted i datagramId data))
        | (_, pool, _) =>
          (.allocationFailed, { rejected with txPool := pool }.count fun c =>
            { c with allocationFailure := c.allocationFailure + 1 })

/-! ### ACKs -/

/-- `egress_capacity`, with the value that stands for a null callback. -/
def egressCapacity (cb : ArqCallbacks) (e : Exec) (default : UInt8) : UInt8 × Exec :=
  match cb.egressCapacity with
  | none => (default, e)
  | some egress => (egress e.calls, e.called)

def currentCredits (cb : ArqCallbacks) (e : Exec) : UInt8 × Exec :=
  let (egress, e) := e.egressCapacity cb arqMaxRxDatagrams
  let freeSlots := UInt8.ofNat ((List.finRange 4).countP fun i => ¬ (e.rxSlots i).active)
  let credits := poolFreeCount e.rxPool
  let credits := if credits > freeSlots then freeSlots else credits
  let credits := if credits > egress then egress else credits
  (clampCredits credits, e)

/-- `enqueueAck`; `source` is for the trace. -/
def enqueueAck (e : Exec) (ack : AckFrame) (readyDeadline : UInt32) (source : AckSource) :
    Bool × Exec :=
  let entries := e.pendingAcks.entries
  match entries.findIdx? fun pending => pending.ack.datagramId = ack.datagramId with
  | some i =>
    let pendingAcks := ⟨entries.set i ⟨ack, readyDeadline⟩, by
      rw [List.length_set]; exact e.pendingAcks.fits⟩
    (true, { e with pendingAcks }.emit (.ackQueued ack source))
  | none =>
    if h : entries.length ≥ arqPendingAckCapacity then
      (false, e.count fun c => { c with saturation := c.saturation + 1 })
    else
      let pendingAcks := ⟨entries ++ [⟨ack, readyDeadline⟩], by
        rw [List.length_append]; exact Nat.lt_of_not_le h⟩
      (true, { e with pendingAcks }.emit (.ackQueued ack source))

/-- `sendPendingAck`, which is also `flushPendingAck`. -/
def sendPendingAck (cb : ArqCallbacks) (e : Exec) (now : UInt32) : Bool × Exec :=
  match h : e.pendingAcks.entries, cb.sendPacket with
  | pending :: rest, some send =>
    if isBefore now pending.readyDeadline then (false, e)
    else
      match buildAckPacket pending.ack with
      | .error _ =>
        (false, e.count fun c => { c with malformedInput := c.malformedInput + 1 })
      | .ok packet =>
        let ok := send e.calls packet
        let e' := e.called.emit (.sent packet ok)
        if ¬ ok then (false, e')
        else (true, { e' with
          pendingAcks := ⟨rest, by have := e.pendingAcks.fits; simp [h] at this; omega⟩ })
  | _, _ => (false, e)

def queueRxAck (cb : ArqCallbacks) (e : Exec) (j : Fin 4) (failure : FailureStatus) (now : UInt32) :
    Exec :=
  let reassembly := (e.rxSlots j).reassembly
  let full := expectedBitmap reassembly.fragmentCount
  let received := reassembly.receivedBitmap
  let bitmap :=
    if failure = .creditWithdrawal ∧ received &&& full = full ∧ full ≠ 0 then
      received &&& ~~~ (full &&& ~~~ (full - 1))
    else received
  let (credits, e) := if failure = .creditWithdrawal then (0, e) else e.currentCredits cb
  (e.enqueueAck ⟨reassembly.datagramId, bitmap, credits, failure⟩
    (now + e.config.ackTurnaroundCycles) (.reassembly reassembly.fragmentCount)).2

def queueFailureAck (cb : ArqCallbacks) (e : Exec) (datagramId bitmap : UInt16)
    (failure : FailureStatus) (now : UInt32) (source : AckSource) : Exec :=
  let (credits, e) := e.currentCredits cb
  (e.enqueueAck ⟨datagramId, bitmap, credits, failure⟩ (now + e.config.ackTurnaroundCycles)
    source).2

/-! ### Sending -/

def sendDataFragment (cb : ArqCallbacks) (e : Exec) (i : Fin 4) (fragmentIndex : UInt8) :
    Bool × Exec :=
  match cb.sendPacket with
  | none => (false, e)
  | some send =>
    let slot := e.txSlots i
    let malformed := e.count fun c => { c with malformedInput := c.malformedInput + 1 }
    let flags :=
      if slot.roundBitmap &&& ~~~ fragmentBit fragmentIndex = 0 then v3DataFlagRoundEnd else 0
    match describeDatagram (slot.data.map e.txPool.storage) slot.len slot.datagramId flags
        e.txQueuedCount (some v3MaxFrags) with
    | .error _ => (false, malformed)
    | .ok fragments =>
      match fragments[fragmentIndex.toNat]? with
      | none => (false, malformed)
      | some ⟨header, payload⟩ =>
        match buildDataPacket header (some (payload.read 0 header.payloadLen.toNat)) with
        | .error _ => (false, malformed)
        | .ok packet =>
          let ok := send e.calls packet
          (ok, e.called.emit (.sent packet ok))

/-- `while (next < fragment_count && (round_bitmap & (1u << next)) == 0) next++`, of which there are
at most `fragmentCount` passes. -/
def skipSent (roundBitmap : UInt16) (fragmentCount : UInt8) : (passes : Nat) → UInt8 → UInt8
  | 0, next => next
  | passes + 1, next =>
    if next < fragmentCount ∧ roundBitmap &&& fragmentBit next = 0 then
      skipSent roundBitmap fragmentCount passes (next + 1)
    else next

end Exec

/-- The slot at its next fragment of the round. -/
def TxSlot.skipToNext (slot : TxSlot) : TxSlot :=
  { slot with
    nextFragment := Exec.skipSent slot.roundBitmap slot.fragmentCount slot.fragmentCount.toNat
      slot.nextFragment }

/-- The slot after `send_packet` took its next fragment. -/
def TxSlot.fragmentSent (slot : TxSlot) (retryDeadline : UInt32) : TxSlot :=
  let round := slot.roundBitmap &&& ~~~ fragmentBit slot.nextFragment
  { slot with
    roundBitmap := round
    nextFragment := slot.nextFragment + 1
    retryDeadline := if round = 0 then retryDeadline else slot.retryDeadline }

/-- A new round over the fragments that are not acknowledged. -/
def TxSlot.beginRound (slot : TxSlot) : TxSlot :=
  { slot with
    attempts := slot.attempts + 1
    roundBitmap := expectedBitmap slot.fragmentCount &&& ~~~ slot.ackedBitmap
    nextFragment := 0 }.skipToNext

namespace Exec

def trySendRetransmitFrom (cb : ArqCallbacks) (now : UInt32) : List (Fin 4) → Exec → Bool × Exec
  | [], e => (false, e)
  | i :: rest, e =>
    let slot := e.txSlots i
    let full := expectedBitmap slot.fragmentCount
    if slot.state ≠ .open ∨ slot.roundBitmap ≠ 0 then trySendRetransmitFrom cb now rest e
    else if slot.ackedBitmap &&& full = full then trySendRetransmitFrom cb now rest e
    else if isBefore now slot.retryDeadline then trySendRetransmitFrom cb now rest e
    else if slot.attempts ≥ e.config.maxAttempts then (false, e.failTxSlot i)
    else
      let slot := slot.beginRound
      let e := e.setTx i slot
      if slot.nextFragment < slot.fragmentCount then
        match e.sendDataFragment cb i slot.nextFragment with
        | (true, e) =>
          (true, e.setTx i (slot.fragmentSent (now + e.config.retryTimeoutCycles)))
        | (false, e) => trySendRetransmitFrom cb now rest e
      else trySendRetransmitFrom cb now rest e

def trySendRetransmit (cb : ArqCallbacks) (e : Exec) (now : UInt32) : Bool × Exec :=
  trySendRetransmitFrom cb now (List.finRange 4) e

def trySendOpenDataFrom (cb : ArqCallbacks) (now : UInt32) : List (Fin 4) → Exec → Bool × Exec
  | [], e => (false, e)
  | i :: rest, e =>
    if (e.txSlots i).state ≠ .open ∨ (e.txSlots i).roundBitmap = 0 then
      trySendOpenDataFrom cb now rest e
    else
      let slot := (e.txSlots i).skipToNext
      if slot.nextFragment ≥ slot.fragmentCount then
        trySendOpenDataFrom cb now rest (e.setTx i { slot with
          roundBitmap := 0, retryDeadline := now + e.config.retryTimeoutCycles })
      else
        match (e.setTx i slot).sendDataFragment cb i slot.nextFragment with
        | (true, e) =>
          (true, e.setTx i (slot.fragmentSent (now + e.config.retryTimeoutCycles)))
        | (false, e) => trySendOpenDataFrom cb now rest e

def trySendOpenData (cb : ArqCallbacks) (e : Exec) (now : UInt32) : Bool × Exec :=
  trySendOpenDataFrom cb now (List.finRange 4) e

/-- The credit check of `tryOpenQueued`: without credits a datagram is opened only as a probe after
the stall timeout. -/
def creditProbe (e : Exec) (now : UInt32) : Bool × Exec :=
  if e.remoteCredits ≠ 0 then (true, e)
  else if e.txQueuedCount = 0 then (false, { e with creditProbeArmed := false })
  else if ¬ e.creditProbeArmed then
    (false, { e with
      creditProbeArmed := true
      creditProbeDeadline := now + e.config.creditStallTimeoutCycles })
  else if isBefore now e.creditProbeDeadline then (false, e)
  else (true, e.count fun c => { c with creditStallProbes := c.creditStallProbes + 1 })

def openSlot (e : Exec) (i : Fin 4) (now : UInt32) : Exec :=
  let slot := e.txSlots i
  let e := e.setTx i { slot with
    state := .open
    ackedBitmap := 0
    roundBitmap := expectedBitmap slot.fragmentCount
    nextFragment := 0
    attempts := 1
    retryDeadline := now + e.config.retryTimeoutCycles }
  { e with
    remoteCredits := if e.remoteCredits > 0 then e.remoteCredits - 1 else e.remoteCredits }.emit
      (.opened i)

def tryOpenQueued (cb : ArqCallbacks) (e : Exec) (now : UInt32) : Bool × Exec :=
  if e.txActiveCount ≠ 0 then (false, e)
  else
    match e.creditProbe now with
    | (false, e) => (false, e)
    | (true, e) =>
      let e := { e with creditProbeArmed := false }
      match (List.finRange 4).find? fun i => (e.txSlots i).state = .queued with
      | none => (false, e)
      | some i => (e.openSlot i now).trySendOpenData cb now

/-! ### Receiving -/

def handleAck (e : Exec) (ack : AckFrame) (now : UInt32) : Exec :=
  let e := { e with remoteCredits := clampCredits ack.receiverCredits }
  match (List.finRange 4).find? fun i =>
      (e.txSlots i).state = .open ∧ (e.txSlots i).datagramId = ack.datagramId with
  | none => e
  | some i =>
    let slot := e.txSlots i
    if ack.failure = .creditWithdrawal then
      e.setTx i { slot with
        ackedBitmap := slot.ackedBitmap &&& ack.fragmentBitmap
        roundBitmap := 0
        nextFragment := 0
        attempts := 1
        retryDeadline := now + e.config.creditStallTimeoutCycles }
    else
      let acked := slot.ackedBitmap ||| ack.fragmentBitmap
      let full := expectedBitmap slot.fragmentCount
      let e := e.setTx i { slot with ackedBitmap := acked }
      if acked &&& full = full ∧ ack.failure = .none then e.completeTxSlot i else e

end Exec

/-- The slot as it waits for its first fragment. -/
def RxSlot.activate (slot : RxSlot) (lease : DatagramLease) : RxSlot where
  active := true
  handle := lease.handle
  completeWaitingEgress := false
  reassembly := resetReassembly slot.reassembly lease.data lease.capacity

namespace Exec

def findRxSlot (e : Exec) (datagramId : UInt16) : Option (Fin 4) :=
  (List.finRange 4).find? fun j =>
    (e.rxSlots j).active ∧ (e.rxSlots j).reassembly.datagramId = datagramId

def allocateRxSlot (e : Exec) : Option (Fin 4) × Exec :=
  match (List.finRange 4).find? fun j => ¬ (e.rxSlots j).active with
  | none => (none, e.count fun c => { c with saturation := c.saturation + 1 })
  | some j =>
    match acquireDatagram e.rxPool with
    | (.ok, pool, lease) =>
      (some j, { e with rxPool := pool }.setRx j ((e.rxSlots j).activate lease))
    | (_, pool, _) => (none, { e with rxPool := pool })

def releaseRxSlot (e : Exec) (j : Fin 4) : Exec :=
  let handle := (e.rxSlots j).handle
  let e := if handle.isValid then { e with rxPool := (releaseDatagram e.rxPool handle).2 } else e
  e.setRx j {}

/-- The part of `tryCompleteRxSlot` behind a delivery that succeeded. -/
def finishRxSlot (cb : ArqCallbacks) (e : Exec) (j : Fin 4) (now : UInt32) : Exec :=
  let reassembly := (e.rxSlots j).reassembly
  let full := expectedBitmap reassembly.fragmentCount
  let (credits, e) := e.currentCredits cb
  let e := { e with
    duplicateWindow :=
      duplicateWindowStore e.duplicateWindow reassembly.datagramId ⟨full, credits, .none⟩ }
  let (credits, e) := e.currentCredits cb
  let (_, e) := e.enqueueAck ⟨reassembly.datagramId, full, credits, .none⟩
    (now + e.config.ackTurnaroundCycles) (.reassembly reassembly.fragmentCount)
  (e.count fun c => { c with delivered := c.delivered + 1 }).releaseRxSlot j

def tryCompleteRxSlot (cb : ArqCallbacks) (e : Exec) (j : Fin 4) (now : UInt32) : Bool × Exec :=
  let reassembly := (e.rxSlots j).reassembly
  if ¬ reassemblyIsComplete reassembly then (false, e)
  else
    match e.egressCapacity cb 1, cb.deliverDatagram with
    | (egress, e), some deliver =>
      if egress = 0 then (false, e)
      else
        let data := (e.rxPool.memory reassembly.output).read 0 reassembly.datagramLength.toNat
        let ok := deliver e.calls data
        let e := e.called.emit (.delivered reassembly.datagramId data ok)
        if ¬ ok then (false, e) else (true, e.finishRxSlot cb j now)
    | (_, e), none => (false, e)

def tryCompleteRxSlotsFrom (cb : ArqCallbacks) (now : UInt32) : List (Fin 4) → Exec → Bool × Exec
  | [], e => (false, e)
  | j :: rest, e =>
    if (e.rxSlots j).active ∧ (e.rxSlots j).completeWaitingEgress then
      match e.tryCompleteRxSlot cb j now with
      | (true, e) => (true, e)
      | (false, e) => tryCompleteRxSlotsFrom cb now rest e
    else tryCompleteRxSlotsFrom cb now rest e

def tryCompleteRxSlots (cb : ArqCallbacks) (e : Exec) (now : UInt32) : Bool × Exec :=
  tryCompleteRxSlotsFrom cb now (List.finRange 4) e

def waitForEgress (e : Exec) (j : Fin 4) : Exec :=
  e.setRx j { e.rxSlots j with completeWaitingEgress := true }

/-- The end of `handleData`: what a fragment of slot `j` that was not rejected leads to. -/
def acknowledgeData (cb : ArqCallbacks) (e : Exec) (j : Fin 4) (header : DataHeader)
    (now : UInt32) :
    Exec :=
  if reassemblyIsComplete (e.rxSlots j).reassembly then
    match e.tryCompleteRxSlot cb j now with
    | (true, e) => e
    | (false, e) =>
      let e := (e.waitForEgress j).count fun c =>
        { c with creditWithdrawal := c.creditWithdrawal + 1 }
      e.queueRxAck cb j .creditWithdrawal now
  else if header.flags &&& v3DataFlagRoundEnd ≠ 0 then e.queueRxAck cb j .none now
  else e

/-- What `acceptFragment` leaves in slot `j` and in the buffer behind it. -/
def storeReassembly (e : Exec) (j : Fin 4) (reassembly : ReassemblyV3) (memory : Buffer) : Exec :=
  { e with rxPool := e.rxPool.setMemory (e.rxSlots j).reassembly.output memory }.setRx j
    { e.rxSlots j with reassembly }

/-- The part of `handleData` that has found or allocated slot `j`. -/
def acceptData (cb : ArqCallbacks) (e : Exec) (j : Fin 4) (header : DataHeader)
    (payload : List UInt8) (now : UInt32) : Exec :=
  let output := (e.rxSlots j).reassembly.output
  let (accepted, reassembly, memory) :=
    acceptFragment (e.rxSlots j).reassembly (e.rxPool.memory output) header (some payload)
  let e := e.storeReassembly j reassembly memory
  if accepted ∈ [.metadataMismatch, .badArgument, .badLength, .outputTooSmall] then
    (e.count fun c => { c with malformedInput := c.malformedInput + 1 }).queueFailureAck cb
      header.datagramId reassembly.receivedBitmap .malformedInput now
      (.reassembly reassembly.fragmentCount)
  else e.acknowledgeData cb j header now

def handleData (cb : ArqCallbacks) (e : Exec) (header : DataHeader) (payload : List UInt8)
    (now : UInt32) : Exec :=
  match duplicateWindowFind e.duplicateWindow header.datagramId with
  | some duplicate =>
    let e := e.count fun c => { c with duplicateSuppressed := c.duplicateSuppressed + 1 }
    let (credits, e) := e.currentCredits cb
    (e.enqueueAck ⟨header.datagramId, duplicate.fragmentBitmap, credits, duplicate.failure⟩
      (now + e.config.ackTurnaroundCycles) .duplicate).2
  | none =>
    match e.findRxSlot header.datagramId with
    | some j => e.acceptData cb j header payload now
    | none =>
      match e.allocateRxSlot with
      | (some j, e) => e.acceptData cb j header payload now
      | (none, e) =>
        let e := e.queueFailureAck cb header.datagramId 0 .allocationFailure now .refused
        e.count fun c => { c with allocationFailure := c.allocationFailure + 1 }

def onRxPacket (cb : ArqCallbacks) (e : Exec) (packet : Packet) (now : UInt32) : Exec :=
  let malformed := e.count fun c => { c with malformedInput := c.malformedInput + 1 }
  match parsePacketType packet with
  | .error _ => malformed
  | .ok .data =>
    match parseDataPacket packet with
    | .error _ => malformed
    | .ok (header, payload) => e.handleData cb header payload now
  | .ok .ack =>
    match parseAckPacket packet with
    | .error _ => malformed
    | .ok ack => e.handleAck ack now
  | .ok .control =>
    match parseControlPacket packet with
    | .error _ => malformed
    | .ok _ => e
  | .ok .mgmt =>
    match parseMgmtPacket packet true v3MgmtPayloadMax with
    | .error _ => malformed
    | .ok _ => e

def onTick (cb : ArqCallbacks) (e : Exec) (now : UInt32) : Exec :=
  match e.tryCompleteRxSlots cb now with
  | (true, e) => (e.sendPendingAck cb now).2
  | (false, e) =>
    match e.sendPendingAck cb now with
    | (true, e) => e
    | (false, e) =>
      match e.trySendRetransmit cb now with
      | (true, e) => e
      | (false, e) =>
        match e.trySendOpenData cb now with
        | (true, e) => e
        | (false, e) => (e.tryOpenQueued cb now).2

end Exec

/-! ### Calls -/

/-- The calls of the public interface that change the engine, `reset` apart. -/
inductive Call
  | onTxDatagram (data : Option (List UInt8))
  | onRxPacket (packet : Packet) (now : UInt32)
  | onTick (now : UInt32)
  | flushPendingAck (now : UInt32)

/-- One call from outside. -/
def ArqEngine.run (e : ArqEngine) (cb : ArqCallbacks) : Call → Exec
  | .onTxDatagram data => (Exec.onTxDatagram { e with } data).2
  | .onRxPacket packet now => Exec.onRxPacket cb { e with } packet now
  | .onTick now => Exec.onTick cb { e with } now
  | .flushPendingAck now => (Exec.sendPendingAck cb { e with } now).2

end FlrcTnc.Arq
