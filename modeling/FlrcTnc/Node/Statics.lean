import FlrcTnc.Framing.V2
import FlrcTnc.Mac.Loop

/-! The MAC task of `mac/Mac.cpp` as a whole, for both transport modes: its statics, its engine and
the sending half, which has the fragmented v2 ARQ beside the v3 engine.  Of the statistics none is
kept; what they count is in the trace. -/

namespace FlrcTnc.Node

open Arq Framing Kiss Serial
open Mac (TxPhase deadlinePassed ackTimeoutMs hbIntervalMs radioInterFragDelayMs
  radioControlAckTimeoutMs radioAckTurnaroundDelayMs txQueueDepth arqConfig)
open V2 (framingSeqUnset framingExpectedMask framingMaskThrough framingFragData Reassembler)

def radioArqMaxRounds : UInt8 := 6
def radioAckFallbackDelayMs : UInt32 := 45
def radioReassemblyTimeoutMs : UInt32 := 500
def radioDupCacheMs : UInt32 := 1500
def radioLinkIdleMs : UInt32 := 500
def radioLinkReadyTtlMs : UInt32 := 3000
def radioLinkProbeTtlMs : UInt32 := 10000
def radioLbtMaxRetries : UInt8 := 10
def radioLbtBackoffMinMs : UInt32 := 2
def radioLbtBackoffMaxMs : UInt32 := 20
def rxEgressRetryMs : UInt32 := 20
def radioRearmIdleMs : UInt32 := 30000
def macMaxWaitMs : UInt32 := 1000

/-- Of the radio's config what the MAC reads itself. -/
structure RadioConfig where
  transportMode : TransportMode := .genericFragmented
  lbtRssiThresholdDbm : Int16 := 0
  deriving DecidableEq, Repr

/-- `Radio::isChannelBusy` on the RSSI that it reads. -/
def RadioConfig.isChannelBusy (config : RadioConfig) (rssi : Int8) : Bool :=
  config.lbtRssiThresholdDbm ≠ 0 ∧ rssi > config.lbtRssiThresholdDbm.toInt8

inductive MacCommand
  | applyConfig (config : RadioConfig)
  | scanBand
  deriving DecidableEq, Repr

inductive LinkState
  | down | probing | ready
  deriving DecidableEq, Repr

structure LinkHealth where
  lastPayloadActivityMs : UInt32 := 0
  lastBidirectionalCtrlMs : UInt32 := 0
  linkEverConfirmed : Bool := false
  deriving DecidableEq, Repr

namespace LinkHealth

def isLinkReady (health : LinkHealth) (millis : UInt32) : Bool :=
  health.linkEverConfirmed ∧ millis - health.lastBidirectionalCtrlMs ≤ radioLinkReadyTtlMs

def isPayloadIdle (health : LinkHealth) (millis : UInt32) : Bool :=
  health.lastPayloadActivityMs = 0 ∨ millis - health.lastPayloadActivityMs ≥ radioLinkIdleMs

/-- What `refreshLinkStats` puts in the statistics. -/
def linkState (health : LinkHealth) (millis : UInt32) : LinkState :=
  if health.linkEverConfirmed then
    if health.isLinkReady millis then .ready
    else if millis - health.lastBidirectionalCtrlMs ≤ radioLinkProbeTtlMs then .probing
    else .down
  else .down

end LinkHealth

structure CompletedFrameCache where
  seq : UInt16 := framingSeqUnset
  totalFrags : UInt8 := 0
  frameLen : UInt16 := 0
  frameCrc32 : UInt32 := 0
  warmup : Bool := false
  ackMask : UInt32 := 0
  tickMs : UInt32 := 0
  deriving DecidableEq, Repr

structure TxState where
  phase : TxPhase := .idle
  frame : List UInt8 := []
  seq : UInt16 := 0
  totalFrags : UInt8 := 0
  frameCrc32 : UInt32 := 0
  pendingMask : UInt32 := 0
  sentMask : UInt32 := 0
  round : UInt8 := 0
  nextIdx : UInt8 := 0
  lbtTries : UInt8 := 0
  hbSeq : UInt16 := 0
  deadlineMs : UInt32 := 0
  deriving DecidableEq, Repr

def ackFallbackDelayMs (totalFrags : UInt8) : UInt32 :=
  radioAckFallbackDelayMs + if totalFrags > 0 then (totalFrags.toUInt32 - 1) * 2 else 0

def ackTurnaroundDelayMs (totalFrags : UInt8) : UInt32 :=
  radioAckTurnaroundDelayMs + if totalFrags > 0 then totalFrags.toUInt32 - 1 else 0

def reassemblyTimeoutMs (totalFrags : UInt8) : UInt32 :=
  radioReassemblyTimeoutMs +
    if totalFrags > 0 then (totalFrags.toUInt32 - 1) * radioInterFragDelayMs * 2 else 0

def lbtBackoffMs (random : UInt32) : UInt32 :=
  radioLbtBackoffMinMs + random % (radioLbtBackoffMaxMs - radioLbtBackoffMinMs + 1)

/-- Why `noteBidirectionalControl` is called; a heartbeat is answered with its `seq` in v2. -/
inductive Confirmation
  | heartbeatAck (seq : Option UInt16)
  | linkState
  | ack
  | datagram
  deriving DecidableEq, Repr

/-- The trace: what `txQueue` gets from the host and what becomes of each frame that the MAC takes
from it, what goes to the radio and to `rxQueue` with their answers, and what comes from the
radio. -/
inductive Event
  | queued (frame : List UInt8)
  /-- `noteRadioError` for a length that no transport carries. -/
  | invalid (frame : List UInt8)
  | accepted (frame : List UInt8)
  /-- `noteQueueDrop` for a frame that the engine does not take. -/
  | refused (frame : List UInt8)
  | oversize (frame : List UInt8)
  | native (frame : List UInt8) (ok : Bool)
  /-- `deliverFrame` and `failFrame` of the v2 ARQ. -/
  | acked (frame : List UInt8)
  | failed (frame : List UInt8)
  | transmit (packet : Packet) (ok : Bool)
  | received (packet : Packet)
  | rxQueueSend (transport : TransportMode) (payload : List UInt8) (ok : Bool)
  | confirmed (cause : Confirmation)
  | executed (command : MacCommand)
  | startReceive
  deriving DecidableEq, Repr

/-- The statics of `Mac.cpp` with `txQueue` and the config of the radio. -/
structure Statics where
  config : RadioConfig
  txQueue : List (List UInt8) := []
  cmdQueue : Option MacCommand := none
  stagedCmd : Option MacCommand := none
  health : LinkHealth := {}
  controlSeq : UInt16 := 0
  nextHbMs : UInt32
  lastRadioEventMs : UInt32 := 0
  ra : Reassembler := {}
  completed : CompletedFrameCache := {}
  arq : ArqEngine
  tx : TxState := {}
  trace : List Event := []

/-- What one service gets from outside: `s_radio->transmit`, the RSSI that `isChannelBusy` reads,
whether `rxQueue` takes a frame, `esp_random()` in `lbtBackoffMs` and in `hbIntervalMs`, and the
readings of `millis()`, numbered in the order of the text. -/
structure Answers where
  transmit : Packet → Bool
  rssi : Int8
  rxQueueSend : Bool
  lbtRandom : UInt32
  hbRandom : UInt32
  millis : Nat → UInt32

/-- What the callbacks of the engine get during one call of it, the number being that of
`ArqCallbacks`, and `millis()` when they note payload activity and a delivery for the last time. -/
structure EngineAnswers where
  transmit : Nat → Packet → Bool
  rxQueueSend : Nat → Bool
  egressCapacity : Nat → UInt8
  payloadMs : UInt32
  deliveredMs : UInt32

/-- `sendArqRadioPacket`; `waitForLbt` only takes time. -/
def sendArqRadioPacket (transmit : Packet → Bool) (packet : Packet) : Bool :=
  match parsePacketType packet with
  | .error _ => false
  | .ok _ => transmit packet

/-- `deliverArqDatagram`. -/
def deliverArqDatagram (rxQueueSend : Bool) (data : List UInt8) : Bool :=
  if data.length = 0 ∨ data.length > Kiss.tncPayloadMaxLen then false else rxQueueSend

/-- The callbacks that `resetArqEngine` gives to the engine. -/
def EngineAnswers.callbacks (ans : EngineAnswers) : ArqCallbacks where
  sendPacket := some fun n packet => sendArqRadioPacket (ans.transmit n) packet
  deliverDatagram := some fun n data => deliverArqDatagram (ans.rxQueueSend n) data
  egressCapacity := some ans.egressCapacity

/-- What the callbacks leave in the trace. -/
def engineEvents : Arq.Event → List Event
  | .sent packet ok =>
    match parsePacketType packet with
    | .error _ => []
    | .ok _ => [.transmit packet ok]
  | .delivered _ data ok =>
    if data.length = 0 ∨ data.length > Kiss.tncPayloadMaxLen then []
    else if ok then [.rxQueueSend .genericFragmented data ok, .confirmed .datagram]
    else [.rxQueueSend .genericFragmented data ok]
  | .accepted .. | .opened .. | .failed .. | .completed .. | .ackQueued .. => []

/-- They leave the packets that were sent and the datagrams that were delivered. -/
theorem of_mem_engineEvents {events : List Arq.Event} {event : Event}
    (h : event ∈ events.flatMap engineEvents) :
    (∃ packet type ok, .sent packet ok ∈ events ∧ parsePacketType packet = .ok type ∧
        event = .transmit packet ok) ∨
      ∃ id data ok, .delivered id data ok ∈ events ∧
        (event = .rxQueueSend .genericFragmented data ok ∨ event = .confirmed .datagram) := by
  obtain ⟨source, hsource, hevent⟩ := List.mem_flatMap.mp h
  cases source with
  | sent packet ok =>
    rw [engineEvents] at hevent
    cases hparse : parsePacketType packet with
    | error e =>
      rw [hparse] at hevent
      cases hevent
    | ok type =>
      rw [hparse] at hevent
      exact .inl ⟨packet, type, ok, hsource, hparse, List.mem_singleton.mp hevent⟩
  | delivered id data ok =>
    refine .inr ⟨id, data, ok, hsource, ?_⟩
    rw [engineEvents] at hevent
    split at hevent
    · cases hevent
    · split at hevent
      · exact List.mem_pair.mp hevent
      · exact .inl (List.mem_singleton.mp hevent)
  | accepted | opened | failed | completed | ackQueued => cases hevent

/-- A packet of DATA or ACK went out, or a datagram was delivered. -/
def notesPayload : Arq.Event → Bool
  | .sent packet ok =>
    ok ∧ (parsePacketType packet).toOption.any fun type => type = .data ∨ type = .ack
  | .delivered _ _ ok => ok
  | .accepted .. | .opened .. | .failed .. | .completed .. | .ackQueued .. => false

def notesDelivery : Arq.Event → Bool
  | .delivered _ _ ok => ok
  | .sent .. | .accepted .. | .opened .. | .failed .. | .completed .. | .ackQueued .. => false

namespace Statics

def isGenericTransport (mac : Statics) : Bool := mac.config.transportMode = .genericFragmented

def emit (mac : Statics) (event : Event) : Statics := { mac with trace := mac.trace ++ [event] }

def notePayloadActivity (mac : Statics) (millis : UInt32) : Statics :=
  { mac with health := { mac.health with lastPayloadActivityMs := millis } }

def noteBidirectionalControl (mac : Statics) (millis : UInt32) (cause : Confirmation) :
    Statics :=
  { mac with
    health := { mac.health with
      lastBidirectionalCtrlMs := millis
      linkEverConfirmed := true } }.emit (.confirmed cause)

def resetArqEngine (mac : Statics) : Statics := { mac with arq := .reset arqConfig }

/-- One call of the engine with its callbacks. -/
def runArq (mac : Statics) (ans : EngineAnswers) (call : Call) : Statics :=
  let e := mac.arq.run ans.callbacks call
  let payloadMs :=
    if e.events.any notesPayload then ans.payloadMs else mac.health.lastPayloadActivityMs
  let health :=
    if e.events.any notesDelivery then ⟨payloadMs, ans.deliveredMs, true⟩
    else { mac.health with lastPayloadActivityMs := payloadMs }
  { mac with arq := e.toArqEngine, health, trace := mac.trace ++ e.events.flatMap engineEvents }

/-- `sendArqRadioPacket` outside the engine, which is for CONTROL packets. -/
def sendControl (mac : Statics) (ans : Answers) (packet : Packet) : Bool × Statics :=
  match parsePacketType packet with
  | .error _ => (false, mac)
  | .ok _ => (ans.transmit packet, mac.emit (.transmit packet (ans.transmit packet)))

/-! ### ACKs and deliveries of the v2 ARQ -/

def sendAckPacket (mac : Statics) (ans : Answers) (ack : V2.AckFrame) : Bool × Statics :=
  let packet := V2.framingBuildAckPacket ack
  (ans.transmit packet, mac.emit (.transmit packet (ans.transmit packet)))

/-- `memcpy` of each fragment in turn. -/
def assemble (ra : Reassembler) : List UInt8 :=
  (List.range ra.totalFrags.toNat).flatMap fun i =>
    (ra.buf.drop (i * framingFragData)).take (ra.fragLen.getD i 0).toNat

def isReassemblyValid (ra : Reassembler) : Bool :=
  if ra.frameLen = 0 ∨ ra.frameLen > V2.tncPayloadMaxLen then false
  else
    let assembledLen := (List.range ra.totalFrags.toNat).foldl
      (fun (len : UInt16) i => len + ra.fragLen.getD i 0) 0
    assembledLen = ra.frameLen ∧
      computeCrc32 (ra.buf.take assembledLen.toNat) = ra.frameCrc32

def cacheCompleted (mac : Statics) (now ackMask : UInt32) : Statics :=
  { mac with completed := {
      seq := mac.ra.seq
      totalFrags := mac.ra.totalFrags
      frameLen := mac.ra.frameLen
      frameCrc32 := mac.ra.frameCrc32
      warmup := mac.ra.warmup
      ackMask
      tickMs := now } }

def ackOf (ra : Reassembler) : V2.AckFrame where
  seq := ra.seq
  totalFrags := ra.totalFrags
  receivedMask := ra.receivedMask

/-- The last part of `handleAckDue`: a complete frame that the host has, or needs not have. -/
def acknowledge (mac : Statics) (ans : Answers) (now : UInt32) : Statics :=
  let ack := ackOf mac.ra
  let mac := mac.cacheCompleted now mac.ra.receivedMask
  let (ok, mac) := { mac with ra := mac.ra.reset }.sendAckPacket ans ack
  if ok then mac.notePayloadActivity (ans.millis 0) else mac

def handleAckDue (mac : Statics) (ans : Answers) (now : UInt32) : Statics :=
  if ¬ mac.ra.ackPending ∨ mac.ra.seq = framingSeqUnset then mac
  else if ¬ mac.ra.isComplete then
    let (ok, mac) := mac.sendAckPacket ans (ackOf mac.ra)
    if ok then
      { mac.notePayloadActivity (ans.millis 0) with ra := { mac.ra with ackPending := false } }
    else { mac with ra := { mac.ra with ackDueMs := now + radioAckTurnaroundDelayMs } }
  else if ¬ isReassemblyValid mac.ra then
    let mac := mac.cacheCompleted now 0
    { mac with ra := mac.ra.reset }
  else if mac.ra.warmup then mac.acknowledge ans now
  else
    let mac := mac.emit (.rxQueueSend .genericFragmented (assemble mac.ra) ans.rxQueueSend)
    if ans.rxQueueSend then mac.acknowledge ans now
    else { mac with ra := { mac.ra with ackDueMs := now + rxEgressRetryMs } }

/-! ### Frames to the radio -/

def nextSeq (mac : Statics) : Statics :=
  let seq := mac.tx.seq + 1
  { mac with tx := { mac.tx with seq := if seq = framingSeqUnset then seq + 1 else seq } }

def postFrame (mac : Statics) (now random : UInt32) : Statics :=
  { mac with tx := { mac.tx with phase := .idle }, nextHbMs := now + hbIntervalMs random }

def startDataRounds (mac : Statics) (now : UInt32) : Statics :=
  let mac := mac.nextSeq
  { mac with tx := { mac.tx with
      pendingMask := framingExpectedMask mac.tx.totalFrags
      sentMask := 0
      round := 0
      nextIdx := 0
      phase := .sending
      deadlineMs := now } }

def failFrame (mac : Statics) (ans : Answers) (now : UInt32) : Statics :=
  (mac.emit (.failed mac.tx.frame)).postFrame now ans.hbRandom

def nextRoundOrFail (mac : Statics) (ans : Answers) (now : UInt32) : Statics :=
  let mac := { mac with tx := { mac.tx with round := mac.tx.round + 1 } }
  if mac.tx.round ≥ radioArqMaxRounds then mac.failFrame ans now
  else { mac with tx := { mac.tx with
      sentMask := 0
      nextIdx := 0
      phase := .sending
      deadlineMs := now } }

def deliverFrame (mac : Statics) (ans : Answers) (now : UInt32) : Statics :=
  (mac.emit (.acked mac.tx.frame)).postFrame now ans.hbRandom

/-- The `while` of `sendNextFragment`, which ends within `totalFrags` passes. -/
def nextPending (totalFrags : UInt8) (pendingMask : UInt32) : (passes : Nat) → UInt8 → UInt8
  | 0, idx => idx
  | passes + 1, idx =>
    if idx < totalFrags ∧ pendingMask &&& (1 <<< idx.toUInt32) = 0 then
      nextPending totalFrags pendingMask passes (idx + 1)
    else idx

/-- The fragment `idx` of the frame. -/
def fragment (frame : List UInt8) (idx : UInt8) : List UInt8 :=
  (frame.drop (idx.toNat * framingFragData)).take framingFragData

theorem fragment_length (frame : List UInt8) (idx : UInt8) :
    (fragment frame idx).length ≤ framingFragData := List.length_take_le ..

def sendNextFragment (mac : Statics) (ans : Answers) (now : UInt32) : Statics :=
  let idx := nextPending mac.tx.totalFrags mac.tx.pendingMask mac.tx.totalFrags.toNat mac.tx.nextIdx
  let mac := { mac with tx := { mac.tx with nextIdx := idx } }
  if idx ≥ mac.tx.totalFrags then
    if mac.tx.sentMask = 0 then mac.nextRoundOrFail ans now
    else { mac with tx := { mac.tx with
        phase := .waitAck
        deadlineMs := now + ackTimeoutMs mac.tx.totalFrags } }
  else
    let chunk := fragment mac.tx.frame idx
    let roundEnd : Bool := mac.tx.pendingMask &&& ~~~ framingMaskThrough idx = 0
    let packet := V2.framingBuildDataPacket {
        seq := mac.tx.seq
        fragIndex := idx
        totalFrags := mac.tx.totalFrags
        payloadLen := .ofNat chunk.length
        frameLen := .ofNat mac.tx.frame.length
        frameCrc32 := mac.tx.frameCrc32
        roundEnd } chunk (fragment_length mac.tx.frame idx)
    let ok := ans.transmit packet
    let mac := mac.emit (.transmit packet ok)
    let after := ans.millis 0
    let mac := { mac with tx := { mac.tx with nextIdx := idx + 1 } }
    let mac :=
      if ok then
        { mac with tx := { mac.tx with
            sentMask := mac.tx.sentMask ||| (1 <<< idx.toUInt32) } }.notePayloadActivity
              (ans.millis 1)
      else mac
    if ok ∧ roundEnd then
      { mac with tx := { mac.tx with
          phase := .waitAck
          deadlineMs := after + ackTimeoutMs mac.tx.totalFrags } }
    else
      { mac with tx := { mac.tx with
          deadlineMs := after + if mac.tx.sentMask ≠ 0 then radioInterFragDelayMs else 0 } }

def warmupPayload : List UInt8 := [0]

def startWarmup (mac : Statics) (ans : Answers) (now : UInt32) : Statics :=
  let mac := mac.nextSeq
  let packet := V2.framingBuildDataPacket {
      seq := mac.tx.seq
      fragIndex := 0
      totalFrags := 1
      payloadLen := 1
      frameLen := 1
      frameCrc32 := computeCrc32 warmupPayload
      roundEnd := true
      warmup := true } warmupPayload (Nat.le_of_ble_eq_true rfl)
  let ok := ans.transmit packet
  let mac := mac.emit (.transmit packet ok)
  if ok then
    let mac := mac.notePayloadActivity (ans.millis 0)
    { mac with tx := { mac.tx with
        phase := .warmupWait
        deadlineMs := ans.millis 1 + ackTimeoutMs 1 } }
  else mac.startDataRounds now

def sendNative (mac : Statics) (ans : Answers) (now : UInt32) : Statics :=
  if h : mac.tx.frame.length > V2.framingNativeMaxPayload then
    (mac.emit (.oversize mac.tx.frame)).postFrame now ans.hbRandom
  else
    let packet := V2.framingBuildNativePacket mac.tx.frame (Nat.le_of_not_gt h)
    let ok := ans.transmit packet
    let mac := (mac.emit (.transmit packet ok)).emit (.native mac.tx.frame ok)
    let mac := if ok then mac.notePayloadActivity (ans.millis 0) else mac
    mac.postFrame (ans.millis 1) ans.hbRandom

def dispatchFrame (mac : Statics) (ans : Answers) (now : UInt32) : Statics :=
  if mac.config.transportMode = .nativePacket then mac.sendNative ans now
  else
    let mac := { mac with tx := { mac.tx with
        totalFrags := V2.framingExpectedTotalFrags (.ofNat mac.tx.frame.length)
        frameCrc32 := computeCrc32 mac.tx.frame } }
    if mac.tx.totalFrags > 1 ∧ mac.health.isPayloadIdle (ans.millis 2) then
      mac.startWarmup ans now
    else mac.startDataRounds now

def startFrame (mac : Statics) (ans : Answers) (now : UInt32) : Statics :=
  if mac.tx.frame.length = 0 ∨ mac.tx.frame.length > Kiss.tncPayloadMaxLen then
    mac.emit (.invalid mac.tx.frame)
  else
    let mac := { mac with tx := { mac.tx with lbtTries := 0 } }
    if mac.config.lbtRssiThresholdDbm ≠ 0 ∧ mac.config.isChannelBusy ans.rssi then
      { mac with tx := { mac.tx with
          phase := .lbtBackoff
          deadlineMs := now + lbtBackoffMs ans.lbtRandom } }
    else mac.dispatchFrame ans now

/-- A heartbeat is on its way; `seq` is left alone in generic mode. -/
def awaitHeartbeatAck (mac : Statics) (seq : UInt16) (millis : UInt32) : Statics :=
  { mac with tx := { mac.tx with
      hbSeq := seq
      phase := .hbWait
      deadlineMs := millis + radioControlAckTimeoutMs } }

def startHeartbeat (mac : Statics) (ans : Answers) (now : UInt32) : Statics :=
  let mac := { mac with controlSeq := mac.controlSeq + 1 }
  if mac.isGenericTransport then
    match buildControlPacket { subtype := .heartbeat } with
    | .error _ => mac
    | .ok packet =>
      let (ok, mac) := mac.sendControl ans packet
      if ok then mac.awaitHeartbeatAck mac.tx.hbSeq (ans.millis 1)
      else { mac with nextHbMs := now + hbIntervalMs ans.hbRandom }
  else
    let packet := V2.framingBuildControlPacket { type := .heartbeat, seq := mac.controlSeq }
    let ok := ans.transmit packet
    let mac := mac.emit (.transmit packet ok)
    if ok then mac.awaitHeartbeatAck mac.controlSeq (ans.millis 1)
    else { mac with nextHbMs := now + hbIntervalMs ans.hbRandom }

/-- The bitmap ACK of the v2 ARQ. -/
def handleAckForTx (mac : Statics) (ans : Answers) (now : UInt32) (ack : V2.AckFrame) : Statics :=
  match mac.tx.phase with
  | .warmupWait =>
    if ack.seq = mac.tx.seq ∧ ack.totalFrags = 1 ∧ ack.windowBase = 0 ∧
        ack.receivedMask &&& 1 ≠ 0 then
      (mac.notePayloadActivity (ans.millis 2)).startDataRounds now
    else mac
  | .sending | .waitAck =>
    if ack.seq ≠ mac.tx.seq ∨ ack.totalFrags ≠ mac.tx.totalFrags ∨ ack.windowBase ≠ 0 then mac
    else
      let ackMask := ack.receivedMask &&& framingExpectedMask mac.tx.totalFrags
      if ackMask = 0 then mac.failFrame ans now
      else
        let pendingMask := mac.tx.pendingMask &&& ~~~ ackMask
        let mac := { mac with tx := { mac.tx with pendingMask } }
        if mac.tx.pendingMask = 0 then mac.deliverFrame ans now
        else if mac.tx.phase = .waitAck then mac.nextRoundOrFail ans now
        else mac
  | .idle | .lbtBackoff | .hbWait => mac

end Statics

end FlrcTnc.Node
