import FlrcTnc.Node.Statics

/-! The MAC task as a whole: packets from the radio, the periodic services, the wait and the loop of
`macTask` in both transport modes. -/

namespace FlrcTnc.Node

open Arq Framing Kiss Serial
open Mac (TxPhase deadlinePassed hbIntervalMs radioInterFragDelayMs txQueueDepth arqConfig)
open V2 (framingSeqUnset framingFragData Reassembler)

namespace Statics

/-! ### Packets from the radio -/

def handleV3Control (mac : Statics) (ans : Answers) (ctrl : ControlFrame) : Statics :=
  if ctrl.subtype = .heartbeat then
    match buildControlPacket { subtype := .heartbeatAck } with
    | .error _ => mac
    | .ok packet => (mac.sendControl ans packet).2
  else if ctrl.subtype = .heartbeatAck then
    if mac.tx.phase = .hbWait then
      (mac.noteBidirectionalControl (ans.millis 1) (.heartbeatAck none)).postFrame (ans.millis 3)
        ans.hbRandom
    else mac
  else if ctrl.subtype = .linkState then mac.noteBidirectionalControl (ans.millis 1) .linkState
  else mac

end Statics

/-- The member of `s_waitSet` that ends the wait, with what `readPacket` reads of the radio, `none`
for an error; `timeout` is none of them. -/
inductive Wake
  | radio (packet : Option Packet)
  | txWake
  | cmdQueue
  | timeout

/-- One turn of the loop: how it is woken, the time after that, and the answers to each service and
to each call of the engine. -/
structure Turn where
  wake : Wake
  now : UInt32
  radio : Answers
  receive : EngineAnswers
  flush : EngineAnswers
  rx : Answers
  tx : Answers
  tick : EngineAnswers
  idle : Answers
  accept : EngineAnswers
  /-- `applyConfig` returns `RADIOLIB_ERR_NONE`. -/
  configApplied : Bool

namespace Statics

def handleV3RadioPacket (mac : Statics) (turn : Turn) (packet : Packet) : Statics :=
  match parsePacketType packet with
  | .error _ => mac
  | .ok type =>
    if type = .control then
      match parseControlPacket packet with
      | .error _ => mac
      | .ok ctrl => mac.handleV3Control turn.radio ctrl
    else
      let mac :=
        if type = .ack then mac.noteBidirectionalControl (turn.radio.millis 1) .ack else mac
      let mac :=
        if type = .data ∨ type = .ack then mac.notePayloadActivity (turn.radio.millis 2) else mac
      let mac := mac.runArq turn.receive (.onRxPacket packet (turn.radio.millis 3))
      if type = .data then mac.runArq turn.flush (.flushPendingAck (turn.radio.millis 4)) else mac

/-- The reply to a CONTROL packet goes to the radio alone. -/
def handleControl (mac : Statics) (ans : Answers) (ctrl : V2.ControlFrame) : Statics :=
  if ctrl.type = .heartbeat then
    let reply := V2.framingBuildControlPacket { type := .heartbeatAck, seq := ctrl.seq }
    mac.emit (.transmit reply (ans.transmit reply))
  else if ctrl.type = .dataPending then
    let reply := V2.framingBuildControlPacket { type := .dataReady, seq := ctrl.seq }
    mac.emit (.transmit reply (ans.transmit reply))
  else if ctrl.type = .heartbeatAck then
    if mac.tx.phase = .hbWait ∧ ctrl.seq = mac.tx.hbSeq then
      (mac.noteBidirectionalControl (ans.millis 1) (.heartbeatAck (some ctrl.seq))).postFrame
        (ans.millis 3) ans.hbRandom
    else mac
  else mac

def handleNative (mac : Statics) (ans : Answers) (packet : Packet) : Statics :=
  let mac := mac.notePayloadActivity (ans.millis 1)
  match V2.framingParseNativePayload packet with
  | none => mac
  | some payloadLen =>
    mac.emit (.rxQueueSend .nativePacket
      ((packet.data.drop V2.framingNativeHdrLen).take payloadLen) ans.rxQueueSend)

/-- `memcpy` of a fragment into `s_ra.buf`. -/
def storeFragment (ra : Reassembler) (idx : UInt8) (fragment : List UInt8) : Reassembler :=
  let start := idx.toNat * framingFragData
  { ra with
    buf := ra.buf.take start ++ fragment ++ ra.buf.drop (start + fragment.length)
    fragLen := ra.fragLen.set idx.toNat (.ofNat fragment.length)
    receivedMask := ra.receivedMask ||| (1 <<< idx.toUInt32) }

/-- The reassembly that the fragment belongs to; a stale one is dropped, and `none` stands for
metadata that contradict it. -/
def openReassembly (mac : Statics) (nowMs : UInt32) (hdr : V2.DataFrameHeader) : Option Statics :=
  let mac :=
    if mac.ra.seq ≠ framingSeqUnset ∧
        nowMs - mac.ra.lastTickMs > reassemblyTimeoutMs mac.ra.totalFrags then
      { mac with ra := mac.ra.reset }
    else mac
  if mac.ra.seq ≠ hdr.seq then
    some { mac with ra := { mac.ra.reset with
      seq := hdr.seq
      totalFrags := hdr.totalFrags
      frameLen := hdr.frameLen
      frameCrc32 := hdr.frameCrc32
      warmup := hdr.warmup } }
  else if mac.ra.totalFrags ≠ hdr.totalFrags ∨ mac.ra.frameLen ≠ hdr.frameLen ∨
      mac.ra.frameCrc32 ≠ hdr.frameCrc32 ∨ mac.ra.warmup ≠ hdr.warmup then none
  else some mac

/-- A duplicate of the last completed frame is acknowledged from the cache. -/
def handleDuplicate (mac : Statics) (ans : Answers) (hdr : V2.DataFrameHeader) : Statics :=
  let cache := mac.completed
  if cache.totalFrags = hdr.totalFrags ∧ cache.frameLen = hdr.frameLen ∧
      cache.frameCrc32 = hdr.frameCrc32 ∧ cache.warmup = hdr.warmup then
    let (ok, mac) := mac.sendAckPacket ans {
        seq := cache.seq
        totalFrags := cache.totalFrags
        receivedMask := cache.ackMask }
    if ok then mac.notePayloadActivity (ans.millis 2) else mac
  else mac

/-- The last part of `handleRadioEvent`: a DATA packet of the v2 ARQ. -/
def handleData (mac : Statics) (ans : Answers) (packet : Packet) : Statics :=
  match V2.framingParseDataHeader packet with
  | none => mac
  | some hdr =>
    if ¬ V2.framingValidateDataFragment hdr then mac
    else
      let nowMs := ans.millis 1
      if mac.completed.seq = hdr.seq ∧ nowMs - mac.completed.tickMs ≤ radioDupCacheMs then
        mac.handleDuplicate ans hdr
      else
        match mac.openReassembly nowMs hdr with
        | none => mac
        | some mac =>
          let mac :=
            if mac.ra.receivedMask &&& (1 <<< hdr.fragIndex.toUInt32) = 0 then
              let fragment := (packet.data.drop V2.framingDataHdrLen).take hdr.payloadLen.toNat
              { mac.notePayloadActivity (ans.millis 2) with
                ra := { storeFragment mac.ra hdr.fragIndex fragment with
                  lastTickMs := nowMs
                  ackPending := true
                  ackDueMs := nowMs + ackFallbackDelayMs hdr.totalFrags } }
            else mac
          if hdr.roundEnd then
            { mac with ra := { mac.ra with
                ackPending := true
                lastTickMs := nowMs
                ackDueMs := nowMs + ackTurnaroundDelayMs hdr.totalFrags } }
          else mac

/-- `handleRadioEvent` behind `readPacket`, outside generic mode. -/
def handleV2RadioPacket (mac : Statics) (ans : Answers) (packet : Packet) : Statics :=
  if V2.framingPacketType packet = .control then
    match V2.framingParseControl packet with
    | none => mac
    | some ctrl => mac.handleControl ans ctrl
  else if V2.framingPacketType packet = .ack then
    match V2.framingParseAck packet with
    | none => mac
    | some ack => (mac.notePayloadActivity (ans.millis 1)).handleAckForTx ans (ans.millis 3) ack
  else if V2.framingPacketType packet = .native then mac.handleNative ans packet
  else if mac.config.transportMode = .nativePacket then mac
  else mac.handleData ans packet

def handleRadioEvent (mac : Statics) (turn : Turn) (packet : Option Packet) : Statics :=
  let mac := { mac with lastRadioEventMs := turn.radio.millis 0 }
  match packet with
  | none => mac
  | some packet =>
    if packet.len < 1 then mac
    else
      let mac := mac.emit (.received packet)
      if mac.isGenericTransport then mac.handleV3RadioPacket turn packet
      else mac.handleV2RadioPacket turn.radio packet

/-! ### Periodic services -/

def serviceRx (mac : Statics) (ans : Answers) (now : UInt32) : Statics :=
  if mac.isGenericTransport then mac
  else if mac.ra.seq = framingSeqUnset then mac
  else if mac.ra.ackPending then
    if deadlinePassed now mac.ra.ackDueMs then mac.handleAckDue ans now else mac
  else if ¬ mac.ra.isComplete ∧
      now - mac.ra.lastTickMs ≥ reassemblyTimeoutMs mac.ra.totalFrags then
    { mac with ra := mac.ra.reset }
  else mac

/-- `LBT_BACKOFF` at its deadline. -/
def retryLbt (mac : Statics) (ans : Answers) (now : UInt32) : Statics :=
  let mac := { mac with tx := { mac.tx with lbtTries := mac.tx.lbtTries + 1 } }
  if mac.tx.lbtTries ≥ radioLbtMaxRetries ∨ ¬ mac.config.isChannelBusy ans.rssi then
    mac.dispatchFrame ans now
  else { mac with tx := { mac.tx with deadlineMs := now + lbtBackoffMs ans.lbtRandom } }

def serviceTx (mac : Statics) (turn : Turn) : Statics :=
  let passed := deadlinePassed turn.now mac.tx.deadlineMs
  if mac.isGenericTransport then
    let mac :=
      if mac.tx.phase = .hbWait ∧ passed then mac.postFrame turn.now turn.tx.hbRandom else mac
    mac.runArq turn.tick (.onTick turn.now)
  else
    match mac.tx.phase with
    | .idle => mac
    | .lbtBackoff => if passed then mac.retryLbt turn.tx turn.now else mac
    | .warmupWait => if passed then mac.startDataRounds turn.now else mac
    | .sending => if passed then mac.sendNextFragment turn.tx turn.now else mac
    | .waitAck => if passed then mac.nextRoundOrFail turn.tx turn.now else mac
    | .hbWait => if passed then mac.postFrame turn.now turn.tx.hbRandom else mac

def executeStagedCommand (mac : Statics) (turn : Turn) (command : MacCommand) : Statics :=
  let mac := { mac with stagedCmd := none }.emit (.executed command)
  match command with
  | .applyConfig config =>
    if turn.configApplied then
      { mac with config, ra := mac.ra.reset, tx := {} }.resetArqEngine
    else mac
  | .scanBand => mac

/-- The schedule of heartbeats and, behind it, the receive re-arm; `armed` says that the latter may
be due. -/
def serviceHeartbeat (mac : Statics) (turn : Turn) (armed : Bool) : Statics :=
  if deadlinePassed turn.now mac.nextHbMs then
    if mac.health.isPayloadIdle (turn.idle.millis 0) then mac.startHeartbeat turn.idle turn.now
    else { mac with nextHbMs := turn.now + hbIntervalMs turn.idle.hbRandom }
  else if armed ∧ turn.now - mac.lastRadioEventMs ≥ radioRearmIdleMs then
    { mac with lastRadioEventMs := turn.now }.emit .startReceive
  else mac

/-- `onTxDatagram` with a frame of `txQueue`. -/
def passToArq (mac : Statics) (turn : Turn) (frame : List UInt8) : Statics :=
  if frame.length = 0 ∨ frame.length > Kiss.tncPayloadMaxLen then mac.emit (.invalid frame)
  else
    let result := (Exec.onTxDatagram { mac.arq with } (some frame)).1
    let mac := mac.runArq turn.accept (.onTxDatagram (some frame))
    mac.emit (if result = .ok then .accepted frame else .refused frame)

/-- `serviceIdle` behind the check of the staged command, in generic mode. -/
def serviceGeneric (mac : Statics) (turn : Turn) : Statics :=
  let txSlotsUsed := mac.arq.txActiveCount + mac.arq.txQueuedCount
  match mac.txQueue with
  | frame :: txQueue =>
    if txSlotsUsed < arqMaxOutstanding then
      { mac with txQueue, tx := { mac.tx with frame } }.passToArq turn frame
    else if mac.arq.hasPendingWork then mac
    else mac.serviceHeartbeat turn true
  | [] => if mac.arq.hasPendingWork then mac else mac.serviceHeartbeat turn true

/-- The same in native mode. -/
def serviceNative (mac : Statics) (turn : Turn) : Statics :=
  match mac.txQueue with
  | frame :: txQueue =>
    { mac with txQueue, tx := { mac.tx with frame } }.startFrame turn.idle turn.now
  | [] => mac.serviceHeartbeat turn (mac.ra.seq = framingSeqUnset)

/-- `serviceIdle` without the housekeeping, which is for the statistics. -/
def serviceIdle (mac : Statics) (turn : Turn) : Statics :=
  if mac.tx.phase ≠ .idle then mac
  else
    match mac.stagedCmd with
    | some command => mac.executeStagedCommand turn command
    | none => if mac.isGenericTransport then mac.serviceGeneric turn else mac.serviceNative turn

/-! ### The wait -/

/-- `consider` of `computeWaitMs`. -/
def consider (now due wait : UInt32) : UInt32 :=
  let delta := if (due - now).toInt32 < 0 then 0 else due - now
  if delta < wait then delta else wait

def computeWaitMs (mac : Statics) (now : UInt32) : UInt32 :=
  if mac.isGenericTransport then
    let wait :=
      (mac.arq.nextDeadline now).elim macMaxWaitMs fun due => consider now due macMaxWaitMs
    if mac.tx.phase ≠ .idle then consider now mac.tx.deadlineMs wait
    else if mac.stagedCmd ≠ none then 0
    else if mac.txQueue ≠ [] ∧
        mac.arq.txActiveCount + mac.arq.txQueuedCount < arqMaxOutstanding then 0
    else if ¬ mac.arq.hasPendingWork then consider now mac.nextHbMs wait
    else wait
  else
    let wait :=
      if mac.ra.seq = framingSeqUnset then macMaxWaitMs
      else if mac.ra.ackPending then consider now mac.ra.ackDueMs macMaxWaitMs
      else if ¬ mac.ra.isComplete then
        consider now (mac.ra.lastTickMs + reassemblyTimeoutMs mac.ra.totalFrags) macMaxWaitMs
      else macMaxWaitMs
    if mac.tx.phase ≠ .idle then consider now mac.tx.deadlineMs wait
    else if mac.stagedCmd ≠ none ∨ mac.txQueue ≠ [] then 0
    else consider now mac.nextHbMs wait

/-! ### Runs -/

/-- The part of the loop between the wait and the services. -/
def wakeUp (mac : Statics) (turn : Turn) : Statics :=
  match turn.wake with
  | .radio packet => mac.handleRadioEvent turn packet
  | .cmdQueue =>
    match mac.cmdQueue with
    | none => mac
    | some command => { mac with cmdQueue := none, stagedCmd := some command }
  | .txWake | .timeout => mac

/-- One turn of the loop of `macTask`. -/
def loop (mac : Statics) (turn : Turn) : Statics :=
  (((mac.wakeUp turn).serviceRx turn.rx turn.now).serviceTx turn).serviceIdle turn

end Statics

/-- What may happen next: another task sends a frame to `txQueue` or requests a command, or the loop
takes a turn. -/
inductive Input
  | host (frame : List UInt8)
  | request (command : MacCommand)
  | turn (turn : Turn)

/-- A channel that is free, a radio and a host that take everything. -/
def Answers.calm (now : UInt32) : Answers where
  transmit _ := true
  rssi := -128
  rxQueueSend := true
  lbtRandom := 0
  hbRandom := 0
  millis _ := now

def EngineAnswers.calm (now : UInt32) : EngineAnswers where
  transmit _ _ := true
  rxQueueSend _ := true
  egressCapacity _ := 4
  payloadMs := now
  deliveredMs := now

def Turn.calm (wake : Wake) (now : UInt32) : Turn where
  wake
  now
  radio := .calm now
  receive := .calm now
  flush := .calm now
  rx := .calm now
  tx := .calm now
  tick := .calm now
  idle := .calm now
  accept := .calm now
  configApplied := true

namespace Statics

/-- A request waits at `s_cmdGate` while another one is under way. -/
def step (mac : Statics) : Input → Statics
  | .host frame =>
    if mac.txQueue.length < txQueueDepth then
      { mac with txQueue := mac.txQueue ++ [frame] }.emit (.queued frame)
    else mac
  | .request command =>
    if mac.cmdQueue.isNone ∧ mac.stagedCmd.isNone then { mac with cmdQueue := some command }
    else mac
  | .turn turn => mac.loop turn

def run (mac : Statics) (inputs : List Input) : Statics := inputs.foldl step mac

/-- The task behind the start of `macTask`, with the config that the radio began with. -/
def start (config : RadioConfig) (nextHbMs : UInt32) : Statics where
  config
  nextHbMs
  arq := .reset arqConfig

end Statics

end FlrcTnc.Node
