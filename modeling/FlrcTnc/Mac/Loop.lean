import FlrcTnc.Arq.Engine
import FlrcTnc.Lib.Transducer
import FlrcTnc.Serial.Tasks

/-! The MAC task of `mac/Mac.cpp` in generic transport mode: one turn of the loop of `macTask`, the
services that it calls and the commands that other tasks stage.  Statistics, link health and the
receive state of the radio are left out; the answers of the radio, of `millis()` and of
`esp_random()` come with each turn. -/

namespace FlrcTnc.Mac

open Arq Framing Kiss Serial

def txQueueDepth : Nat := 32
def radioInterFragDelayMs : UInt32 := 2
def radioAckTimeoutMs : UInt32 := 110
def radioAckTurnaroundDelayMs : UInt32 := 10
def radioHeartbeatIntervalMs : UInt32 := 1000
def radioHeartbeatJitterMs : UInt32 := 250
def radioControlAckTimeoutMs : UInt32 := 40
def radioArqCreditProbeMs : UInt32 := 500

inductive TxPhase
  | idle | lbtBackoff | warmupWait | sending | waitAck | hbWait
  deriving DecidableEq, Repr

/-- `MacCommand`; of the config the model keeps `transportMode`. -/
inductive MacCommand
  | applyConfig (transportMode : TransportMode)
  | scanBand
  deriving DecidableEq, Repr

def ackTimeoutMs (totalFrags : UInt8) : UInt32 :=
  radioAckTimeoutMs +
    if totalFrags > 0 then (totalFrags.toUInt32 - 1) * radioInterFragDelayMs else 0

def hbIntervalMs (random : UInt32) : UInt32 :=
  radioHeartbeatIntervalMs + random % (radioHeartbeatJitterMs + 1)

/-- `static_cast<int32_t>(now - deadline) >= 0`. -/
def deadlinePassed (now deadline : UInt32) : Bool := (now - deadline).toInt32 ≥ 0

/-- The config of `resetArqEngine`. -/
def arqConfig : ArqConfig where
  retryTimeoutCycles := ackTimeoutMs v3MaxFrags
  ackTurnaroundCycles := radioAckTurnaroundDelayMs
  creditStallTimeoutCycles := radioArqCreditProbeMs
  maxAttempts := 8
  initialRemoteCredits := arqMaxOutstanding

/-- The statics of `Mac.cpp` with the two queues to the task; of `s_tx` the phase and its deadline,
and of the radio's config the transport mode. -/
structure MacTask where
  arq : ArqEngine
  phase : TxPhase := .idle
  deadlineMs : UInt32 := 0
  nextHbMs : UInt32
  transportMode : TransportMode := .genericFragmented
  cmdQueue : Option MacCommand := none
  stagedCmd : Option MacCommand := none
  txQueue : List (List UInt8) := []

/-- A radio event: what `readPacket` reads, `none` for an error, and the answers and the times while
the packet is handled. -/
structure RadioEvent where
  packet : Option Packet
  receive : ArqCallbacks
  received : UInt32
  flush : ArqCallbacks
  flushed : UInt32
  random : UInt32

/-- The member of `s_waitSet` that ends the wait; `timeout` is none of them. -/
inductive Wake
  | radio (event : RadioEvent)
  | txWake
  | cmdQueue
  | timeout

/-- One turn of the loop: how it is woken, the time after that, and the answers that it gets. -/
structure Turn where
  wake : Wake
  now : UInt32
  tick : ArqCallbacks
  /-- `applyConfig` returns `RADIOLIB_ERR_NONE`. -/
  configApplied : Bool
  payloadIdle : Bool
  transmit : Packet → Bool
  /-- `millis()` behind the transmission of a heartbeat. -/
  transmitted : UInt32
  txRandom : UInt32
  idleRandom : UInt32

/-- One run of `executeStagedCommand`, with the engine before and after it. -/
structure Execution where
  command : MacCommand
  before : ArqEngine
  after : ArqEngine

namespace MacTask

def isGenericTransport (mac : MacTask) : Bool := mac.transportMode = .genericFragmented

def resetArqEngine (mac : MacTask) : MacTask := { mac with arq := .reset arqConfig }

def postFrame (mac : MacTask) (now random : UInt32) : MacTask :=
  { mac with phase := .idle, nextHbMs := now + hbIntervalMs random }

/-! ### The services -/

/-- The reply to a heartbeat goes to the radio alone. -/
def handleV3Control (mac : MacTask) (event : RadioEvent) (ctrl : ControlFrame) : MacTask :=
  if ctrl.subtype = .heartbeatAck ∧ mac.phase = .hbWait then
    mac.postFrame event.received event.random
  else mac

def handleV3RadioPacket (mac : MacTask) (event : RadioEvent) (packet : Packet) : MacTask :=
  match parsePacketType packet with
  | .error _ => mac
  | .ok .control =>
    match parseControlPacket packet with
    | .error _ => mac
    | .ok ctrl => mac.handleV3Control event ctrl
  | .ok type =>
    let arq := (mac.arq.run event.receive (.onRxPacket packet event.received)).toArqEngine
    if type = .data then
      { mac with arq := (arq.run event.flush (.flushPendingAck event.flushed)).toArqEngine }
    else { mac with arq }

def handleRadioEvent (mac : MacTask) (event : RadioEvent) : MacTask :=
  match event.packet with
  | none => mac
  | some packet => if packet.len < 1 then mac else mac.handleV3RadioPacket event packet

/-- The part of the loop between the wait and the services. -/
def wakeUp (mac : MacTask) : Wake → MacTask
  | .radio event => mac.handleRadioEvent event
  | .cmdQueue =>
    match mac.cmdQueue with
    | none => mac
    | some command => { mac with cmdQueue := none, stagedCmd := some command }
  | .txWake | .timeout => mac

def serviceTx (mac : MacTask) (turn : Turn) : MacTask :=
  let mac :=
    if mac.phase = .hbWait ∧ deadlinePassed turn.now mac.deadlineMs then
      mac.postFrame turn.now turn.txRandom
    else mac
  { mac with arq := (mac.arq.run turn.tick (.onTick turn.now)).toArqEngine }

def startHeartbeat (mac : MacTask) (turn : Turn) : MacTask :=
  match buildControlPacket { subtype := .heartbeat } with
  | .error _ => mac
  | .ok packet =>
    if turn.transmit packet then
      { mac with phase := .hbWait, deadlineMs := turn.transmitted + radioControlAckTimeoutMs }
    else { mac with nextHbMs := turn.now + hbIntervalMs turn.idleRandom }

def executeStagedCommand (mac : MacTask) (turn : Turn) : MacCommand → MacTask
  | .applyConfig transportMode =>
    if turn.configApplied then
      { mac with stagedCmd := none, transportMode, phase := .idle, deadlineMs := 0 }.resetArqEngine
    else { mac with stagedCmd := none }
  | .scanBand => { mac with stagedCmd := none }

/-- The last part of `serviceIdle`, without the receive re-arm of the radio. -/
def serviceHeartbeat (mac : MacTask) (turn : Turn) : MacTask :=
  if mac.arq.hasPendingWork then mac
  else if deadlinePassed turn.now mac.nextHbMs then
    if turn.payloadIdle then mac.startHeartbeat turn
    else { mac with nextHbMs := turn.now + hbIntervalMs turn.idleRandom }
  else mac

/-- `serviceIdle` behind the check of the staged command. -/
def serviceWork (mac : MacTask) (turn : Turn) : MacTask :=
  let txSlotsUsed := mac.arq.txActiveCount + mac.arq.txQueuedCount
  match mac.txQueue with
  | frame :: txQueue =>
    if txSlotsUsed < arqMaxOutstanding then
      let mac := { mac with txQueue }
      if frame.length = 0 ∨ frame.length > tncPayloadMaxLen then mac
      else { mac with arq := (mac.arq.run turn.tick (.onTxDatagram (some frame))).toArqEngine }
    else mac.serviceHeartbeat turn
  | [] => mac.serviceHeartbeat turn

def serviceIdle (mac : MacTask) (turn : Turn) : MacTask × List Execution :=
  if mac.phase ≠ .idle then (mac, [])
  else
    match mac.stagedCmd with
    | some command =>
      let mac' := mac.executeStagedCommand turn command
      (mac', [⟨command, mac.arq, mac'.arq⟩])
    | none => (mac.serviceWork turn, [])

/-- One turn of the loop; `serviceRx` does nothing in generic mode. -/
def loop (mac : MacTask) (turn : Turn) : MacTask × List Execution :=
  ((mac.wakeUp turn.wake).serviceTx turn).serviceIdle turn

end MacTask

/-! ### Runs -/

/-- What may happen next: another task sends a frame to `txQueue` or requests a command, or the loop
takes a turn. -/
inductive Input
  | host (frame : List UInt8)
  | request (command : MacCommand)
  | turn (turn : Turn)

namespace MacTask

/-- A request waits at `s_cmdGate` while another one is under way.  The run in generic mode ends
with the config that leaves it: what the loop does then is not modelled. -/
def step (mac : MacTask) : Input → MacTask × List Execution
  | .host frame =>
    if mac.txQueue.length < txQueueDepth then ({ mac with txQueue := mac.txQueue ++ [frame] }, [])
    else (mac, [])
  | .request command =>
    if mac.cmdQueue.isNone ∧ mac.stagedCmd.isNone then ({ mac with cmdQueue := some command }, [])
    else (mac, [])
  | .turn turn => if mac.isGenericTransport then mac.loop turn else (mac, [])

def run : MacTask → List Input → MacTask × List Execution := Transducer.run step

/-- The task as generic mode begins: at the start of `macTask`, or after the config that has entered
the mode. -/
def start (nextHbMs : UInt32) (txQueue : List (List UInt8)) : MacTask where
  arq := .reset arqConfig
  nextHbMs
  txQueue

end MacTask

end FlrcTnc.Mac
