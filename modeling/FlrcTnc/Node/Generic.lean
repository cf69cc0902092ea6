import FlrcTnc.Mac.Commands
import FlrcTnc.Node.Heartbeat

/-! The task in generic mode against the task of `FlrcTnc.Mac`, which has only that mode and neither
link health nor a trace. -/

namespace FlrcTnc.Node

open Arq Framing Kiss Serial
open Mac (MacTask)

def MacCommand.toMac : MacCommand → Mac.MacCommand
  | .applyConfig config => .applyConfig config.transportMode
  | .scanBand => .scanBand

/-- The commands that the task has run. -/
def Event.executed? : Event → Option MacCommand
  | .executed command => some command
  | _ => none

def executed (events : List Event) : List MacCommand := events.filterMap Event.executed?

theorem not_mem_of_executed {events : List Event} (h : executed events = [])
    (command : MacCommand) : .executed command ∉ events := by
  intro hmem
  have hexecuted : command ∈ executed events := List.mem_filterMap.mpr ⟨_, hmem, rfl⟩
  rw [h] at hexecuted
  cases hexecuted

namespace Statics

variable {mac : Statics}

def toMac (mac : Statics) : MacTask where
  arq := mac.arq
  phase := mac.tx.phase
  deadlineMs := mac.tx.deadlineMs
  nextHbMs := mac.nextHbMs
  transportMode := mac.config.transportMode
  cmdQueue := mac.cmdQueue.map MacCommand.toMac
  stagedCmd := mac.stagedCmd.map MacCommand.toMac
  txQueue := mac.txQueue

end Statics

namespace Turn

def toRadioEvent (turn : Turn) (packet : Option Packet) : Mac.RadioEvent where
  packet
  receive := turn.receive.callbacks
  received := turn.radio.millis 3
  flush := turn.flush.callbacks
  flushed := turn.radio.millis 4
  random := turn.radio.hbRandom

def toWake (turn : Turn) : Mac.Wake :=
  match turn.wake with
  | .radio packet => .radio (turn.toRadioEvent packet)
  | .txWake => .txWake
  | .cmdQueue => .cmdQueue
  | .timeout => .timeout

/-- The turn as the other task sees it, which is told whether payload is idle. -/
def toMac (turn : Turn) (payloadIdle : Bool) : Mac.Turn where
  wake := turn.toWake
  now := turn.now
  tick := turn.tick.callbacks
  configApplied := turn.configApplied
  payloadIdle
  transmit := turn.idle.transmit
  transmitted := turn.idle.millis 1
  txRandom := turn.tx.hbRandom
  idleRandom := turn.idle.hbRandom

end Turn

namespace Statics

variable {mac : Statics}

theorem toMac_sendControl (mac : Statics) (ans : Answers) (packet : Packet) :
    (mac.sendControl ans packet).2.toMac = mac.toMac := by
  rcases sendControl_cases mac ans packet with h | ⟨_, _, h⟩ <;> rw [h]
  rfl

theorem toMac_handleV3Control (mac : Statics) (turn : Turn) (packet : Option Packet)
    (ctrl : ControlFrame) :
    (mac.handleV3Control turn.radio ctrl).toMac =
      mac.toMac.handleV3Control (turn.toRadioEvent packet) ctrl := by
  rw [handleV3Control, MacTask.handleV3Control]
  by_cases hheartbeat : ctrl.subtype = .heartbeat
  · have hnot : ¬ (ctrl.subtype = .heartbeatAck ∧ mac.toMac.phase = .hbWait) := by
      rw [hheartbeat]
      exact fun h => absurd h.1 (by decide)
    rw [if_pos hheartbeat, if_neg hnot]
    split
    · rfl
    · exact toMac_sendControl mac turn.radio _
  rw [if_neg hheartbeat]
  by_cases hack : ctrl.subtype = .heartbeatAck
  · rw [if_pos hack]
    by_cases hwait : mac.tx.phase = .hbWait
    · rw [if_pos hwait, if_pos ⟨hack, hwait⟩]
      rfl
    · rw [if_neg hwait, if_neg fun h => hwait h.2]
  · have hnot : ¬ (ctrl.subtype = .heartbeatAck ∧ mac.toMac.phase = .hbWait) := fun h => hack h.1
    rw [if_neg hack, if_neg hnot]
    split <;> rfl

theorem toMac_handleV3RadioPacket (mac : Statics) (turn : Turn) (packet : Packet) :
    (mac.handleV3RadioPacket turn packet).toMac =
      mac.toMac.handleV3RadioPacket (turn.toRadioEvent packet) packet := by
  rw [handleV3RadioPacket, MacTask.handleV3RadioPacket]
  cases parsePacketType packet with
  | error e => rfl
  | ok type =>
    cases type with
    | control =>
      dsimp only
      rw [if_pos rfl]
      cases parseControlPacket packet with
      | error e => rfl
      | ok ctrl => exact toMac_handleV3Control mac turn packet ctrl
    | data | ack | mgmt => rfl

theorem toMac_wakeUp (hmode : mac.config.transportMode = .genericFragmented) (turn : Turn) :
    (mac.wakeUp turn).toMac = mac.toMac.wakeUp turn.toWake := by
  rw [wakeUp, Turn.toWake]
  cases turn.wake with
  | radio packet =>
    cases packet with
    | none => rfl
    | some packet =>
      dsimp only [handleRadioEvent, MacTask.wakeUp, MacTask.handleRadioEvent, Turn.toRadioEvent]
      split
      · rfl
      · rw [if_pos (by exact isGenericTransport_iff.mpr hmode)]
        exact toMac_handleV3RadioPacket _ turn packet
  | cmdQueue =>
    have hcmd : mac.toMac.cmdQueue = mac.cmdQueue.map MacCommand.toMac := rfl
    dsimp only [MacTask.wakeUp]
    rw [hcmd]
    cases mac.cmdQueue <;> rfl
  | txWake | timeout => rfl

theorem toMac_serviceTx (hmode : mac.config.transportMode = .genericFragmented) (turn : Turn)
    (payloadIdle : Bool) :
    (mac.serviceTx turn).toMac = mac.toMac.serviceTx (turn.toMac payloadIdle) := by
  rw [serviceTx, MacTask.serviceTx]
  dsimp only
  rw [if_pos (isGenericTransport_iff.mpr hmode)]
  split
  · next h => rw [if_pos (by exact h)]; rfl
  · next h => rw [if_neg (by exact h)]; rfl

theorem toMac_startHeartbeat (hmode : mac.config.transportMode = .genericFragmented) (turn : Turn)
    (payloadIdle : Bool) :
    (mac.startHeartbeat turn.idle turn.now).toMac =
      mac.toMac.startHeartbeat (turn.toMac payloadIdle) := by
  rw [startHeartbeat, MacTask.startHeartbeat]
  dsimp only
  rw [if_pos (by exact isGenericTransport_iff.mpr hmode)]
  cases hbuild : buildControlPacket { subtype := .heartbeat } with
  | error e => rfl
  | ok packet =>
    have htype : parsePacketType packet = .ok .control :=
      parsePacketType_of_control (control_exact.parses_of_builds hbuild)
    dsimp only
    rw [sendControl, htype]
    dsimp only
    by_cases hok : turn.idle.transmit packet
    · rw [if_pos hok]
      exact (if_pos hok).symm
    · rw [if_neg hok]
      exact (if_neg hok).symm

theorem toMac_serviceHeartbeat (hmode : mac.config.transportMode = .genericFragmented)
    (turn : Turn) :
    (if mac.arq.hasPendingWork then mac else mac.serviceHeartbeat turn true).toMac =
      mac.toMac.serviceHeartbeat (turn.toMac (mac.health.isPayloadIdle (turn.idle.millis 0))) := by
  rw [MacTask.serviceHeartbeat]
  by_cases hwork : mac.arq.hasPendingWork
  · have hwork' : mac.toMac.arq.hasPendingWork := hwork
    rw [if_pos hwork, if_pos hwork']
  have hwork' : ¬ mac.toMac.arq.hasPendingWork := hwork
  rw [if_neg hwork, if_neg hwork', serviceHeartbeat]
  by_cases hpassed : Mac.deadlinePassed turn.now mac.nextHbMs
  · rw [if_pos hpassed]
    refine Eq.trans ?_ (if_pos hpassed).symm
    by_cases hidle : mac.health.isPayloadIdle (turn.idle.millis 0)
    · rw [if_pos hidle]
      exact (toMac_startHeartbeat hmode turn _).trans (if_pos hidle).symm
    · rw [if_neg hidle]
      exact (if_neg hidle).symm
  · rw [if_neg hpassed]
    refine Eq.trans ?_ (if_neg hpassed).symm
    split <;> rfl

theorem toMac_executeStagedCommand (mac : Statics) (turn : Turn) (payloadIdle : Bool)
    (command : MacCommand) :
    (mac.executeStagedCommand turn command).toMac =
      mac.toMac.executeStagedCommand (turn.toMac payloadIdle) command.toMac := by
  cases command with
  | scanBand => rfl
  | applyConfig config =>
    rw [executeStagedCommand, MacCommand.toMac, MacTask.executeStagedCommand]
    by_cases hok : turn.configApplied
    · rw [if_pos hok]
      exact (if_pos hok).symm
    · rw [if_neg hok]
      exact (if_neg hok).symm

theorem toMac_serviceGeneric (hmode : mac.config.transportMode = .genericFragmented)
    (turn : Turn) :
    (mac.serviceGeneric turn).toMac =
      mac.toMac.serviceWork (turn.toMac (mac.health.isPayloadIdle (turn.idle.millis 0))) := by
  have hheartbeat := toMac_serviceHeartbeat hmode turn
  have hqueue : mac.toMac.txQueue = mac.txQueue := rfl
  rw [serviceGeneric, MacTask.serviceWork, hqueue]
  dsimp only
  cases mac.txQueue with
  | nil => exact hheartbeat
  | cons frame txQueue =>
    dsimp only
    by_cases hroom : mac.arq.txActiveCount + mac.arq.txQueuedCount < arqMaxOutstanding
    · rw [if_pos hroom]
      refine Eq.trans ?_ (if_pos hroom).symm
      rw [passToArq]
      by_cases hlen : frame.length = 0 ∨ frame.length > Kiss.tncPayloadMaxLen
      · rw [if_pos hlen, if_pos hlen]
        rfl
      · rw [if_neg hlen, if_neg hlen]
        rfl
    · rw [if_neg hroom]
      exact hheartbeat.trans (if_neg hroom).symm

/-- The end of a turn, and the commands that it runs. -/
theorem toMac_serviceIdle (hmode : mac.config.transportMode = .genericFragmented) (turn : Turn) :
    (mac.serviceIdle turn).toMac =
      (mac.toMac.serviceIdle
        (turn.toMac (mac.health.isPayloadIdle (turn.idle.millis 0)))).1 := by
  rw [serviceIdle, MacTask.serviceIdle]
  by_cases hphase : mac.tx.phase ≠ .idle
  · have hphase' : mac.toMac.phase ≠ .idle := hphase
    rw [if_pos hphase, if_pos hphase']
  have hphase' : ¬ mac.toMac.phase ≠ .idle := hphase
  have hstaged' : mac.toMac.stagedCmd = mac.stagedCmd.map MacCommand.toMac := rfl
  rw [if_neg hphase, if_neg hphase', hstaged']
  cases hstaged : mac.stagedCmd with
  | some command => exact toMac_executeStagedCommand mac turn _ command
  | none =>
    dsimp only [Option.map]
    rw [if_pos (isGenericTransport_iff.mpr hmode)]
    exact toMac_serviceGeneric hmode turn

/-- Whether `serviceIdle` of the turn finds payload idle. -/
def findsPayloadIdle (mac : Statics) (turn : Turn) : Bool :=
  (((mac.wakeUp turn).serviceRx turn.rx turn.now).serviceTx turn).health.isPayloadIdle
    (turn.idle.millis 0)

theorem handleV3RadioPacket_mode (mac : MacTask) (event : Mac.RadioEvent) (packet : Packet) :
    (mac.handleV3RadioPacket event packet).transportMode = mac.transportMode := by
  rw [MacTask.handleV3RadioPacket]
  split
  · rfl
  · split
    · rfl
    · rw [MacTask.handleV3Control]
      split <;> rfl
  · dsimp only
    split <;> rfl

/-- What arrives leaves the mode alone. -/
theorem wakeUp_mode (mac : MacTask) (wake : Mac.Wake) :
    (mac.wakeUp wake).transportMode = mac.transportMode := by
  cases wake with
  | radio event =>
    rw [MacTask.wakeUp, MacTask.handleRadioEvent]
    split
    · rfl
    · split
      · rfl
      · exact handleV3RadioPacket_mode ..
  | cmdQueue =>
    rw [MacTask.wakeUp]
    split <;> rfl
  | txWake | timeout => rfl

theorem serviceTx_mode (mac : MacTask) (turn : Mac.Turn) :
    (mac.serviceTx turn).transportMode = mac.transportMode := by
  rw [MacTask.serviceTx]
  dsimp only
  split <;> rfl

/-! ### The commands of a turn -/

theorem executed_emit (mac : Statics) {event : Event} (h : event.executed? = none) :
    executed (mac.emit event).trace = executed mac.trace := by
  rw [emit, executed, executed, List.filterMap_append, List.filterMap_cons_none h,
    List.filterMap_nil, List.append_nil]

theorem executed_runArq (mac : Statics) (ans : EngineAnswers) (call : Call) :
    executed (mac.runArq ans call).trace = executed mac.trace := by
  have hengine (events : List Arq.Event) : executed (events.flatMap engineEvents) = [] := by
    refine List.filterMap_eq_nil_iff.mpr fun event hmem => ?_
    rcases of_mem_engineEvents hmem with ⟨_, _, _, _, _, rfl⟩ | ⟨_, _, _, _, rfl | rfl⟩ <;> rfl
  rw [runArq, executed, List.filterMap_append]
  rw [show List.filterMap _ _ = _ from hengine _, List.append_nil]
  rfl

theorem executed_sendControl (mac : Statics) (ans : Answers) (packet : Packet) :
    executed (mac.sendControl ans packet).2.trace = executed mac.trace := by
  rcases sendControl_cases mac ans packet with h | ⟨_, _, h⟩ <;> rw [h]
  exact executed_emit mac rfl

theorem executed_handleV3Control (mac : Statics) (ans : Answers) (ctrl : ControlFrame) :
    executed (mac.handleV3Control ans ctrl).trace = executed mac.trace := by
  rw [handleV3Control]
  split
  · split
    · rfl
    · exact executed_sendControl ..
  · split
    · split
      · exact executed_emit _ rfl
      · rfl
    · split
      · exact executed_emit _ rfl
      · rfl

theorem executed_handleV3RadioPacket (mac : Statics) (turn : Turn) (packet : Packet) :
    executed (mac.handleV3RadioPacket turn packet).trace = executed mac.trace := by
  rw [handleV3RadioPacket]
  split
  · rfl
  next type _ =>
  split
  · split
    · rfl
    · exact executed_handleV3Control ..
  · cases type with
    | ack => exact (executed_runArq ..).trans (executed_emit mac rfl)
    | data => exact (executed_runArq ..).trans (executed_runArq ..)
    | control | mgmt => exact executed_runArq ..

theorem executed_wakeUp (hmode : mac.config.transportMode = .genericFragmented) (turn : Turn) :
    executed (mac.wakeUp turn).trace = executed mac.trace := by
  rw [wakeUp]
  split
  · rw [handleRadioEvent.eq_def]
    dsimp only
    split
    · rfl
    · split
      · rfl
      · rw [if_pos (by exact isGenericTransport_iff.mpr hmode)]
        exact (executed_handleV3RadioPacket ..).trans (executed_emit _ rfl)
  · split <;> rfl
  · rfl
  · rfl

theorem executed_serviceHeartbeat (hmode : mac.config.transportMode = .genericFragmented)
    (turn : Turn) : executed (mac.serviceHeartbeat turn true).trace = executed mac.trace := by
  rw [serviceHeartbeat]
  split
  · split
    · rw [startHeartbeat]
      dsimp only
      rw [if_pos (by exact isGenericTransport_iff.mpr hmode)]
      split
      · rfl
      · have hsend := fun packet => executed_sendControl
          { mac with controlSeq := mac.controlSeq + 1 } turn.idle packet
        split <;> exact hsend _
    · rfl
  · split
    · exact executed_emit _ rfl
    · rfl

theorem executed_serviceGeneric (hmode : mac.config.transportMode = .genericFragmented)
    (turn : Turn) : executed (mac.serviceGeneric turn).trace = executed mac.trace := by
  rw [serviceGeneric]
  dsimp only
  split
  · split
    · rw [passToArq]
      split
      · exact executed_emit _ rfl
      · refine (executed_emit _ ?_).trans (executed_runArq ..)
        split <;> rfl
    · split
      · rfl
      · exact executed_serviceHeartbeat hmode turn
  · split
    · rfl
    · exact executed_serviceHeartbeat hmode turn

theorem executed_serviceTx (hmode : mac.config.transportMode = .genericFragmented) (turn : Turn) :
    executed (mac.serviceTx turn).trace = executed mac.trace := by
  rw [serviceTx]
  dsimp only
  rw [if_pos (isGenericTransport_iff.mpr hmode), executed_runArq]
  split <;> rfl

theorem executed_serviceIdle (hmode : mac.config.transportMode = .genericFragmented) (turn : Turn)
    (payloadIdle : Bool) :
    (executed (mac.serviceIdle turn).trace).map MacCommand.toMac =
      (executed mac.trace).map MacCommand.toMac ++
        (mac.toMac.serviceIdle (turn.toMac payloadIdle)).2.map Mac.Execution.command := by
  rw [serviceIdle, MacTask.serviceIdle]
  by_cases hphase : mac.tx.phase ≠ .idle
  · have hphase' : mac.toMac.phase ≠ .idle := hphase
    rw [if_pos hphase, if_pos hphase']
    exact (List.append_nil _).symm
  have hphase' : ¬ mac.toMac.phase ≠ .idle := hphase
  have hstaged' : mac.toMac.stagedCmd = mac.stagedCmd.map MacCommand.toMac := rfl
  rw [if_neg hphase, if_neg hphase', hstaged']
  cases hstaged : mac.stagedCmd with
  | some command =>
    have hexecuted : executed (mac.executeStagedCommand turn command).trace =
        executed mac.trace ++ [command] := by
      rw [executeStagedCommand.eq_def, executed, executed]
      dsimp only
      split
      · split <;> exact List.filterMap_append
      · exact List.filterMap_append
    dsimp only [Option.map]
    rw [hexecuted, List.map_append]
    rfl
  | none =>
    dsimp only [Option.map]
    rw [if_pos (isGenericTransport_iff.mpr hmode), executed_serviceGeneric hmode]
    exact (List.append_nil _).symm

/-! ### Turns and runs -/

/-- A turn in generic mode is a turn of the other task, and runs the same commands. -/
theorem toMac_loop (hmode : mac.config.transportMode = .genericFragmented) (turn : Turn) :
    (mac.loop turn).toMac = (mac.toMac.loop (turn.toMac (mac.findsPayloadIdle turn))).1 ∧
      (executed (mac.loop turn).trace).map MacCommand.toMac =
        (executed mac.trace).map MacCommand.toMac ++
          (mac.toMac.loop (turn.toMac (mac.findsPayloadIdle turn))).2.map
            Mac.Execution.command := by
  have hwake := toMac_wakeUp hmode turn
  have hmode1 : (mac.wakeUp turn).config.transportMode = .genericFragmented := by
    rw [← hmode]
    exact (congrArg MacTask.transportMode hwake).trans (wakeUp_mode _ _)
  have hrx : (mac.wakeUp turn).serviceRx turn.rx turn.now = mac.wakeUp turn := by
    rw [serviceRx, if_pos (isGenericTransport_iff.mpr hmode1)]
  have htx := toMac_serviceTx hmode1 turn (mac.findsPayloadIdle turn)
  have hmode2 : ((mac.wakeUp turn).serviceTx turn).config.transportMode = .genericFragmented := by
    rw [← hmode1]
    exact (congrArg MacTask.transportMode htx).trans (serviceTx_mode _ _)
  have hidle := toMac_serviceIdle hmode2 turn
  have hcommands := executed_serviceIdle hmode2 turn (mac.findsPayloadIdle turn)
  rw [executed_serviceTx hmode1, executed_wakeUp hmode] at hcommands
  have hloop : mac.toMac.loop (turn.toMac (mac.findsPayloadIdle turn)) =
      ((mac.wakeUp turn).serviceTx turn).toMac.serviceIdle
        (turn.toMac (mac.findsPayloadIdle turn)) := by
    rw [htx, hwake]
    rfl
  rw [hloop, loop, hrx]
  refine ⟨?_, hcommands⟩
  rw [hidle, findsPayloadIdle, hrx]

def toMacInput (mac : Statics) : Input → Mac.Input
  | .host frame => .host frame
  | .request command => .request command.toMac
  | .turn turn => .turn (turn.toMac (mac.findsPayloadIdle turn))

theorem toMac_step (hmode : mac.config.transportMode = .genericFragmented) (input : Input) :
    (mac.step input).toMac = (mac.toMac.step (mac.toMacInput input)).1 ∧
      (executed (mac.step input).trace).map MacCommand.toMac =
        (executed mac.trace).map MacCommand.toMac ++
          (mac.toMac.step (mac.toMacInput input)).2.map Mac.Execution.command := by
  cases input with
  | host frame =>
    rw [step, toMacInput, MacTask.step]
    by_cases hroom : mac.txQueue.length < Mac.txQueueDepth
    · have hroom' : mac.toMac.txQueue.length < Mac.txQueueDepth := hroom
      rw [if_pos hroom, if_pos hroom', executed_emit _ rfl]
      exact ⟨rfl, (List.append_nil _).symm⟩
    · have hroom' : ¬ mac.toMac.txQueue.length < Mac.txQueueDepth := hroom
      rw [if_neg hroom, if_neg hroom']
      exact ⟨rfl, (List.append_nil _).symm⟩
  | request command =>
    have hfree : (mac.toMac.cmdQueue.isNone ∧ mac.toMac.stagedCmd.isNone) ↔
        (mac.cmdQueue.isNone ∧ mac.stagedCmd.isNone) := by
      rw [toMac, Option.isNone_map, Option.isNone_map]
    rw [step, toMacInput, MacTask.step]
    by_cases hgate : mac.cmdQueue.isNone ∧ mac.stagedCmd.isNone
    · rw [if_pos hgate, if_pos (hfree.mpr hgate)]
      exact ⟨rfl, (List.append_nil _).symm⟩
    · rw [if_neg hgate, if_neg (mt hfree.mp hgate)]
      exact ⟨rfl, (List.append_nil _).symm⟩
  | turn turn =>
    have hmode' : mac.toMac.isGenericTransport := isGenericTransport_iff.mpr hmode
    rw [step, toMacInput, MacTask.step, if_pos hmode']
    exact toMac_loop hmode turn

/-- Everything happens in generic mode, but for what may come after the last input. -/
def StaysGeneric (mac : Statics) : List Input → Prop
  | [] => True
  | input :: inputs =>
    mac.config.transportMode = .genericFragmented ∧ (mac.step input).StaysGeneric inputs

/-- The inputs as the other task gets them. -/
def toMacInputs (mac : Statics) : List Input → List Mac.Input
  | [] => []
  | input :: inputs => mac.toMacInput input :: (mac.step input).toMacInputs inputs

theorem toMac_run (inputs : List Input) (hstays : mac.StaysGeneric inputs) :
    (mac.run inputs).toMac = (mac.toMac.run (mac.toMacInputs inputs)).1 ∧
      (executed (mac.run inputs).trace).map MacCommand.toMac =
        (executed mac.trace).map MacCommand.toMac ++
          (mac.toMac.run (mac.toMacInputs inputs)).2.map Mac.Execution.command := by
  induction inputs generalizing mac with
  | nil => exact ⟨rfl, (List.append_nil _).symm⟩
  | cons input inputs ih =>
    obtain ⟨hmode, hstays⟩ := hstays
    obtain ⟨hstep, hcommands⟩ := toMac_step hmode input
    obtain ⟨hrun, hmore⟩ := ih hstays
    rw [toMacInputs, MacTask.run, Transducer.run_cons]
    rw [hcommands, List.append_assoc] at hmore
    rw [← hstep, List.map_append]
    exact ⟨hrun, hmore⟩

theorem run_inv {task : MacTask} (h : task.Inv) (inputs : List Mac.Input) :
    (task.run inputs).1.Inv := by
  induction inputs generalizing task with
  | nil => exact h
  | cons input inputs ih => exact ih (MacTask.step_inv h input)

/-- As long as the whole task runs in generic mode, it is the task that has only this mode, command
for command; so while a heartbeat awaits its answer the engine holds no datagram, and between two
turns nothing but that holds a command up. -/
theorem generic_refines (config : RadioConfig) (nextHbMs : UInt32) (inputs : List Input)
    (hconfig : config.transportMode = .genericFragmented)
    (hstays : (start config nextHbMs).StaysGeneric inputs) :
    let mac := (start config nextHbMs).run inputs
    let task := MacTask.run (.start nextHbMs []) ((start config nextHbMs).toMacInputs inputs)
    mac.toMac = task.1 ∧
      (executed mac.trace).map MacCommand.toMac = task.2.map Mac.Execution.command ∧
      (mac.tx.phase = .hbWait → mac.arq.Vacant) ∧
      (mac.stagedCmd ≠ none → mac.tx.phase = .hbWait) := by
  intro mac task
  obtain ⟨hmac, hcommands⟩ := toMac_run inputs hstays
  have hstart : (start config nextHbMs).toMac = .start nextHbMs [] := by
    rw [toMac, start, hconfig]
    rfl
  rw [hstart] at hmac hcommands
  have hinv : mac.toMac.Inv := by
    rw [hmac]
    exact run_inv (MacTask.start_inv nextHbMs []) _
  refine ⟨hmac, hcommands, hinv.vacant_of_hbWait, fun hstaged => hinv.staged ?_⟩
  exact mt Option.map_eq_none_iff.mp hstaged

/-- A heartbeat awaits its answer, a command waits for that, and a frame follows. -/
def beatThenScan : List Input :=
  [.turn (.calm .timeout 5), .request .scanBand, .turn (.calm .cmdQueue 6),
    .turn (.calm (.radio (buildControlPacket { subtype := .heartbeatAck }).toOption) 9),
    .host [1, 2], .turn (.calm .txWake 10)]

theorem generic_refines_beatThenScan :
    let mac := (start {} 1).run beatThenScan
    let task := MacTask.run (.start 1 []) ((start {} 1).toMacInputs beatThenScan)
    mac.toMac = task.1 ∧
      (executed mac.trace).map MacCommand.toMac = task.2.map Mac.Execution.command ∧
      (mac.tx.phase = .hbWait → mac.arq.Vacant) ∧
      (mac.stagedCmd ≠ none → mac.tx.phase = .hbWait) := by
  have hstays : (start {} 1).StaysGeneric beatThenScan := by
    refine ⟨?_, ?_, ?_, ?_, ?_, ?_, trivial⟩ <;> decide +kernel
  exact generic_refines {} 1 beatThenScan rfl hstays

end Statics

end FlrcTnc.Node
