import FlrcTnc.Config.Set
import FlrcTnc.Lib.SharedCall
import FlrcTnc.Node.Generic
import FlrcTnc.Node.Queue

/-! The command interface of `Mac.cpp`: tasks that call `requestApplyConfig` and `requestScanBand`
share `s_cmd` under `s_cmdGate`, and the MAC task executes what `s_cmd` holds when it gets to it. -/

namespace FlrcTnc.Node

open Config (radiolibErrNone)
open Interleaving

/-- The fields of `s_cmd` that the MAC task writes. -/
structure MacResult where
  result : Int16 := 0
  scanCount : UInt8 := 0
  deriving DecidableEq, Repr

instance : Inhabited MacResult := ⟨{}⟩

/-- What `executeStagedCommand` writes, where `applyConfig` returns `result` and `scanBand`
`scanCount`. -/
def MacCommand.answer (result : Int16) (scanCount : UInt8) : MacCommand → MacResult
  | .applyConfig _ => { result }
  | .scanBand => { result := radiolibErrNone, scanCount }

namespace Statics

variable {mac mac' : Statics}

/-! ### Commands of the task -/

/-- The commands that were ever sent to the task. -/
def commands (mac : Statics) : List MacCommand :=
  executed mac.trace ++ mac.stagedCmd.toList ++ mac.cmdQueue.toList

/-- Of the two places of a command one at most is taken. -/
def OneCommand (mac : Statics) : Prop := mac.stagedCmd = none ∨ mac.cmdQueue = none

/-- No command gets lost or comes up by itself, and none goes back to the queue. -/
structure KeepsCommands (mac mac' : Statics) : Prop where
  one : mac'.OneCommand
  commands : mac'.commands = mac.commands
  cmdQueue : mac'.cmdQueue = mac.cmdQueue ∨ mac'.cmdQueue = none

theorem executed_sendNative (mac : Statics) (ans : Answers) (now : UInt32) :
    executed (mac.sendNative ans now).trace = executed mac.trace := by
  rcases sendNative_cases mac ans now with ⟨_, heq⟩ | ⟨_, _, _, heq⟩
  · rw [heq]
    exact executed_emit mac rfl
  · rw [heq]
    exact (executed_emit _ rfl).trans (executed_emit _ rfl)

theorem sendNative_places (mac : Statics) (ans : Answers) (now : UInt32) :
    (mac.sendNative ans now).cmdQueue = mac.cmdQueue ∧
      (mac.sendNative ans now).stagedCmd = mac.stagedCmd := by
  rcases sendNative_cases mac ans now with ⟨_, heq⟩ | ⟨_, _, _, heq⟩ <;> rw [heq] <;>
    exact ⟨rfl, rfl⟩

theorem move_commands (hone : mac.OneCommand) (hmove : Move mac mac') : KeepsCommands mac mac' := by
  have hstill {m : Statics} (hqueue : m.cmdQueue = mac.cmdQueue)
      (hstaged : m.stagedCmd = mac.stagedCmd)
      (hexecuted : executed m.trace = executed mac.trace) : KeepsCommands mac m := by
    refine ⟨?_, ?_, .inl hqueue⟩
    · rw [OneCommand, hqueue, hstaged]
      exact hone
    · rw [commands, commands, hqueue, hstaged, hexecuted]
  have hemit {m : Statics} {event : Event} (h : event.executed? = none)
      (hqueue : m.cmdQueue = mac.cmdQueue) (hstaged : m.stagedCmd = mac.stagedCmd)
      (hexecuted : executed m.trace = executed mac.trace) : KeepsCommands mac (m.emit event) :=
    hstill hqueue hstaged ((executed_emit m h).trans hexecuted)
  have hexecute {m : Statics} {command : MacCommand} (hcmd : mac.stagedCmd = some command)
      (hqueue : m.cmdQueue = mac.cmdQueue) (hstaged : m.stagedCmd = none)
      (htrace : m.trace = mac.trace ++ [.executed command]) : KeepsCommands mac m := by
    refine ⟨.inl hstaged, ?_, .inl hqueue⟩
    rw [commands, commands, hcmd, hqueue, hstaged, htrace, executed, executed,
      List.filterMap_append, Option.toList_none, List.append_nil]
    rfl
  cases hmove with
  | clocks | tries | payloadActivity | unanswered | backedOff => exact hstill rfl rfl rfl
  | staged command hcmd =>
    have hnone : mac.stagedCmd = none :=
      hone.resolve_right (by rw [hcmd]; exact Option.some_ne_none _)
    refine ⟨.inr rfl, ?_, .inr rfl⟩
    simp [commands, hcmd, hnone]
  | finished command hcmd => exact hexecute hcmd rfl rfl rfl
  | configured config hcmd => exact hexecute hcmd rfl rfl rfl
  | startReceive | received | heartbeatLost | invalid => exact hemit rfl rfl rfl rfl
  | heartbeat | heartbeatV3 => exact hstill rfl rfl (executed_emit mac rfl)
  | delivered | replied | answered | repliedV3 | answeredV3 | linkStateV3 =>
    exact hstill rfl rfl ((executed_emit _ rfl).trans (executed_emit mac rfl))
  | acked packet millis now ans =>
    refine hstill rfl rfl ((executed_runArq _ ans _).trans ?_)
    exact (executed_emit _ rfl).trans (executed_emit mac rfl)
  | took packet type now ans =>
    exact hstill rfl rfl ((executed_runArq _ ans _).trans (executed_emit mac rfl))
  | flushed ans now => exact hstill rfl rfl (executed_runArq mac ans _)
  | ticked ans now => exact hstill rfl rfl (executed_runArq mac ans _)
  | passed ans frame txQueue =>
    refine hemit ?_ rfl rfl (executed_runArq (mac.take frame txQueue) ans _)
    split <;> rfl
  | sent ans now frame txQueue =>
    obtain ⟨hqueue, hstaged⟩ := sendNative_places (mac.take frame txQueue) ans now
    exact hstill hqueue hstaged (executed_sendNative (mac.take frame txQueue) ans now)
  | dispatched ans now =>
    obtain ⟨hqueue, hstaged⟩ := sendNative_places mac ans now
    exact hstill hqueue hstaged (executed_sendNative mac ans now)

theorem KeepsCommands.refl (hone : mac.OneCommand) : KeepsCommands mac mac := ⟨hone, rfl, .inl rfl⟩

theorem KeepsCommands.trans {mac'' : Statics} (h : KeepsCommands mac mac')
    (h' : KeepsCommands mac' mac'') : KeepsCommands mac mac'' := by
  refine ⟨h'.one, h'.commands.trans h.commands, ?_⟩
  rcases h'.cmdQueue with heq | hnone
  · rw [heq]
    exact h.cmdQueue
  · exact .inr hnone

/-- A turn of the loop keeps the commands. -/
theorem loop_commands (h : mac.Current) (hone : mac.OneCommand) (turn : Turn) :
    KeepsCommands mac (mac.loop turn) :=
  (loop_moves h turn).keeps (P := KeepsCommands mac)
    (fun _ _ hm hmove => hm.trans (move_commands hm.one hmove)) (.refl hone)

/-- What a turn executes is what it was sent and has not yet executed. -/
theorem loop_executes (h : mac.Current) (hone : mac.OneCommand) (turn : Turn) :
    ∃ more, executed (mac.loop turn).trace = executed mac.trace ++ more ∧
      more ++ ((mac.loop turn).stagedCmd.toList ++ (mac.loop turn).cmdQueue.toList) =
        mac.stagedCmd.toList ++ mac.cmdQueue.toList := by
  obtain ⟨events, hevents⟩ := (loop_moves h turn).trace
  have hexecuted : executed (mac.loop turn).trace = executed mac.trace ++ executed events := by
    rw [← hevents, executed, List.filterMap_append]
    rfl
  refine ⟨executed events, hexecuted, ?_⟩
  have hcommands := (loop_commands h hone turn).commands
  rw [commands, commands, hexecuted] at hcommands
  simp only [List.append_assoc] at hcommands
  exact List.append_cancel_left hcommands

/-- What a turn does with the command that was sent: nothing, or it takes it from the queue, or it
executes it, be it from the queue or staged in a turn before. -/
theorem loop_command (h : mac.Current) (hone : mac.OneCommand) (turn : Turn) :
    ((mac.loop turn).cmdQueue = mac.cmdQueue ∧ (mac.loop turn).stagedCmd = mac.stagedCmd ∧
        executed (mac.loop turn).trace = executed mac.trace) ∨
      (∃ c, mac.cmdQueue = some c ∧ (mac.loop turn).cmdQueue = none ∧
        (mac.loop turn).stagedCmd = some c ∧
        executed (mac.loop turn).trace = executed mac.trace) ∨
      ∃ c, (mac.cmdQueue = some c ∨ mac.cmdQueue = none ∧ mac.stagedCmd = some c) ∧
        (mac.loop turn).cmdQueue = none ∧ (mac.loop turn).stagedCmd = none ∧
        executed (mac.loop turn).trace = executed mac.trace ++ [c] := by
  obtain ⟨more, hexecuted, hmore⟩ := loop_executes h hone turn
  have hkept := (loop_commands h hone turn).cmdQueue
  rw [hexecuted]
  cases hqueue : mac.cmdQueue with
  | none =>
    have hqueue' : (mac.loop turn).cmdQueue = none := by
      rw [hqueue, or_self_iff] at hkept
      exact hkept
    rw [hqueue, hqueue', Option.toList_none, List.append_nil, List.append_nil] at hmore
    cases hstaged : mac.stagedCmd with
    | none =>
      rw [hstaged, Option.toList_none, List.append_eq_nil_iff, Option.toList_eq_nil_iff] at hmore
      exact .inl ⟨hqueue', hmore.2, by rw [hmore.1, List.append_nil]⟩
    | some c =>
      rw [hstaged, Option.toList_some, List.append_eq_singleton_iff, Option.toList_eq_nil_iff]
        at hmore
      rcases hmore with ⟨hnil, hstaged'⟩ | ⟨hone, hstaged'⟩
      · refine .inl ⟨hqueue', Option.toList_eq_singleton_iff.mp hstaged', ?_⟩
        rw [hnil, List.append_nil]
      · exact .inr (.inr ⟨c, .inr ⟨rfl, rfl⟩, hqueue', hstaged', by rw [hone]⟩)
  | some c =>
    have hstaged : mac.stagedCmd = none :=
      hone.resolve_right (by rw [hqueue]; exact Option.some_ne_none c)
    rw [hqueue, hstaged, Option.toList_none, Option.toList_some, List.nil_append,
      List.append_eq_singleton_iff, List.append_eq_singleton_iff, List.append_eq_nil_iff,
      Option.toList_eq_nil_iff, Option.toList_eq_nil_iff, Option.toList_eq_singleton_iff,
      Option.toList_eq_singleton_iff] at hmore
    rcases hmore with ⟨hnil, ⟨hstaged', hqueue'⟩ | ⟨hstaged', hqueue'⟩⟩ | ⟨hone, hstaged', hqueue'⟩
    · exact .inl ⟨hqueue', hstaged'.trans hstaged.symm, by rw [hnil, List.append_nil]⟩
    · exact .inr (.inl ⟨c, rfl, hqueue', hstaged', by rw [hnil, List.append_nil]⟩)
    · exact .inr (.inr ⟨c, .inl rfl, hqueue', hstaged', by rw [hone]⟩)

end Statics

/-! ### The interface -/

/-- The calls of the tasks `ι`, with their log, and the MAC task. -/
structure Requests (ι : Type*) where
  calls : SharedCall.State ι MacCommand MacResult := {}
  log : List (SharedCall.Output ι MacCommand MacResult) := []
  mac : Statics

/-- A task calls one of the two functions or goes on with its call, the host sends a frame, or the
MAC task takes a turn, in which `applyConfig` or `scanBand` may return what is given. -/
inductive RequestInput (ι : Type*)
  | call (i : ι) (command : MacCommand)
  | advance (i : ι)
  | host (frame : List UInt8)
  | turn (turn : Turn) (result : Int16) (scanCount : UInt8)

/-- What the MAC task does with `s_cmd` in a turn from `mac` to `mac'`: it takes the pointer from
`s_cmdQueue`, and it executes and gives `s_cmdDone`. -/
def served (mac mac' : Statics) (answer : MacCommand → MacResult) {ι : Type*} :
    List (SharedCall.Input ι MacCommand MacResult) :=
  (if mac.cmdQueue.isSome ∧ mac'.cmdQueue.isNone then [.receive] else []) ++
    if (executed mac.trace).length < (executed mac'.trace).length then [.execute answer] else []

namespace Requests

variable {ι : Type*} [DecidableEq ι]

def serve (r : Requests ι) (inputs : List (SharedCall.Input ι MacCommand MacResult)) :
    Requests ι :=
  { r with
    calls := (SharedCall.run r.calls inputs).1
    log := r.log ++ (SharedCall.run r.calls inputs).2 }

/-- The pointer gets to `s_cmdQueue` with an `xQueueSend`. -/
def step (r : Requests ι) : RequestInput ι → Requests ι
  | .call i command => r.serve [.call i command]
  | .advance i =>
    let after := r.serve [.advance i]
    if ¬ r.calls.queued ∧ after.calls.queued then
      { after with
        mac := after.calls.request.elim r.mac fun command => r.mac.step (.request command) }
    else after
  | .host frame => { r with mac := r.mac.step (.host frame) }
  | .turn turn result scanCount =>
    let mac := r.mac.step (.turn { turn with configApplied := result = radiolibErrNone })
    { r.serve (served r.mac mac (MacCommand.answer result scanCount)) with mac }

def run (r : Requests ι) (inputs : List (RequestInput ι)) : Requests ι := inputs.foldl step r

def start (config : RadioConfig) (nextHbMs : UInt32) : Requests ι where
  mac := .start config nextHbMs

/-- The MAC task has the command that `s_cmd` holds, in the place where the word of it is. -/
structure Coupled (r : Requests ι) : Prop where
  serves : SharedCall.Serves r.log r.calls
  current : r.mac.Current
  cmdQueue : r.mac.cmdQueue = if r.calls.queued then r.calls.request else none
  stagedCmd : r.mac.stagedCmd = if r.calls.staged then r.calls.request else none
  executed : executed r.mac.trace = (SharedCall.executed r.log).map Prod.fst

variable {r : Requests ι}

theorem start_coupled (config : RadioConfig) (nextHbMs : UInt32) :
    (start config nextHbMs : Requests ι).Coupled where
  serves := .start
  current := Statics.start_current config nextHbMs
  cmdQueue := rfl
  stagedCmd := rfl
  executed := rfl

/-- The calls go on, and the MAC task with them. -/
theorem Coupled.goes (h : r.Coupled) {inputs : List (SharedCall.Input ι MacCommand MacResult)}
    {after : SharedCall.State ι MacCommand MacResult ×
      List (SharedCall.Output ι MacCommand MacResult)}
    {mac : Statics} (hrun : SharedCall.run r.calls inputs = after) (hcurrent : mac.Current)
    (hqueue : mac.cmdQueue = if after.1.queued then after.1.request else none)
    (hstaged : mac.stagedCmd = if after.1.staged then after.1.request else none)
    (hexecuted : Node.executed mac.trace =
      Node.executed r.mac.trace ++ (SharedCall.executed after.2).map Prod.fst) :
    Coupled { r.serve inputs with mac } := by
  have hserves := h.serves.run inputs
  rw [hrun] at hserves
  rw [Requests.serve, hrun]
  refine ⟨hserves, hcurrent, hqueue, hstaged, ?_⟩
  rw [hexecuted, SharedCall.executed_append, List.map_append, h.executed]

/-- A step of a task that leaves the word of `s_cmd` where it is. -/
theorem Coupled.serve (h : r.Coupled) {input : SharedCall.Input ι MacCommand MacResult}
    (hexecuted : SharedCall.executed (SharedCall.step r.calls input).2 = [])
    (hstaged : (SharedCall.step r.calls input).1.staged = r.calls.staged)
    (hqueued : (SharedCall.step r.calls input).1.queued = r.calls.queued)
    (hrequest : r.calls.queued ∨ r.calls.staged →
      (SharedCall.step r.calls input).1.request = r.calls.request) :
    (r.serve [input]).Coupled := by
  apply h.goes (Transducer.run_singleton ..) h.current
  · rw [hqueued, h.cmdQueue]
    split
    · next hword => exact (hrequest (.inl hword)).symm
    · rfl
  · rw [hstaged, h.stagedCmd]
    split
    · next hword => exact (hrequest (.inr hword)).symm
    · rfl
  · rw [hexecuted, List.map_nil, List.append_nil]

theorem Coupled.call (h : r.Coupled) (i : ι) (command : MacCommand) :
    (r.step (.call i command)).Coupled := by
  rw [step]
  apply h.serve
  all_goals
    rw [SharedCall.step]
    cases r.calls.phase i <;> first | rfl | exact fun _ => rfl

/-- With its `xQueueSend` a task sends to an empty queue. -/
theorem Coupled.advance (h : r.Coupled) (i : ι) : (r.step (.advance i)).Coupled := by
  obtain ⟨hexecuted, hstaged, ⟨hqueued, hrequest⟩ | ⟨hqueued, hnone, hsent, c, hrequest⟩⟩ :=
    h.serves.advance_word i
  · have hcoupled : (r.serve [.advance i]).Coupled := h.serve hexecuted hstaged hqueued hrequest
    rw [step, if_neg]
    · exact hcoupled
    · rintro ⟨hnot, hword⟩
      exact hnot (hqueued ▸ hword)
  · have hplaces : r.mac.cmdQueue = none ∧ r.mac.stagedCmd = none := by
      rw [h.cmdQueue, h.stagedCmd, hqueued, hnone]
      exact ⟨rfl, rfl⟩
    have hmac : r.mac.step (.request c) = { r.mac with cmdQueue := some c } := by
      have hfree : r.mac.cmdQueue.isNone ∧ r.mac.stagedCmd.isNone := by
        rw [hplaces.1, hplaces.2]
        exact ⟨rfl, rfl⟩
      rw [Statics.step, if_pos hfree]
    have hrun : SharedCall.run r.calls [.advance i] = SharedCall.advance r.calls i :=
      Transducer.run_singleton ..
    rw [step, if_pos]
    · rw [show (r.serve [.advance i]).calls = (SharedCall.advance r.calls i).1 from
        congrArg Prod.fst hrun, hrequest, Option.elim_some]
      apply h.goes hrun (h.current.step _)
      · rw [hmac, hsent, hrequest]
        rfl
      · rw [hmac, hstaged, hnone]
        exact hplaces.2
      · rw [hmac, hexecuted, List.map_nil, List.append_nil]
    · rw [Requests.serve, hrun, hqueued]
      exact ⟨Bool.false_ne_true, hsent⟩

theorem Coupled.host (h : r.Coupled) (frame : List UInt8) : (r.step (.host frame)).Coupled := by
  have hcurrent := h.current.step (.host frame)
  rw [step]
  rw [Statics.step] at hcurrent ⊢
  split at hcurrent
  · next hroom =>
    rw [if_pos hroom]
    exact ⟨h.serves, hcurrent, h.cmdQueue, h.stagedCmd,
      (Statics.executed_emit _ rfl).trans h.executed⟩
  · next hfull =>
    rw [if_neg hfull]
    exact h

/-- The word of `s_cmd` is in one place. -/
theorem Coupled.oneCommand (h : r.Coupled) : r.mac.OneCommand := by
  rw [Statics.OneCommand, h.stagedCmd, h.cmdQueue]
  cases hstaged : r.calls.staged with
  | false => exact .inl rfl
  | true =>
    rw [(h.serves.of_staged hstaged).1]
    exact .inr rfl

/-- The places of the MAC task tell where the word of `s_cmd` is. -/
theorem Coupled.of_cmdQueue (h : r.Coupled) {c : MacCommand} (hqueue : r.mac.cmdQueue = some c) :
    r.calls.queued = true ∧ r.calls.staged = false ∧ r.calls.request = some c := by
  have hword := h.cmdQueue.symm.trans hqueue
  split at hword
  · next hqueued => exact ⟨hqueued, (h.serves.of_queued hqueued).1, hword⟩
  · cases hword

theorem Coupled.of_stagedCmd (h : r.Coupled) {c : MacCommand} (hcmd : r.mac.stagedCmd = some c) :
    r.calls.queued = false ∧ r.calls.staged = true ∧ r.calls.request = some c := by
  have hword := h.stagedCmd.symm.trans hcmd
  split at hword
  · next hstaged => exact ⟨(h.serves.of_staged hstaged).1, hstaged, hword⟩
  · cases hword

/-- A turn of the MAC task does with `s_cmd` what it does with the command. -/
theorem Coupled.turn (h : r.Coupled) (turn : Turn) (result : Int16) (scanCount : UInt8) :
    (r.step (.turn turn result scanCount)).Coupled := by
  have hcommand := Statics.loop_command h.current h.oneCommand
    { turn with configApplied := result = radiolibErrNone }
  have hcurrent := h.current.step (.turn { turn with configApplied := result = radiolibErrNone })
  rw [step]
  rw [Statics.step] at hcurrent ⊢
  generalize r.mac.loop { turn with configApplied := result = radiolibErrNone } = mac at *
  generalize MacCommand.answer result scanCount = answer
  rcases hcommand with ⟨hqueue, hstaged, hexecuted⟩ | ⟨c, hqueue, hqueue', hstaged', hexecuted⟩ |
    ⟨c, ⟨hqueue⟩ | ⟨hqueue, hstaged⟩, hqueue', hstaged', hexecuted⟩
  · have hserved : served r.mac mac answer = ([] : List (SharedCall.Input ι _ _)) := by
      rw [served, hqueue, hexecuted, if_neg, if_neg (lt_irrefl _), List.append_nil]
      cases r.mac.cmdQueue <;> simp
    rw [hserved]
    have hrun : SharedCall.run r.calls [] = (r.calls, []) := rfl
    apply h.goes hrun hcurrent (hqueue.trans h.cmdQueue) (hstaged.trans h.stagedCmd)
    exact hexecuted.trans (List.append_nil _).symm
  · have hserved : served r.mac mac answer = ([.receive] : List (SharedCall.Input ι _ _)) := by
      rw [served, hqueue, hqueue', hexecuted, if_pos ⟨rfl, rfl⟩, if_neg (lt_irrefl _),
        List.append_nil]
    obtain ⟨hqueued, _, hrequest⟩ := h.of_cmdQueue hqueue
    rw [hserved]
    apply h.goes (SharedCall.run_receive hqueued) hcurrent hqueue' (hstaged'.trans hrequest.symm)
    exact hexecuted.trans (List.append_nil _).symm
  · have hserved : served r.mac mac answer =
        ([.receive, .execute answer] : List (SharedCall.Input ι _ _)) := by
      rw [served, hqueue, hqueue', hexecuted, if_pos ⟨rfl, rfl⟩, if_pos]
      · rfl
      · simp
    obtain ⟨hqueued, _, hrequest⟩ := h.of_cmdQueue hqueue
    rw [hserved]
    exact h.goes (SharedCall.run_receive_execute hqueued hrequest answer) hcurrent hqueue' hstaged'
      hexecuted
  · have hserved : served r.mac mac answer =
        ([.execute answer] : List (SharedCall.Input ι _ _)) := by
      rw [served, hqueue, hqueue', hexecuted, if_neg, if_pos]
      · rfl
      · simp
      · simp
    obtain ⟨hqueued, hword, hrequest⟩ := h.of_stagedCmd hstaged
    rw [hserved]
    apply h.goes (SharedCall.run_execute hword hrequest answer) hcurrent _ hstaged' hexecuted
    rw [hqueue', hqueued]
    rfl

theorem Coupled.step (h : r.Coupled) (input : RequestInput ι) : (r.step input).Coupled := by
  cases input with
  | call i command => exact h.call i command
  | advance i => exact h.advance i
  | host frame => exact h.host frame
  | turn turn result scanCount => exact h.turn turn result scanCount

theorem Coupled.run (h : r.Coupled) (inputs : List (RequestInput ι)) : (r.run inputs).Coupled := by
  induction inputs generalizing r with
  | nil => exact h
  | cons input inputs ih => exact ih (h.step input)

/-- A task that waits for `s_cmdDone` waits for its own command. -/
theorem Coupled.of_sent (h : r.Coupled) {i : ι} {c : MacCommand}
    (hphase : r.calls.phase i = .sent c) :
    r.mac.cmdQueue = some c ∨ r.mac.stagedCmd = some c ∨ r.calls.done = true := by
  have hgate := (h.serves.inside i).mp (by rw [hphase]; rfl)
  have hstage := h.serves.stage
  rw [SharedCall.holder_eq hgate, hphase] at hstage
  rcases hstage with ⟨hat | hat, hrequest, _⟩ | ⟨hat, _⟩
  · refine .inl ?_
    rw [h.cmdQueue, hat.queued, if_pos rfl, hrequest]
  · refine .inr (.inl ?_)
    rw [h.stagedCmd, hat.staged, if_pos rfl, hrequest]
  · exact .inr (.inr hat.done)

/-- The log of what was executed is that of what was returned, up to the call under way. -/
theorem Coupled.executed_returned (h : r.Coupled) :
    ∃ rest, SharedCall.executed r.log = (SharedCall.returned r.log).map Prod.snd ++ rest ∧
      rest.length ≤ 1 := by
  have hstage := h.serves.stage
  generalize r.calls.holder = phase at hstage
  have hsame {executed returned : List (MacCommand × MacResult)} (heq : executed = returned) :
      ∃ rest, executed = returned ++ rest ∧ rest.length ≤ 1 :=
    ⟨[], heq.trans (List.append_nil _).symm, Nat.zero_le 1⟩
  cases phase with
  | ready | waiting | entered => exact hsame hstage.2
  | filled => exact hsame hstage.2.2
  | sent c =>
    rcases hstage with ⟨_, _, heq⟩ | ⟨_, heq⟩
    · exact hsame heq
    · exact ⟨_, heq, le_refl 1⟩
  | done c => exact ⟨_, hstage.2, le_refl 1⟩

/-- However the calls of any tasks, the frames of the host and the turns of the MAC task follow each
other: the MAC task executes one command for each call, in the order in which they return, and each
returns what its own command came to; only the last one executed may have yet to return. -/
theorem requests_are_served (config : RadioConfig) (nextHbMs : UInt32)
    (inputs : List (RequestInput ι)) :
    let r := (start config nextHbMs : Requests ι).run inputs
    Node.executed r.mac.trace = (SharedCall.executed r.log).map Prod.fst ∧
      (∃ rest, SharedCall.executed r.log = (SharedCall.returned r.log).map Prod.snd ++ rest ∧
        rest.length ≤ 1) ∧
      (∀ i, eventsOf i (SharedCall.called r.log) =
        (eventsOf i (SharedCall.returned r.log)).map Prod.fst ++ (r.calls.phase i).pending) ∧
      ∀ i c, r.calls.phase i = .sent c →
        r.mac.cmdQueue = some c ∨ r.mac.stagedCmd = some c ∨ r.calls.done = true := by
  have h := (start_coupled config nextHbMs).run inputs
  exact ⟨h.executed, h.executed_returned, h.serves.order, fun _ _ => h.of_sent⟩

end Requests

end FlrcTnc.Node
