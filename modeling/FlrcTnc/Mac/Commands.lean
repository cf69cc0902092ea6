import FlrcTnc.Arq.Deadline
import FlrcTnc.Arq.GiveUp
import FlrcTnc.Mac.Loop

/-! When the MAC task runs a staged command.  It waits for the phase `IDLE`, which in generic mode
only a heartbeat ever leaves: the datagrams in flight are the engine's, and the command does not
wait for them. -/

namespace FlrcTnc.Arq

namespace ArqEngine

variable {e : ArqEngine}

theorem vacant_iff_liveCount : e.Vacant ↔ e.books.liveCount = 0 := by
  rw [vacant_iff_live, Books.liveCount, Slots.count, List.countP_eq_zero]
  constructor
  · intro h i _ hlive
    exact Bool.false_ne_true ((h i).symm.trans hlive)
  · intro h i
    exact eq_false_of_ne_true (h i (List.mem_finRange i))

theorem vacant_iff_counts : e.Vacant ↔ e.txQueuedCount = 0 ∧ e.txActiveCount = 0 := by
  rw [txQueuedCount, txActiveCount, Exec.txCount_eq_zero_iff (e := { e with }),
    Exec.txCount_eq_zero_iff (e := { e with })]
  constructor
  · intro h
    exact ⟨fun i => by rw [h i]; decide, fun i => by rw [h i]; decide⟩
  · rintro ⟨hqueued, hopen⟩ i
    cases hstate : (e.txSlots i).state with
    | empty => rfl
    | queued => exact absurd hstate (hqueued i)
    | «open» => exact absurd hstate (hopen i)

/-- Only `onTxDatagram` brings in a datagram to send. -/
theorem Vacant.run (h : e.Vacant) (hvalid : e.Valid) (ha : e.Accounts) (cb : ArqCallbacks)
    (call : Call)
    (hcall : e.accepts call = false) : (e.run cb call).Vacant := by
  obtain ⟨_, htally⟩ := run_accounts hvalid ha cb call
  have hlive := htally.live
  rw [vacant_iff_liveCount] at h ⊢
  rw [hcall, h] at hlive
  simp only [Bool.toNat_false] at hlive
  omega

theorem vacant_of_not_pending (h : ¬ e.hasPendingWork) : e.Vacant := by
  rw [hasPendingWork_iff] at h
  simp only [not_or, not_exists] at h
  rw [vacant_iff_counts, txQueuedCount, txActiveCount, Exec.txCount_eq_zero_iff (e := { e with }),
    Exec.txCount_eq_zero_iff (e := { e with })]
  exact ⟨h.2.2.1, h.2.1⟩

end ArqEngine

end FlrcTnc.Arq

namespace FlrcTnc.Mac

open Arq Framing Kiss Serial

/-- `executeStagedCommand` finds no datagram `QUEUED` or `OPEN`. -/
def Execution.BetweenDatagrams (x : Execution) : Prop :=
  x.before.txQueuedCount = 0 ∧ x.before.txActiveCount = 0

/-- A datagram that the engine held is gone behind the command. -/
def Execution.Discards (x : Execution) : Prop :=
  ∃ i, (x.before.txSlots i).state ≠ .empty ∧ x.after.txSlots i ≠ x.before.txSlots i

theorem Execution.BetweenDatagrams.keeps {x : Execution} (h : x.BetweenDatagrams) :
    ¬ x.Discards := by
  rintro ⟨i, hlive, _⟩
  exact hlive (ArqEngine.vacant_iff_counts.mpr h i)

namespace MacTask

/-- The turn that takes a command from `cmdQueue` finds the engine without a datagram, or the tick
of the turn gives up the last one. -/
def TakesBetween (mac : MacTask) : Input → Prop
  | .turn turn => mac.transportMode = .genericFragmented → turn.wake = .cmdQueue →
      mac.cmdQueue ≠ none →
      mac.arq.Vacant ∨ mac.arq.GivesUpLast turn.tick turn.now
  | .host _ | .request _ => True

/-- The engine is in order, and a heartbeat is under way only while it holds no datagram. -/
structure Ordered (mac : MacTask) : Prop where
  valid : mac.arq.Valid
  accounts : mac.arq.Accounts
  phase : mac.phase = .idle ∨ mac.phase = .hbWait ∧ mac.arq.Vacant

/-- Between two turns only a heartbeat holds a command up. -/
structure Inv (mac : MacTask) : Prop extends Ordered mac where
  staged : mac.stagedCmd ≠ none → mac.phase = .hbWait

variable {mac : MacTask}

theorem Ordered.vacant_of_hbWait (h : mac.Ordered) (hphase : mac.phase = .hbWait) :
    mac.arq.Vacant := by
  rcases h.phase with hidle | ⟨_, hvacant⟩
  · rw [hidle] at hphase
    cases hphase
  · exact hvacant

theorem Ordered.postFrame (h : mac.Ordered) (now random : UInt32) :
    (mac.postFrame now random).Ordered :=
  ⟨h.valid, h.accounts, .inl rfl⟩

theorem Ordered.run (h : mac.Ordered) (cb : ArqCallbacks) (call : Call)
    (hcall : mac.arq.accepts call = false) :
    Ordered { mac with arq := (mac.arq.run cb call).toArqEngine } where
  valid := (ArqEngine.run_spec h.valid cb call).1
  accounts := (ArqEngine.run_accounts h.valid h.accounts cb call).1
  phase := h.phase.imp_right fun ⟨hphase, hvacant⟩ =>
    ⟨hphase, hvacant.run h.valid h.accounts cb call hcall⟩

/-! ### The wait and `serviceTx` -/

/-- What a radio event leaves as it was. -/
structure Receives (mac mac' : MacTask) : Prop where
  ordered : mac'.Ordered
  vacant : mac.arq.Vacant → mac'.arq.Vacant
  staged : mac'.stagedCmd = mac.stagedCmd

theorem Ordered.receives (h : mac.Ordered) : Receives mac mac := ⟨h, id, rfl⟩

theorem handleV3RadioPacket_receives (h : mac.Ordered) (event : RadioEvent) (packet : Packet) :
    Receives mac (mac.handleV3RadioPacket event packet) := by
  have hreceive := h.run event.receive (.onRxPacket packet event.received) rfl
  have hvacant (hold : mac.arq.Vacant) :=
    hold.run h.valid h.accounts event.receive (.onRxPacket packet event.received) rfl
  unfold handleV3RadioPacket
  split
  · exact h.receives
  · split
    · exact h.receives
    · unfold handleV3Control
      split
      · exact ⟨h.postFrame _ _, id, rfl⟩
      · exact h.receives
  · dsimp only
    split
    · refine ⟨hreceive.run event.flush (.flushPendingAck event.flushed) rfl, fun hold => ?_, rfl⟩
      exact (hvacant hold).run hreceive.valid hreceive.accounts event.flush
        (.flushPendingAck event.flushed) rfl
    · exact ⟨hreceive, hvacant, rfl⟩

theorem handleRadioEvent_receives (h : mac.Ordered) (event : RadioEvent) :
    Receives mac (mac.handleRadioEvent event) := by
  unfold handleRadioEvent
  split
  · exact h.receives
  · split
    · exact h.receives
    · exact handleV3RadioPacket_receives h event _

/-- The wait leaves the staged command, or stages the one that was requested. -/
theorem wakeUp_cases (h : mac.Ordered) (wake : Wake) :
    Receives mac (mac.wakeUp wake) ∧ (wake = .cmdQueue → mac.cmdQueue = none) ∨
      wake = .cmdQueue ∧ ∃ command, mac.cmdQueue = some command ∧
        mac.wakeUp wake = { mac with cmdQueue := none, stagedCmd := some command } := by
  unfold wakeUp
  split
  · exact .inl ⟨handleRadioEvent_receives h _, fun hwake => by cases hwake⟩
  · split
    · next hnone => exact .inl ⟨h.receives, fun _ => hnone⟩
    · next command hsome => exact .inr ⟨rfl, command, hsome, rfl⟩
  · exact .inl ⟨h.receives, fun hwake => by cases hwake⟩
  · exact .inl ⟨h.receives, fun hwake => by cases hwake⟩

theorem wakeUp_ordered (h : mac.Ordered) (wake : Wake) :
    (mac.wakeUp wake).Ordered ∧ (mac.arq.Vacant → (mac.wakeUp wake).arq.Vacant) := by
  rcases wakeUp_cases h wake with ⟨hreceives, _⟩ | ⟨_, command, _, heq⟩
  · exact ⟨hreceives.ordered, hreceives.vacant⟩
  · rw [heq]
    exact ⟨⟨h.valid, h.accounts, h.phase⟩, id⟩

theorem serviceTx_arq (mac : MacTask) (turn : Turn) :
    (mac.serviceTx turn).arq = (mac.arq.run turn.tick (.onTick turn.now)).toArqEngine := by
  unfold serviceTx
  dsimp only
  split <;> rfl

theorem serviceTx_staged (mac : MacTask) (turn : Turn) :
    (mac.serviceTx turn).stagedCmd = mac.stagedCmd := by
  unfold serviceTx
  dsimp only
  split <;> rfl

theorem serviceTx_idle {turn : Turn} (h : mac.phase = .idle) :
    (mac.serviceTx turn).phase = .idle := by
  unfold serviceTx
  rw [if_neg (fun hhb => by rw [h] at hhb; cases hhb.1)]
  exact h

theorem serviceTx_ordered (h : mac.Ordered) (turn : Turn) : (mac.serviceTx turn).Ordered := by
  unfold serviceTx
  dsimp only
  split
  · exact (h.postFrame _ _).run turn.tick (.onTick turn.now) rfl
  · exact h.run turn.tick (.onTick turn.now) rfl

theorem serviceTx_vacant (h : mac.Ordered) (turn : Turn) (hvacant : mac.arq.Vacant) :
    (mac.serviceTx turn).arq.Vacant := by
  rw [serviceTx_arq]
  exact hvacant.run h.valid h.accounts turn.tick (.onTick turn.now) rfl

/-! ### `serviceIdle` -/

theorem executeStagedCommand_inv (h : mac.Ordered) (hidle : mac.phase = .idle) (turn : Turn)
    (command : MacCommand) : (mac.executeStagedCommand turn command).Inv := by
  cases command with
  | scanBand => exact ⟨⟨h.valid, h.accounts, .inl hidle⟩, fun hstaged => absurd rfl hstaged⟩
  | applyConfig transportMode =>
    rw [executeStagedCommand]
    split
    · exact ⟨⟨ArqEngine.reset_valid arqConfig, ArqEngine.reset_accounts arqConfig, .inl rfl⟩,
        fun hstaged => absurd rfl hstaged⟩
    · exact ⟨⟨h.valid, h.accounts, .inl hidle⟩, fun hstaged => absurd rfl hstaged⟩

theorem serviceHeartbeat_inv (h : mac.Inv) (turn : Turn) (hnone : mac.stagedCmd = none) :
    (mac.serviceHeartbeat turn).Inv := by
  have hstaged {command : Option MacCommand} {P : Prop} (hcommand : command = mac.stagedCmd) :
      command ≠ none → P := fun hsome => absurd (hcommand.trans hnone) hsome
  unfold serviceHeartbeat
  split
  · exact h
  next hpending =>
  split
  · split
    · unfold startHeartbeat
      split
      · exact h
      · split
        · exact ⟨⟨h.valid, h.accounts, .inr ⟨rfl, ArqEngine.vacant_of_not_pending hpending⟩⟩,
            hstaged rfl⟩
        · exact ⟨⟨h.valid, h.accounts, h.phase⟩, hstaged rfl⟩
    · exact ⟨⟨h.valid, h.accounts, h.phase⟩, hstaged rfl⟩
  · exact h

theorem serviceWork_inv (h : mac.Ordered) (hidle : mac.phase = .idle) (turn : Turn)
    (hnone : mac.stagedCmd = none) : (mac.serviceWork turn).Inv := by
  have hinv : mac.Inv := ⟨h, fun hsome => absurd hnone hsome⟩
  unfold serviceWork
  dsimp only
  split
  · split
    · split
      · exact ⟨⟨h.valid, h.accounts, h.phase⟩, fun hsome => absurd hnone hsome⟩
      · exact ⟨⟨(ArqEngine.run_spec h.valid _ _).1,
          (ArqEngine.run_accounts h.valid h.accounts _ _).1,
          .inl hidle⟩, fun hsome => absurd hnone hsome⟩
    · exact serviceHeartbeat_inv hinv turn hnone
  · exact serviceHeartbeat_inv hinv turn hnone

theorem serviceIdle_inv (h : mac.Ordered) (turn : Turn) : (mac.serviceIdle turn).1.Inv := by
  unfold serviceIdle
  split
  · next hbusy =>
    have hhb : mac.phase = .hbWait := (h.phase.resolve_left hbusy).1
    exact ⟨h, fun _ => hhb⟩
  next hidle =>
  rw [not_not] at hidle
  split
  · exact executeStagedCommand_inv h hidle turn _
  · next hnone => exact serviceWork_inv h hidle turn hnone

theorem serviceIdle_executions (mac : MacTask) (turn : Turn) {P : ArqEngine → Prop} :
    (∀ x ∈ (mac.serviceIdle turn).2, P x.before) ↔
      (mac.phase = .idle → mac.stagedCmd ≠ none → P mac.arq) := by
  unfold serviceIdle
  split
  · next hbusy => simp [hbusy]
  next hidle =>
  rw [not_not] at hidle
  split
  · next command hsome => simp [hidle, hsome]
  · next hnone => simp [hnone]

/-! ### Turns and runs -/

theorem step_inv (h : mac.Inv) (input : Input) : (mac.step input).1.Inv := by
  unfold step
  split
  · split
    · exact ⟨⟨h.valid, h.accounts, h.phase⟩, h.staged⟩
    · exact h
  · split
    · exact ⟨⟨h.valid, h.accounts, h.phase⟩, h.staged⟩
    · exact h
  · next turn =>
    split
    · exact serviceIdle_inv (serviceTx_ordered (wakeUp_ordered h.toOrdered turn.wake).1 turn) turn
    · exact h

/-- A turn runs a command between datagrams exactly if it takes the command between datagrams. -/
theorem step_between_iff (h : mac.Inv) (input : Input) :
    (∀ x ∈ (mac.step input).2, x.BetweenDatagrams) ↔ mac.TakesBetween input := by
  cases input with
  | host frame =>
    rw [step, iff_true_right (show mac.TakesBetween (.host frame) from trivial)]
    split <;> exact List.forall_mem_nil _
  | request command =>
    rw [step, iff_true_right (show mac.TakesBetween (.request command) from trivial)]
    split <;> exact List.forall_mem_nil _
  | turn turn =>
    rw [step]
    by_cases hmode : mac.transportMode = .genericFragmented
    · rw [if_pos (show mac.isGenericTransport from decide_eq_true hmode), loop]
      have hbetween (x : Execution) : x.BetweenDatagrams ↔ x.before.Vacant :=
        ArqEngine.vacant_iff_counts.symm
      simp only [hbetween]
      rw [serviceIdle_executions, serviceTx_staged]
      obtain ⟨hordered, hkeeps⟩ := wakeUp_ordered h.toOrdered turn.wake
      by_cases hvacant : mac.arq.Vacant
      · -- a sender without datagrams gets none before `serviceIdle`
        have hafter := serviceTx_vacant hordered turn (hkeeps hvacant)
        exact ⟨fun _ _ _ _ => .inl hvacant, fun _ _ _ => hafter⟩
      -- so no heartbeat is under way, and no command has waited for one
      have hidle : mac.phase = .idle := h.phase.resolve_right fun hhb => hvacant hhb.2
      have hnone : mac.stagedCmd = none := by
        by_contra hsome
        exact hvacant (h.vacant_of_hbWait (h.staged hsome))
      rcases wakeUp_cases h.toOrdered turn.wake with
        ⟨hreceives, hempty⟩ | ⟨hwake, command, hsome, heq⟩
      · rw [hreceives.staged]
        exact ⟨fun _ _ hwake hcommand => absurd (hempty hwake) hcommand,
          fun _ _ hstaged => absurd hnone hstaged⟩
      · have harq : ((mac.wakeUp turn.wake).serviceTx turn).arq =
            (mac.arq.run turn.tick (.onTick turn.now)).toArqEngine := by
          rw [serviceTx_arq, heq]
        have hphase : ((mac.wakeUp turn.wake).serviceTx turn).phase = .idle :=
          serviceTx_idle (by rw [heq]; exact hidle)
        have hstaged : (mac.wakeUp turn.wake).stagedCmd ≠ none := by
          rw [heq]
          exact Option.some_ne_none command
        have htick := Exec.onTick_vacant_iff (e := mac.arq) turn.tick turn.now
        rw [harq]
        constructor
        · intro hexec _ _ _
          exact htick.mp (hexec hphase hstaged)
        · intro htakes _ _
          refine htick.mpr (htakes hmode hwake ?_)
          rw [hsome]
          exact Option.some_ne_none command
    · rw [if_neg (show ¬ mac.isGenericTransport from
        fun hgeneric => hmode (of_decide_eq_true hgeneric))]
      exact ⟨fun _ hgeneric => absurd hgeneric hmode, fun _ => List.forall_mem_nil _⟩

theorem start_inv (nextHbMs : UInt32) (txQueue : List (List UInt8)) :
    (start nextHbMs txQueue).Inv :=
  ⟨⟨ArqEngine.reset_valid arqConfig, ArqEngine.reset_accounts arqConfig, .inl rfl⟩,
    fun hsome => absurd rfl hsome⟩

/-- In a run, every command is executed between datagrams and discards none, if and only if every
turn that takes a command finds the engine without datagrams or gives up the last one. -/
theorem commands_between_datagrams_iff (nextHbMs : UInt32) (txQueue : List (List UInt8))
    (inputs : List Input) :
    (∀ x ∈ (run (start nextHbMs txQueue) inputs).2, x.BetweenDatagrams ∧ ¬ x.Discards) ↔
      Transducer.Along step TakesBetween (start nextHbMs txQueue) inputs := by
  rw [← Transducer.forall_output_iff_of_inv step Inv (fun _ input h => step_inv h input)
    (fun _ input h => step_between_iff h input) (start_inv nextHbMs txQueue) inputs]
  exact ⟨fun h x hx => (h x hx).1, fun h x hx => ⟨h x hx, (h x hx).keeps⟩⟩

/-- A turn at time 0 in which everything succeeds. -/
def openTurn (wake : Wake) : Turn where
  wake
  now := 0
  tick := { Exec.takesAll with egressCapacity := some fun _ => 8 }
  configApplied := true
  payloadIdle := true
  transmit _ := true
  transmitted := 0
  txRandom := 0
  idleRandom := 0

/-- A frame of the host goes to the engine, and a config is applied in the next turn. -/
def configInputs : List Input :=
  [.host [1], .turn (openTurn .txWake), .request (.applyConfig .genericFragmented),
    .turn (openTurn .cmdQueue)]

set_option maxRecDepth 100000 in
theorem configInputs_discard : (run (start 1000 []) configInputs).2.any (fun x =>
    x.before.txActiveCount = 1 ∧ (x.before.txSlots 0).state = .open ∧
      (x.after.txSlots 0).state = .empty) := by
  decide +kernel

theorem not_commands_between_datagrams : ¬ ∀ (nextHbMs : UInt32) (txQueue : List (List UInt8))
    (inputs : List Input), ∀ x ∈ (run (start nextHbMs txQueue) inputs).2,
      x.BetweenDatagrams ∧ ¬ x.Discards := by
  intro h
  obtain ⟨x, hx, hfound⟩ := List.any_eq_true.mp configInputs_discard
  obtain ⟨_, hopen, hempty⟩ := of_decide_eq_true hfound
  refine (h 1000 [] configInputs x hx).2 ⟨0, ?_, fun hsame => ?_⟩
  · rw [hopen]
    decide
  · rw [hsame, hopen] at hempty
    cases hempty

end MacTask

end FlrcTnc.Mac
