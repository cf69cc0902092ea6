import FlrcTnc.Arq.Silence

/-! Runs in which nothing is received: in the end no datagram is left, and nothing is sent any
more. -/

namespace FlrcTnc.Arq

open Framing

/-! ### Runs without an end -/

/-- The calls before step `n` of a run. -/
def callsBefore (step : Nat → ArqCallbacks × TimedCall) (n : Nat) :
    List (ArqCallbacks × TimedCall) := (List.range n).map step

/-- The engine before step `n`. -/
def engineAt (config : ArqConfig) (step : Nat → ArqCallbacks × TimedCall) (n : Nat) : ArqEngine :=
  engineAfter config (callsBefore step n)

/-- The events of step `n`. -/
def eventsAt (config : ArqConfig) (step : Nat → ArqCallbacks × TimedCall) (n : Nat) : List Event :=
  ((engineAt config step n).run (step n).1 (step n).2.toCall).events

/-- Nothing is received, and `send_packet` always succeeds.  The ticks come in order, never too far
apart and without an end; finitely many datagrams are accepted. -/
structure SilentRun (config : ArqConfig) (step : Nat → ArqCallbacks × TimedCall) : Prop where
  takes : ∀ n, (step n).1.TakesAll
  receives : ∀ n packet now, (step n).2 ≠ .onRxPacket packet now
  retry : config.retryTimeoutCycles.toNat < 2 ^ 31
  stall : config.creditStallTimeoutCycles.toNat < 2 ^ 31
  ordered : ∀ n, (tickTimes (callsBefore step n)).IsChain fun t t' => t ≤ t' ∧ t' < t + 2 ^ 31
  unbounded : ∀ t, ∃ n now, (step n).2 = .onTick now ∧ t ≤ now
  finite : ∃ start, ∀ n, start ≤ n → ∀ i datagramId data,
    .accepted i datagramId data ∉ eventsAt config step n

theorem callsBefore_succ (step : Nat → ArqCallbacks × TimedCall) (n : Nat) :
    callsBefore step (n + 1) = callsBefore step n ++ [step n] := by
  unfold callsBefore
  rw [List.range_succ, List.map_append]
  rfl

theorem engineAt_succ (config : ArqConfig) (step : Nat → ArqCallbacks × TimedCall) (n : Nat) :
    engineAt config step (n + 1) =
      ((engineAt config step n).run (step n).1 (step n).2.toCall).toArqEngine := by
  unfold engineAt
  rw [callsBefore_succ]
  exact engineAfter_concat ..

/-! ### Calls that are no ticks -/

namespace ArqEngine

variable {e : ArqEngine} {i : Fin 4} {cb : ArqCallbacks}

/-- A call other than a tick, in silence. -/
inductive Submits (e : ArqEngine) : Exec → Prop
  | same (e' : Exec) (hslots : e'.txSlots = e.txSlots) (hevents : e'.events = []) : Submits e e'
  | accepts (e' : Exec) (i : Fin 4) (lease : DatagramLease) (len datagramId : UInt16)
      (data : List UInt8) (hempty : (e.txSlots i).state = .empty)
      (hslots : e'.txSlots = Function.update e.txSlots i (.forDatagram lease len datagramId))
      (hevents : e'.events = [.accepted i datagramId data]) : Submits e e'

theorem onTxDatagram_submits (e : ArqEngine) (data : Option (List UInt8)) :
    e.Submits (Exec.onTxDatagram { e with } data).2 := by
  unfold Exec.onTxDatagram
  dsimp only
  split
  · exact .same _ rfl rfl
  split
  · exact .same _ rfl rfl
  split
  · exact .same _ rfl rfl
  next i hfind =>
  have hempty := (Exec.find_finRange_eq_some hfind).1
  rw [decide_eq_true_eq] at hempty
  split
  · exact .accepts _ i _ _ _ _ hempty rfl rfl
  · exact .same _ rfl rfl

/-- A call of a silent engine that is no tick. -/
theorem Silent.submits (h : e.Silent) (cb : ArqCallbacks) {call : TimedCall}
    (hreceives : ∀ packet now, call ≠ .onRxPacket packet now) (hticks : ∀ now, call ≠ .onTick now) :
    e.Submits (e.run cb call.toCall) := by
  cases call with
  | onTxDatagram data => exact onTxDatagram_submits e data
  | onRxPacket packet now => exact absurd rfl (hreceives packet now)
  | onTick now => exact absurd rfl (hticks now)
  | flushPendingAck now =>
    have hsame : e.run cb (TimedCall.flushPendingAck now).toCall = { e with } := by
      rw [TimedCall.toCall, run, h.sends_no_ack]
    rw [hsame]
    exact .same _ rfl rfl

end ArqEngine

/-! ### Silent runs -/

theorem TimedCall.toCall_ne_packet {call : TimedCall}
    (h : ∀ packet now, call ≠ .onRxPacket packet now) (packet : Packet) (now : UInt32) :
    call.toCall ≠ .onRxPacket packet now := by
  cases call with
  | onRxPacket packet t => exact absurd rfl (h packet t)
  | onTxDatagram | onTick | flushPendingAck => nofun

theorem engineAt_inStep (config : ArqConfig) (step : Nat → ArqCallbacks × TimedCall) (n : Nat) :
    (engineAt config step n).InStep := engineAfter_inStep config _

theorem engineAt_accounts (config : ArqConfig) (step : Nat → ArqCallbacks × TimedCall) (n : Nat) :
    (engineAt config step n).Accounts := engineAfter_accounts config _

theorem engineAt_config (config : ArqConfig) (step : Nat → ArqCallbacks × TimedCall) (n : Nat) :
    (engineAt config step n).config = config := engineAfter_config config _

namespace SilentRun

variable {config : ArqConfig} {step : Nat → ArqCallbacks × TimedCall} {n deadline : Nat}

theorem silent (h : SilentRun config step) (n : Nat) : (engineAt config step n).Silent := by
  induction n with
  | zero => exact ⟨fun j => rfl, rfl, fun i hopen => by cases hopen⟩
  | succ n ih =>
    rw [engineAt_succ]
    exact ih.call (engineAt_inStep config step n) _ (TimedCall.toCall_ne_packet (h.receives n))

theorem submits (h : SilentRun config step) (hticks : ∀ now, (step n).2 ≠ .onTick now) :
    (engineAt config step n).Submits
      ((engineAt config step n).run (step n).1 (step n).2.toCall) :=
  (h.silent n).submits _ (h.receives n) hticks

/-- What the engine waits for falls due at `deadline`, and that is not too far from the last tick.
-/
structure Timed (config : ArqConfig) (step : Nat → ArqCallbacks × TimedCall) (n deadline : Nat) :
    Prop where
  due : (engineAt config step n).Due deadline
  near : ∀ last ∈ (tickTimes (callsBefore step n)).getLast?,
    last ≤ deadline ∧ deadline < last + 2 ^ 31

theorem tickTimes_succ (step : Nat → ArqCallbacks × TimedCall) (n : Nat) :
    tickTimes (callsBefore step (n + 1)) =
      tickTimes (callsBefore step n) ++ (step n).2.tickTime.toList := by
  rw [callsBefore_succ, tickTimes, List.filterMap_append]
  congr 1

/-- A call that is no tick changes no deadline. -/
theorem due_submits {e : ArqEngine} {e' : Exec} (hdue : e.Due deadline)
    (hsubmits : e.Submits e') (hprobe : e.sendingHalf.SameProbe e'.sendingHalf) :
    e'.Due deadline := by
  refine ⟨fun i hopen hround => ?_, fun harmed => ?_⟩
  · cases hsubmits with
    | same hslots =>
      rw [hslots] at hopen hround ⊢
      exact hdue.retry i hopen hround
    | accepts k lease len datagramId data hempty hslots =>
      rw [hslots] at hopen hround ⊢
      by_cases hik : i = k
      · subst hik
        rw [Function.update_self] at hopen
        cases hopen
      · rw [Function.update_of_ne hik] at hopen hround ⊢
        exact hdue.retry i hopen hround
  · exact hprobe.deadline.trans (hdue.probe (hprobe.armed.symm.trans harmed))

theorem due_succ (h : SilentRun config step) (hdue : (engineAt config step n).Due deadline)
    (hticks : ∀ now, (step n).2 ≠ .onTick now) : (engineAt config step (n + 1)).Due deadline := by
  rw [engineAt_succ]
  exact due_submits hdue (h.submits hticks)
    ((engineAt config step n).run_sameProbe _ (TimedCall.toCall_ne_tick hticks)).1

/-- Before the first tick nothing has a deadline. -/
theorem due_of_no_tick (h : SilentRun config step) (hnone : tickTimes (callsBefore step n) = [])
    (deadline : Nat) : (engineAt config step n).Due deadline := by
  induction n with
  | zero => exact ⟨fun i hopen => (by cases hopen), fun harmed => (by cases harmed)⟩
  | succ n ih =>
    rw [tickTimes_succ, List.append_eq_nil_iff] at hnone
    refine h.due_succ (ih hnone.1) fun now hcall => ?_
    rw [hcall] at hnone
    cases hnone.2

theorem Timed.submits (h : SilentRun config step) (htimed : Timed config step n deadline)
    (hticks : ∀ now, (step n).2 ≠ .onTick now) : Timed config step (n + 1) deadline := by
  refine ⟨h.due_succ htimed.due hticks, ?_⟩
  have hnone : (step n).2.tickTime = none := by
    cases hcall : (step n).2 with
    | onTick now => exact absurd hcall (hticks now)
    | onTxDatagram | onRxPacket | flushPendingAck => rfl
  rw [tickTimes_succ, hnone, Option.toList_none, List.append_nil]
  exact htimed.near

/-- Nothing is due where no datagram is left. -/
theorem due_of_vacant {e : ArqEngine} (hvacant : e.Vacant) (hdisarmed : e.creditProbeArmed = false)
    (deadline : Nat) : e.Due deadline := by
  refine ⟨fun i hopen => ?_, fun harmed => ?_⟩
  · rw [hvacant i] at hopen
    cases hopen
  · rw [hdisarmed] at harmed
    cases harmed

/-- A tick is neither before the last one nor too far behind it. -/
theorem tick_near (h : SilentRun config step) {now last : Nat} (hcall : (step n).2 = .onTick now)
    (hlast : last ∈ (tickTimes (callsBefore step n)).getLast?) :
    last ≤ now ∧ now < last + 2 ^ 31 := by
  have hordered := h.ordered (n + 1)
  rw [tickTimes_succ, hcall, List.isChain_append] at hordered
  exact hordered.2.2 last hlast now rfl

/-- The next deadline after a tick. -/
theorem timed_succ {now next : Nat} (hcall : (step n).2 = .onTick now)
    (hdue : (engineAt config step (n + 1)).Due next) (hle : now ≤ next)
    (hlt : next < now + 2 ^ 31) : Timed config step (n + 1) next := by
  refine ⟨hdue, fun last hlast => ?_⟩
  rw [tickTimes_succ, hcall] at hlast
  change last ∈ (tickTimes (callsBefore step n) ++ [now]).getLast? at hlast
  rw [List.getLast?_append_of_ne_nil _ (List.cons_ne_nil _ _)] at hlast
  cases hlast
  exact ⟨hle, hlt⟩

/-- What one tick of the run comes to. -/
theorem Timed.tick (h : SilentRun config step) (htimed : Timed config step n deadline) {now : Nat}
    (hcall : (step n).2 = .onTick now) : ∃ next, Timed config step (n + 1) next ∧
      ((engineAt config step (n + 1)).Vacant ∨
        (engineAt config step (n + 1)).work < (engineAt config step n).work ∨
        ((engineAt config step (n + 1)).sendingHalf = (engineAt config step n).sendingHalf ∧
          next = deadline ∧ now < deadline)) := by
  have hconfig := engineAt_config config step n
  have hprogress {d : Nat} (hdue : (engineAt config step n).Due d)
      (hnear : isBefore (Clock.reading now) (Clock.reading d) → now < d) :
      ArqEngine.Progress now d (engineAt config step n) (engineAt config step (n + 1)) := by
    rw [engineAt_succ, hcall]
    exact (h.silent n).progress (engineAt_inStep config step n) (engineAt_accounts config step n)
      (h.takes n) (by rw [hconfig]; exact h.retry) (by rw [hconfig]; exact h.stall) hdue hnear
  -- unless the engine waits for `d` still, the tick leaves a deadline of its own
  have hdone {d : Nat}
      (htick : ArqEngine.Progress now d (engineAt config step n) (engineAt config step (n + 1))) :
      (∃ next, Timed config step (n + 1) next ∧
        ((engineAt config step (n + 1)).Vacant ∨
          (engineAt config step (n + 1)).work < (engineAt config step n).work)) ∨
      ((engineAt config step (n + 1)).sendingHalf = (engineAt config step n).sendingHalf ∧
        now < d) := by
    cases htick with
    | vacant hvacant hdisarmed =>
      have hdue := due_of_vacant hvacant hdisarmed now
      exact .inl ⟨now, timed_succ hcall hdue (Nat.le_refl now) (by omega), .inl hvacant⟩
    | works hless next hdue hle hlt =>
      exact .inl ⟨next, timed_succ hcall hdue hle hlt, .inr hless⟩
    | waits hhalf hbefore => exact .inr ⟨hhalf, hbefore⟩
  have hfar (d : Nat) (hahead : d ≤ now + 2 ^ 31) (hbehind : now < d + 2 ^ 31) :
      isBefore (Clock.reading now) (Clock.reading d) → now < d :=
    fun hbefore => (Clock.behind_iff hahead hbehind).mp (isBefore_iff.mp hbefore)
  cases hlast : (tickTimes (callsBefore step n)).getLast? with
  | none =>
    -- the first tick of all finds nothing that waits
    have hdue := h.due_of_no_tick (List.getLast?_eq_none_iff.mp hlast) now
    rcases hdone (hprogress hdue (hfar now (by omega) (by omega))) with
      ⟨next, hnext, hresult⟩ | ⟨_, hbefore⟩
    · exact ⟨next, hnext, hresult.imp_right .inl⟩
    · exact absurd hbefore (Nat.lt_irrefl now)
  | some last =>
    obtain ⟨hle, hlt⟩ := h.tick_near hcall hlast
    obtain ⟨hafter, hbefore⟩ := htimed.near last hlast
    rcases hdone (hprogress htimed.due (hfar deadline (by omega) (by omega))) with
      ⟨next, hnext, hresult⟩ | ⟨hhalf, hwaits⟩
    · exact ⟨next, hnext, hresult.imp_right .inl⟩
    · refine ⟨deadline, timed_succ hcall ⟨fun i hopen hround => ?_, fun harmed => ?_⟩
        (Nat.le_of_lt hwaits) (by omega), .inr (.inr ⟨hhalf, rfl, hwaits⟩)⟩
      · rw [show (engineAt config step (n + 1)).txSlots = _ from congrArg SendingHalf.txSlots hhalf]
          at hopen hround ⊢
        exact htimed.due.retry i hopen hround
      · exact (congrArg SendingHalf.creditProbeDeadline hhalf).trans
          (htimed.due.probe ((congrArg SendingHalf.creditProbeArmed hhalf).symm.trans harmed))

theorem exists_timed (h : SilentRun config step) (n : Nat) :
    ∃ deadline, Timed config step n deadline := by
  induction n with
  | zero =>
    exact ⟨0, h.due_of_no_tick rfl 0, fun last hlast => by cases hlast⟩
  | succ n ih =>
    obtain ⟨deadline, htimed⟩ := ih
    by_cases hticks : ∃ now, (step n).2 = .onTick now
    · obtain ⟨now, hcall⟩ := hticks
      obtain ⟨next, hnext, _⟩ := htimed.tick h hcall
      exact ⟨next, hnext⟩
    · exact ⟨deadline, htimed.submits h (not_exists.mp hticks)⟩

/-! ### Rest -/

/-- A step that is no tick and accepts nothing. -/
theorem submits_nothing (h : SilentRun config step) (hticks : ∀ now, (step n).2 ≠ .onTick now)
    (hnone : ∀ i datagramId data, .accepted i datagramId data ∉ eventsAt config step n) :
    (engineAt config step (n + 1)).txSlots = (engineAt config step n).txSlots ∧
      eventsAt config step n = [] := by
  rw [engineAt_succ]
  cases h.submits hticks with
  | same hslots hevents => exact ⟨hslots, hevents⟩
  | accepts i lease len datagramId data hempty hslots hevents =>
    refine absurd ?_ (hnone i datagramId data)
    rw [eventsAt, hevents]
    exact List.mem_singleton_self _

/-- There is a tick at any time, and it is none of the first steps. -/
theorem exists_tick (h : SilentRun config step) (n t : Nat) :
    ∃ m now, n ≤ m ∧ (step m).2 = .onTick now ∧ t ≤ now := by
  obtain ⟨m, now, hcall, hle⟩ := h.unbounded (t + (tickTimes (callsBefore step n)).sum + 1)
  refine ⟨m, now, ?_, hcall, by omega⟩
  by_contra hlt
  have hmem : now ∈ tickTimes (callsBefore step n) := by
    refine List.mem_filterMap.mpr ⟨step m, ?_, by rw [hcall]; rfl⟩
    exact List.mem_map_of_mem (List.mem_range.mpr (Nat.lt_of_not_le hlt))
  have hbound := List.le_sum_of_mem hmem
  omega

theorem work_congr {m : Nat}
    (hslots : (engineAt config step m).txSlots = (engineAt config step n).txSlots)
    (harmed : (engineAt config step m).creditProbeArmed =
      (engineAt config step n).creditProbeArmed) :
    (engineAt config step m).work = (engineAt config step n).work := by
  rw [ArqEngine.work, ArqEngine.work, hslots, harmed, engineAt_config, engineAt_config]

/-- When no more datagrams are accepted, the work left falls sooner or later. -/
theorem works (h : SilentRun config step) {start : Nat}
    (hnone : ∀ n, start ≤ n → ∀ i datagramId data,
      .accepted i datagramId data ∉ eventsAt config step n) (hn : start ≤ n) :
    ∃ m, n ≤ m ∧ ((engineAt config step m).Vacant ∨
      (engineAt config step m).work < (engineAt config step n).work) := by
  by_contra hstuck
  obtain ⟨deadline, htimed⟩ := h.exists_timed n
  obtain ⟨m, now, hnm, hcall, hle⟩ := h.exists_tick n deadline
  -- until then the engine would do nothing but wait for the deadline
  have hwaits (j : Nat) (hj : n ≤ j) (hjm : j ≤ m) : Timed config step j deadline ∧
      (engineAt config step j).work = (engineAt config step n).work := by
    induction j, hj using Nat.le_induction with
    | base => exact ⟨htimed, rfl⟩
    | succ j hj ih =>
      obtain ⟨hsame, hwork⟩ := ih (by omega)
      by_cases hticks : ∃ t, (step j).2 = .onTick t
      · obtain ⟨t, ht⟩ := hticks
        obtain ⟨next, hnext, hvacant | hless | ⟨hhalf, rfl, _⟩⟩ := hsame.tick h ht
        · exact absurd ⟨j + 1, by omega, .inl hvacant⟩ hstuck
        · exact absurd ⟨j + 1, by omega, .inr (hwork ▸ hless)⟩ hstuck
        · refine ⟨hnext, Eq.trans ?_ hwork⟩
          exact work_congr (congrArg SendingHalf.txSlots hhalf)
            (congrArg SendingHalf.creditProbeArmed hhalf)
      · have hno := not_exists.mp hticks
        refine ⟨hsame.submits h hno, Eq.trans ?_ hwork⟩
        obtain ⟨hslots, _⟩ := h.submits_nothing hno (hnone j (by omega))
        refine work_congr hslots ?_
        rw [engineAt_succ]
        exact ((engineAt config step j).run_sameProbe _ (TimedCall.toCall_ne_tick hno)).1.armed
  obtain ⟨hsame, hwork⟩ := hwaits m hnm (Nat.le_refl m)
  obtain ⟨next, _, hvacant | hless | ⟨_, _, hbefore⟩⟩ := hsame.tick h hcall
  · exact hstuck ⟨m + 1, by omega, .inl hvacant⟩
  · exact hstuck ⟨m + 1, by omega, .inr (hwork ▸ hless)⟩
  · omega

/-- A tick that finds no datagram leaves none and sends nothing. -/
theorem tick_vacant (h : SilentRun config step) (hvacant : (engineAt config step n).Vacant)
    {now : Nat} (hcall : (step n).2 = .onTick now) :
    (engineAt config step (n + 1)).Vacant ∧ eventsAt config step n = [] := by
  obtain ⟨packet, hturn⟩ :=
    (h.silent n).turn (engineAt_inStep config step n) (step n).1 (Clock.reading now)
  rw [engineAt_succ, eventsAt, hcall]
  have hnone {i : Fin 4} {state : TxState}
      (hstate : ((engineAt config step n).txSlots i).state = state) (hlive : state ≠ .empty) :
      False := hlive (hstate.symm.trans (hvacant i))
  change Exec.Turn _ _ _ packet ((engineAt config step n).run (step n).1
    (TimedCall.onTick now).toCall) at hturn
  generalize (engineAt config step n).run (step n).1 (TimedCall.onTick now).toCall = e' at hturn ⊢
  cases hturn with
  | waits i hopen | goesOn i hopen | repeats i hopen => exact (hnone hopen (by decide)).elim
  | givesUp i hexhausted => exact (hnone hexhausted.isOpen (by decide)).elim
  | opens _ hopening =>
    cases hopening with
    | idle => exact ⟨hvacant, rfl⟩
    | arms i hqueued | waits i hqueued | probes i hqueued | pays i hqueued =>
      exact (hnone hqueued (by decide)).elim

/-- Sooner or later no datagram is left. -/
theorem exists_vacant (h : SilentRun config step) : ∃ m, ∀ n, m ≤ n →
    (engineAt config step n).Vacant ∧ eventsAt config step n = [] := by
  obtain ⟨start, hnone⟩ := h.finite
  obtain ⟨m, hm, hvacant⟩ : ∃ m, start ≤ m ∧ (engineAt config step m).Vacant :=
    Ranking.exists_rest fun n hn => h.works hnone hn
  have hstays (n : Nat) (hn : m ≤ n) (hv : (engineAt config step n).Vacant) :
      (engineAt config step (n + 1)).Vacant ∧ eventsAt config step n = [] := by
    by_cases hticks : ∃ now, (step n).2 = .onTick now
    · obtain ⟨now, hcall⟩ := hticks
      exact h.tick_vacant hv hcall
    · obtain ⟨hslots, hevents⟩ :=
        h.submits_nothing (not_exists.mp hticks) (hnone n (Nat.le_trans hm hn))
      exact ⟨fun i => by rw [hslots]; exact hv i, hevents⟩
  have hall (n : Nat) (hn : m ≤ n) : (engineAt config step n).Vacant := by
    induction n, hn using Nat.le_induction with
    | base => exact hvacant
    | succ n hn ih => exact (hstays n hn ih).1
  exact ⟨m, fun n hn => ⟨hall n hn, (hstays n hn (hall n hn)).2⟩⟩

end SilentRun

end FlrcTnc.Arq
