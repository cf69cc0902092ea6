import FlrcTnc.Arq.Turn
import FlrcTnc.Arq.Deadline
import FlrcTnc.Lib.Clock

/-! Credits and the credit-stall probe over runs: what is paid for a datagram that is opened, and
how long the engine was stalled before it opens one for nothing. -/

namespace FlrcTnc.Arq

open Framing

/-! ### Calls by the hour -/

/-- A call at a time that does not wrap around. -/
inductive TimedCall
  | onTxDatagram (data : Option (List UInt8))
  | onRxPacket (packet : Packet) (now : Nat)
  | onTick (now : Nat)
  | flushPendingAck (now : Nat)

namespace TimedCall

/-- The call with the time that the clock shows. -/
def toCall : TimedCall → Call
  | onTxDatagram data => .onTxDatagram data
  | onRxPacket packet now => .onRxPacket packet (Clock.reading now)
  | onTick now => .onTick (Clock.reading now)
  | flushPendingAck now => .flushPendingAck (Clock.reading now)

def tickTime : TimedCall → Option Nat
  | onTick now => some now
  | _ => none

end TimedCall

/-- The engine after the calls. -/
def engineAfter (config : ArqConfig) (calls : List (ArqCallbacks × TimedCall)) : ArqEngine :=
  (ArqEngine.reset config).after (calls.map (Prod.map id TimedCall.toCall))

/-- The times of the ticks among the calls. -/
def tickTimes (calls : List (ArqCallbacks × TimedCall)) : List Nat :=
  calls.filterMap fun step => step.2.tickTime

theorem engineAfter_concat (config : ArqConfig) (calls : List (ArqCallbacks × TimedCall))
    (cb : ArqCallbacks) (call : TimedCall) : engineAfter config (calls ++ [(cb, call)]) =
      ((engineAfter config calls).run cb call.toCall).toArqEngine := by
  rw [engineAfter, List.map_append]
  exact ArqEngine.after_concat ..

theorem engineAfter_inStep (config : ArqConfig) (calls : List (ArqCallbacks × TimedCall)) :
    (engineAfter config calls).InStep := ArqEngine.after_inStep config _

theorem engineAfter_accounts (config : ArqConfig) (calls : List (ArqCallbacks × TimedCall)) :
    (engineAfter config calls).Accounts :=
  (ArqEngine.after_accounts (ArqEngine.reset_valid config) (ArqEngine.reset_accounts config) _).1

theorem isBefore_reading {t d : Nat} (hlt : t < d) (hahead : d ≤ t + 2 ^ 31) :
    isBefore (Clock.reading t) (Clock.reading d) := isBefore_iff.mpr (Clock.behind_of_lt hlt hahead)

/-! ### The discipline -/

/-- There are no credits, and while a datagram waits none is open. -/
structure SendingHalf.Stalled (s : SendingHalf) : Prop where
  credits : s.remoteCredits = 0
  queued : ∃ i, (s.txSlots i).state = .queued
  none_open : ∀ i, (s.txSlots i).state ≠ .open

/-- Among the calls is a tick at the time `t` that saw the engine stalled, and every tick since
found it so. -/
inductive StalledSince (config : ArqConfig) (t : Nat) : List (ArqCallbacks × TimedCall) → Prop
  | tick (calls : List (ArqCallbacks × TimedCall)) (cb : ArqCallbacks)
      (h : (engineAfter config (calls ++ [(cb, .onTick t)])).sendingHalf.Stalled) :
      StalledSince config t (calls ++ [(cb, .onTick t)])
  | later {calls : List (ArqCallbacks × TimedCall)} (h : StalledSince config t calls)
      (cb : ArqCallbacks) (call : TimedCall)
      (hstays : ∀ now, call = .onTick now → (engineAfter config calls).sendingHalf.Stalled) :
      StalledSince config t (calls ++ [(cb, call)])

/-- The datagram that is opened costs one credit. -/
structure SendingHalf.Pays (s s' : SendingHalf) : Prop where
  credit : 0 < s.remoteCredits
  paid : s'.remoteCredits = s.remoteCredits - 1
  probes : s'.creditStallProbes = s.creditStallProbes

/-- A datagram is opened without a credit. -/
structure SendingHalf.Probes (s s' : SendingHalf) : Prop where
  none_left : s.remoteCredits = 0
  none_taken : s'.remoteCredits = 0
  probes : s'.creditStallProbes = s.creditStallProbes + 1

/-- Slot `i` goes from `QUEUED` to `OPEN`. -/
def SendingHalf.Opens (s s' : SendingHalf) (i : Fin 4) : Prop :=
  (s.txSlots i).state = .queued ∧ (s'.txSlots i).state = .open

instance (s s' : SendingHalf) (i : Fin 4) : Decidable (s.Opens s' i) :=
  inferInstanceAs (Decidable (_ ∧ _))

/-- What the discipline asks of a call behind others that takes the sending half from `s` to `s'`.
-/
structure CreditStep (config : ArqConfig) (past : List (ArqCallbacks × TimedCall))
    (call : TimedCall) (s s' : SendingHalf) : Prop where
  bounded : s'.remoteCredits ≤ arqMaxOutstanding
  alone : ∀ i, s.Opens s' i → ∀ k, k ≠ i → (s'.txSlots k).state ≠ .open
  paid : ∀ i, s.Opens s' i → s.Pays s' ∨ (s.Probes s' ∧ ∃ now t, call = .onTick now ∧
    StalledSince config t past ∧ t + config.creditStallTimeoutCycles.toNat ≤ now)
  probes : s'.creditStallProbes = s.creditStallProbes ∨ (s.Probes s' ∧ ∃ i, s.Opens s' i)

/-- Every call of the run keeps the discipline. -/
def CreditDiscipline (config : ArqConfig) (calls : List (ArqCallbacks × TimedCall)) : Prop :=
  ∀ past cb call rest, calls = past ++ (cb, call) :: rest →
    CreditStep config past call (engineAfter config past).sendingHalf
      ((engineAfter config past).run cb call.toCall).sendingHalf

/-- No tick has something to deliver or an ACK to send while the probe is armed and there are
credits again. -/
def NoticesCredits (config : ArqConfig) (calls : List (ArqCallbacks × TimedCall)) : Prop :=
  ∀ past cb now rest, calls = past ++ (cb, .onTick now) :: rest →
    (engineAfter config past).creditProbeArmed → (engineAfter config past).remoteCredits ≠ 0 →
    ¬ (engineAfter config past).Preempted cb (Clock.reading now)

/-! ### One tick -/

namespace Exec

variable {e e' : Exec} {i : Fin 4} {cb : ArqCallbacks} {now : UInt32} {packet : Option Packet}

theorem openSlot_pays (hcredits : e.remoteCredits ≠ 0)
    (hoffers : Offers cb now (openSlot { e with creditProbeArmed := false } i now) i
      ((e.txSlots i).begun (now + e.config.retryTimeoutCycles)) packet e') :
    e.sendingHalf.Pays e'.sendingHalf := by
  have hpos : 0 < e.remoteCredits :=
    UInt8.lt_iff_toNat_lt.mpr (Nat.pos_of_ne_zero fun hzero => hcredits (UInt8.toNat_inj.mp hzero))
  rw [hoffers.sendingHalf]
  exact ⟨hpos, if_pos hpos, rfl⟩

theorem openSlot_probes (hcredits : e.remoteCredits = 0)
    (hoffers : Offers cb now (openSlot { e.probed with creditProbeArmed := false } i now) i
      ((e.txSlots i).begun (now + e.config.retryTimeoutCycles)) packet e') :
    e.sendingHalf.Probes e'.sendingHalf := by
  have hnot : ¬ 0 < e.remoteCredits := by
    rw [hcredits]
    decide
  rw [hoffers.sendingHalf]
  exact ⟨hcredits, (if_neg hnot).trans hcredits, rfl⟩

/-- The slots behind an opening. -/
theorem openSlot_slots {e₀ : Exec} {slot : TxSlot}
    (hoffers : Offers cb now (e₀.openSlot i now) i slot packet e') (hopen : slot.state = .open) :
    (e'.txSlots i).state = .open ∧ ∀ k, k ≠ i → e'.txSlots k = e₀.txSlots k :=
  ⟨hoffers.state.trans hopen,
    fun _ hk => (hoffers.of_ne hk).trans (Function.update_of_ne hk ..)⟩

/-- What it takes to open a slot. -/
theorem Opening.opened (h : Opening cb now e packet e') (hnone : ∀ k, (e.txSlots k).state ≠ .open)
    (hopen : (e'.txSlots i).state = .open) : (∀ k, k ≠ i → (e'.txSlots k).state ≠ .open) ∧
      (e.sendingHalf.Pays e'.sendingHalf ∨ (e.sendingHalf.Probes e'.sendingHalf ∧
        e.creditProbeArmed ∧ ¬ isBefore now e.creditProbeDeadline)) := by
  cases h with
  | idle | arms | waits => exact absurd hopen (hnone i)
  | probes k hqueued hcredits harmed hdue hoffers =>
    obtain ⟨_, hothers⟩ := openSlot_slots hoffers rfl
    obtain rfl : i = k := by
      by_contra hik
      rw [hothers i hik] at hopen
      exact hnone i hopen
    exact ⟨fun k hk => by rw [hothers k hk]; exact hnone k,
      .inr ⟨openSlot_probes hcredits hoffers, harmed, hdue⟩⟩
  | pays k hqueued hcredits hoffers =>
    obtain ⟨_, hothers⟩ := openSlot_slots hoffers rfl
    obtain rfl : i = k := by
      by_contra hik
      rw [hothers i hik] at hopen
      exact hnone i hopen
    exact ⟨fun k hk => by rw [hothers k hk]; exact hnone k, .inl (openSlot_pays hcredits hoffers)⟩

/-- The probes are counted. -/
theorem Opening.probes_counted (h : Opening cb now e packet e') :
    e'.counters.creditStallProbes = e.counters.creditStallProbes ∨
      (e.sendingHalf.Probes e'.sendingHalf ∧ ∃ i, e.sendingHalf.Opens e'.sendingHalf i) := by
  cases h with
  | idle | arms | waits => exact .inl rfl
  | probes k hqueued hcredits harmed hdue hoffers =>
    exact .inr ⟨openSlot_probes hcredits hoffers, k, hqueued, (openSlot_slots hoffers rfl).1⟩
  | pays k hqueued hcredits hoffers => exact .inl (openSlot_pays hcredits hoffers).probes

/-- How the probe is armed and disarmed. -/
theorem Opening.armed (h : Opening cb now e packet e') (hnone : ∀ k, (e.txSlots k).state ≠ .open)
    (harmed : e'.creditProbeArmed) :
    (¬ e.creditProbeArmed ∧ e'.sendingHalf.Stalled ∧
        e'.creditProbeDeadline = now + e.config.creditStallTimeoutCycles) ∨
      (e.sendingHalf.Stalled ∧ e.creditProbeArmed ∧
        e'.creditProbeDeadline = e.creditProbeDeadline) := by
  cases h with
  | idle => cases harmed
  | arms k hqueued hcredits hdisarmed =>
    exact .inl ⟨hdisarmed, ⟨hcredits, ⟨k, hqueued⟩, hnone⟩, rfl⟩
  | waits k hqueued hcredits harmed hbefore =>
    exact .inr ⟨⟨hcredits, ⟨k, hqueued⟩, hnone⟩, harmed, rfl⟩
  | probes k hqueued hcredits _ hdue hoffers | pays k hqueued hcredits hoffers =>
    have hhalf : e'.creditProbeArmed = false :=
      congrArg SendingHalf.creditProbeArmed hoffers.sendingHalf
    rw [hhalf] at harmed
    cases harmed

/-- A turn in which a waiting slot is opened comes to an opening. -/
theorem Turn.opened (h : Turn cb now e packet e')
    (harmed : e.creditProbeArmed → ∀ k, (e.txSlots k).state ≠ .open)
    (hone : ∀ {i k}, (e.txSlots i).state = .open → (e.txSlots k).state = .open → k = i)
    (hopens : e.sendingHalf.Opens e'.sendingHalf i) : (∀ k, k ≠ i → (e'.txSlots k).state ≠ .open) ∧
      (e.sendingHalf.Pays e'.sendingHalf ∨ (e.sendingHalf.Probes e'.sendingHalf ∧
        e.creditProbeArmed ∧ ¬ isBefore now e.creditProbeDeadline)) := by
  obtain ⟨hqueued, hopen⟩ := hopens
  change (e.txSlots i).state = .queued at hqueued
  change (e'.txSlots i).state = .open at hopen
  -- a slot that keeps its state is not opened
  have hkept (hsame : e'.txSlots i = e.txSlots i) : False := by
    rw [hsame, hqueued] at hopen
    cases hopen
  have hother {k : Fin 4} (hk : (e.txSlots k).state = .open) : i ≠ k := by
    rintro rfl
    rw [hqueued] at hk
    cases hk
  cases h with
  | waits => exact (hkept rfl).elim
  | goesOn k hk hround hoffers => exact (hkept (hoffers.of_ne (hother hk))).elim
  | repeats k hk hround hmissing hdue hattempts hoffers =>
    exact (hkept (hoffers.of_ne (hother hk))).elim
  | givesUp k hexhausted hopening =>
    have hnone := failTxSlot_none_open fun l hl => hone hexhausted.isOpen hl
    obtain ⟨halone, hpaid⟩ := hopening.opened hnone hopen
    obtain ⟨pool, hhalf⟩ := failTxSlot_sendingHalf e k
    rcases hpaid with hpays | ⟨_, hfailed, _⟩
    · rw [hhalf] at hpays
      exact ⟨halone, .inl ⟨hpays.credit, hpays.paid, hpays.probes⟩⟩
    · have harmed' : (e.failTxSlot k).creditProbeArmed = e.creditProbeArmed :=
        congrArg SendingHalf.creditProbeArmed hhalf
      rw [harmed'] at hfailed
      exact absurd hexhausted.isOpen (harmed hfailed k)
  | opens hnone hopening => exact hopening.opened hnone hopen

theorem Turn.probes_counted (h : Turn cb now e packet e') :
    e'.counters.creditStallProbes = e.counters.creditStallProbes ∨
      (e.sendingHalf.Probes e'.sendingHalf ∧ ∃ i, e.sendingHalf.Opens e'.sendingHalf i) := by
  cases h with
  | waits => exact .inl rfl
  | goesOn i hopen hround hoffers | repeats i hopen hround hmissing hdue hattempts hoffers =>
    exact .inl (congrArg SendingHalf.creditStallProbes hoffers.sendingHalf)
  | givesUp i hexhausted hopening =>
    obtain ⟨pool, hhalf⟩ := failTxSlot_sendingHalf e i
    have hsame : (e.failTxSlot i).counters.creditStallProbes = e.counters.creditStallProbes :=
      congrArg SendingHalf.creditStallProbes hhalf
    rcases hopening.probes_counted with hsame' | ⟨hprobes, k, hqueued, hopen⟩
    · exact .inl (hsame'.trans hsame)
    · rw [hhalf] at hprobes hqueued
      refine .inr ⟨⟨hprobes.none_left, hprobes.none_taken, hprobes.probes⟩, k, ?_, hopen⟩
      by_cases hk : k = i
      · subst hk
        dsimp only at hqueued
        rw [Function.update_self] at hqueued
        cases hqueued
      · dsimp only at hqueued
        rwa [Function.update_of_ne hk] at hqueued
  | opens hnone hopening => exact hopening.probes_counted

/-- The probe is armed by a tick that sees a stall, and stays armed in a stall. -/
theorem Turn.armed (h : Turn cb now e packet e')
    (hquiet : e.creditProbeArmed → ∀ k, (e.txSlots k).state ≠ .open)
    (hone : ∀ {i k}, (e.txSlots i).state = .open → (e.txSlots k).state = .open → k = i)
    (harmed : e'.creditProbeArmed) :
    (e'.sendingHalf.Stalled ∧
        e'.creditProbeDeadline = now + e.config.creditStallTimeoutCycles) ∨
      (e.sendingHalf.Stalled ∧ e.creditProbeArmed ∧
        e'.creditProbeDeadline = e.creditProbeDeadline) := by
  cases h with
  | waits i hopen => exact absurd hopen (hquiet harmed i)
  | goesOn i hopen hround hoffers | repeats i hopen hround hmissing hdue hattempts hoffers =>
    have hsame : e'.creditProbeArmed = e.creditProbeArmed :=
      congrArg SendingHalf.creditProbeArmed hoffers.sendingHalf
    rw [hsame] at harmed
    exact absurd hopen (hquiet harmed i)
  | givesUp i hexhausted hopening =>
    obtain ⟨pool, hhalf⟩ := failTxSlot_sendingHalf e i
    have hconfig : (e.failTxSlot i).config = e.config := congrArg SendingHalf.config hhalf
    have hsame : (e.failTxSlot i).creditProbeArmed = e.creditProbeArmed :=
      congrArg SendingHalf.creditProbeArmed hhalf
    have hnone := failTxSlot_none_open fun l hl => hone hexhausted.isOpen hl
    rcases hopening.armed hnone harmed with ⟨_, hstalled, hdeadline⟩ | ⟨_, harmed', _⟩
    · exact .inl ⟨hstalled, by rw [hdeadline, hconfig]⟩
    · rw [hsame] at harmed'
      exact absurd hexhausted.isOpen (hquiet harmed' i)
  | opens hnone hopening => exact (hopening.armed hnone harmed).imp_left And.right

theorem Opening.credits_le (h : Opening cb now e packet e') :
    e'.remoteCredits ≤ e.remoteCredits := by
  cases h with
  | idle | arms | waits => exact UInt8.le_refl _
  | probes k hqueued hcredits harmed hdue hoffers =>
    have hprobes := openSlot_probes hcredits hoffers
    exact UInt8.le_of_eq (hprobes.none_taken.trans hcredits.symm)
  | pays k hqueued hcredits hoffers =>
    have hpays := openSlot_pays hcredits hoffers
    have hpaid : e'.remoteCredits = e.remoteCredits - 1 := hpays.paid
    have hpos := UInt8.lt_iff_toNat_lt.mp hpays.credit
    rw [hpaid, UInt8.le_iff_toNat_le, UInt8.toNat_sub_of_le]
    · exact Nat.sub_le _ _
    · exact UInt8.le_iff_toNat_le.mpr hpos

theorem Turn.credits_le (h : Turn cb now e packet e') : e'.remoteCredits ≤ e.remoteCredits := by
  cases h with
  | waits => exact UInt8.le_refl _
  | goesOn i hopen hround hoffers | repeats i hopen hround hmissing hdue hattempts hoffers =>
    exact UInt8.le_of_eq (congrArg SendingHalf.remoteCredits hoffers.sendingHalf)
  | givesUp i hexhausted hopening =>
    obtain ⟨pool, hhalf⟩ := failTxSlot_sendingHalf e i
    have hsame : (e.failTxSlot i).remoteCredits = e.remoteCredits :=
      congrArg SendingHalf.remoteCredits hhalf
    exact hsame ▸ hopening.credits_le
  | opens hnone hopening => exact hopening.credits_le

theorem Opening.config (h : Opening cb now e packet e') : e'.config = e.config := by
  cases h with
  | idle | arms | waits => rfl
  | probes k hqueued hcredits harmed hdue hoffers | pays k hqueued hcredits hoffers =>
    exact congrArg SendingHalf.config hoffers.sendingHalf

theorem Turn.config (h : Turn cb now e packet e') : e'.config = e.config := by
  cases h with
  | waits => rfl
  | goesOn i hopen hround hoffers | repeats i hopen hround hmissing hdue hattempts hoffers =>
    exact congrArg SendingHalf.config hoffers.sendingHalf
  | givesUp i hexhausted hopening =>
    obtain ⟨pool, hhalf⟩ := failTxSlot_sendingHalf e i
    exact hopening.config.trans (congrArg SendingHalf.config hhalf)
  | opens hnone hopening => exact hopening.config

end Exec

/-! ### The other calls -/

/-- What an engine knows about its probe. -/
structure SendingHalf.SameProbe (s s' : SendingHalf) : Prop where
  config : s'.config = s.config
  armed : s'.creditProbeArmed = s.creditProbeArmed
  deadline : s'.creditProbeDeadline = s.creditProbeDeadline
  probes : s'.creditStallProbes = s.creditStallProbes

theorem SendingHalf.SameProbe.of_eq {s s' : SendingHalf} (h : s' = s) : s.SameProbe s' := by
  rw [h]
  exact ⟨rfl, rfl, rfl, rfl⟩

namespace ArqEngine

variable {e : ArqEngine}

theorem completeTxSlot_sameProbe (e : Exec) (i : Fin 4) :
    e.sendingHalf.SameProbe (e.completeTxSlot i).sendingHalf := by
  unfold Exec.completeTxSlot Exec.clearTxSlot
  dsimp only
  split <;> exact ⟨rfl, rfl, rfl, rfl⟩

theorem handleAck_sameProbe (e : Exec) (ack : AckFrame) (now : UInt32) :
    e.sendingHalf.SameProbe (e.handleAck ack now).sendingHalf := by
  unfold Exec.handleAck
  dsimp only
  split
  · exact ⟨rfl, rfl, rfl, rfl⟩
  split
  · exact ⟨rfl, rfl, rfl, rfl⟩
  split
  · obtain ⟨hconfig, harmed, hdeadline, hprobes⟩ := completeTxSlot_sameProbe _ _
    exact ⟨hconfig, harmed, hdeadline, hprobes⟩
  · exact ⟨rfl, rfl, rfl, rfl⟩

/-- The credits are those of the last ACK, whichever datagram it is about. -/
theorem handleAck_credits (e : Exec) (ack : AckFrame) (now : UInt32) :
    (e.handleAck ack now).remoteCredits = clampCredits ack.receiverCredits := by
  unfold Exec.handleAck
  dsimp only
  split
  · rfl
  split
  · rfl
  split
  · unfold Exec.completeTxSlot Exec.clearTxSlot
    dsimp only
    split <;> rfl
  · rfl

theorem clampCredits_le (value : UInt8) : clampCredits value ≤ arqMaxOutstanding := by
  unfold clampCredits
  split
  · exact UInt8.le_refl _
  · next hle => exact UInt8.not_lt.mp hle

/-- A call other than a tick leaves the probe alone, and it leaves the credits alone or sets them to
what an ACK says. -/
theorem run_sameProbe (e : ArqEngine) (cb : ArqCallbacks) {call : Call}
    (hcall : ∀ now, call ≠ .onTick now) : e.sendingHalf.SameProbe (e.run cb call).sendingHalf ∧
      ((e.run cb call).remoteCredits = e.remoteCredits ∨
        (e.run cb call).remoteCredits ≤ arqMaxOutstanding) := by
  have hsame {e' : Exec} (hhalf : e'.sendingHalf = e.sendingHalf) :
      e.sendingHalf.SameProbe e'.sendingHalf ∧ (e'.remoteCredits = e.remoteCredits ∨
        e'.remoteCredits ≤ arqMaxOutstanding) :=
    ⟨.of_eq hhalf, .inl (congrArg SendingHalf.remoteCredits hhalf)⟩
  cases call with
  | onTxDatagram data =>
    unfold run Exec.onTxDatagram
    dsimp only
    split
    · exact hsame rfl
    split
    · exact hsame rfl
    split
    · exact hsame rfl
    · split <;> exact ⟨⟨rfl, rfl, rfl, rfl⟩, .inl rfl⟩
  | onRxPacket packet now =>
    rcases packet_cases packet with hrejected | hignored | ⟨header, payload, hdata⟩ | ⟨ack, hack⟩
    · rw [run, Exec.onRxPacket_rejected cb _ now hrejected]
      exact hsame rfl
    · rw [run, Exec.onRxPacket_ignored cb _ now hignored]
      exact hsame rfl
    · exact hsame ((e.withstands cb packet now).data header payload hdata)
    · rw [run, Exec.onRxPacket_ack cb _ now hack]
      refine ⟨handleAck_sameProbe { e with } ack now, .inr ?_⟩
      rw [handleAck_credits]
      exact clampCredits_le _
  | onTick now => exact absurd rfl (hcall now)
  | flushPendingAck now => exact hsame (Exec.sendPendingAck_sendingHalf cb { e with } now)

end ArqEngine

/-! ### Runs -/

theorem ArqEngine.beforeTurn_quiet {e : ArqEngine} (h : e.Accounts) (cb : ArqCallbacks)
    (now : UInt32) (harmed : (e.beforeTurn cb now).creditProbeArmed) (i : Fin 4) :
    ((e.beforeTurn cb now).txSlots i).state ≠ .open := by
  have hhalf := e.beforeTurn_sendingHalf cb now
  rw [beforeTurn_txSlots]
  exact (h.armed ((congrArg SendingHalf.creditProbeArmed hhalf).symm.trans harmed)).2 i

theorem ArqEngine.InStep.beforeTurn_one_open {e : ArqEngine} (h : e.InStep) (cb : ArqCallbacks)
    (now : UInt32) {i k : Fin 4} (hi : ((e.beforeTurn cb now).txSlots i).state = .open)
    (hk : ((e.beforeTurn cb now).txSlots k).state = .open) : k = i := by
  rw [beforeTurn_txSlots] at hi hk
  exact h.one_open hi hk

theorem TimedCall.toCall_ne_tick {call : TimedCall} (h : ∀ now, call ≠ .onTick now)
    (now : UInt32) : call.toCall ≠ .onTick now := by
  cases call with
  | onTick t => exact absurd rfl (h t)
  | onTxDatagram | onRxPacket | flushPendingAck => nofun

theorem engineAfter_config (config : ArqConfig) (calls : List (ArqCallbacks × TimedCall)) :
    (engineAfter config calls).config = config := by
  induction calls using List.reverseRecOn with
  | nil => rfl
  | append_singleton calls step ih =>
    obtain ⟨cb, call⟩ := step
    rw [engineAfter_concat]
    by_cases hcall : ∃ now, call = .onTick now
    · obtain ⟨now, rfl⟩ := hcall
      have hbefore :
          ((engineAfter config calls).beforeTurn cb (Clock.reading now)).config = config :=
        (congrArg SendingHalf.config (ArqEngine.beforeTurn_sendingHalf _ cb _)).trans ih
      by_cases hpreempted : (engineAfter config calls).Preempted cb (Clock.reading now)
      · rw [TimedCall.toCall, ArqEngine.run_preempted hpreempted]
        exact hbefore
      · obtain ⟨_, _, packet, hturn⟩ := (engineAfter_inStep config calls).turn hpreempted
        exact hturn.config.trans hbefore
    · obtain ⟨hsame, _⟩ := (engineAfter config calls).run_sameProbe cb
        (TimedCall.toCall_ne_tick (not_exists.mp hcall))
      exact hsame.config.trans ih

theorem StalledSince.mem_tickTimes {config : ArqConfig} {t : Nat}
    {calls : List (ArqCallbacks × TimedCall)} (h : StalledSince config t calls) :
    t ∈ tickTimes calls := by
  induction h with
  | tick calls cb h =>
    rw [tickTimes, List.filterMap_append]
    exact List.mem_append_right _ (List.mem_singleton_self t)
  | later h cb call hstays ih =>
    rw [tickTimes, List.filterMap_append]
    exact List.mem_append_left _ ih

theorem NoticesCredits.of_append {config : ArqConfig} {calls rest : List (ArqCallbacks × TimedCall)}
    (h : NoticesCredits config (calls ++ rest)) : NoticesCredits config calls :=
  fun past cb now more heq => h past cb now (more ++ rest) (by rw [heq]; simp)

/-- An armed probe has been armed by a tick that saw the stall that still lasts. -/
theorem armed_since {config : ArqConfig} {calls : List (ArqCallbacks × TimedCall)}
    (h : NoticesCredits config calls) (harmed : (engineAfter config calls).creditProbeArmed) :
    ∃ t, StalledSince config t calls ∧ (engineAfter config calls).creditProbeDeadline =
      Clock.reading (t + config.creditStallTimeoutCycles.toNat) := by
  induction calls using List.reverseRecOn with
  | nil => cases harmed
  | append_singleton calls step ih =>
    obtain ⟨cb, call⟩ := step
    have hstep := engineAfter_inStep config calls
    have haccounts := engineAfter_accounts config calls
    have hpast := ih h.of_append
    rw [engineAfter_concat] at harmed ⊢
    by_cases hcall : ∃ now, call = .onTick now
    · obtain ⟨now, rfl⟩ := hcall
      have hhalf := (engineAfter config calls).beforeTurn_sendingHalf cb (Clock.reading now)
      by_cases hpreempted : (engineAfter config calls).Preempted cb (Clock.reading now)
      · rw [TimedCall.toCall, ArqEngine.run_preempted hpreempted] at harmed ⊢
        have harmed' : (engineAfter config calls).creditProbeArmed :=
          (congrArg SendingHalf.creditProbeArmed hhalf).symm.trans harmed
        have hcredits : (engineAfter config calls).remoteCredits = 0 := by
          by_contra hcredits
          exact h calls cb now [] rfl harmed' hcredits hpreempted
        obtain ⟨hqueued, hnone⟩ := haccounts.armed harmed'
        obtain ⟨t, hsince, hdeadline⟩ := hpast harmed'
        exact ⟨t, hsince.later cb _ fun _ _ => ⟨hcredits, hqueued, hnone⟩,
          (congrArg SendingHalf.creditProbeDeadline hhalf).trans hdeadline⟩
      · obtain ⟨_, _, packet, hturn⟩ := hstep.turn hpreempted
        have hquiet := ArqEngine.beforeTurn_quiet haccounts cb (Clock.reading now)
        have hconfig : ((engineAfter config calls).beforeTurn cb (Clock.reading now)).config =
            config := (congrArg SendingHalf.config hhalf).trans (engineAfter_config config calls)
        rcases hturn.armed hquiet (fun hi hk => hstep.beforeTurn_one_open cb _ hi hk) harmed with
          ⟨hstalled, hdeadline⟩ | ⟨hstalled, harmed', hkept⟩
        · refine ⟨now, .tick calls cb (by rw [engineAfter_concat]; exact hstalled), ?_⟩
          rw [TimedCall.toCall, hdeadline, hconfig, Clock.reading_add]
        · obtain ⟨t, hsince, hdeadline⟩ :=
            hpast ((congrArg SendingHalf.creditProbeArmed hhalf).symm.trans harmed')
          rw [hhalf] at hstalled
          exact ⟨t, hsince.later cb _ fun _ _ => hstalled,
            hkept.trans ((congrArg SendingHalf.creditProbeDeadline hhalf).trans hdeadline)⟩
    · obtain ⟨hsame, _⟩ := (engineAfter config calls).run_sameProbe cb
        (TimedCall.toCall_ne_tick (not_exists.mp hcall))
      obtain ⟨t, hsince, hdeadline⟩ := hpast (hsame.armed.symm.trans harmed)
      exact ⟨t, hsince.later cb call fun now heq => absurd ⟨now, heq⟩ hcall,
        hsame.deadline.trans hdeadline⟩

theorem remoteCredits_le (config : ArqConfig) (calls : List (ArqCallbacks × TimedCall)) :
    (engineAfter config calls).remoteCredits ≤ arqMaxOutstanding := by
  induction calls using List.reverseRecOn with
  | nil => exact ArqEngine.clampCredits_le _
  | append_singleton calls step ih =>
    obtain ⟨cb, call⟩ := step
    rw [engineAfter_concat]
    by_cases hcall : ∃ now, call = .onTick now
    · obtain ⟨now, rfl⟩ := hcall
      have hbefore : ((engineAfter config calls).beforeTurn cb (Clock.reading now)).remoteCredits ≤
          arqMaxOutstanding := by
        refine UInt8.le_trans (UInt8.le_of_eq ?_) ih
        exact congrArg SendingHalf.remoteCredits (ArqEngine.beforeTurn_sendingHalf _ cb _)
      by_cases hpreempted : (engineAfter config calls).Preempted cb (Clock.reading now)
      · rw [TimedCall.toCall, ArqEngine.run_preempted hpreempted]
        exact hbefore
      · obtain ⟨_, _, packet, hturn⟩ := (engineAfter_inStep config calls).turn hpreempted
        exact UInt8.le_trans hturn.credits_le hbefore
    · rcases ((engineAfter config calls).run_sameProbe cb
        (TimedCall.toCall_ne_tick (not_exists.mp hcall))).2 with hsame | hle
      · rw [hsame]
        exact ih
      · exact hle

/-- A call that opens nothing and leaves the count of probes alone. -/
theorem CreditStep.of_closed {config : ArqConfig} {past : List (ArqCallbacks × TimedCall)}
    {call : TimedCall} {s s' : SendingHalf} (hbounded : s'.remoteCredits ≤ arqMaxOutstanding)
    (hclosed : ∀ i, ¬ s.Opens s' i) (hprobes : s'.creditStallProbes = s.creditStallProbes) :
    CreditStep config past call s s' where
  bounded := hbounded
  alone i hopens := absurd hopens (hclosed i)
  paid i hopens := absurd hopens (hclosed i)
  probes := .inl hprobes

/-- In every run in which no tick is too busy to notice that credits are back, at most one datagram
is open, each costs a credit, and one is opened for nothing only after a stall of
`creditStallTimeoutCycles`. -/
theorem credit_disciplined {config : ArqConfig} {calls : List (ArqCallbacks × TimedCall)}
    (htimeout : config.creditStallTimeoutCycles.toNat < 2 ^ 31)
    (htimes : (tickTimes calls).Pairwise (· ≤ ·)) (hnotices : NoticesCredits config calls) :
    CreditDiscipline config calls := by
  rintro past cb call rest rfl
  have hstep := engineAfter_inStep config past
  have hbounded : ((engineAfter config past).run cb call.toCall).remoteCredits ≤
      arqMaxOutstanding := by
    have hle := remoteCredits_le config (past ++ [(cb, call)])
    rwa [engineAfter_concat] at hle
  by_cases hcall : ∃ now, call = .onTick now
  · obtain ⟨now, rfl⟩ := hcall
    have hhalf := (engineAfter config past).beforeTurn_sendingHalf cb (Clock.reading now)
    by_cases hpreempted : (engineAfter config past).Preempted cb (Clock.reading now)
    · rw [TimedCall.toCall, ArqEngine.run_preempted hpreempted] at hbounded ⊢
      rw [hhalf]
      refine .of_closed ((congrArg SendingHalf.remoteCredits hhalf) ▸ hbounded) (fun i h => ?_) rfl
      exact absurd (h.1.symm.trans h.2) (by decide)
    obtain ⟨_, _, packet, hturn⟩ := hstep.turn hpreempted
    have hquiet := ArqEngine.beforeTurn_quiet (engineAfter_accounts config past) cb
      (Clock.reading now)
    have hopened {i : Fin 4} (hopens : (engineAfter config past).sendingHalf.Opens
        ((engineAfter config past).run cb (.onTick (Clock.reading now))).sendingHalf i) :=
      hturn.opened hquiet (fun hi hk => hstep.beforeTurn_one_open cb _ hi hk)
        (hhalf.symm ▸ hopens)
    rw [hhalf] at hopened
    refine ⟨hbounded, fun i hopens => (hopened hopens).1, fun i hopens => ?_, ?_⟩
    · rcases (hopened hopens).2 with hpays | ⟨hprobes, harmed, hdue⟩
      · exact .inl hpays
      refine .inr ⟨hprobes, now, ?_⟩
      obtain ⟨t, hsince, hdeadline⟩ := armed_since (hnotices.of_append)
        ((congrArg SendingHalf.creditProbeArmed hhalf).symm.trans harmed)
      refine ⟨t, rfl, hsince, ?_⟩
      -- the tick that armed the probe was no later than this one
      have hle : t ≤ now := by
        rw [tickTimes, List.filterMap_append] at htimes
        exact (List.pairwise_append.mp htimes).2.2 t hsince.mem_tickTimes now (.head _)
      by_contra hlt
      rw [Nat.not_le] at hlt
      refine hdue ?_
      rw [show ((engineAfter config past).beforeTurn cb (Clock.reading now)).creditProbeDeadline = _
        from (congrArg SendingHalf.creditProbeDeadline hhalf).trans hdeadline]
      exact isBefore_reading hlt (by omega)
    · have hcounted := hturn.probes_counted
      rwa [hhalf, show ((engineAfter config past).beforeTurn cb
        (Clock.reading now)).counters.creditStallProbes = _ from
          congrArg SendingHalf.creditStallProbes hhalf] at hcounted
  · have hno := TimedCall.toCall_ne_tick (not_exists.mp hcall)
    obtain ⟨hsame, _⟩ := (engineAfter config past).run_sameProbe cb hno
    refine .of_closed hbounded (fun i ⟨hqueued, hopen⟩ => ?_) hsame.probes
    have hbefore := ArqEngine.opens_nothing cb hno hopen
    rw [show (((engineAfter config past).txSlots i).state = .queued) from hqueued] at hbefore
    cases hbefore

theorem NoticesCredits.nil (config : ArqConfig) : NoticesCredits config [] := by
  intro past cb now rest heq
  simp at heq

theorem NoticesCredits.concat {config : ArqConfig} {calls : List (ArqCallbacks × TimedCall)}
    (h : NoticesCredits config calls) (cb : ArqCallbacks) (call : TimedCall)
    (hcall : call.tickTime = none ∨ (engineAfter config calls).remoteCredits = 0) :
    NoticesCredits config (calls ++ [(cb, call)]) := by
  intro past cb' now rest heq harmed hcredits
  rcases List.append_eq_append_iff.mp heq with ⟨mid, rfl, hlast⟩ | ⟨mid, rfl, hlast⟩
  · cases mid with
    | nil =>
      obtain ⟨hstep, _⟩ := List.cons.inj hlast
      cases hstep
      rw [List.append_nil] at hcredits
      rcases hcall with hcall | hcall
      · cases hcall
      · exact absurd hcall hcredits
    | cons => simp at hlast
  · cases mid with
    | nil =>
      obtain ⟨hstep, _⟩ := List.cons.inj hlast
      cases hstep
      rw [List.append_nil] at hcall
      rcases hcall with hcall | hcall
      · cases hcall
      · exact absurd hcall hcredits
    | cons step mid =>
      obtain ⟨rfl, _⟩ := List.cons.inj hlast
      exact h past cb' now mid rfl harmed hcredits

/-- An engine without credits, which probes after two ticks of the clock. -/
def stalledConfig : ArqConfig := { creditStallTimeoutCycles := 2, initialRemoteCredits := 0 }

/-- A datagram that is opened by a probe. -/
def probingCalls : List (ArqCallbacks × TimedCall) :=
  [({}, .onTxDatagram (some [1])), (Exec.takesAll, .onTick 0), (Exec.takesAll, .onTick 1),
    (Exec.takesAll, .onTick 2)]

set_option maxRecDepth 100000 in
theorem credit_disciplined_probing :
    (((engineAfter stalledConfig probingCalls).txSlots 0).state = .open ∧
      (engineAfter stalledConfig probingCalls).counters.creditStallProbes = 1) ∧
      CreditDiscipline stalledConfig probingCalls := by
  refine ⟨by decide +kernel, credit_disciplined (by decide) (by decide) ?_⟩
  have h₁ := (NoticesCredits.nil stalledConfig).concat {} (.onTxDatagram (some [1])) (.inl rfl)
  have h₂ := h₁.concat Exec.takesAll (.onTick 0) (.inr (by decide +kernel))
  have h₃ := h₂.concat Exec.takesAll (.onTick 1) (.inr (by decide +kernel))
  exact h₃.concat Exec.takesAll (.onTick 2) (.inr (by decide +kernel))

theorem stalledSince_concat {config : ArqConfig} {t : Nat}
    {calls : List (ArqCallbacks × TimedCall)} {cb : ArqCallbacks} {call : TimedCall}
    (h : StalledSince config t (calls ++ [(cb, call)])) :
    (call = .onTick t ∧ (engineAfter config (calls ++ [(cb, call)])).sendingHalf.Stalled) ∨
      (StalledSince config t calls ∧
        ∀ now, call = .onTick now → (engineAfter config calls).sendingHalf.Stalled) := by
  generalize hall : calls ++ [(cb, call)] = all at h ⊢
  cases h with
  | tick past cb' hstalled =>
    obtain ⟨_, hstep⟩ := List.append_inj' hall rfl
    cases hstep
    exact .inl ⟨rfl, hstalled⟩
  | later h cb' call' hstays =>
    obtain ⟨rfl, hstep⟩ := List.append_inj' hall rfl
    cases hstep
    exact .inr ⟨h, hstays⟩

/-- The probe is armed, an ACK brings credits, the next tick sends an ACK, and another ACK takes the
credits back. -/
def busyCalls : List (ArqCallbacks × TimedCall) :=
  [({}, .onTxDatagram (some [1])), (Exec.takesAll, .onTick 0),
    (Exec.takesAll, .onRxPacket (dataPacket ⟨1, 0, 7, 0, 1, 1, 1⟩ [2]) 0),
    ({}, .onRxPacket (ackPacket ⟨99, 0, 4, .none⟩) 1)]

/-- The calls behind: the tick that is busy with an ACK, and the ACK that takes the credits back. -/
def withdrawnCalls : List (ArqCallbacks × TimedCall) :=
  busyCalls ++ [(Exec.takesAll, .onTick 1)] ++
    [(Exec.takesAll, .onRxPacket (ackPacket ⟨99, 0, 0, .none⟩) 1)]

set_option maxRecDepth 100000 in
theorem busyCalls_credits : (engineAfter stalledConfig busyCalls).sendingHalf.remoteCredits = 4 ∧
    (engineAfter stalledConfig
      (busyCalls ++ [(Exec.takesAll, .onTick 1)])).sendingHalf.remoteCredits = 4 := by
  decide +kernel

set_option maxRecDepth 100000 in
theorem withdrawnCalls_opens :
    (engineAfter stalledConfig withdrawnCalls).sendingHalf.remoteCredits = 0 ∧
      (engineAfter stalledConfig withdrawnCalls).sendingHalf.Opens
        ((engineAfter stalledConfig withdrawnCalls).run Exec.takesAll
          (TimedCall.onTick 2).toCall).sendingHalf 0 := by
  decide +kernel

/-- The tick after that opens the datagram, although the stall is new. -/
theorem not_creditDiscipline : ¬ ∀ (config : ArqConfig) (calls : List (ArqCallbacks × TimedCall)),
    config.retryTimeoutCycles.toNat < 2 ^ 31 → config.ackTurnaroundCycles.toNat < 2 ^ 31 →
    config.creditStallTimeoutCycles.toNat < 2 ^ 31 →
    (tickTimes calls).IsChain (fun t t' => t ≤ t' ∧ t' < t + 2 ^ 31) →
    CreditDiscipline config calls := by
  intro h
  have htimes : tickTimes (withdrawnCalls ++ [(Exec.takesAll, .onTick 2)]) = [0, 1, 2] := rfl
  have hdiscipline := h stalledConfig (withdrawnCalls ++ [(Exec.takesAll, .onTick 2)])
    (by decide) (by decide) (by decide) (by rw [htimes]; decide) withdrawnCalls Exec.takesAll
    (.onTick 2) [] rfl
  obtain ⟨hcredits, hopens⟩ := withdrawnCalls_opens
  obtain ⟨hbefore, hafter⟩ := busyCalls_credits
  rcases hdiscipline.paid 0 hopens with hpays | ⟨_, now, t, _, hsince, _⟩
  · have hpos := hpays.credit
    rw [hcredits] at hpos
    exact absurd hpos (by decide)
  -- neither the busy tick nor a tick before it begins the stall
  rcases stalledSince_concat hsince with ⟨heq, _⟩ | ⟨hsince, _⟩
  · cases heq
  rcases stalledSince_concat hsince with ⟨_, hstalled⟩ | ⟨_, hstays⟩
  · have hzero := hstalled.credits
    rw [hafter] at hzero
    exact absurd hzero (by decide)
  · have hzero := (hstays 1 rfl).credits
    rw [hbefore] at hzero
    exact absurd hzero (by decide)

end FlrcTnc.Arq
