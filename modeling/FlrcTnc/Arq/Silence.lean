import FlrcTnc.Arq.Credit
import FlrcTnc.Arq.RoundRuns
import FlrcTnc.Lib.Ranking

/-! Silence: what the ticks of an engine come to that receives nothing. -/

namespace FlrcTnc.Arq

open Framing Mask

/-! ### Silent engines -/

/-- The rounds that a datagram is sent in while nothing answers. -/
def ArqConfig.rounds (config : ArqConfig) : Nat := max 1 config.maxAttempts.toNat

/-- Nothing is acknowledged, and the attempts do not exceed the rounds. -/
structure TxSlot.Unanswered (rounds : Nat) (slot : TxSlot) : Prop where
  unacked : slot.ackedBitmap = 0
  begun : 0 < slot.attempts.toNat
  within : slot.attempts.toNat ≤ rounds

/-- The engine has neither a datagram to deliver nor an ACK to send, and no datagram of its own is
answered. -/
structure ArqEngine.Silent (e : ArqEngine) : Prop where
  rxSlots : ∀ j, (e.rxSlots j).active = false
  pendingAcks : e.pendingAcks.entries = []
  unanswered : ∀ i, (e.txSlots i).state = .open → (e.txSlots i).Unanswered e.config.rounds

/-- A datagram of which nothing is acknowledged has something missing. -/
theorem TxSlot.Unanswered.missing {rounds : Nat} {slot : TxSlot} (h : slot.Unanswered rounds)
    {ref : BufferRef} (hslot : slot.Valid ref) : ¬ slot.Acknowledged := by
  intro hall
  obtain ⟨hpos, hmax⟩ := hslot.fragmentCount_bounds
  rw [Acknowledged, h.unacked, expectedBitmap, fragmentExpectedBitmap_eq hpos hmax] at hall
  have hbit := covers_iff.mp hall 0 (by rw [hasBit_below (by omega)]; simpa using hpos)
  rw [hasBit_zero] at hbit
  cases hbit

theorem TxSlot.skipToNext_unanswered {rounds : Nat} {slot : TxSlot} (h : slot.Unanswered rounds) :
    slot.skipToNext.Unanswered rounds := ⟨h.unacked, h.begun, h.within⟩

theorem TxSlot.offered_unanswered {rounds : Nat} {slot : TxSlot} (h : slot.Unanswered rounds)
    (retryDeadline : UInt32) (packet : Option Packet) :
    (slot.offered retryDeadline packet).Unanswered rounds := by
  unfold TxSlot.offered
  split
  · exact ⟨h.unacked, h.begun, h.within⟩
  · exact h

/-- One more attempt, while there are some left. -/
theorem toNat_attempts_succ {attempts maxAttempts : UInt8} (h : ¬ attempts ≥ maxAttempts) :
    (attempts + 1).toNat = attempts.toNat + 1 ∧ attempts.toNat < maxAttempts.toNat := by
  have hlt : attempts.toNat < maxAttempts.toNat := by
    rw [ge_iff_le, UInt8.not_le] at h
    exact UInt8.lt_iff_toNat_lt.mp h
  have hmax := maxAttempts.toNat_lt
  rw [UInt8.toNat_add, UInt8.toNat_one]
  omega

theorem TxSlot.Resumes.unanswered {config : ArqConfig} {slot next : TxSlot}
    (h : slot.Resumes config.maxAttempts next)
    (hslot : slot.state = .open → slot.Unanswered config.rounds) :
    next.Unanswered config.rounds := by
  cases h with
  | goesOn hopen => exact skipToNext_unanswered (hslot hopen)
  | repeats hopen hround hattempts =>
    obtain ⟨hunacked, hbegun, hwithin⟩ := hslot hopen
    obtain ⟨hsucc, hlt⟩ := toNat_attempts_succ hattempts
    refine skipToNext_unanswered ⟨hunacked, ?_, ?_⟩
    · rw [hsucc]
      exact Nat.succ_pos _
    · rw [hsucc]
      exact Nat.le_trans hlt (Nat.le_max_right 1 _)
  | opens hqueued => exact ⟨rfl, Nat.zero_lt_one, Nat.le_max_left 1 _⟩

theorem TxSlot.Ticks.unanswered {config : ArqConfig} {slot slot' : TxSlot} {data : List UInt8}
    {packets : List Packet} (h : slot.Ticks config.maxAttempts data packets slot')
    (hslot : slot.state = .open → slot.Unanswered config.rounds) (hopen : slot'.state = .open) :
    slot'.Unanswered config.rounds := by
  cases h with
  | same => exact hslot hopen
  | offered retryDeadline packet hresumes =>
    exact offered_unanswered (hresumes.unanswered hslot) retryDeadline packet
  | gone => cases hopen

namespace Exec

variable {e e' : Exec} {i : Fin 4} {cb : ArqCallbacks} {now : UInt32} {packet : Option Packet}

/-! ### The receiving half -/

theorem Offers.receivingHalf {slot : TxSlot} (h : Offers cb now e i slot packet e') :
    e'.receivingHalf = e.receivingHalf := by
  cases h with
  | taken _ h | refused _ h =>
    obtain ⟨calls, evs, rfl, _⟩ := h
    rfl

theorem Opening.receivingHalf (h : Opening cb now e packet e') :
    e'.receivingHalf = e.receivingHalf := by
  cases h with
  | idle | arms | waits => rfl
  | probes i hqueued hcredits harmed hdue hoffers | pays i hqueued hcredits hoffers =>
    exact hoffers.receivingHalf

theorem Turn.receivingHalf (h : Turn cb now e packet e') : e'.receivingHalf = e.receivingHalf := by
  cases h with
  | waits => rfl
  | goesOn i hopen hround hoffers | repeats i hopen hround hmissing hdue hattempts hoffers =>
    exact hoffers.receivingHalf
  | givesUp i hexhausted hopening =>
    exact hopening.receivingHalf.trans (failTxSlot_receivingHalf e i)
  | opens hnone hopening => exact hopening.receivingHalf

theorem onTxDatagram_receivingHalf (e : Exec) (data : Option (List UInt8)) :
    (e.onTxDatagram data).2.receivingHalf = e.receivingHalf := by
  unfold onTxDatagram
  dsimp only
  split
  · rfl
  split
  · rfl
  split
  · rfl
  · split <;> rfl

end Exec

namespace ArqEngine

variable {e : ArqEngine}

theorem Silent.delivers_nothing (h : e.Silent) (cb : ArqCallbacks) (now : UInt32) :
    Exec.tryCompleteRxSlots cb { e with } now = (false, { e with }) := by
  refine Exec.tryCompleteRxSlots_none cb now fun j hactive => ?_
  rw [h.rxSlots j] at hactive
  cases hactive

theorem Silent.sends_no_ack (h : e.Silent) (cb : ArqCallbacks) (now : UInt32) :
    Exec.sendPendingAck cb { e with } now = (false, { e with }) := by
  refine Exec.sendPendingAck_early cb fun pending rest hentries => ?_
  rw [h.pendingAcks] at hentries
  cases hentries

theorem Silent.beforeTurn (h : e.Silent) (cb : ArqCallbacks) (now : UInt32) :
    e.beforeTurn cb now = { e with } := by
  rw [ArqEngine.beforeTurn, h.delivers_nothing]
  dsimp only
  rw [h.sends_no_ack]

/-- Every tick of a silent engine takes its turn. -/
theorem Silent.turn (h : e.Silent) (hstep : e.InStep) (cb : ArqCallbacks) (now : UInt32) :
    ∃ packet, Exec.Turn cb now { e with } packet (e.run cb (.onTick now)) := by
  have hpreempted : ¬ e.Preempted cb now := by
    rw [Preempted, h.delivers_nothing]
    dsimp only
    rw [h.sends_no_ack]
    simp
  obtain ⟨_, _, packet, hturn⟩ := hstep.turn hpreempted
  rw [h.beforeTurn] at hturn
  exact ⟨packet, hturn⟩

/-- A call that receives nothing leaves the engine silent. -/
theorem Silent.call (h : e.Silent) (hstep : e.InStep) (cb : ArqCallbacks) {call : Call}
    (hcall : ∀ packet now, call ≠ .onRxPacket packet now) : (e.run cb call).Silent := by
  have hquiet {e' : Exec} (hhalf : e'.receivingHalf = e.receivingHalf)
      (hunanswered : ∀ i, (e'.txSlots i).state = .open →
        (e'.txSlots i).Unanswered e'.config.rounds) : e'.Silent := by
    refine ⟨fun j => ?_, ?_, hunanswered⟩
    · rw [show e'.rxSlots = e.rxSlots from congrArg ReceivingHalf.rxSlots hhalf]
      exact h.rxSlots j
    · rw [show e'.pendingAcks = e.pendingAcks from congrArg ReceivingHalf.pendingAcks hhalf]
      exact h.pendingAcks
  cases call with
  | onRxPacket packet now => exact absurd rfl (hcall packet now)
  | onTick now =>
    obtain ⟨packet, hturn⟩ := h.turn hstep cb now
    refine hquiet hturn.receivingHalf fun i hopen => ?_
    rw [show (e.run cb (.onTick now)).config = e.config from hturn.config]
    exact (hstep.slot_ticks cb now i).unanswered (h.unanswered i) hopen
  | flushPendingAck now =>
    have hsame : (e.run cb (.flushPendingAck now)) = { e with } := by
      rw [run, h.sends_no_ack]
    rw [hsame]
    exact h
  | onTxDatagram data =>
    refine hquiet (Exec.onTxDatagram_receivingHalf { e with } data) fun i hopen => ?_
    have hbefore := onTxDatagram_open hopen
    have hkept := e.onTxDatagram_kept (by rw [hbefore]; decide) data
    have hconfig : (e.run cb (.onTxDatagram data)).config = e.config :=
      (run_sameProbe e cb fun now heq => by cases heq).1.config
    rw [hconfig, show (e.run cb (.onTxDatagram data)).txSlots i = e.txSlots i from hkept]
    exact h.unanswered i hbefore

end ArqEngine

/-! ### Work -/

/-- A bound on the ticks with which a slot is busy: thirteen a round suffice. -/
def TxSlot.work (rounds : Nat) (slot : TxSlot) : Nat :=
  if slot.state = .empty then 0
  else if slot.state = .queued then 13 * rounds + 2
  else 13 * (rounds - slot.attempts.toNat) +
    (if slot.roundBitmap = 0 then 0 else 13 - slot.nextFragment.toNat) + 1

/-- The work left, and one more for a probe that is not armed. -/
def ArqEngine.work (e : ArqEngine) : Nat :=
  Slots.total (TxSlot.work e.config.rounds) e.txSlots + if e.creditProbeArmed then 0 else 1

namespace TxSlot

variable {rounds : Nat} {slot next : TxSlot}

theorem work_open (h : slot.state = .open) : slot.work rounds =
    13 * (rounds - slot.attempts.toNat) +
      (if slot.roundBitmap = 0 then 0 else 13 - slot.nextFragment.toNat) + 1 := by
  rw [work, if_neg (by rw [h]; decide), if_neg (by rw [h]; decide)]

theorem work_queued (h : slot.state = .queued) : slot.work rounds = 13 * rounds + 2 := by
  rw [work, if_neg (by rw [h]; decide), if_pos h]

/-- The work left when the next fragment is taken. -/
theorem offered_work_le (rounds : Nat) {next : TxSlot} (hopen : next.state = .open)
    (hnext : next.AtNext) (hcount : next.fragmentCount.toNat ≤ 12) (retryDeadline : UInt32)
    (packet : Packet) :
    (next.offered retryDeadline (some packet)).work rounds ≤
      13 * (rounds - next.attempts.toNat) + (12 - next.nextFragment.toNat) + 1 := by
  have hlt := UInt8.lt_iff_toNat_lt.mp hnext.lt
  have hsucc : (next.nextFragment + 1).toNat = next.nextFragment.toNat + 1 := by
    rw [UInt8.toNat_add, UInt8.toNat_one]
    omega
  have hleft : (if (next.offered retryDeadline (some packet)).roundBitmap = 0 then 0
      else 13 - (next.offered retryDeadline (some packet)).nextFragment.toNat) ≤
      12 - next.nextFragment.toNat := by
    split
    · exact Nat.zero_le _
    · rw [show (next.offered retryDeadline (some packet)).nextFragment = next.nextFragment + 1
        from rfl, hsucc]
      omega
  rw [work_open (by rw [offered_state, hopen]), offered_attempts]
  omega

theorem skipToNext_le (hcount : slot.fragmentCount.toNat ≤ 12) :
    slot.nextFragment.toNat ≤ slot.skipToNext.nextFragment.toNat :=
  (Exec.skipSent_spec slot.roundBitmap (show slot.fragmentCount.toNat ≤ 16 by omega)
    slot.fragmentCount.toNat slot.nextFragment (by omega)).1

/-- A slot whose next fragment is taken has less work left, and by two if it was waiting. -/
theorem Resumes.work {config : ArqConfig} (h : slot.Resumes config.maxAttempts next)
    (hnext : next.AtNext) (hcount : next.fragmentCount.toNat ≤ 12) (retryDeadline : UInt32)
    (packet : Packet) :
    (next.offered retryDeadline (some packet)).work config.rounds +
      (if slot.state = .queued then 1 else 0) < slot.work config.rounds := by
  have hlt := UInt8.lt_iff_toNat_lt.mp hnext.lt
  cases h with
  | goesOn hopen hround =>
    have hle := offered_work_le config.rounds (show slot.skipToNext.state = .open from hopen)
      hnext hcount retryDeadline packet
    have hskip := skipToNext_le (show slot.fragmentCount.toNat ≤ 12 from hcount)
    rw [if_neg (by rw [hopen]; decide), work_open hopen, if_neg hround]
    change _ ≤ 13 * (config.rounds - slot.attempts.toNat) + _ + 1 at hle
    omega
  | repeats hopen hround hattempts =>
    obtain ⟨hsucc, hless⟩ := toNat_attempts_succ hattempts
    have hrounds : config.maxAttempts.toNat ≤ config.rounds := Nat.le_max_right 1 _
    have hle := offered_work_le config.rounds (show slot.beginRound.state = .open from hopen)
      hnext hcount retryDeadline packet
    rw [if_neg (by rw [hopen]; decide), work_open hopen, if_pos hround]
    change _ ≤ 13 * (config.rounds - (slot.attempts + 1).toNat) + _ + 1 at hle
    rw [hsucc] at hle
    omega
  | opens hqueued deadline =>
    have hrounds : 1 ≤ config.rounds := Nat.le_max_left 1 _
    have hle := offered_work_le config.rounds (show (slot.begun deadline).state = .open from rfl)
      hnext hcount retryDeadline packet
    rw [if_pos hqueued, work_queued hqueued]
    change _ ≤ 13 * (config.rounds - 1) + (12 - 0) + 1 at hle
    omega

end TxSlot

/-! ### One tick -/

/-- Whatever the engine waits for falls due at `deadline`. -/
structure ArqEngine.Due (e : ArqEngine) (deadline : Nat) : Prop where
  retry : ∀ i, (e.txSlots i).state = .open → (e.txSlots i).roundBitmap = 0 →
    (e.txSlots i).retryDeadline = Clock.reading deadline
  probe : e.creditProbeArmed → e.creditProbeDeadline = Clock.reading deadline

/-- What a tick at the time `now` comes to: no datagram is left, or less work, or the engine waits
for its deadline still. -/
inductive ArqEngine.Progress (now deadline : Nat) (e e' : ArqEngine) : Prop
  | vacant (hvacant : e'.Vacant) (hdisarmed : e'.creditProbeArmed = false)
  | works (hless : e'.work < e.work) (next : Nat) (hdue : e'.Due next) (hle : now ≤ next)
      (hlt : next < now + 2 ^ 31)
  | waits (hhalf : e'.sendingHalf = e.sendingHalf) (hbefore : now < deadline)

/-- A fragment of the only open slot was taken. -/
theorem ArqEngine.resumes_progress {e e' : ArqEngine} {i : Fin 4} {next : TxSlot}
    {now deadline : Nat} {packet : Packet}
    (hresumes : (e.txSlots i).Resumes e.config.maxAttempts next)
    (hnext : next.AtNext) (hcount : next.fragmentCount.toNat ≤ 12)
    (hslots : e'.txSlots = Function.update e.txSlots i
      (next.offered (Clock.reading now + e.config.retryTimeoutCycles) (some packet)))
    (hconfig : e'.config = e.config) (hdisarmed : e'.creditProbeArmed = false)
    (harmed : e.creditProbeArmed → (e.txSlots i).state = .queued)
    (hone : ∀ k, (e.txSlots k).state = .open → k = i)
    (htimeout : e.config.retryTimeoutCycles.toNat < 2 ^ 31) : Progress now deadline e e' := by
  refine .works ?_ (now + e.config.retryTimeoutCycles.toNat) ⟨fun k hopen hround => ?_, ?_⟩
    (Nat.le_add_right ..) (Nat.add_lt_add_left htimeout now)
  · have hwork := hresumes.work hnext hcount
      (Clock.reading now + e.config.retryTimeoutCycles) packet
    have htotal := Slots.total_update (TxSlot.work e.config.rounds) e.txSlots i
      (next.offered (Clock.reading now + e.config.retryTimeoutCycles) (some packet))
    rw [work, work, hconfig, hslots, if_neg (by rw [hdisarmed]; decide)]
    by_cases hprobe : e.creditProbeArmed
    · rw [if_pos (harmed hprobe)] at hwork
      rw [if_pos hprobe]
      omega
    · rw [if_neg hprobe]
      omega
  · rw [hslots] at hopen hround ⊢
    by_cases hk : k = i
    · subst hk
      rw [Function.update_self] at hround ⊢
      change next.roundBitmap &&& ~~~ fragmentBit next.nextFragment = 0 at hround
      change (if next.roundBitmap &&& ~~~ fragmentBit next.nextFragment = 0 then _ else _) = _
      rw [if_pos hround, Clock.reading_add]
    · rw [Function.update_of_ne hk] at hopen
      exact absurd (hone k hopen) hk
  · intro hprobe
    rw [hdisarmed] at hprobe
    cases hprobe

namespace Exec

variable {e e' : Exec} {i : Fin 4} {cb : ArqCallbacks} {now deadline : Nat}
  {packet : Option Packet}

theorem Offers.taken_of_takesAll {t : UInt32} {slot : TxSlot}
    (h : Offers cb t e i slot packet e') (hcb : cb.TakesAll) : ∃ p, packet = some p := by
  cases h with
  | taken => exact ⟨_, rfl⟩
  | refused hrefused => exact absurd hcb hrefused

/-- The first fragment of a datagram that was waiting is taken. -/
theorem openSlot_progress {e₀ : Exec} (hv : e.Valid) (hcb : cb.TakesAll)
    (hqueued : (e.txSlots i).state = .queued) (hnone : ∀ k, (e.txSlots k).state ≠ .open)
    (htimeout : e.config.retryTimeoutCycles.toNat < 2 ^ 31)
    (hoffers : Offers cb (Clock.reading now) (e₀.openSlot i (Clock.reading now)) i
      ((e.txSlots i).begun (Clock.reading now + e.config.retryTimeoutCycles)) packet e')
    (hslots : e₀.txSlots = e.txSlots) (hconfig : e₀.config = e.config)
    (hdisarmed : e₀.creditProbeArmed = false) :
    ArqEngine.Progress now deadline e.toArqEngine e'.toArqEngine := by
  obtain ⟨p, rfl⟩ := hoffers.taken_of_takesAll hcb
  obtain ⟨ref, hslot⟩ := hv.1.slot i (by rw [hqueued]; decide)
  obtain ⟨hpos, hmax⟩ := hslot.fragmentCount_bounds
  obtain ⟨_, hnext⟩ := TxSlot.begun_atNext hpos hmax
    (Clock.reading now + e.config.retryTimeoutCycles)
  have hhalf := hoffers.sendingHalf
  have hopened : e'.txSlots = Function.update e.txSlots i
      (((e.txSlots i).begun (Clock.reading now + e.config.retryTimeoutCycles)).offered
        (Clock.reading now + e.config.retryTimeoutCycles) (some p)) := by
    rw [hoffers.txSlots, show (e₀.openSlot i (Clock.reading now)).config = e.config from hconfig,
      show (e₀.openSlot i (Clock.reading now)).txSlots = Function.update e₀.txSlots i _ from rfl,
      Function.update_idem, hslots]
  exact ArqEngine.resumes_progress (.opens hqueued _) hnext hmax hopened
    ((congrArg SendingHalf.config hhalf).trans hconfig)
    ((congrArg SendingHalf.creditProbeArmed hhalf).trans hdisarmed) (fun _ => hqueued)
    (fun k hopen => absurd hopen (hnone k)) htimeout

/-- What an opening comes to. -/
theorem Opening.progress (h : Opening cb (Clock.reading now) e packet e') (hv : e.Valid)
    (hcb : cb.TakesAll) (hnone : ∀ k, (e.txSlots k).state ≠ .open)
    (hretry : e.config.retryTimeoutCycles.toNat < 2 ^ 31)
    (hstall : e.config.creditStallTimeoutCycles.toNat < 2 ^ 31)
    (hwaits : e.creditProbeArmed → isBefore (Clock.reading now) e.creditProbeDeadline →
      now < deadline) : ArqEngine.Progress now deadline e.toArqEngine e'.toArqEngine := by
  cases h with
  | idle hempty =>
    refine .vacant (fun i => ?_) rfl
    show (e.txSlots i).state = .empty
    cases hstate : (e.txSlots i).state with
    | empty => rfl
    | queued => exact absurd hstate (hempty i)
    | «open» => exact absurd hstate (hnone i)
  | arms i hqueued hcredits hdisarmed =>
    refine .works ?_ (now + e.config.creditStallTimeoutCycles.toNat)
      ⟨fun k hopen => absurd hopen (hnone k), fun _ => Clock.reading_add now _⟩
      (Nat.le_add_right ..) (Nat.add_lt_add_left hstall now)
    rw [ArqEngine.work, ArqEngine.work, if_neg hdisarmed]
    exact Nat.lt_succ_self _
  | waits i hqueued hcredits harmed hbefore => exact .waits rfl (hwaits harmed hbefore)
  | probes i hqueued hcredits harmed hdue hoffers =>
    exact openSlot_progress hv hcb hqueued hnone hretry hoffers rfl rfl rfl
  | pays i hqueued hcredits hoffers =>
    exact openSlot_progress hv hcb hqueued hnone hretry hoffers rfl rfl rfl

/-- What a turn comes to. -/
theorem Turn.progress (h : Turn cb (Clock.reading now) e packet e') (hv : e.Valid)
    (hcb : cb.TakesAll) (hall : AllPaced e.txSlots)
    (hone : ∀ {i k}, (e.txSlots i).state = .open → (e.txSlots k).state = .open → k = i)
    (hquiet : e.creditProbeArmed → ∀ k, (e.txSlots k).state ≠ .open)
    (hunanswered : ∀ i, (e.txSlots i).state = .open → (e.txSlots i).Unanswered e.config.rounds)
    (hretry : e.config.retryTimeoutCycles.toNat < 2 ^ 31)
    (hstall : e.config.creditStallTimeoutCycles.toNat < 2 ^ 31) (hdue : e.Due deadline)
    (hnear : isBefore (Clock.reading now) (Clock.reading deadline) → now < deadline) :
    ArqEngine.Progress now deadline e.toArqEngine e'.toArqEngine := by
  have hdisarmed {i : Fin 4} (hopen : (e.txSlots i).state = .open) :
      e.creditProbeArmed = false := by
    by_contra harmed
    rw [Bool.not_eq_false] at harmed
    exact hquiet harmed i hopen
  cases h with
  | waits i hopen hround hwaits =>
    obtain ⟨ref, hslot⟩ := hv.1.slot i (by rw [hopen]; decide)
    have hbefore := hwaits.resolve_left ((hunanswered i hopen).missing hslot)
    rw [hdue.retry i hopen hround] at hbefore
    exact .waits rfl (hnear hbefore)
  | goesOn i hopen hround hoffers =>
    obtain ⟨p, rfl⟩ := hoffers.taken_of_takesAll hcb
    obtain ⟨ref, hslot⟩ := hv.1.slot i (by rw [hopen]; decide)
    obtain ⟨_, hmax⟩ := hslot.fragmentCount_bounds
    obtain ⟨_, hnext⟩ := (hall i hopen).skipToNext hmax hround
    have hhalf := hoffers.sendingHalf
    exact ArqEngine.resumes_progress (.goesOn hopen hround) hnext hmax hoffers.txSlots
      (congrArg SendingHalf.config hhalf)
      ((congrArg SendingHalf.creditProbeArmed hhalf).trans (hdisarmed hopen))
      (fun harmed => absurd hopen (hquiet harmed i)) (fun k hk => hone hopen hk)
      hretry
  | repeats i hopen hround hmissing hdue hattempts hoffers =>
    obtain ⟨p, rfl⟩ := hoffers.taken_of_takesAll hcb
    obtain ⟨ref, hslot⟩ := hv.1.slot i (by rw [hopen]; decide)
    obtain ⟨hpos, hmax⟩ := hslot.fragmentCount_bounds
    obtain ⟨_, hnext⟩ := TxSlot.beginRound_paced hpos hmax hmissing
    have hhalf := hoffers.sendingHalf
    exact ArqEngine.resumes_progress (.repeats hopen hround hattempts) hnext hmax hoffers.txSlots
      (congrArg SendingHalf.config hhalf)
      ((congrArg SendingHalf.creditProbeArmed hhalf).trans (hdisarmed hopen))
      (fun harmed => absurd hopen (hquiet harmed i)) (fun k hk => hone hopen hk)
      hretry
  | givesUp i hexhausted hopening =>
    have hopen := hexhausted.isOpen
    have hnone := failTxSlot_none_open fun k hk => hone hopen hk
    obtain ⟨pool, hhalf⟩ := failTxSlot_sendingHalf e i
    have hconfig : (e.failTxSlot i).config = e.config := congrArg SendingHalf.config hhalf
    have hnot : (e.failTxSlot i).creditProbeArmed = false :=
      (congrArg SendingHalf.creditProbeArmed hhalf).trans (hdisarmed hopen)
    have hfailed : (e.failTxSlot i).work < e.work := by
      have htotal := Slots.total_update (TxSlot.work e.config.rounds) e.txSlots i {}
      rw [ArqEngine.work, ArqEngine.work, hconfig, hnot, hdisarmed hopen, failTxSlot_txSlots]
      rw [TxSlot.work_open hopen] at htotal
      change _ = _ + 0 at htotal
      omega
    -- the probe is not armed, so that nothing waits for it
    have hopened : ArqEngine.Progress now 0 (e.failTxSlot i).toArqEngine e'.toArqEngine :=
      hopening.progress (failTxSlot_valid hv (by rw [hopen]; decide)) hcb hnone
        (by rw [hconfig]; exact hretry) (by rw [hconfig]; exact hstall)
        fun harmed => by rw [hnot] at harmed; cases harmed
    cases hopened with
    | vacant hvacant hdisarmed => exact .vacant hvacant hdisarmed
    | works hless next hdue hle hlt => exact .works (Nat.lt_trans hless hfailed) next hdue hle hlt
    | waits hsame hbefore => exact absurd hbefore (Nat.not_lt_zero now)
  | opens hnone hopening =>
    refine hopening.progress hv hcb hnone hretry hstall fun harmed hbefore => hnear ?_
    rwa [hdue.probe harmed] at hbefore

end Exec

/-- What a tick of a silent engine comes to. -/
theorem ArqEngine.Silent.progress {e : ArqEngine} (h : e.Silent) (hstep : e.InStep)
    (haccounts : e.Accounts) {cb : ArqCallbacks} (hcb : cb.TakesAll) {now deadline : Nat}
    (hretry : e.config.retryTimeoutCycles.toNat < 2 ^ 31)
    (hstall : e.config.creditStallTimeoutCycles.toNat < 2 ^ 31) (hdue : e.Due deadline)
    (hnear : isBefore (Clock.reading now) (Clock.reading deadline) → now < deadline) :
    Progress now deadline e (e.run cb (.onTick (Clock.reading now))).toArqEngine := by
  obtain ⟨packet, hturn⟩ := h.turn hstep cb (Clock.reading now)
  exact hturn.progress hstep.valid hcb hstep.paced hstep.one_open
    (fun harmed => (haccounts.armed harmed).2) h.unanswered hretry hstall hdue hnear

end FlrcTnc.Arq
