import FlrcTnc.Arq.Drain
import Mathlib.Data.List.Sort

/-! Silence drains the sender: while nothing is received every datagram is sent in so many rounds
and given up, and in the end nothing is left to send. -/

namespace FlrcTnc.Arq

open Framing Mask

/-! ### Whole rounds -/

/-- A DATA packet with fragment `k` of the datagram, and with ROUND_END on the last one. -/
def CarriesFragment (datagramId : UInt16) (data : List UInt8) (k : Nat) (packet : Packet) : Prop :=
  ∃ header, parseDataPacket packet = .ok (header, fragmentOf data k) ∧
    header.datagramId = datagramId ∧ header.datagramLength.toNat = data.length ∧
    header.fragmentCount.toNat = fragments data.length ∧ header.fragmentIndex.toNat = k ∧
    header.flags = if k + 1 = fragments data.length then v3DataFlagRoundEnd else 0

/-- The packets carry the fragments of the datagram, all of them and in order. -/
def WholeRound (datagramId : UInt16) (data : List UInt8) (packets : List Packet) : Prop :=
  List.Forall₂ (CarriesFragment datagramId data) (List.range (fragments data.length)) packets

namespace TxSlot

variable {slot slot' : TxSlot} {data : List UInt8} {ks : List Nat} {packets : List Packet}

/-- The slot is about the datagram `data`. -/
structure Holds (slot : TxSlot) (data : List UInt8) : Prop where
  len : slot.len.toNat = data.length
  fragmentCount : slot.fragmentCount.toNat = fragments data.length
  pos : 0 < fragments data.length
  max : fragments data.length ≤ 12

theorem SameHeader.holds (h : slot.SameHeader slot') (hslot : slot.Holds data) :
    slot'.Holds data where
  len := by rw [h.len]; exact hslot.len
  fragmentCount := by rw [h.fragmentCount]; exact hslot.fragmentCount
  pos := hslot.pos
  max := hslot.max

theorem Holds.hasBit_expectedBitmap (h : slot.Holds data) (k : Nat) :
    hasBit (expectedBitmap slot.fragmentCount) k = decide (k < fragments data.length) := by
  rw [expectedBitmap, fragmentExpectedBitmap_eq (by rw [h.fragmentCount]; exact h.pos)
    (by rw [h.fragmentCount]; exact h.max),
    hasBit_below (by rw [h.fragmentCount]; have := h.max; omega), h.fragmentCount]

theorem Holds.carries (h : slot.Holds data) {k : Nat} {packet : Packet}
    (hemits : slot.EmitsOf data (expectedBitmap slot.fragmentCount) k packet) :
    CarriesFragment slot.datagramId data k packet := by
  obtain ⟨last, ⟨header, hparse, hid, hlen, hcount, hindex, hflags⟩, hlast⟩ := hemits
  have hfragments : header.fragmentCount.toNat = fragments data.length := by
    rw [hcount, h.fragmentCount]
  have hk : k < fragments data.length := by
    obtain ⟨_, _, _, _, _, hlt, _⟩ := validateDataHeader_iff.mp (parseDataPacket_sound hparse).1
    rw [← hindex, ← hfragments]
    exact UInt8.lt_iff_toNat_lt.mp hlt
  refine ⟨header, hparse, hid, by rw [hlen, h.len], hfragments, hindex, ?_⟩
  have hends : last ↔ k + 1 = fragments data.length := by
    rw [hlast]
    constructor
    · intro hall
      have hle := hall (fragments data.length - 1) (by
        rw [h.hasBit_expectedBitmap, decide_eq_true_eq]
        omega)
      omega
    · intro heq j hj
      rw [h.hasBit_expectedBitmap, decide_eq_true_eq] at hj
      omega
  rw [hflags]
  simp only [hends]

/-- A round over all fragments is a whole one when it is over. -/
theorem Round.whole (h : slot.Round data (expectedBitmap slot.fragmentCount) ks packets)
    (hslot : slot.Holds data) (hover : slot.roundBitmap = 0) :
    WholeRound slot.datagramId data packets := by
  obtain rfl : ks = List.range (fragments data.length) := by
    refine List.Pairwise.eq_of_mem_iff h.ascending List.pairwise_lt_range fun k => ?_
    rw [h.sent, hover, hasBit_zero, hslot.hasBit_expectedBitmap, List.mem_range]
    simp
  exact h.emits.imp fun _ _ hemits => hslot.carries hemits

/-! ### One datagram -/

/-- The packets so far: whole rounds, one for each attempt but the last, and the round that the slot
is in. -/
def SentSoFar (slot : TxSlot) (data : List UInt8) (packets : List Packet) : Prop :=
  ∃ (rounds : List (List Packet)) (ks : List Nat) (part : List Packet),
    packets = rounds.flatten ++ part ∧ rounds.length + 1 = slot.attempts.toNat ∧
    (∀ round ∈ rounds, WholeRound slot.datagramId data round) ∧
    slot.Round data (expectedBitmap slot.fragmentCount) ks part

variable {config : ArqConfig} {before : List Packet}

theorem Resumes.of_queued {m : UInt8} (h : slot.Resumes m slot') (hqueued : slot.state = .queued) :
    ∃ retryDeadline, slot' = slot.begun retryDeadline := by
  cases h with
  | goesOn hopen | repeats hopen =>
    rw [hqueued] at hopen
    cases hopen
  | opens _ retryDeadline => exact ⟨retryDeadline, rfl⟩

theorem Resumes.of_left {m : UInt8} (h : slot.Resumes m slot') (hopen : slot.state = .open)
    (hround : slot.roundBitmap ≠ 0) : slot' = slot.skipToNext := by
  cases h with
  | goesOn => rfl
  | repeats _ hover => exact absurd hover hround
  | opens hqueued =>
    rw [hopen] at hqueued
    cases hqueued

theorem Resumes.of_over {m : UInt8} (h : slot.Resumes m slot') (hopen : slot.state = .open)
    (hround : slot.roundBitmap = 0) : slot' = slot.beginRound ∧ ¬ slot.attempts ≥ m := by
  cases h with
  | goesOn _ hleft => exact absurd hround hleft
  | repeats _ _ hattempts => exact ⟨rfl, hattempts⟩
  | opens hqueued =>
    rw [hopen] at hqueued
    cases hqueued

/-- The tick that opens the datagram. -/
theorem Ticks.opens (h : slot.Ticks config.maxAttempts data packets slot')
    (hqueued : slot.state = .queued) (hchanged : slot'.state ≠ .queued) :
    slot'.state = .open ∧ slot'.SentSoFar data packets := by
  cases h with
  | same => exact absurd hqueued hchanged
  | offered retryDeadline packet hresumes hpaced hnext hcount hemits hpackets =>
    obtain ⟨deadline, rfl⟩ := hresumes.of_queued hqueued
    obtain ⟨ks, hround⟩ := (Round.nil fun k => rfl).offered hnext hcount retryDeadline hemits
    rw [List.nil_append] at hround
    refine ⟨offered_state .., [], ks, packets, rfl, by rw [offered_attempts]; rfl,
      fun round hmem => (by cases hmem), ?_⟩
    rw [hpackets, (offered_header (slot.begun deadline) retryDeadline packet).fragmentCount]
    exact hround
  | gone hopen =>
    rw [hqueued] at hopen
    cases hopen

/-- A tick that leaves the datagram open. -/
theorem Ticks.continues (h : slot.Ticks config.maxAttempts data packets slot')
    (hopen : slot.state = .open) (hopen' : slot'.state = .open) (hslot : slot.Holds data)
    (hunanswered : slot.Unanswered config.rounds) (hsent : slot.SentSoFar data before) :
    slot'.SentSoFar data (before ++ packets) := by
  obtain ⟨rounds, ks, part, rfl, hlength, hwhole, hround⟩ := hsent
  cases h with
  | same hidle =>
    rw [hidle hopen, List.append_nil]
    exact ⟨rounds, ks, part, rfl, hlength, hwhole, hround⟩
  | @offered next retryDeadline packet hresumes hpaced hnext hcount hemits hpackets =>
    have hheader := offered_header next retryDeadline packet
    by_cases hover : slot.roundBitmap = 0
    · obtain ⟨rfl, hattempts⟩ := hresumes.of_over hopen hover
      have hsame := (Exec.beginRound_sameDatagram slot).header
      have hall : slot.beginRound.roundBitmap = expectedBitmap slot.fragmentCount := by
        change expectedBitmap slot.fragmentCount &&& ~~~ slot.ackedBitmap = _
        rw [hunanswered.unacked]
        exact UInt16.and_neg_one
      obtain ⟨ks', hround'⟩ := (Round.nil fun k => congrArg (hasBit · k) hall).offered hnext hcount
        retryDeadline hemits
      -- what was sent before is one more whole round
      refine ⟨rounds ++ [part], ks', packets, by simp, ?_, fun round hmem => ?_, ?_⟩
      · rw [offered_attempts, List.length_append, List.length_singleton, hlength]
        exact (toNat_attempts_succ hattempts).1.symm
      · rw [hheader.datagramId, hsame.datagramId]
        rcases List.mem_append.mp hmem with hmem | hmem
        · exact hwhole round hmem
        · rw [List.mem_singleton.mp hmem]
          exact hround.whole hslot hover
      · rw [hheader.fragmentCount, hsame.fragmentCount, hpackets]
        exact hround'
    · obtain rfl := hresumes.of_left hopen hover
      have hsame := (Exec.skipToNext_sameDatagram slot).header
      obtain ⟨ks', hround'⟩ := (hround.congr hsame rfl).offered hnext hcount retryDeadline hemits
      refine ⟨rounds, ks', part ++ packets, by rw [List.append_assoc], ?_, ?_, ?_⟩
      · rw [offered_attempts]
        exact hlength
      · rw [hheader.datagramId, hsame.datagramId]
        exact hwhole
      · rw [hheader.fragmentCount, hsame.fragmentCount, hpackets]
        exact hround'
  | gone => cases hopen'

/-- The tick that gives the datagram up. -/
theorem Ticks.ends_with (h : slot.Ticks config.maxAttempts data packets slot')
    (hopen : slot.state = .open) (hclosed : slot'.state ≠ .open) (hslot : slot.Holds data)
    (hunanswered : slot.Unanswered config.rounds) (hsent : slot.SentSoFar data before) :
    slot'.state = .empty ∧ ∃ rounds : List (List Packet), before = rounds.flatten ∧
      rounds.length = config.rounds ∧ ∀ round ∈ rounds, WholeRound slot.datagramId data round := by
  cases h with
  | same => exact absurd hopen hclosed
  | offered retryDeadline packet hresumes =>
    rw [offered_state] at hclosed
    cases hresumes with
    | goesOn | repeats => exact absurd hopen hclosed
    | opens => exact absurd rfl hclosed
  | gone _ hover hattempts =>
    obtain ⟨rounds, ks, part, rfl, hlength, hwhole, hround⟩ := hsent
    refine ⟨rfl, rounds ++ [part], by simp, ?_, fun round hmem => ?_⟩
    · have hless := UInt8.le_iff_toNat_le.mp hattempts
      have hbegun := hunanswered.begun
      have hwithin := hunanswered.within
      rw [List.length_append, List.length_singleton]
      unfold ArqConfig.rounds at hwithin ⊢
      omega
    · rcases List.mem_append.mp hmem with hmem | hmem
      · exact hwhole round hmem
      · rw [List.mem_singleton.mp hmem]
        exact hround.whole hslot hover

end TxSlot

/-! ### Giving up -/

namespace Exec

variable {e e' : Exec} {i : Fin 4} {cb : ArqCallbacks} {now : UInt32} {packet : Option Packet}

theorem Opening.retryExhaustion (h : Opening cb now e packet e') :
    e'.counters.retryExhaustion = e.counters.retryExhaustion := by
  cases h with
  | idle | arms | waits => rfl
  | probes k hqueued hcredits harmed hdue hoffers | pays k hqueued hcredits hoffers =>
    exact congrArg SendingHalf.retryExhaustion hoffers.sendingHalf

/-- A turn that leaves the open slot behind gives its datagram up. -/
theorem Turn.gives_up (h : Turn cb now e packet e')
    (hone : ∀ {i k}, (e.txSlots i).state = .open → (e.txSlots k).state = .open → k = i)
    (hopen : (e.txSlots i).state = .open) (hclosed : (e'.txSlots i).state ≠ .open) :
    e'.counters.retryExhaustion = e.counters.retryExhaustion + 1 := by
  cases h with
  | waits => exact absurd hopen hclosed
  | goesOn k hk hround hoffers =>
    obtain rfl := hone hk hopen
    exact absurd (hoffers.state.trans hopen) hclosed
  | repeats k hk hround hmissing hdue hattempts hoffers =>
    obtain rfl := hone hk hopen
    exact absurd (hoffers.state.trans hopen) hclosed
  | givesUp k hexhausted hopening =>
    obtain ⟨pool, hhalf⟩ := failTxSlot_sendingHalf e k
    exact hopening.retryExhaustion.trans (congrArg SendingHalf.retryExhaustion hhalf)
  | opens hnone => exact absurd hopen (hnone i)

end Exec

/-! ### Every datagram is served -/

/-- The DATA packets that `send_packet` takes in the steps from `m` on, before step `n`. -/
def packetsFrom (config : ArqConfig) (step : Nat → ArqCallbacks × TimedCall) (m n : Nat) :
    List Packet :=
  (List.range' m (n - m)).flatMap fun k => dataPackets (eventsAt config step k)

/-- The datagram that step `accepted` puts into slot `i` waits until step `opened` opens it, is open
until step `freed` gives it up, and is sent in whole rounds between the two. -/
structure Served (config : ArqConfig) (step : Nat → ArqCallbacks × TimedCall) (i : Fin 4)
    (datagramId : UInt16) (data : List UInt8) (accepted opened freed : Nat) : Prop where
  order : accepted < opened ∧ opened < freed
  waits : ∀ n, accepted < n → n ≤ opened → ((engineAt config step n).txSlots i).state = .queued
  sends : ∀ n, opened < n → n ≤ freed → ((engineAt config step n).txSlots i).state = .open
  rounds : ∃ rounds : List (List Packet), packetsFrom config step opened freed = rounds.flatten ∧
    rounds.length = max 1 config.maxAttempts.toNat ∧
    ∀ round ∈ rounds, WholeRound datagramId data round
  freed : ((engineAt config step (freed + 1)).txSlots i).state = .empty ∧
    (engineAt config step (freed + 1)).counters.retryExhaustion =
      (engineAt config step freed).counters.retryExhaustion + 1

/-- Nothing is left to send from step `n` on. -/
structure Drained (config : ArqConfig) (step : Nat → ArqCallbacks × TimedCall) (n : Nat) :
    Prop where
  vacant : (engineAt config step n).Vacant
  free : poolFreeCount (engineAt config step n).txPool = datagramPoolCapacity ∧
    (engineAt config step n).txPool.usedCount = 0
  silent : ∀ packet ok, .sent packet ok ∉ eventsAt config step n

namespace SilentRun

variable {config : ArqConfig} {step : Nat → ArqCallbacks × TimedCall} {n : Nat}

/-- What was accepted last into slot `i`, before step `n`. -/
def acceptedAt (config : ArqConfig) (step : Nat → ArqCallbacks × TimedCall) (i : Fin 4) (n : Nat) :
    Option (UInt16 × List UInt8) :=
  lastAccepted i ((ArqEngine.reset config).trace
    ((callsBefore step n).map (Prod.map id TimedCall.toCall)))

theorem trace_succ (config : ArqConfig) (step : Nat → ArqCallbacks × TimedCall) (n : Nat) :
    (ArqEngine.reset config).trace ((callsBefore step (n + 1)).map (Prod.map id TimedCall.toCall)) =
      (ArqEngine.reset config).trace ((callsBefore step n).map (Prod.map id TimedCall.toCall)) ++
        eventsAt config step n := by
  rw [callsBefore_succ, List.map_append]
  exact ArqEngine.trace_concat ..

variable {i : Fin 4} {datagramId : UInt16} {data : List UInt8}

/-- A slot that holds a datagram keeps it in the next step. -/
theorem acceptedAt_succ (hlive : ((engineAt config step n).txSlots i).state ≠ .empty) :
    acceptedAt config step i (n + 1) = acceptedAt config step i n := by
  unfold acceptedAt
  rw [callsBefore_succ, List.map_append]
  exact ArqEngine.lastAccepted_concat config _ hlive _ _

theorem acceptedAt_eq (hlive : ((engineAt config step n).txSlots i).state ≠ .empty)
    (haccepted : acceptedAt config step i n = some (datagramId, data)) :
    ((engineAt config step n).txSlots i).datagramId = datagramId ∧
      (engineAt config step n).datagram i = data := by
  rw [acceptedAt, ArqEngine.lastAccepted_eq config _ hlive] at haccepted
  cases haccepted
  exact ⟨rfl, rfl⟩

/-- The step that accepts a datagram. -/
theorem accepts (h : SilentRun config step)
    (haccepted : .accepted i datagramId data ∈ eventsAt config step n) :
    ((engineAt config step (n + 1)).txSlots i).state = .queued ∧
      acceptedAt config step i (n + 1) = some (datagramId, data) := by
  have hticks (now : Nat) : (step n).2 ≠ .onTick now := by
    intro hcall
    rw [eventsAt, hcall] at haccepted
    have hdoes := ArqEngine.run_spec (engineAt_inStep config step n).valid (step n).1
      (.onTick (Clock.reading now))
    exact Party.Tick.no_acceptance hdoes.2 _ haccepted trivial
  unfold acceptedAt
  rw [trace_succ, lastAccepted_append]
  rw [eventsAt] at haccepted ⊢
  rw [engineAt_succ]
  cases h.submits hticks with
  | same hslots hevents =>
    rw [hevents] at haccepted
    cases haccepted
  | accepts k lease len datagramId' data' hempty hslots hevents =>
    rw [hevents, List.mem_singleton] at haccepted
    cases haccepted
    rw [hslots, Function.update_self, hevents]
    exact ⟨rfl, by simp [lastAccepted, Event.acceptedInto]⟩

/-- A call that is no tick leaves a slot with its datagram alone. -/
theorem kept (h : SilentRun config step) (hticks : ∀ now, (step n).2 ≠ .onTick now)
    (hlive : ((engineAt config step n).txSlots i).state ≠ .empty) :
    (engineAt config step (n + 1)).txSlots i = (engineAt config step n).txSlots i := by
  rw [engineAt_succ]
  cases h.submits hticks with
  | same hslots => rw [hslots]
  | accepts k lease len datagramId data hempty hslots =>
    rw [hslots, Function.update_of_ne]
    rintro rfl
    exact hlive hempty

/-- What a step does to a slot that holds a datagram. -/
theorem ticks (h : SilentRun config step)
    (hlive : ((engineAt config step n).txSlots i).state ≠ .empty) :
    ((engineAt config step n).txSlots i).Ticks config.maxAttempts
      ((engineAt config step n).datagram i) (dataPackets (eventsAt config step n))
      ((engineAt config step (n + 1)).txSlots i) := by
  have hstep := engineAt_inStep config step n
  by_cases hticks : ∃ now, (step n).2 = .onTick now
  · obtain ⟨now, hcall⟩ := hticks
    have hticks := hstep.slot_ticks (step n).1 (Clock.reading now) i
    rw [engineAt_config] at hticks
    rw [engineAt_succ, eventsAt, hcall]
    exact hticks
  · have hno := not_exists.mp hticks
    rw [h.kept hno hlive]
    exact .same fun _ => hstep.no_data _ (TimedCall.toCall_ne_tick hno)

theorem holds (hlive : ((engineAt config step n).txSlots i).state ≠ .empty) :
    ((engineAt config step n).txSlots i).Holds ((engineAt config step n).datagram i) := by
  obtain ⟨ref, hslot⟩ := (engineAt_inStep config step n).valid.1.slot i hlive
  have hlength : ((engineAt config step n).datagram i).length =
      ((engineAt config step n).txSlots i).len.toNat := Buffer.read_length ..
  obtain ⟨hpos, hmax⟩ := hslot.fragmentCount_bounds
  have hcount : ((engineAt config step n).txSlots i).fragmentCount.toNat =
      fragments ((engineAt config step n).datagram i).length := by
    rw [hslot.count, expectedFragmentCount_toNat hslot.len_pos hslot.len_le, hlength]
    rfl
  exact ⟨hlength.symm, hcount, hcount ▸ hpos, hcount ▸ hmax⟩

/-- The tick that empties a slot gives its datagram up. -/
theorem gives_up (h : SilentRun config step)
    (hopen : ((engineAt config step n).txSlots i).state = .open)
    (hclosed : ((engineAt config step (n + 1)).txSlots i).state ≠ .open) :
    (engineAt config step (n + 1)).counters.retryExhaustion =
      (engineAt config step n).counters.retryExhaustion + 1 := by
  have hstep := engineAt_inStep config step n
  by_cases hticks : ∃ now, (step n).2 = .onTick now
  · obtain ⟨now, hcall⟩ := hticks
    obtain ⟨packet, hturn⟩ := (h.silent n).turn hstep (step n).1 (Clock.reading now)
    rw [engineAt_succ, hcall] at hclosed ⊢
    exact hturn.gives_up hstep.one_open hopen hclosed
  · rw [h.kept (not_exists.mp hticks) (by rw [hopen]; decide)] at hclosed
    exact absurd hopen hclosed

/-- The packets of the slot, from the step that opens it on. -/
theorem sentSoFar (h : SilentRun config step) {m k : Nat} (hmk : m < k)
    (hopens : ((engineAt config step (m + 1)).txSlots i).SentSoFar data
      (dataPackets (eventsAt config step m)))
    (hopen : ∀ j, m < j → j ≤ k → ((engineAt config step j).txSlots i).state = .open)
    (haccepted : acceptedAt config step i (m + 1) = some (datagramId, data)) :
    ((engineAt config step k).txSlots i).SentSoFar data (packetsFrom config step m k) ∧
      acceptedAt config step i k = some (datagramId, data) := by
  induction k, hmk using Nat.le_induction with
  | base =>
    refine ⟨?_, haccepted⟩
    rw [packetsFrom, Nat.succ_sub (Nat.le_refl m), Nat.sub_self]
    simpa using hopens
  | succ k hk ih =>
    obtain ⟨hsent, hdatagram⟩ := ih fun j hj hjk => hopen j hj (Nat.le_succ_of_le hjk)
    have hbefore := hopen k hk (Nat.le_succ k)
    have hlive : ((engineAt config step k).txSlots i).state ≠ .empty := by rw [hbefore]; decide
    obtain ⟨_, hdata⟩ := acceptedAt_eq hlive hdatagram
    have hticks := h.ticks hlive
    have hholds := holds hlive
    have hunanswered := (h.silent k).unanswered i hbefore
    rw [hdata] at hticks hholds
    rw [engineAt_config] at hunanswered
    refine ⟨?_, (acceptedAt_succ hlive).trans hdatagram⟩
    have hsplit : packetsFrom config step m (k + 1) =
        packetsFrom config step m k ++ dataPackets (eventsAt config step k) := by
      unfold packetsFrom
      rw [Nat.succ_sub (Nat.le_of_lt hk), List.range'_1_concat, List.flatMap_append,
        Nat.add_sub_cancel' (Nat.le_of_lt hk)]
      simp
    rw [hsplit]
    exact hticks.continues hbefore (hopen (k + 1) (by omega) (Nat.le_refl _)) hholds hunanswered
      hsent

/-- Every datagram that is accepted is served. -/
theorem served (h : SilentRun config step)
    (haccepted : .accepted i datagramId data ∈ eventsAt config step n) :
    ∃ opened freed, Served config step i datagramId data n opened freed := by
  obtain ⟨hqueued, hdatagram⟩ := h.accepts haccepted
  obtain ⟨last, hvacant⟩ := h.exists_vacant
  have hends (m : Nat) : ∃ k, m ≤ k ∧ ((engineAt config step k).txSlots i).state = .empty :=
    ⟨max m last, Nat.le_max_left .., (hvacant _ (Nat.le_max_right ..)).1 i⟩
  -- the slot waits until it is opened
  obtain ⟨k, hk, hempty⟩ := hends (n + 1)
  obtain ⟨opened, hopened, _, hwaits, hchanged⟩ := Ranking.exists_last
    (P := fun j => ((engineAt config step j).txSlots i).state = .queued) hk hqueued
    (by rw [hempty]; decide)
  have hdatagramAt (j : Nat) (hj : n + 1 ≤ j) (hjo : j ≤ opened) :
      acceptedAt config step i j = some (datagramId, data) := by
    induction j, hj using Nat.le_induction with
    | base => exact hdatagram
    | succ j hj ih =>
      rw [acceptedAt_succ (by rw [hwaits j hj (by omega)]; decide)]
      exact ih (by omega)
  have hwaiting := hwaits opened hopened (Nat.le_refl opened)
  have hlive : ((engineAt config step opened).txSlots i).state ≠ .empty := by
    rw [hwaiting]
    decide
  have hdatagram' := hdatagramAt opened hopened (Nat.le_refl opened)
  obtain ⟨_, hdata⟩ := acceptedAt_eq hlive hdatagram'
  have hticks := h.ticks hlive
  rw [hdata] at hticks
  obtain ⟨hopen, hsent⟩ := hticks.opens hwaiting hchanged
  -- and it is open until it is given up
  obtain ⟨k', hk', hempty'⟩ := hends (opened + 1)
  obtain ⟨freed, hfreed, _, hsends, hclosed⟩ := Ranking.exists_last
    (P := fun j => ((engineAt config step j).txSlots i).state = .open) hk' hopen
    (by rw [hempty']; decide)
  obtain ⟨hsent', hdatagram''⟩ := h.sentSoFar hfreed hsent hsends
    ((acceptedAt_succ hlive).trans hdatagram')
  have hsending := hsends freed hfreed (Nat.le_refl freed)
  have hlive' : ((engineAt config step freed).txSlots i).state ≠ .empty := by
    rw [hsending]
    decide
  obtain ⟨hid, hdata'⟩ := acceptedAt_eq hlive' hdatagram''
  have hticks' := h.ticks hlive'
  have hholds := holds hlive'
  have hunanswered := (h.silent freed).unanswered i hsending
  rw [hdata'] at hticks' hholds
  rw [engineAt_config] at hunanswered
  obtain ⟨hend, rounds, hrounds, hlength, hwhole⟩ :=
    hticks'.ends_with hsending hclosed hholds hunanswered hsent'
  rw [hid] at hwhole
  exact ⟨opened, freed, ⟨hopened, hfreed⟩, hwaits, hsends, ⟨rounds, hrounds, hlength, hwhole⟩, hend,
    h.gives_up hsending hclosed⟩

end SilentRun

/-- The pool of an engine without datagrams has all its buffers. -/
theorem ArqEngine.Vacant.free {e : ArqEngine} (hvacant : e.Vacant) (hstep : e.InStep)
    (haccounts : e.Accounts) :
    poolFreeCount e.txPool = datagramPoolCapacity ∧ e.txPool.usedCount = 0 := by
  have hmatch := hstep.valid.1.handlesMatch haccounts.txUsed haccounts.txReleases
  have hlive (i : Fin 4) : (e.txSlots i).live = false := vacant_iff_live.mp hvacant i
  have hfree : e.txPool.freeBuffers = List.finRange 8 := by
    refine List.filter_eq_self.mpr fun ref _ => decide_eq_true fun hbit => ?_
    have hallocated : poolIsAllocated e.txPool (.ofRef ref) :=
      decide_eq_true ⟨DatagramHandle.ofRef_isValid ref, hbit⟩
    obtain ⟨i, hi, _⟩ := (hmatch.allocated _).mp hallocated
    rw [hlive i] at hi
    cases hi
  refine ⟨by rw [poolFreeCount, hfree]; rfl, UInt8.toNat_inj.mp ?_⟩
  rw [hmatch.used]
  exact List.countP_eq_zero.mpr fun i _ => by rw [hlive i]; decide

/-- While nothing is received, every datagram is sent in its rounds and given up, and in the end the
sender is at rest. -/
theorem silence_drains {config : ArqConfig} {step : Nat → ArqCallbacks × TimedCall}
    (h : SilentRun config step) :
    (∀ n i datagramId data, .accepted i datagramId data ∈ eventsAt config step n →
      ∃ opened freed, Served config step i datagramId data n opened freed) ∧
    ∃ m, ∀ n, m ≤ n → Drained config step n := by
  refine ⟨fun n i datagramId data haccepted => h.served haccepted, ?_⟩
  obtain ⟨m, hvacant⟩ := h.exists_vacant
  refine ⟨m, fun n hn => ?_⟩
  obtain ⟨hnone, hevents⟩ := hvacant n hn
  refine ⟨hnone, hnone.free (engineAt_inStep config step n) (engineAt_accounts config step n), ?_⟩
  intro packet ok hsent
  rw [hevents] at hsent
  cases hsent

/-- One datagram that is accepted before the first of the ticks, which come one at a time. -/
def loneRun : Nat → ArqCallbacks × TimedCall
  | 0 => (Exec.takesAll, .onTxDatagram (some [1]))
  | n + 1 => (Exec.takesAll, .onTick n)

theorem tickTimes_loneRun (n : Nat) : tickTimes (callsBefore loneRun (n + 1)) = List.range n := by
  induction n with
  | zero => rfl
  | succ n ih =>
    rw [SilentRun.tickTimes_succ, ih, List.range_succ]
    rfl

theorem loneRun_silent : SilentRun stalledConfig loneRun where
  takes n := by cases n <;> exact ⟨_, rfl, fun _ _ => rfl⟩
  receives n packet now := by cases n <;> nofun
  retry := by decide
  stall := by decide
  ordered n := by
    cases n with
    | zero => exact .nil
    | succ n =>
      rw [tickTimes_loneRun, List.isChain_iff_getElem]
      intro k hk
      simp
  unbounded t := ⟨t + 1, t, rfl, Nat.le_refl t⟩
  finite := by
    refine ⟨1, fun n hn i datagramId data haccepted => ?_⟩
    obtain ⟨n, rfl⟩ := Nat.exists_eq_add_of_le' hn
    exact Party.Tick.no_acceptance (ArqEngine.run_spec
      (engineAt_inStep stalledConfig loneRun (n + 1)).valid Exec.takesAll
      (.onTick (Clock.reading n))).2 _ haccepted trivial

/-- The only datagram, which a probe opens, is served. -/
theorem silence_drains_probing :
    (∃ opened freed, Served stalledConfig loneRun 0 0 [1] 0 opened freed) ∧
      ∃ m, ∀ n, m ≤ n → Drained stalledConfig loneRun n := by
  obtain ⟨hserved, hdrained⟩ := silence_drains loneRun_silent
  exact ⟨hserved 0 0 0 [1] (by decide +kernel), hdrained⟩

end FlrcTnc.Arq
