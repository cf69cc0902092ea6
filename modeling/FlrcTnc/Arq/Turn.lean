import FlrcTnc.Arq.Rounds
import FlrcTnc.Arq.Intact

/-! What a tick does to the sending half of the engine, once it has neither a datagram to deliver
nor an ACK to send. -/

namespace FlrcTnc.Arq

open Framing Mask

/-! ### Opening -/

/-- The slot when its datagram is opened. -/
def TxSlot.begun (slot : TxSlot) (retryDeadline : UInt32) : TxSlot :=
  { slot with
    state := .open
    ackedBitmap := 0
    roundBitmap := expectedBitmap slot.fragmentCount
    nextFragment := 0
    attempts := 1
    retryDeadline }

/-- The first round has all fragments. -/
theorem TxSlot.hasBit_begun {slot : TxSlot} (h0 : 0 < slot.fragmentCount.toNat)
    (hcount : slot.fragmentCount.toNat ≤ 12) (deadline : UInt32) (k : Nat) :
    hasBit (slot.begun deadline).roundBitmap k = decide (k < slot.fragmentCount.toNat) := by
  change hasBit (expectedBitmap slot.fragmentCount) k = _
  rw [expectedBitmap, fragmentExpectedBitmap_eq h0 hcount, hasBit_below (by omega)]

theorem TxSlot.begun_atNext {slot : TxSlot} (h0 : 0 < slot.fragmentCount.toNat)
    (hcount : slot.fragmentCount.toNat ≤ 12) (deadline : UInt32) :
    (slot.begun deadline).Paced ∧ (slot.begun deadline).AtNext := by
  refine ⟨fun k hk => ?_, ?_, UInt8.lt_iff_toNat_lt.mpr h0, fun k _ => Nat.zero_le k⟩
  · rw [hasBit_begun h0 hcount, decide_eq_true_eq] at hk
    exact ⟨Nat.zero_le k, hk⟩
  · rw [hasBit_begun h0 hcount, decide_eq_true_eq]
    exact h0

/-- The slot after its next fragment was offered, and `packet` was taken. -/
def TxSlot.offered (slot : TxSlot) (retryDeadline : UInt32) (packet : Option Packet) : TxSlot :=
  if packet.isSome then slot.fragmentSent retryDeadline else slot

theorem TxSlot.AtNext.offered {slot : TxSlot} (h : slot.AtNext)
    (hcount : slot.fragmentCount.toNat ≤ 12) (hpaced : slot.Paced) (deadline : UInt32)
    (packet : Option Packet) : (slot.offered deadline packet).Paced := by
  unfold TxSlot.offered
  split
  · exact h.fragmentSent hcount hpaced deadline
  · exact hpaced

namespace Exec

variable {e e' e'' : Exec} {i : Fin 4} {cb : ArqCallbacks} {now : UInt32}

theorem openSlot_self (e : Exec) (i : Fin 4) (now : UInt32) : (e.openSlot i now).txSlots i =
    (e.txSlots i).begun (now + e.config.retryTimeoutCycles) := setTx_self ..

/-- The count of one more probe. -/
def probed (e : Exec) : Exec :=
  e.count fun c => { c with creditStallProbes := c.creditStallProbes + 1 }

/-- What `tryOpenQueued` comes to while nothing is open. -/
inductive Opening (cb : ArqCallbacks) (now : UInt32) (e : Exec) : Option Packet → Exec → Prop
  | idle (hnone : ∀ i, (e.txSlots i).state ≠ .queued) :
      Opening cb now e none { e with creditProbeArmed := false }
  | arms (i : Fin 4) (hqueued : (e.txSlots i).state = .queued) (hcredits : e.remoteCredits = 0)
      (harmed : ¬ e.creditProbeArmed) : Opening cb now e none { e with
        creditProbeArmed := true
        creditProbeDeadline := now + e.config.creditStallTimeoutCycles }
  | waits (i : Fin 4) (hqueued : (e.txSlots i).state = .queued) (hcredits : e.remoteCredits = 0)
      (harmed : e.creditProbeArmed) (hbefore : isBefore now e.creditProbeDeadline) :
      Opening cb now e none e
  | probes (i : Fin 4) {packet : Option Packet} {e' : Exec}
      (hqueued : (e.txSlots i).state = .queued) (hcredits : e.remoteCredits = 0)
      (harmed : e.creditProbeArmed) (hdue : ¬ isBefore now e.creditProbeDeadline)
      (hoffers : Offers cb now (openSlot { e.probed with creditProbeArmed := false } i now) i
        ((e.txSlots i).begun (now + e.config.retryTimeoutCycles)) packet e') :
      Opening cb now e packet e'
  | pays (i : Fin 4) {packet : Option Packet} {e' : Exec}
      (hqueued : (e.txSlots i).state = .queued) (hcredits : e.remoteCredits ≠ 0)
      (hoffers : Offers cb now (openSlot { e with creditProbeArmed := false } i now) i
        ((e.txSlots i).begun (now + e.config.retryTimeoutCycles)) packet e') :
      Opening cb now e packet e'

/-- The datagram that has just been opened is offered at once. -/
theorem openSlot_offers (cb : ArqCallbacks) (now : UInt32) (h : e.Valid)
    (hqueued : (e.txSlots i).state = .queued) (hnone : ∀ k, (e.txSlots k).state ≠ .open) :
    ∃ packet e', (e.openSlot i now).trySendOpenData cb now = (packet.isSome, e') ∧
      Offers cb now (e.openSlot i now) i
        ((e.txSlots i).begun (now + e.config.retryTimeoutCycles)) packet e' := by
  obtain ⟨ref, hslot⟩ := h.1.slot i (by rw [hqueued]; decide)
  obtain ⟨hpos, hmax⟩ := hslot.fragmentCount_bounds
  have hself := openSlot_self e i now
  obtain ⟨hpaced, hnext⟩ := TxSlot.begun_atNext hpos hmax (now + e.config.retryTimeoutCycles)
  have hvalid : (e.openSlot i now).Valid := ⟨h.1.update (by rw [hqueued]; decide)
    (by simp) rfl rfl rfl rfl, h.2⟩
  have hone (k : Fin 4) (hk : ((e.openSlot i now).txSlots k).state = .open) : k = i := by
    by_contra hki
    have hother : (e.openSlot i now).txSlots k = e.txSlots k := Function.update_of_ne hki ..
    rw [hother] at hk
    exact hnone k hk
  have hoffers := trySendOpenDataFrom_offers cb now hvalid (by rw [hself]; rfl)
    (by rw [hself]; exact hnext.roundBitmap_ne_zero) (by rw [hself]; exact hpaced) hone
    (List.nodup_finRange 4) (List.mem_finRange i)
  rw [hself, hnext.skipToNext_eq hmax] at hoffers
  exact hoffers

theorem tryOpenQueued_opening (cb : ArqCallbacks) (now : UInt32) (h : e.Valid)
    (hnone : ∀ k, (e.txSlots k).state ≠ .open) :
    ∃ packet, Opening cb now e packet (e.tryOpenQueued cb now).2 := by
  have hactive : ¬ e.txActiveCount ≠ 0 := not_not.mpr (txCount_eq_zero_iff.mpr hnone)
  rw [tryOpenQueued, if_neg hactive, creditProbe]
  by_cases hwaiting : ∃ k, (e.txSlots k).state = .queued
  · obtain ⟨k, hk⟩ := hwaiting
    have hcount : e.txQueuedCount ≠ 0 := txCount_ne_zero hk
    have hfound {P : Fin 4 → Bool} (hP : P k) : (List.finRange 4).find? P ≠ none := by
      intro hfind
      exact List.find?_eq_none.mp hfind k (List.mem_finRange k) hP
    by_cases hcredits : e.remoteCredits = 0
    · rw [if_neg (not_not.mpr hcredits), if_neg hcount]
      by_cases harmed : e.creditProbeArmed
      · rw [if_neg (not_not.mpr harmed)]
        by_cases hbefore : isBefore now e.creditProbeDeadline
        · rw [if_pos hbefore]
          exact ⟨none, .waits k hk hcredits harmed hbefore⟩
        · rw [if_neg hbefore]
          dsimp only
          split
          · next hfind => exact absurd hfind (hfound (by simpa using! hk))
          · next i hfind =>
            have hqueued : (e.txSlots i).state = .queued := by
              simpa using! (find_finRange_eq_some hfind).1
            obtain ⟨packet, e', heq, hoffers⟩ := openSlot_offers (i := i)
              (e := { e.probed with creditProbeArmed := false }) cb now h hqueued hnone
            refine ⟨packet, .probes i hqueued hcredits harmed hbefore ?_⟩
            change Offers cb now _ i _ packet (trySendOpenData cb
              (openSlot { e.probed with creditProbeArmed := false } i now) now).2
            rw [heq]
            exact hoffers
      · rw [if_pos harmed]
        exact ⟨none, .arms k hk hcredits harmed⟩
    · rw [if_pos hcredits]
      dsimp only
      split
      · next hfind => exact absurd hfind (hfound (by simpa using hk))
      · next i hfind =>
        have hqueued : (e.txSlots i).state = .queued := by
          simpa using (find_finRange_eq_some hfind).1
        obtain ⟨packet, e', heq, hoffers⟩ := openSlot_offers (i := i)
          (e := { e with creditProbeArmed := false }) cb now h hqueued hnone
        refine ⟨packet, .pays i hqueued hcredits ?_⟩
        rw [heq]
        exact hoffers
  · have hidle := not_exists.mp hwaiting
    have hzero : e.txQueuedCount = 0 := txCount_eq_zero_iff.mpr hidle
    refine ⟨none, ?_⟩
    by_cases hcredits : e.remoteCredits = 0
    · rw [if_neg (not_not.mpr hcredits), if_pos hzero]
      exact .idle hidle
    · rw [if_pos hcredits]
      dsimp only
      split
      · exact .idle hidle
      · next i hfind =>
        have hqueued : (e.txSlots i).state = .queued := by
          simpa using (find_finRange_eq_some hfind).1
        exact absurd hqueued (hidle i)

/-! ### The turn of the datagrams -/

/-- What the last three steps of `onTick` come to. -/
inductive Turn (cb : ArqCallbacks) (now : UInt32) (e : Exec) : Option Packet → Exec → Prop
  /-- The open datagram waits for ACKs. -/
  | waits (i : Fin 4) (hopen : (e.txSlots i).state = .open)
      (hround : (e.txSlots i).roundBitmap = 0)
      (hwaits : (e.txSlots i).Acknowledged ∨ isBefore now (e.txSlots i).retryDeadline) :
      Turn cb now e none e
  | goesOn (i : Fin 4) {packet : Option Packet} {e' : Exec}
      (hopen : (e.txSlots i).state = .open) (hround : (e.txSlots i).roundBitmap ≠ 0)
      (hoffers : Offers cb now e i (e.txSlots i).skipToNext packet e') : Turn cb now e packet e'
  | repeats (i : Fin 4) {packet : Option Packet} {e' : Exec}
      (hopen : (e.txSlots i).state = .open) (hround : (e.txSlots i).roundBitmap = 0)
      (hmissing : ¬ (e.txSlots i).Acknowledged)
      (hdue : ¬ isBefore now (e.txSlots i).retryDeadline)
      (hattempts : ¬ (e.txSlots i).attempts ≥ e.config.maxAttempts)
      (hoffers : Offers cb now e i (e.txSlots i).beginRound packet e') : Turn cb now e packet e'
  | givesUp (i : Fin 4) {packet : Option Packet} {e' : Exec}
      (hexhausted : (e.txSlots i).Exhausted e.config.maxAttempts now)
      (hopening : Opening cb now (e.failTxSlot i) packet e') : Turn cb now e packet e'
  | opens {packet : Option Packet} {e' : Exec} (hnone : ∀ k, (e.txSlots k).state ≠ .open)
      (hopening : Opening cb now e packet e') : Turn cb now e packet e'

theorem failTxSlot_sendingHalf (e : Exec) (i : Fin 4) : ∃ pool,
    (e.failTxSlot i).sendingHalf = { e.sendingHalf with
      txPool := pool
      txSlots := Function.update e.txSlots i {}
      retryExhaustion := e.counters.retryExhaustion + 1 } := by
  unfold failTxSlot clearTxSlot
  dsimp only
  split
  · exact ⟨_, rfl⟩
  · exact ⟨e.txPool, rfl⟩

theorem failTxSlot_valid (h : e.Valid) (hlive : (e.txSlots i).state ≠ .empty) :
    (e.failTxSlot i).Valid :=
  (clearTxSlot_eq (e := e.count fun c => { c with retryExhaustion := c.retryExhaustion + 1 }) h
    hlive).2.1

/-- No slot is open behind the only open one that was given up. -/
theorem failTxSlot_none_open (hone : ∀ k, (e.txSlots k).state = .open → k = i) (k : Fin 4) :
    ((e.failTxSlot i).txSlots k).state ≠ .open := by
  rw [failTxSlot_txSlots]
  exact update_cases (P := fun slot : TxSlot => slot.state ≠ .open) (by decide)
    (fun k hki hk => hki (hone k hk)) k

theorem Handed.txSlots {packet : Option Packet} (h : Handed e packet e') :
    e'.txSlots = e.txSlots := by
  obtain ⟨calls, evs, rfl, _⟩ := h
  rfl

theorem Offers.state {slot : TxSlot} {packet : Option Packet}
    (h : Offers cb now e i slot packet e') : (e'.txSlots i).state = slot.state := by
  cases h with
  | taken _ h =>
    rw [h.txSlots, setTx_self]
    rfl
  | refused _ h => rw [h.txSlots, setTx_self]

/-- An offer changes no other slot and nothing else that the engine sends by. -/
theorem Offers.sendingHalf {slot : TxSlot} {packet : Option Packet}
    (h : Offers cb now e i slot packet e') : e'.sendingHalf = { e.sendingHalf with
      txSlots := Function.update e.txSlots i
        (slot.offered (now + e.config.retryTimeoutCycles) packet) } := by
  cases h with
  | taken _ h | refused _ h =>
    obtain ⟨calls, evs, rfl, _⟩ := h
    rfl

theorem Offers.txSlots {slot : TxSlot} {packet : Option Packet}
    (h : Offers cb now e i slot packet e') : e'.txSlots = Function.update e.txSlots i
      (slot.offered (now + e.config.retryTimeoutCycles) packet) :=
  congrArg SendingHalf.txSlots h.sendingHalf

/-- A fragment that was refused is offered again by `trySendOpenData`. -/
theorem Offers.again {slot : TxSlot} (h : Offers cb now e i slot none e') (hv : e.Valid)
    (hopen : (e.txSlots i).state = .open) (hsame : (e.txSlots i).SameDatagram slot)
    (hpaced : slot.Paced) (hnext : slot.AtNext) (hone : ∀ k, (e.txSlots k).state = .open → k = i) :
    ∃ packet e'', e'.trySendOpenData cb now = (packet.isSome, e'') ∧
      Offers cb now e i slot packet e'' := by
  have hlive : (e.txSlots i).state ≠ .empty := by rw [hopen]; decide
  obtain ⟨ref, hslot⟩ := hv.1.slot i hlive
  have hhanded := h.handed
  have hself : e'.txSlots i = slot := by rw [hhanded.txSlots, setTx_self]
  have hvalid : e'.Valid := by
    have hset : (e.setTx i slot).Valid := (setTx_same hsame hlive).valid hv
    obtain ⟨calls, evs, rfl, _⟩ := hhanded
    exact hset
  have hcount : slot.fragmentCount.toNat ≤ 12 := by
    rw [hsame.fragmentCount]
    exact hslot.fragmentCount_bounds.2
  obtain ⟨packet, e'', heq, hoffers⟩ := trySendOpenDataFrom_offers cb now hvalid
    (by rw [hself, hsame.state, hopen]) (by rw [hself]; exact hnext.roundBitmap_ne_zero)
    (by rw [hself]; exact hpaced)
    (fun k hk => by
      by_contra hki
      rw [h.of_ne hki] at hk
      exact hki (hone k hk)) (List.nodup_finRange 4) (List.mem_finRange i)
  rw [hself, hnext.skipToNext_eq hcount] at hoffers
  exact ⟨packet, e'', heq, .after_refusal hhanded hoffers hsame⟩

/-- Behind deliveries and ACKs a tick takes one turn. -/
theorem onTick_turn {e₀ e₁ : Exec} (hcomplete : e₀.tryCompleteRxSlots cb now = (false, e₁))
    (hsend : e₁.sendPendingAck cb now = (false, e)) (h : e.Valid)
    (hone : ∀ {i k}, (e.txSlots i).state = .open → (e.txSlots k).state = .open → k = i)
    (hpaced : ∀ i, (e.txSlots i).state = .open → (e.txSlots i).Paced) :
    ∃ packet, Turn cb now e packet (e₀.onTick cb now) := by
  rw [onTick, hcomplete]
  dsimp only
  rw [hsend]
  dsimp only
  by_cases hnone : ∀ k, (e.txSlots k).state ≠ .open
  · rw [trySendRetransmit, trySendRetransmitFrom_skip cb fun k _ hk => absurd hk (hnone k)]
    dsimp only
    rw [trySendOpenData, trySendOpenDataFrom_skip cb now fun k _ hk => absurd hk (hnone k)]
    obtain ⟨packet, hopening⟩ := tryOpenQueued_opening cb now h hnone
    exact ⟨packet, .opens hnone hopening⟩
  obtain ⟨i, hopen⟩ : ∃ i, (e.txSlots i).state = .open := by
    simpa using hnone
  have honly (k : Fin 4) (hk : (e.txSlots k).state = .open) : k = i := hone hopen hk
  have hall := List.nodup_finRange 4
  have hi := List.mem_finRange i
  by_cases hround : (e.txSlots i).roundBitmap = 0
  · by_cases hwaits : (e.txSlots i).Acknowledged ∨ isBefore now (e.txSlots i).retryDeadline
    · rw [trySendRetransmit, trySendRetransmitFrom_skip cb fun k _ hk => by
        rw [honly k hk]; exact .inr hwaits]
      dsimp only
      rw [trySendOpenData, trySendOpenDataFrom_skip cb now fun k _ hk => by
        rw [honly k hk]; exact hround]
      dsimp only
      rw [tryOpenQueued_open cb now hopen]
      exact ⟨none, .waits i hopen hround hwaits⟩
    obtain ⟨hmissing, hdue⟩ := not_or.mp hwaits
    by_cases hattempts : (e.txSlots i).attempts ≥ e.config.maxAttempts
    · have hexhausted : (e.txSlots i).Exhausted e.config.maxAttempts now :=
        ⟨hopen, hround, hmissing, hdue, hattempts⟩
      have hnone := failTxSlot_none_open honly
      rw [trySendRetransmit, trySendRetransmitFrom_exhausted cb hexhausted honly hi]
      dsimp only
      rw [trySendOpenData, trySendOpenDataFrom_skip cb now fun k _ hk => absurd hk (hnone k)]
      obtain ⟨packet, hopening⟩ := tryOpenQueued_opening cb now
        (failTxSlot_valid h (by rw [hopen]; decide)) hnone
      exact ⟨packet, .givesUp i hexhausted hopening⟩
    · obtain ⟨packet, e', heq, hoffers⟩ := trySendRetransmitFrom_offers cb now h hopen hround
        hmissing hdue hattempts honly hall hi
      rw [trySendRetransmit, heq]
      cases packet with
      | some packet => exact ⟨some packet, .repeats i hopen hround hmissing hdue hattempts hoffers⟩
      | none =>
        -- the first fragment was refused
        obtain ⟨ref, hslot⟩ := h.1.slot i (by rw [hopen]; decide)
        obtain ⟨hpos, hmax⟩ := hslot.fragmentCount_bounds
        obtain ⟨hbegun, hnext⟩ := TxSlot.beginRound_paced hpos hmax hmissing
        obtain ⟨packet, e'', heq, hoffers⟩ :=
          hoffers.again h hopen (beginRound_sameDatagram _) hbegun hnext honly
        dsimp only [Option.isSome]
        rw [heq]
        refine ⟨packet, .repeats i hopen hround hmissing hdue hattempts ?_⟩
        cases packet with
        | some packet => exact hoffers
        | none =>
          dsimp only [Option.isSome]
          rw [tryOpenQueued_open cb now (hoffers.state.trans hopen)]
          exact hoffers
  · rw [trySendRetransmit, trySendRetransmitFrom_skip cb fun k _ hk => by
      rw [honly k hk]; exact .inl hround]
    dsimp only
    obtain ⟨packet, e', heq, hoffers⟩ :=
      trySendOpenDataFrom_offers cb now h hopen hround (hpaced i hopen) honly hall hi
    rw [trySendOpenData, heq]
    refine ⟨packet, .goesOn i hopen hround ?_⟩
    cases packet with
    | some packet => exact hoffers
    | none =>
      dsimp only [Option.isSome]
      rw [tryOpenQueued_open cb now (hoffers.state.trans hopen)]
      exact hoffers

/-! ### Before the turn -/

/-- What `send_packet` takes from `sendPendingAck` is an ACK, and it takes one if the result is
true. -/
theorem sendPendingAck_taken (cb : ArqCallbacks) (e : Exec) (now : UInt32) :
    ∃ evs, (e.sendPendingAck cb now).2.events = e.events ++ evs ∧
      (((e.sendPendingAck cb now).1 = false ∧ takenPackets evs = []) ∨
        ((e.sendPendingAck cb now).1 = true ∧
          ∃ ack packet, parseAckPacket packet = .ok ack ∧ takenPackets evs = [packet])) := by
  have hnothing : ∃ evs, e.events = e.events ++ evs ∧ takenPackets evs = [] :=
    ⟨[], (List.append_nil _).symm, rfl⟩
  obtain ⟨none, hnone, htaken⟩ := hnothing
  unfold sendPendingAck
  split
  · next pending rest send _ _ =>
    split
    · exact ⟨none, hnone, .inl ⟨rfl, htaken⟩⟩
    split
    · exact ⟨none, hnone, .inl ⟨rfl, htaken⟩⟩
    next packet hbuild =>
    dsimp only
    cases send e.calls packet with
    | true =>
      exact ⟨[.sent packet true], rfl, .inr ⟨rfl, pending.ack, packet,
        ack_exact.parses_of_builds hbuild, rfl⟩⟩
    | false => exact ⟨[.sent packet false], rfl, .inl ⟨rfl, rfl⟩⟩
  · exact ⟨none, hnone, .inl ⟨rfl, htaken⟩⟩

theorem Idles.takes_nothing (h : Idles e e') :
    ∃ evs, e'.events = e.events ++ evs ∧ takenPackets evs = [] := by
  obtain ⟨_, evs, hevents, hidle⟩ := h
  exact ⟨evs, hevents, Party.takes_nothing_of_idle hidle⟩

theorem tryCompleteRxSlots_taken (cb : ArqCallbacks) (now : UInt32) (h : e.Valid) :
    ∃ evs, (e.tryCompleteRxSlots cb now).2.events = e.events ++ evs ∧ takenPackets evs = [] := by
  have hcompletes := tryCompleteRxSlotsFrom_completes cb now (List.finRange 4) h
  cases hresult : (e.tryCompleteRxSlots cb now).1 with
  | false => exact (hcompletes.idles hresult).takes_nothing
  | true =>
    obtain ⟨e', hidle, _, evs', hevents', _, hnone'⟩ := hcompletes.act hresult
    obtain ⟨evs, hevents, hnone⟩ := hidle.takes_nothing
    refine ⟨evs ++ evs', ?_, by rw [takenPackets_append, hnone, hnone']; rfl⟩
    rw [← List.append_assoc, ← hevents]
    exact hevents'

end Exec

/-! ### A tick -/

/-- Every open slot keeps its pace. -/
def AllPaced (slots : Fin 4 → TxSlot) : Prop := ∀ i, (slots i).state = .open → (slots i).Paced

theorem AllPaced.update {slots : Fin 4 → TxSlot} (h : AllPaced slots) {i : Fin 4} {slot : TxSlot}
    (hslot : slot.Paced) : AllPaced (Function.update slots i slot) :=
  Exec.update_cases (P := fun slot : TxSlot => slot.state = .open → slot.Paced) (fun _ => hslot)
    fun k _ => h k

theorem TxSlot.paced_of_roundBitmap {slot : TxSlot} (h : slot.roundBitmap = 0) : slot.Paced := by
  intro k hk
  rw [h, hasBit_zero] at hk
  cases hk

namespace ArqEngine

/-- A tick at `now` delivers a datagram or sends an ACK, and does not come to the datagrams that are
to be sent. -/
def Preempted (e : ArqEngine) (cb : ArqCallbacks) (now : UInt32) : Prop :=
  (Exec.tryCompleteRxSlots cb { e with } now).1 ∨
    ((Exec.tryCompleteRxSlots cb { e with } now).2.sendPendingAck cb now).1

instance (e : ArqEngine) (cb : ArqCallbacks) (now : UInt32) : Decidable (e.Preempted cb now) :=
  inferInstanceAs (Decidable (_ ∨ _))

/-- The engine behind the delivery and the ACK of a tick. -/
def beforeTurn (e : ArqEngine) (cb : ArqCallbacks) (now : UInt32) : Exec :=
  ((Exec.tryCompleteRxSlots cb { e with } now).2.sendPendingAck cb now).2

theorem beforeTurn_sendingHalf (e : ArqEngine) (cb : ArqCallbacks) (now : UInt32) :
    (e.beforeTurn cb now).sendingHalf = e.sendingHalf :=
  (Exec.sendPendingAck_sendingHalf cb _ now).trans
    (Exec.tryCompleteRxSlots_sendingHalf cb { e with } now)

theorem beforeTurn_txSlots (e : ArqEngine) (cb : ArqCallbacks) (now : UInt32) :
    (e.beforeTurn cb now).txSlots = e.txSlots :=
  congrArg SendingHalf.txSlots (e.beforeTurn_sendingHalf cb now)

/-- A preempted tick is over by then. -/
theorem run_preempted {e : ArqEngine} {cb : ArqCallbacks} {now : UInt32}
    (h : e.Preempted cb now) : e.run cb (.onTick now) = e.beforeTurn cb now := by
  unfold Preempted at h
  unfold run Exec.onTick beforeTurn
  dsimp only
  split
  · next e₁ heq => rw [heq]
  next e₁ heq =>
  rw [heq] at h ⊢
  split
  · next e₂ heq₂ => rw [heq₂]
  · next e₂ heq₂ =>
    rw [heq₂] at h
    simp at h

/-- The engine is in order, and its open datagram keeps its pace. -/
structure InStep (e : ArqEngine) : Prop where
  valid : e.Valid
  inv : e.party.Inv
  paced : AllPaced e.txSlots

theorem InStep.one_open {e : ArqEngine} (h : e.InStep) {i k : Fin 4}
    (hi : (e.txSlots i).state = .open) (hk : (e.txSlots k).state = .open) : k = i :=
  h.inv.1.one_open (Exec.sender_open (e := { e with }) hk) (Exec.sender_open (e := { e with }) hi)

/-- Before its turn a tick hands over an ACK at most. -/
theorem InStep.beforeTurn_taken {e : ArqEngine} (h : e.InStep) (cb : ArqCallbacks)
    (now : UInt32) : takenPackets (e.beforeTurn cb now).events = [] ∨ ∃ ack packet,
      parseAckPacket packet = .ok ack ∧ takenPackets (e.beforeTurn cb now).events = [packet] := by
  obtain ⟨evs, hevents, hnone⟩ :=
    Exec.tryCompleteRxSlots_taken (e := { e with }) cb now h.valid
  obtain ⟨evs', hevents', htaken⟩ :=
    Exec.sendPendingAck_taken cb (Exec.tryCompleteRxSlots cb { e with } now).2 now
  rw [beforeTurn, hevents', hevents, takenPackets_append, takenPackets_append, hnone]
  rcases htaken with ⟨_, htaken⟩ | ⟨_, ack, packet, hparse, htaken⟩
  · exact .inl htaken
  · exact .inr ⟨ack, packet, hparse, htaken⟩

/-- A tick that is not preempted takes a turn. -/
theorem InStep.turn {e : ArqEngine} (h : e.InStep) {cb : ArqCallbacks} {now : UInt32}
    (hpreempted : ¬ e.Preempted cb now) :
    (e.beforeTurn cb now).Valid ∧ takenPackets (e.beforeTurn cb now).events = [] ∧
      ∃ packet, Exec.Turn cb now (e.beforeTurn cb now) packet (e.run cb (.onTick now)) := by
  obtain ⟨hcomplete, hsend⟩ := not_or.mp hpreempted
  rw [Bool.not_eq_true] at hcomplete hsend
  have hidle : Exec.Idles { e with } (Exec.tryCompleteRxSlots cb { e with } now).2 :=
    (Exec.tryCompleteRxSlotsFrom_completes (e := { e with }) cb now (List.finRange 4)
      h.valid).idles hcomplete
  have hidles : Exec.Idles { e with } (e.beforeTurn cb now) :=
    hidle.append ((Exec.sendPendingAck_sends cb now hidle.valid).idles hsend)
  obtain ⟨evs, hevents, hnone⟩ := Exec.Idles.takes_nothing hidles
  have hslots := e.beforeTurn_txSlots cb now
  exact ⟨hidles.valid, by rw [hevents]; exact hnone,
    Exec.onTick_turn (e := e.beforeTurn cb now) (Prod.ext hcomplete rfl) (Prod.ext hsend rfl)
      hidles.valid (by rw [hslots]; exact h.one_open) (by rw [hslots]; exact h.paced)⟩

end ArqEngine

namespace Exec

variable {e e' : Exec} {i : Fin 4} {cb : ArqCallbacks} {now : UInt32} {packet : Option Packet}

theorem Offers.paced {slot : TxSlot} (h : Offers cb now e i slot packet e')
    (hall : AllPaced e.txSlots) (hcount : slot.fragmentCount.toNat ≤ 12) (hnext : slot.AtNext)
    (hslot : slot.Paced) : AllPaced e'.txSlots := by
  rw [h.txSlots]
  exact hall.update (hnext.offered hcount hslot _ packet)

/-- The slot of a datagram that is opened keeps its pace. -/
theorem openSlot_paced (h : e.Valid) (hall : AllPaced e.txSlots)
    (hqueued : (e.txSlots i).state = .queued)
    (hoffers : Offers cb now (e.openSlot i now) i
      ((e.txSlots i).begun (now + e.config.retryTimeoutCycles)) packet e') :
    AllPaced e'.txSlots := by
  obtain ⟨ref, hslot⟩ := h.1.slot i (by rw [hqueued]; decide)
  obtain ⟨hpos, hmax⟩ := hslot.fragmentCount_bounds
  obtain ⟨hpaced, hnext⟩ := TxSlot.begun_atNext hpos hmax (now + e.config.retryTimeoutCycles)
  exact hoffers.paced (hall.update hpaced) hmax hnext hpaced

theorem Opening.paced (h : Opening cb now e packet e') (hv : e.Valid) (hall : AllPaced e.txSlots) :
    AllPaced e'.txSlots := by
  cases h with
  | idle | arms | waits => exact hall
  | probes i hqueued hcredits harmed hdue hoffers =>
    exact openSlot_paced (e := { e.probed with creditProbeArmed := false }) hv hall hqueued hoffers
  | pays i hqueued hcredits hoffers =>
    exact openSlot_paced (e := { e with creditProbeArmed := false }) hv hall hqueued hoffers

theorem Turn.paced (h : Turn cb now e packet e') (hv : e.Valid) (hall : AllPaced e.txSlots) :
    AllPaced e'.txSlots := by
  cases h with
  | waits => exact hall
  | goesOn i hopen hround hoffers =>
    obtain ⟨ref, hslot⟩ := hv.1.slot i (by rw [hopen]; decide)
    obtain ⟨hpaced, hnext⟩ := (hall i hopen).skipToNext hslot.fragmentCount_bounds.2 hround
    exact hoffers.paced hall hslot.fragmentCount_bounds.2 hnext hpaced
  | repeats i hopen hround hmissing hdue hattempts hoffers =>
    obtain ⟨ref, hslot⟩ := hv.1.slot i (by rw [hopen]; decide)
    obtain ⟨hpos, hmax⟩ := hslot.fragmentCount_bounds
    obtain ⟨hpaced, hnext⟩ := TxSlot.beginRound_paced hpos hmax hmissing
    exact hoffers.paced hall hmax hnext hpaced
  | givesUp i hexhausted hopening =>
    refine hopening.paced (failTxSlot_valid hv (by rw [hexhausted.isOpen]; decide)) ?_
    rw [failTxSlot_txSlots]
    exact hall.update (TxSlot.paced_of_roundBitmap rfl)
  | opens hnone hopening => exact hopening.paced hv hall

theorem completeTxSlot_txSlots (e : Exec) (i : Fin 4) :
    (e.completeTxSlot i).txSlots = Function.update e.txSlots i {} := by
  unfold completeTxSlot clearTxSlot
  dsimp only
  split <;> rfl

/-- An ACK ends the round of its slot or leaves it alone. -/
theorem handleAck_paced (ack : AckFrame) (now : UInt32) (hall : AllPaced e.txSlots) :
    AllPaced (e.handleAck ack now).txSlots := by
  unfold handleAck
  dsimp only
  split
  · exact hall
  next i hfind =>
  have hhit := (find_finRange_eq_some hfind).1
  rw [decide_eq_true_eq] at hhit
  split
  · exact hall.update (TxSlot.paced_of_roundBitmap rfl)
  have hpaced : AllPaced (Function.update e.txSlots i { e.txSlots i with
      ackedBitmap := (e.txSlots i).ackedBitmap ||| ack.fragmentBitmap }) :=
    hall.update (hall i hhit.1)
  split
  · rw [completeTxSlot_txSlots]
    exact hpaced.update (TxSlot.paced_of_roundBitmap rfl)
  · exact hpaced

theorem onTxDatagram_paced (data : Option (List UInt8)) (hall : AllPaced e.txSlots) :
    AllPaced (e.onTxDatagram data).2.txSlots := by
  unfold onTxDatagram
  dsimp only
  split
  · exact hall
  split
  · exact hall
  split
  · exact hall
  split
  · exact hall.update (TxSlot.paced_of_roundBitmap rfl)
  · exact hall

end Exec

/-- Every call keeps the engine in step. -/
theorem ArqEngine.InStep.call {e : ArqEngine} (h : e.InStep) (cb : ArqCallbacks) (call : Call) :
    (e.run cb call).InStep where
  valid := (run_spec h.valid cb call).1
  inv := run_invariant (P := fun _ p => p.Inv) (a := []) (fun h hact => h.act hact)
    (fun h hreceive => h.receive hreceive) h.valid h.inv [(cb, call)]
  paced := by
    have hsame {e' : Exec} (hhalf : e'.sendingHalf = e.sendingHalf) : AllPaced e'.txSlots := by
      rw [show e'.txSlots = e.txSlots from congrArg SendingHalf.txSlots hhalf]
      exact h.paced
    cases call with
    | onTxDatagram data => exact Exec.onTxDatagram_paced (e := { e with }) data h.paced
    | onRxPacket packet now =>
      rcases packet_cases packet with hrejected | hignored | ⟨header, payload, hdata⟩ | ⟨ack, hack⟩
      · rw [ArqEngine.run, Exec.onRxPacket_rejected cb _ now hrejected]
        exact h.paced
      · rw [ArqEngine.run, Exec.onRxPacket_ignored cb _ now hignored]
        exact h.paced
      · exact hsame ((e.withstands cb packet now).data header payload hdata)
      · rw [ArqEngine.run, Exec.onRxPacket_ack cb _ now hack]
        exact Exec.handleAck_paced (e := { e with }) ack now h.paced
    | onTick now =>
      have hbefore := hsame (e.beforeTurn_sendingHalf cb now)
      by_cases hpreempted : e.Preempted cb now
      · rw [run_preempted hpreempted]
        exact hbefore
      · obtain ⟨hvalid, _, packet, hturn⟩ := h.turn hpreempted
        exact hturn.paced hvalid hbefore
    | flushPendingAck now => exact hsame (Exec.sendPendingAck_sendingHalf cb { e with } now)

theorem ArqEngine.InStep.after {e : ArqEngine} (h : e.InStep) (calls : List (ArqCallbacks × Call)) :
    (e.after calls).InStep := by
  induction calls generalizing e with
  | nil => exact h
  | cons step calls ih => exact ih (h.call step.1 step.2)

theorem ArqEngine.after_inStep (config : ArqConfig) (calls : List (ArqCallbacks × Call)) :
    ((reset config).after calls).InStep :=
  InStep.after ⟨reset_valid config, ⟨.empty, .empty⟩, fun _ h => by cases h⟩ calls

/-! ### Calls that are no ticks -/

namespace ArqEngine

variable {e : ArqEngine} {i : Fin 4}

theorem onTxDatagram_open {data : Option (List UInt8)}
    (hopen : ((Exec.onTxDatagram { e with } data).2.txSlots i).state = .open) :
    (e.txSlots i).state = .open := by
  unfold Exec.onTxDatagram at hopen
  dsimp only at hopen
  split at hopen
  · exact hopen
  split at hopen
  · exact hopen
  split at hopen
  · exact hopen
  next k hfind =>
  split at hopen
  · by_cases hik : i = k
    · subst hik
      rw [Exec.emit, Exec.setTx_self] at hopen
      cases hopen
    · rwa [Exec.emit, Exec.setTx_of_ne hik] at hopen
  · exact hopen

/-- A call other than a tick opens no slot. -/
theorem opens_nothing (cb : ArqCallbacks) {call : Call} (hcall : ∀ now, call ≠ .onTick now)
    (hopen : ((e.run cb call).txSlots i).state = .open) : (e.txSlots i).state = .open := by
  have hsame {e' : Exec} (hhalf : e'.sendingHalf = e.sendingHalf)
      (hopen : (e'.txSlots i).state = .open) : (e.txSlots i).state = .open := by
    rwa [show e'.txSlots = e.txSlots from congrArg SendingHalf.txSlots hhalf] at hopen
  cases call with
  | onTxDatagram data => exact onTxDatagram_open hopen
  | onRxPacket packet now =>
    rcases packet_cases packet with hrejected | hignored | ⟨header, payload, hdata⟩ | ⟨ack, hack⟩
    · rwa [run, Exec.onRxPacket_rejected cb _ now hrejected] at hopen
    · rwa [run, Exec.onRxPacket_ignored cb _ now hignored] at hopen
    · exact hsame ((e.withstands cb packet now).data header payload hdata) hopen
    · rw [run, Exec.onRxPacket_ack cb _ now hack] at hopen
      by_contra hclosed
      rw [Exec.handleAck_of_ne { e with } ack now fun hmatch => hclosed hmatch.1] at hopen
      exact hclosed hopen
  | onTick now => exact absurd rfl (hcall now)
  | flushPendingAck now =>
    exact hsame (Exec.sendPendingAck_sendingHalf cb { e with } now) hopen

end ArqEngine

end FlrcTnc.Arq
