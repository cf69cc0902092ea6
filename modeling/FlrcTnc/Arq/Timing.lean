import FlrcTnc.Arq.Ledger
import FlrcTnc.Arq.Window

/-! When a tick has nothing to do.  An engine rests at the time `t` exactly if no call of `onTick`
at `t` changes it or hands anything to `send_packet` or `deliver_datagram`. -/

namespace FlrcTnc.Arq

open Framing

/-- The comparison of the engine: the clock has `2^32` ticks, and the nearer half of them is
later. -/
theorem isBefore_iff {t p : UInt32} : isBefore t p ↔ 2 ^ 31 ≤ (t - p).toNat := by
  have hdistance : (t - p).toInt32.toInt = (t - p).toBitVec.toInt := rfl
  rw [isBefore, decide_eq_true_eq, Int32.lt_iff_toInt_lt, hdistance, BitVec.toInt_eq_toNat_cond]
  simp only [UInt32.toNat_toBitVec, Int32.toInt_zero]
  have hlt := (t - p).toNat_lt
  split <;> omega

/-! ### Rest -/

/-- Every fragment is acknowledged, as `trySendRetransmit` tests it. -/
def TxSlot.Acknowledged (slot : TxSlot) : Prop :=
  slot.ackedBitmap &&& expectedBitmap slot.fragmentCount = expectedBitmap slot.fragmentCount

instance (slot : TxSlot) : Decidable slot.Acknowledged := inferInstanceAs (Decidable (_ = _))

/-- Nothing is due at the time `t`. -/
structure ArqEngine.Rests (e : ArqEngine) (t : UInt32) : Prop where
  egress : ∀ j, (e.rxSlots j).active → ¬ (e.rxSlots j).completeWaitingEgress
  acks : ∀ pending rest, e.pendingAcks.entries = pending :: rest → isBefore t pending.readyDeadline
  rounds : ∀ i, (e.txSlots i).state = .open → (e.txSlots i).roundBitmap = 0
  retries : ∀ i, (e.txSlots i).state = .open →
    (e.txSlots i).Acknowledged ∨ isBefore t (e.txSlots i).retryDeadline
  queue : (∀ i, (e.txSlots i).state ≠ .open) → (∃ i, (e.txSlots i).state = .queued) →
    e.remoteCredits = 0 ∧ e.creditProbeArmed ∧ isBefore t e.creditProbeDeadline

/-- The events of a callback of `onTick`. -/
def Event.OfCallback : Event → Prop
  | .sent .. | .delivered .. => True
  | _ => False

/-- `onTick` at the time `t` leaves the engine as it is and calls neither `send_packet` nor
`deliver_datagram`. -/
def ArqEngine.Sleeps (e : ArqEngine) (t : UInt32) : Prop :=
  ∀ cb, (e.run cb (.onTick t)).toArqEngine = e ∧ ∀ ev ∈ (e.run cb (.onTick t)).events,
    ¬ ev.OfCallback

namespace Exec

variable {e e' : Exec}

/-! ### A tick at rest -/

theorem tryCompleteRxSlots_none (cb : ArqCallbacks) (t : UInt32)
    (h : ∀ j, (e.rxSlots j).active → ¬ (e.rxSlots j).completeWaitingEgress) :
    e.tryCompleteRxSlots cb t = (false, e) := by
  have hfrom (slots : List (Fin 4)) : tryCompleteRxSlotsFrom cb t slots e = (false, e) := by
    induction slots with
    | nil => rfl
    | cons j rest ih =>
      rw [tryCompleteRxSlotsFrom, if_neg (fun hboth => h j hboth.1 hboth.2)]
      exact ih
  exact hfrom _

theorem sendPendingAck_early (cb : ArqCallbacks) {t : UInt32}
    (h : ∀ pending rest, e.pendingAcks.entries = pending :: rest →
    isBefore t pending.readyDeadline) :
    e.sendPendingAck cb t = (false, e) := by
  rw [sendPendingAck]
  split
  · next pending rest send hentries _ =>
    rw [if_pos (h pending rest hentries)]
  · rfl

/-- Slots that `trySendRetransmit` passes over. -/
theorem trySendRetransmitFrom_skip (cb : ArqCallbacks) {t : UInt32} {slots : List (Fin 4)}
    (h : ∀ i ∈ slots, (e.txSlots i).state = .open → (e.txSlots i).roundBitmap ≠ 0 ∨
      (e.txSlots i).Acknowledged ∨ isBefore t (e.txSlots i).retryDeadline) :
    trySendRetransmitFrom cb t slots e = (false, e) := by
  induction slots with
  | nil => rfl
  | cons i rest ih =>
    have hrest := ih fun k hk => h k (List.mem_cons_of_mem i hk)
    rw [trySendRetransmitFrom]
    dsimp only
    split
    · exact hrest
    next hskip =>
    simp only [not_or, not_not] at hskip
    rcases h i (List.mem_cons_self ..) hskip.1 with hround | hacked | hbefore
    · exact absurd hskip.2 hround
    · rw [if_pos (show _ = _ from hacked)]
      exact hrest
    · rw [if_pos hbefore]
      split <;> exact hrest

/-- Slots that `trySendOpenData` passes over. -/
theorem trySendOpenDataFrom_skip (cb : ArqCallbacks) (t : UInt32) {slots : List (Fin 4)}
    (h : ∀ i ∈ slots, (e.txSlots i).state = .open → (e.txSlots i).roundBitmap = 0) :
    trySendOpenDataFrom cb t slots e = (false, e) := by
  induction slots with
  | nil => rfl
  | cons i rest ih =>
    have hskip : (e.txSlots i).state ≠ .open ∨ (e.txSlots i).roundBitmap = 0 := by
      by_cases hopen : (e.txSlots i).state = .open
      · exact .inr (h i (List.mem_cons_self ..) hopen)
      · exact .inl hopen
    rw [trySendOpenDataFrom, if_pos hskip]
    exact ih fun k hk => h k (List.mem_cons_of_mem i hk)

theorem tryOpenQueued_open (cb : ArqCallbacks) (t : UInt32) {i : Fin 4}
    (h : (e.txSlots i).state = .open) : e.tryOpenQueued cb t = (false, e) := by
  rw [tryOpenQueued]
  exact if_pos (txCount_ne_zero h)

/-- The probe that is not armed may be disarmed. -/
theorem disarm_eq (h : e.creditProbeArmed = false) : { e with creditProbeArmed := false } = e := by
  rw [← h]

theorem tryOpenQueued_empty (cb : ArqCallbacks) (t : UInt32)
    (h : ∀ i, (e.txSlots i).state ≠ .queued) (hdisarmed : e.creditProbeArmed = false) :
    e.tryOpenQueued cb t = (false, e) := by
  have hnone : ((List.finRange 4).find? fun i => (e.txSlots i).state = .queued) = none :=
    List.find?_eq_none.mpr fun i _ => by simpa using h i
  have hzero : e.txQueuedCount = 0 := txCount_eq_zero_iff.mpr h
  rw [tryOpenQueued]
  split
  · rfl
  by_cases hcredits : e.remoteCredits = 0
  · rw [creditProbe, if_neg (not_not.mpr hcredits), if_pos hzero]
    dsimp only
    rw [disarm_eq hdisarmed]
  · rw [creditProbe, if_pos hcredits]
    dsimp only
    rw [hnone]
    dsimp only
    rw [disarm_eq hdisarmed]

theorem tryOpenQueued_probe (cb : ArqCallbacks) {t : UInt32} (hcredits : e.remoteCredits = 0)
    (harmed : e.creditProbeArmed) (hbefore : isBefore t e.creditProbeDeadline) {i : Fin 4}
    (hqueued : (e.txSlots i).state = .queued) : e.tryOpenQueued cb t = (false, e) := by
  have hcount : e.txQueuedCount ≠ 0 := txCount_ne_zero hqueued
  rw [tryOpenQueued]
  split
  · rfl
  rw [creditProbe, if_neg (not_not.mpr hcredits), if_neg hcount, if_neg (not_not.mpr harmed),
    if_pos hbefore]

theorem tryOpenQueued_rests (cb : ArqCallbacks) {t : UInt32} (ha : e.Accounts) (h : e.Rests t) :
    e.tryOpenQueued cb t = (false, e) := by
  by_cases hopen : ∃ i, (e.txSlots i).state = .open
  · obtain ⟨i, hi⟩ := hopen
    exact tryOpenQueued_open cb t hi
  by_cases hqueued : ∃ i, (e.txSlots i).state = .queued
  · obtain ⟨hcredits, harmed, hbefore⟩ := h.queue (not_exists.mp hopen) hqueued
    obtain ⟨i, hi⟩ := hqueued
    exact tryOpenQueued_probe cb hcredits harmed hbefore hi
  · refine tryOpenQueued_empty cb t (not_exists.mp hqueued) ?_
    by_contra harmed
    exact hqueued (ha.armed (by simpa using harmed)).1

theorem onTick_rests (cb : ArqCallbacks) {t : UInt32} (ha : e.Accounts) (h : e.Rests t) :
    e.onTick cb t = e := by
  have hretransmit : e.trySendRetransmit cb t = (false, e) :=
    trySendRetransmitFrom_skip cb fun i _ hopen => .inr (h.retries i hopen)
  have hopenData : e.trySendOpenData cb t = (false, e) :=
    trySendOpenDataFrom_skip cb t fun i _ hopen => h.rounds i hopen
  rw [onTick, tryCompleteRxSlots_none cb t h.egress]
  dsimp only
  rw [sendPendingAck_early cb h.acks]
  dsimp only
  rw [hretransmit]
  dsimp only
  rw [hopenData]
  dsimp only
  rw [tryOpenQueued_rests cb ha h]

end Exec

theorem ArqEngine.Rests.sleeps {e : ArqEngine} {t : UInt32} (ha : e.Accounts) (h : e.Rests t) :
    e.Sleeps t := by
  intro cb
  have htick : e.run cb (.onTick t) = { e with } := Exec.onTick_rests (e := { e with }) cb ha h
  rw [htick]
  exact ⟨rfl, fun ev hev => by cases hev⟩

/-! ### Pending ACKs can be sent -/

namespace Receiver

variable {s s' : Receiver} {evs : List Event}

/-- `buildAckPacket` refuses no pending ACK. -/
structure Sendable (s : Receiver) : Prop where
  plain : s.window.Plain
  known : ∀ ack ∈ s.pending, isKnownFailureStatus ack.failure

theorem Sendable.queue (h : s.Sendable) {ack : AckFrame} (hack : isKnownFailureStatus ack.failure) :
    (s.queue ack).Sendable := by
  refine ⟨h.plain, fun a ha => ?_⟩
  rcases mem_of_mem_enqueue ha with rfl | hold
  · exact hack
  · exact h.known a hold

theorem Sendable.finish (h : s.Sendable) (j : Fin 4) (r : Incoming) (stored credits : UInt8) :
    (s.finish j r stored credits).Sendable := by
  have hqueue : (s.queue (finalAck r credits)).Sendable := h.queue rfl
  exact ⟨h.plain.store rfl, hqueue.known⟩

theorem Sendable.act (h : s.Sendable) (hact : s.Act evs s') : s'.Sendable := by
  cases hact with
  | refuse => exact h
  | deliver j r hr hcomplete stored credits => exact h.finish j r stored credits
  | sendAck ack rest hpending packet hpacket ok =>
    refine ⟨h.plain, fun a ha => h.known a ?_⟩
    cases ok with
    | true =>
      rw [hpending]
      exact List.mem_cons_of_mem ack ha
    | false => exact ha

theorem Sendable.receive {header : DataHeader} {payload : List UInt8} (h : s.Sendable)
    (hreceive : Receive header payload s evs s') : s'.Sendable := by
  cases hreceive with
  | duplicate stored credits hstored =>
    refine h.queue ?_
    rw [h.plain.find hstored]
    rfl
  | noSlot | mismatch => exact h.queue rfl
  | taken j r hnew htakes hsettle =>
    have htaken : (s.setSlot j (some r)).Sendable := ⟨h.plain, h.known⟩
    cases hsettle with
    | partly => exact htaken
    | roundEnd | block => exact htaken.queue rfl
    | deliver hcomplete stored credits => exact htaken.finish j r stored credits

end Receiver

theorem Party.Act.sendable {p q : Party} {evs : List Event} (h : p.receiver.Sendable)
    (hact : Act p evs q) : q.receiver.Sendable := by
  cases hact with
  | sender => exact h
  | receiver s hact => exact h.act hact

theorem ArqEngine.run_sendable (config : ArqConfig) (calls : List (ArqCallbacks × Call)) :
    ((reset config).after calls).receiver.Sendable := by
  refine run_invariant (P := fun _ p => p.receiver.Sendable) (a := [])
    (fun h hact => hact.sendable h) (fun h hreceive => ?_) (reset_valid config)
    ⟨.empty, fun ack hack => (by cases hack)⟩ calls
  cases hreceive with
  | ignore | ack => exact h
  | data s hpacket hreceive => exact h.receive hreceive

/-! ### A tick that has something to do -/

/-- What the engine needs in order to rest only when nothing is due. -/
structure ArqEngine.Settled (e : ArqEngine) : Prop where
  valid : e.Valid
  accounts : e.Accounts
  one_open : ∀ i k, (e.txSlots i).state = .open → (e.txSlots k).state = .open → i = k
  sendable : ∀ pending ∈ e.pendingAcks.entries, isKnownFailureStatus pending.ack.failure

theorem ArqEngine.after_settled (config : ArqConfig) (calls : List (ArqCallbacks × Call)) :
    ((reset config).after calls).Settled where
  valid := after_valid (reset_valid config) calls
  accounts := (after_accounts (reset_valid config) (reset_accounts config) calls).1
  one_open _ _ hi hk := (run_inv config calls).1.one_open
    (Exec.sender_open (e := { (reset config).after calls with }) hi)
    (Exec.sender_open (e := { (reset config).after calls with }) hk)
  sendable pending hmem :=
    (run_sendable config calls).known pending.ack (List.mem_map_of_mem hmem)

namespace Exec

variable {e e' : Exec}

/-- Some call of `send_packet` or `deliver_datagram`, or a datagram given up. -/
def Acts (e : Exec) : Prop := ∃ ev ∈ e.events, ev.OfCallback ∨ ev.isFailed

theorem Acts.mono {evs : List Event} (h : e.Acts) (hevents : e'.events = e.events ++ evs) :
    e'.Acts := by
  obtain ⟨ev, hev, hacts⟩ := h
  exact ⟨ev, by rw [hevents]; exact List.mem_append_left _ hev, hacts⟩

theorem Move.events (h : Move e e') : ∃ evs, e'.events = e.events ++ evs := by
  cases h with
  | quiet h =>
    obtain ⟨evs, hevents, _⟩ := h.events
    exact ⟨evs, hevents⟩
  | pace | arm | store | wait => exact ⟨[], (List.append_nil _).symm⟩
  | openSlot i => exact ⟨[.opened i], rfl⟩
  | fail i => exact ⟨[.failed i], by rw [failTxSlot, emit, clearTxSlot_events]; rfl⟩
  | complete i => exact ⟨[.completed i], by rw [completeTxSlot, emit, clearTxSlot_events]; rfl⟩
  | deliver j hactive hbooks harmed hevents =>
    obtain ⟨id, data, evs, hevents, _⟩ := hevents
    exact ⟨_, hevents⟩

theorem Acts.moves (h : e.Acts) (hmoves : Moves e e') : e'.Acts := by
  induction hmoves with
  | refl => exact h
  | tail _ hmove ih =>
    obtain ⟨evs, hevents⟩ := hmove.events
    exact ih.mono hevents

/-- `deliver_datagram` and `send_packet` take everything. -/
def takesAll : ArqCallbacks where
  sendPacket := some fun _ _ => true
  deliverDatagram := some fun _ _ => true

/-- A complete datagram is delivered. -/
theorem tryCompleteRxSlot_acts {j : Fin 4} (t : UInt32) (h : e.Valid)
    (hactive : (e.rxSlots j).active)
    (hcomplete : reassemblyIsComplete (e.rxSlots j).reassembly) :
    (e.tryCompleteRxSlot takesAll j t).1 = true ∧ (e.tryCompleteRxSlot takesAll j t).2.Acts := by
  let reassembly := (e.rxSlots j).reassembly
  let ev : Event := .delivered reassembly.datagramId
    ((e.rxPool.memory reassembly.output).read 0 reassembly.datagramLength.toNat) true
  have htakes : e.tryCompleteRxSlot takesAll j t = (true,
    (e.called.emit ev).finishRxSlot takesAll j t) := by
    rw [tryCompleteRxSlot]
    dsimp only
    rw [if_neg (not_not.mpr hcomplete)]
    rfl
  obtain ⟨_, _, evs, hevents, _⟩ := finishRxSlot_books takesAll (j := j) t (e := e.called.emit ev) h
    hactive
  rw [htakes]
  refine ⟨rfl, ev, ?_, .inl trivial⟩
  rw [hevents]
  exact List.mem_append_left _ (List.mem_append_right _ (List.mem_singleton_self ev))

theorem tryCompleteRxSlots_acts (t : UInt32) (h : e.Valid) (ha : e.Accounts) {j : Fin 4}
    (hactive : (e.rxSlots j).active) (hwaiting : (e.rxSlots j).completeWaitingEgress) :
    (e.tryCompleteRxSlots takesAll t).1 = true ∧ (e.tryCompleteRxSlots takesAll t).2.Acts := by
  have hfrom (slots : List (Fin 4)) (hj : j ∈ slots) :
      (tryCompleteRxSlotsFrom takesAll t slots e).1 = true ∧
        (tryCompleteRxSlotsFrom takesAll t slots e).2.Acts := by
    induction slots with
    | nil => cases hj
    | cons k rest ih =>
      rw [tryCompleteRxSlotsFrom]
      split
      · next hboth =>
        have hacts := tryCompleteRxSlot_acts t h hboth.1 (ha.waiting k hboth.2).2
        split
        · next e' heq =>
          rw [heq] at hacts
          exact ⟨rfl, hacts.2⟩
        · next e' heq =>
          rw [heq] at hacts
          exact absurd hacts.1 (by simp)
      · next hboth =>
        refine ih ?_
        rcases List.mem_cons.mp hj with rfl | hrest
        · exact absurd ⟨hactive, hwaiting⟩ hboth
        · exact hrest
  exact hfrom _ (List.mem_finRange j)

/-- A pending ACK that is ready is sent. -/
theorem sendPendingAck_acts {t : UInt32} {pending : PendingAck} {rest : List PendingAck}
    (hentries : e.pendingAcks.entries = pending :: rest)
    (hknown : isKnownFailureStatus pending.ack.failure)
    (hready : ¬ isBefore t pending.readyDeadline) :
    (e.sendPendingAck takesAll t).1 = true ∧ (e.sendPendingAck takesAll t).2.Acts := by
  rw [sendPendingAck]
  split
  · next pending' rest' send hentries' hsend =>
    obtain ⟨rfl, rfl⟩ := List.cons.inj (hentries.symm.trans hentries')
    rw [if_neg hready, buildAckPacket, if_neg (not_not.mpr hknown)]
    cases hsend
    dsimp only
    rw [if_neg (by simp)]
    exact ⟨rfl, _, List.mem_append_right _ (List.mem_singleton_self _), .inl trivial⟩
  · next hnone => exact absurd rfl (hnone pending rest _ hentries)

/-- `sendDataFragment` finds something wrong with the slot, or sends. -/
theorem sendDataFragment_takesAll (i : Fin 4) (k : UInt8) :
    e.sendDataFragment takesAll i k =
        (false, e.count fun c => { c with malformedInput := c.malformedInput + 1 }) ∨
      ∃ packet, e.sendDataFragment takesAll i k = (true, e.called.emit (.sent packet true)) := by
  rw [sendDataFragment]
  dsimp only [takesAll]
  split
  · exact .inl rfl
  · split
    · exact .inl rfl
    · split
      · exact .inl rfl
      · next packet _ => exact .inr ⟨packet, rfl⟩

theorem setTx_of_ne {i k : Fin 4} (h : k ≠ i) (slot : TxSlot) :
    (e.setTx i slot).txSlots k = e.txSlots k :=
  Function.update_of_ne h ..

/-- A fragment of the only open slot is sent, or the tick leaves a trace in the slot or in the
counters. -/
theorem trySendOpenDataFrom_acts (t : UInt32) {i : Fin 4} (hopen : (e.txSlots i).state = .open)
    (hround : (e.txSlots i).roundBitmap ≠ 0) (hone : ∀ k, (e.txSlots k).state = .open → k = i)
    {slots : List (Fin 4)} (hnodup : slots.Nodup) (hi : i ∈ slots) :
    (trySendOpenDataFrom takesAll t slots e).2.Acts ∨
      ∃ e', trySendOpenDataFrom takesAll t slots e = (false, e') ∧ (e'.txSlots i).state = .open ∧
        (e'.txSlots i).attempts = (e.txSlots i).attempts ∧ e'.toArqEngine ≠ e.toArqEngine := by
  induction slots with
  | nil => cases hi
  | cons k rest ih =>
    obtain ⟨hk, hnodup⟩ := List.nodup_cons.mp hnodup
    rw [trySendOpenDataFrom]
    by_cases hki : k = i
    · subst hki
      rw [if_neg (by simp [hopen, hround])]
      dsimp only
      -- the other slots are not open
      have hrest {e' : Exec} (hslots : ∀ l, l ≠ k → e'.txSlots l = e.txSlots l) :
          trySendOpenDataFrom takesAll t rest e' = (false, e') := by
        refine trySendOpenDataFrom_skip takesAll t fun l hl hopen => ?_
        have hlk : l ≠ k := ne_of_mem_of_not_mem hl hk
        rw [hslots l hlk] at hopen
        exact absurd (hone l hopen) hlk
      split
      · refine .inr ⟨_, hrest fun l hl => setTx_of_ne hl _, ?_, ?_, ?_⟩
        · rw [setTx_self]
          exact hopen
        · rw [setTx_self]
          rfl
        · intro hsame
          have hslot := congrArg (fun e : ArqEngine => (e.txSlots k).roundBitmap) hsame
          rw [setTx_self] at hslot
          exact hround hslot.symm
      · rcases sendDataFragment_takesAll k (e.txSlots k).skipToNext.nextFragment
            (e := e.setTx k (e.txSlots k).skipToNext) with hmalformed | ⟨packet, hsent⟩
        · rw [hmalformed]
          dsimp only
          refine .inr ⟨_, hrest fun l hl => setTx_of_ne hl _, ?_, ?_, ?_⟩
          · rw [count, setTx_self]
            exact hopen
          · rw [count, setTx_self]
            rfl
          · intro hsame
            have hcounter := congrArg (fun e : ArqEngine => e.counters.malformedInput) hsame
            have hsucc : e.counters.malformedInput + 1 = e.counters.malformedInput := hcounter
            simp at hsucc
        · rw [hsent]
          exact .inl ⟨_, List.mem_append_right _ (List.mem_singleton_self _), .inl trivial⟩
    · rw [if_pos (.inl fun hopen => hki (hone k hopen))]
      exact ih hnodup ((List.mem_cons.mp hi).resolve_left fun h => hki h.symm)

/-- The only open slot is due for a retransmission: a fragment is sent, the datagram is given up, or
the attempt is counted. -/
theorem trySendRetransmitFrom_acts {t : UInt32} {i : Fin 4} (hopen : (e.txSlots i).state = .open)
    (hround : (e.txSlots i).roundBitmap = 0) (hmissing : ¬ (e.txSlots i).Acknowledged)
    (hdue : ¬ isBefore t (e.txSlots i).retryDeadline)
    (hone : ∀ k, (e.txSlots k).state = .open → k = i)
    {slots : List (Fin 4)} (hnodup : slots.Nodup) (hi : i ∈ slots) :
    (trySendRetransmitFrom takesAll t slots e).2.Acts ∨
      ∃ e', trySendRetransmitFrom takesAll t slots e = (false, e') ∧ (e'.txSlots i).state = .open ∧
        (e'.txSlots i).attempts = (e.txSlots i).attempts + 1 ∧
        ∀ k, k ≠ i → e'.txSlots k = e.txSlots k := by
  induction slots with
  | nil => cases hi
  | cons k rest ih =>
    obtain ⟨hk, hnodup⟩ := List.nodup_cons.mp hnodup
    rw [trySendRetransmitFrom]
    dsimp only
    by_cases hki : k = i
    · subst hki
      rw [if_neg (by simp [hopen, hround]), if_neg (show ¬ (_ = _) from hmissing), if_neg hdue]
      have hrest {e' : Exec} (hslots : ∀ l, l ≠ k → e'.txSlots l = e.txSlots l) :
          trySendRetransmitFrom takesAll t rest e' = (false, e') := by
        refine trySendRetransmitFrom_skip takesAll fun l hl hopen => ?_
        have hlk : l ≠ k := ne_of_mem_of_not_mem hl hk
        rw [hslots l hlk] at hopen
        exact absurd (hone l hopen) hlk
      split
      · exact .inl ⟨.failed k, List.mem_append_right _ (List.mem_singleton_self _), .inr rfl⟩
      split
      · rcases sendDataFragment_takesAll k (e.txSlots k).beginRound.nextFragment
            (e := e.setTx k (e.txSlots k).beginRound) with hmalformed | ⟨packet, hsent⟩
        · rw [hmalformed]
          dsimp only
          refine .inr ⟨_, hrest fun l hl => setTx_of_ne hl _, ?_, ?_, fun l hl => setTx_of_ne hl _⟩
          · rw [count, setTx_self]
            exact hopen
          · rw [count, setTx_self]
            rfl
        · rw [hsent]
          exact .inl ⟨_, List.mem_append_right _ (List.mem_singleton_self _), .inl trivial⟩
      · refine .inr ⟨_, hrest fun l hl => setTx_of_ne hl _, ?_, ?_, fun l hl => setTx_of_ne hl _⟩
        · rw [setTx_self]
          exact hopen
        · rw [setTx_self]
          rfl
    · rw [if_pos (.inl fun hopen => hki (hone k hopen))]
      exact ih hnodup ((List.mem_cons.mp hi).resolve_left fun h => hki h.symm)

/-- Sending keeps the state of every slot. -/
theorem trySendOpenDataFrom_state (cb : ArqCallbacks) (t : UInt32) (slots : List (Fin 4)) (e : Exec)
    (k : Fin 4) : ((trySendOpenDataFrom cb t slots e).2.txSlots k).state = (e.txSlots k).state := by
  have hset (e : Exec) {i : Fin 4} {slot : TxSlot} (h : slot.state = (e.txSlots i).state) :
      ((e.setTx i slot).txSlots k).state = (e.txSlots k).state :=
    congrFun (Slots.map_update_same (g := TxSlot.state) h) k
  induction slots generalizing e with
  | nil => rfl
  | cons i rest ih =>
    rw [trySendOpenDataFrom]
    split
    · exact ih e
    dsimp only
    split
    · rw [ih]
      exact hset e rfl
    · have hquiet := sendDataFragment_quiet cb (e.setTx i (e.txSlots i).skipToNext) i
        (e.txSlots i).skipToNext.nextFragment
      split
      · next e' heq =>
        rw [heq] at hquiet
        have hslot : e'.txSlots i = (e.txSlots i).skipToNext := by rw [hquiet.tx_eq, setTx_self]
        dsimp only
        rw [hset e' (by rw [hslot]; rfl), hquiet.tx_eq]
        exact hset e rfl
      · next e' heq =>
        rw [heq] at hquiet
        rw [ih, hquiet.tx_eq]
        exact hset e rfl

theorem openSlot_state (cb : ArqCallbacks) (t : UInt32) (e : Exec) (i : Fin 4) :
    (((e.openSlot i t).trySendOpenData cb t).2.txSlots i).state = .open := by
  rw [trySendOpenData, trySendOpenDataFrom_state]
  exact congrArg TxSlot.state (setTx_self ..)

/-- A datagram that waits is opened, or the probe is armed. -/
theorem tryOpenQueued_acts (cb : ArqCallbacks) {t : UInt32}
    (hnone : ∀ i, (e.txSlots i).state ≠ .open)
    {i : Fin 4} (hqueued : (e.txSlots i).state = .queued)
    (hdue : ¬ (e.remoteCredits = 0 ∧ e.creditProbeArmed ∧ isBefore t e.creditProbeDeadline)) :
    (e.tryOpenQueued cb t).2.toArqEngine ≠ e.toArqEngine := by
  have hactive : ¬ e.txActiveCount ≠ 0 := not_not.mpr (txCount_eq_zero_iff.mpr hnone)
  have hcount : e.txQueuedCount ≠ 0 := txCount_ne_zero hqueued
  -- when the probe goes through, the first waiting slot is opened
  have hopens (e' : Exec) (hprobe : e.creditProbe t = (true, e'))
      (hslots : e'.txSlots = e.txSlots) :
      (e.tryOpenQueued cb t).2.toArqEngine ≠ e.toArqEngine := by
    cases hfind : (List.finRange 4).find? fun i => (e'.txSlots i).state = .queued with
    | none =>
      have hnot := List.find?_eq_none.mp hfind i (List.mem_finRange i)
      rw [hslots] at hnot
      exact absurd (by simpa using hqueued) hnot
    | some k =>
      have hk : (e'.txSlots k).state = .queued := by simpa using (find_finRange_eq_some hfind).1
      rw [hslots] at hk
      rw [tryOpenQueued, if_neg hactive, hprobe]
      dsimp only
      rw [hfind]
      intro hsame
      have hstate := congrArg (fun e : ArqEngine => (e.txSlots k).state) hsame
      cases hk.symm.trans (hstate.symm.trans (openSlot_state cb t _ k))
  by_cases hcredits : e.remoteCredits = 0
  · by_cases harmed : e.creditProbeArmed
    · have hbefore : ¬ isBefore t e.creditProbeDeadline := fun h => hdue ⟨hcredits, harmed, h⟩
      refine hopens (e.count fun c => { c with creditStallProbes := c.creditStallProbes + 1 })
        ?_ rfl
      rw [creditProbe, if_neg (not_not.mpr hcredits), if_neg hcount, if_neg (not_not.mpr harmed),
        if_neg hbefore]
    · rw [tryOpenQueued, if_neg hactive, creditProbe, if_neg (not_not.mpr hcredits), if_neg hcount,
        if_pos harmed]
      intro hsame
      have hprobe := congrArg ArqEngine.creditProbeArmed hsame
      exact harmed hprobe.symm
  · refine hopens e ?_ rfl
    rw [creditProbe, if_pos hcredits]

/-! ### The stages of a tick -/

section Stages

variable {e₁ e₂ : Exec} {cb : ArqCallbacks} {t : UInt32}
  (hcomplete : e.tryCompleteRxSlots cb t = (false, e)) (hsend : e.sendPendingAck cb t = (false, e))

include hcomplete hsend

theorem onTick_retransmitted (hretransmit : e.trySendRetransmit cb t = (true, e₁)) :
    e.onTick cb t = e₁ := by
  simp only [onTick, hcomplete, hsend, hretransmit]

theorem onTick_sent (hretransmit : e.trySendRetransmit cb t = (false, e₁))
    (hdata : e₁.trySendOpenData cb t = (true, e₂)) : e.onTick cb t = e₂ := by
  simp only [onTick, hcomplete, hsend, hretransmit, hdata]

theorem onTick_opened (hretransmit : e.trySendRetransmit cb t = (false, e₁))
    (hdata : e₁.trySendOpenData cb t = (false, e₂)) :
      e.onTick cb t = (e₂.tryOpenQueued cb t).2 := by
  simp only [onTick, hcomplete, hsend, hretransmit, hdata]

/-- What `trySendOpenData` did shows after the tick. -/
theorem onTick_acts_of_data (hretransmit : e.trySendRetransmit cb t = (false, e₁))
    (hacts : (e₁.trySendOpenData cb t).2.Acts) : (e.onTick cb t).Acts := by
  cases hdata : e₁.trySendOpenData cb t with
  | mk sent e₂ =>
    rw [hdata] at hacts
    cases sent with
    | true =>
      rw [onTick_sent hcomplete hsend hretransmit hdata]
      exact hacts
    | false =>
      rw [onTick_opened hcomplete hsend hretransmit hdata]
      exact hacts.moves (tryOpenQueued_moves cb t e₂)

/-- What `trySendRetransmit` did shows after the tick. -/
theorem onTick_acts_of_retransmit (hacts : (e.trySendRetransmit cb t).2.Acts) :
    (e.onTick cb t).Acts := by
  cases hretransmit : e.trySendRetransmit cb t with
  | mk sent e₁ =>
    rw [hretransmit] at hacts
    cases sent with
    | true =>
      rw [onTick_retransmitted hcomplete hsend hretransmit]
      exact hacts
    | false =>
      refine onTick_acts_of_data hcomplete hsend hretransmit ?_
      exact hacts.moves (trySendOpenDataFrom_moves cb t (List.finRange 4) e₁)

end Stages

end Exec

namespace ArqEngine

variable {e : ArqEngine} {t : UInt32}

theorem Sleeps.not_acts (hs : e.Settled) (h : e.Sleeps t) (cb : ArqCallbacks) :
    ¬ (Exec.onTick cb { e with } t).Acts := by
  rintro ⟨ev, hev, hcallback | hfailed⟩
  · exact (h cb).2 ev hev hcallback
  · -- the books are the same, so nothing was given up
    obtain ⟨_, evs, hevents, htally⟩ := Exec.Moves.accounts
      (Exec.onTick_moves (e := { e with }) cb t hs.valid) hs.valid hs.accounts
    have hsame : (Exec.onTick cb { e with } t).books = e.books := congrArg books (h cb).1
    have hlive : e.books.liveCount + evs.countP Event.isCompleted + evs.countP Event.isFailed =
        e.books.liveCount + 0 := (congrArg (fun b => b.liveCount + _ + _) hsame).symm.trans
          htally.live
    have hzero : evs.countP Event.isFailed = 0 := by omega
    rw [hevents, List.nil_append] at hev
    exact List.countP_eq_zero.mp hzero ev hev hfailed

theorem Sleeps.egress (hs : e.Settled) (h : e.Sleeps t) (j : Fin 4)
    (hactive : (e.rxSlots j).active) :
    ¬ (e.rxSlots j).completeWaitingEgress := by
  intro hwaiting
  obtain ⟨htrue, hacts⟩ := Exec.tryCompleteRxSlots_acts (e := { e with }) t hs.valid hs.accounts
    hactive hwaiting
  refine h.not_acts hs Exec.takesAll ?_
  rw [Exec.onTick]
  split
  · next e₁ heq =>
    rw [heq] at hacts
    exact hacts.moves (Exec.sendPendingAck_quiet Exec.takesAll e₁ t).moves
  · next e₁ heq =>
    rw [heq] at htrue
    cases htrue

theorem Sleeps.acks (hs : e.Settled) (h : e.Sleeps t) (pending : PendingAck)
    (rest : List PendingAck)
    (hentries : e.pendingAcks.entries = pending :: rest) : isBefore t pending.readyDeadline := by
  by_contra hready
  have hknown := hs.sendable pending (by rw [hentries]; exact List.mem_cons_self ..)
  obtain ⟨htrue, hacts⟩ := Exec.sendPendingAck_acts (e := { e with }) hentries hknown hready
  refine h.not_acts hs Exec.takesAll ?_
  rw [Exec.onTick, Exec.tryCompleteRxSlots_none (e := { e with }) Exec.takesAll t (h.egress hs)]
  dsimp only
  split
  · next e₁ heq =>
    rw [heq] at hacts
    exact hacts
  · next e₁ heq =>
    rw [heq] at htrue
    cases htrue

/-- An open slot is neither in a round nor due for a retransmission. -/
theorem Sleeps.open_slot (hs : e.Settled) (h : e.Sleeps t) {i : Fin 4}
    (hopen : (e.txSlots i).state = .open) :
    (e.txSlots i).roundBitmap = 0 ∧
      ((e.txSlots i).Acknowledged ∨ isBefore t (e.txSlots i).retryDeadline) := by
  have hcomplete := Exec.tryCompleteRxSlots_none (e := { e with }) Exec.takesAll t (h.egress hs)
  have hsend := Exec.sendPendingAck_early (e := { e with }) Exec.takesAll (h.acks hs)
  have hone (k : Fin 4) (hk : (e.txSlots k).state = .open) : k = i := hs.one_open k i hk hopen
  have hnodup := List.nodup_finRange 4
  have hmem := List.mem_finRange i
  have hround : (e.txSlots i).roundBitmap = 0 := by
    by_contra hround
    have hretransmit : Exec.trySendRetransmit Exec.takesAll { e with } t = (false, { e with }) := by
      refine Exec.trySendRetransmitFrom_skip (e := { e with }) Exec.takesAll fun k _ hk => .inl ?_
      rw [hone k hk]
      exact hround
    rcases Exec.trySendOpenDataFrom_acts (e := { e with }) t hopen hround hone hnodup hmem with
      hacts | ⟨e', hfalse, hopen', _, hne⟩
    · exact h.not_acts hs Exec.takesAll (Exec.onTick_acts_of_data hcomplete hsend hretransmit hacts)
    · have hsame := (h Exec.takesAll).1
      rw [run, Exec.onTick_opened hcomplete hsend hretransmit hfalse,
        Exec.tryOpenQueued_open Exec.takesAll t hopen'] at hsame
      exact hne hsame
  refine ⟨hround, ?_⟩
  by_contra hdue
  rw [not_or] at hdue
  rcases Exec.trySendRetransmitFrom_acts (e := { e with }) hopen hround hdue.1 hdue.2 hone hnodup
    hmem with
    hacts | ⟨e', hfalse, hopen', hattempts, hothers⟩
  · exact h.not_acts hs Exec.takesAll (Exec.onTick_acts_of_retransmit hcomplete hsend hacts)
  · -- the attempt that was counted stays counted
    have hone' (k : Fin 4) (hk : (e'.txSlots k).state = .open) : k = i := by
      by_contra hne
      rw [hothers k hne] at hk
      exact hne (hone k hk)
    have hstays {e₂ : Exec} (hdata : Exec.trySendOpenData Exec.takesAll e' t = (false, e₂))
        (hopen₂ : (e₂.txSlots i).state = .open) :
          (e₂.txSlots i).attempts = (e.txSlots i).attempts := by
      have hsame := (h Exec.takesAll).1
      rw [run, Exec.onTick_opened hcomplete hsend hfalse hdata,
        Exec.tryOpenQueued_open Exec.takesAll t hopen₂] at hsame
      exact congrArg (fun e : ArqEngine => (e.txSlots i).attempts) hsame
    have hcounted : (e.txSlots i).attempts + 1 ≠ (e.txSlots i).attempts := by simp
    by_cases hround' : (e'.txSlots i).roundBitmap = 0
    · refine hcounted (hattempts.symm.trans (hstays ?_ hopen'))
      refine Exec.trySendOpenDataFrom_skip Exec.takesAll t fun k _ hk => ?_
      rw [hone' k hk]
      exact hround'
    · rcases Exec.trySendOpenDataFrom_acts t hopen' hround' hone' hnodup hmem with
        hacts | ⟨e₂, hdata, hopen₂, hattempts₂, _⟩
      · exact h.not_acts hs Exec.takesAll (Exec.onTick_acts_of_data hcomplete hsend hfalse hacts)
      · exact hcounted (hattempts.symm.trans (hattempts₂.symm.trans (hstays hdata hopen₂)))

theorem Sleeps.rests (hs : e.Settled) (h : e.Sleeps t) : e.Rests t where
  egress := h.egress hs
  acks := h.acks hs
  rounds i hopen := (h.open_slot hs hopen).1
  retries i hopen := (h.open_slot hs hopen).2
  queue hnone hqueued := by
    by_contra hdue
    obtain ⟨i, hi⟩ := hqueued
    have hretransmit : Exec.trySendRetransmit {} { e with } t = (false, { e with }) :=
      Exec.trySendRetransmitFrom_skip (e := { e with }) {} fun k _ hk => absurd hk (hnone k)
    have hdata : Exec.trySendOpenData {} { e with } t = (false, { e with }) :=
      Exec.trySendOpenDataFrom_skip (e := { e with }) {} t fun k _ hk => absurd hk (hnone k)
    have hsame := (h {}).1
    rw [run, Exec.onTick_opened (Exec.tryCompleteRxSlots_none (e := { e with }) {} t (h.egress hs))
      (Exec.sendPendingAck_early (e := { e with }) {} (h.acks hs)) hretransmit hdata] at hsame
    exact Exec.tryOpenQueued_acts (e := { e with }) {} hnone hi hdue hsame

end ArqEngine

end FlrcTnc.Arq
