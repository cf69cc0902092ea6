import FlrcTnc.Arq.Emission
import FlrcTnc.Arq.Holdings

/-! Rounds over runs: each hands over the fragments that were missing when it began, in their order,
and marks the last one. -/

namespace FlrcTnc.Arq

open Framing Mask

/-! ### Accepted datagrams stay -/

theorem Party.Tick.no_acceptance {p q : Party} {evs : List Event} (h : Tick p evs q) :
    ∀ ev ∈ evs, ¬ ev.Acceptance := by
  refine h.invariant (P := fun past _ => ∀ ev ∈ past, ¬ ev.Acceptance) (a := []) ?_
    fun ev hev => by cases hev
  intro past p evs q hpast hown ev hev
  exact (List.mem_append.mp hev).elim (hpast ev) (hown.2 ev)

theorem Event.acceptedInto_none {ev : Event} (h : ¬ ev.Acceptance) (i : Fin 4) :
    ev.acceptedInto i = none := by
  cases ev with
  | accepted => exact absurd trivial h
  | sent | delivered | opened | failed | completed | ackQueued => rfl

theorem Event.OfReceiver.acceptedInto {ev : Event} (h : ev.OfReceiver) (i : Fin 4) :
    ev.acceptedInto i = none := by
  refine Event.acceptedInto_none (fun haccepts => ?_) i
  cases ev with
  | accepted => exact h
  | sent | delivered | opened | failed | completed | ackQueued => exact haccepts

/-- No call accepts a datagram into a slot that holds one. -/
theorem Party.Does.acceptedInto {call : Call} {p q : Party} {evs : List Event}
    (h : Party.Does call p evs q) {i : Fin 4} {t : Outgoing} (ht : p.sender.slots i = some t) :
    ∀ ev ∈ evs, ev.acceptedInto i = none := by
  cases call with
  | onTick | flushPendingAck =>
    exact fun ev hev => Event.acceptedInto_none (Party.Tick.no_acceptance h ev hev) i
  | onRxPacket packet now =>
    cases h with
    | ignore => exact fun ev hev => by cases hev
    | data s hpacket h => exact fun ev hev => (h.ofReceiver ev hev).acceptedInto i
    | ack r hpacket h =>
      cases h with
      | ignore | withdraw | add => exact fun ev hev => by cases hev
      | complete => exact List.forall_mem_singleton.mpr rfl
  | onTxDatagram data =>
    cases h with
    | reject => exact fun ev hev => by cases hev
    | accept hact =>
      cases hact with
      | receiver s hact => exact fun ev hev => (hact.ofReceiver ev hev).acceptedInto i
      | sender r hact =>
        cases hact with
        | accept k data hpos hmax hempty =>
          refine List.forall_mem_singleton.mpr (if_neg ?_)
          rintro rfl
          rw [hempty] at ht
          cases ht
        | openSlot | send | fail => exact List.forall_mem_singleton.mpr rfl

theorem ArqEngine.sender_slot {e : ArqEngine} {i : Fin 4} (hlive : (e.txSlots i).state ≠ .empty) :
    ∃ t, e.sender.slots i = some t ∧ t.id = (e.txSlots i).datagramId ∧ t.data = e.datagram i := by
  refine ⟨_, if_neg hlive, rfl, rfl⟩

/-- A live slot holds what was accepted into it. -/
theorem ArqEngine.lastAccepted_eq (config : ArqConfig) (calls : List (ArqCallbacks × Call))
    {i : Fin 4} (hlive : (((reset config).after calls).txSlots i).state ≠ .empty) :
    lastAccepted i ((reset config).trace calls) =
      some ((((reset config).after calls).txSlots i).datagramId,
        ((reset config).after calls).datagram i) := by
  obtain ⟨t, ht, hid, hdata⟩ := sender_slot hlive
  rw [← hid, ← hdata]
  exact (run_holds config calls).remembers i t ht

theorem ArqEngine.lastAccepted_concat (config : ArqConfig) (calls : List (ArqCallbacks × Call))
    {i : Fin 4} (hlive : (((reset config).after calls).txSlots i).state ≠ .empty)
    (cb : ArqCallbacks) (call : Call) :
    lastAccepted i ((reset config).trace (calls ++ [(cb, call)])) =
      lastAccepted i ((reset config).trace calls) := by
  obtain ⟨t, ht, _⟩ := sender_slot hlive
  rw [trace_concat]
  exact lastAccepted_silent (Party.Does.acceptedInto
    (run_spec (after_valid (reset_valid config) calls) cb call).2 ht)

/-! ### Rounds over runs -/

/-- The fragments that a round of the slot asks for: those that are not acknowledged, and all of
them when the datagram is opened. -/
def TxSlot.wanted (slot : TxSlot) : UInt16 :=
  if slot.state = .open then expectedBitmap slot.fragmentCount &&& ~~~ slot.ackedBitmap
  else expectedBitmap slot.fragmentCount

/-- From `slot` to `slot'` a tick has opened the datagram or made another attempt. -/
def TxSlot.Begins (slot slot' : TxSlot) : Prop :=
  slot'.state = .open ∧
    (slot.state = .queued ∨ slot.state = .open ∧ slot'.attempts ≠ slot.attempts)

/-- After the calls slot `i` is in a round over the fragments `wanted`, or at its end, and
`send_packet` has taken the DATA packets `packets` in it.  Nothing has cut it short. -/
inductive InRound (config : ArqConfig) (i : Fin 4) :
    List (ArqCallbacks × Call) → UInt16 → List Packet → Prop
  | begins (calls : List (ArqCallbacks × Call)) (cb : ArqCallbacks) (now : UInt32)
      (h : (((ArqEngine.reset config).after calls).txSlots i).Begins
        ((((ArqEngine.reset config).after calls).run cb (.onTick now)).txSlots i)) :
      InRound config i (calls ++ [(cb, .onTick now)])
        (((ArqEngine.reset config).after calls).txSlots i).wanted
        (dataPackets (((ArqEngine.reset config).after calls).run cb (.onTick now)).events)
  | goesOn {calls : List (ArqCallbacks × Call)} {wanted : UInt16} {packets : List Packet}
      (h : InRound config i calls wanted packets) (cb : ArqCallbacks) (call : Call)
      (hround : (((ArqEngine.reset config).after calls).txSlots i).roundBitmap ≠ 0)
      (hcut : ¬ call.Cuts (((ArqEngine.reset config).after calls).txSlots i)) :
      InRound config i (calls ++ [(cb, call)]) wanted
        (packets ++ dataPackets (((ArqEngine.reset config).after calls).run cb call).events)

theorem TxSlot.Resumes.header {m : UInt8} {slot next : TxSlot} (h : slot.Resumes m next) :
    slot.SameHeader next := by
  cases h with
  | goesOn => exact (Exec.skipToNext_sameDatagram slot).header
  | repeats => exact (Exec.beginRound_sameDatagram slot).header
  | opens => exact ⟨rfl, rfl, rfl⟩

theorem TxSlot.offered_header (slot : TxSlot) (retryDeadline : UInt32) (packet : Option Packet) :
    slot.SameHeader (slot.offered retryDeadline packet) := by
  unfold TxSlot.offered
  split <;> exact ⟨rfl, rfl, rfl⟩

theorem TxSlot.SameHeader.trans {slot slot' slot'' : TxSlot} (h : slot.SameHeader slot')
    (h' : slot'.SameHeader slot'') : slot.SameHeader slot'' :=
  ⟨h'.datagramId.trans h.datagramId, h'.len.trans h.len, h'.fragmentCount.trans h.fragmentCount⟩

theorem TxSlot.offered_state (slot : TxSlot) (retryDeadline : UInt32) (packet : Option Packet) :
    (slot.offered retryDeadline packet).state = slot.state := by
  unfold TxSlot.offered
  split <;> rfl

theorem TxSlot.offered_attempts (slot : TxSlot) (retryDeadline : UInt32) (packet : Option Packet) :
    (slot.offered retryDeadline packet).attempts = slot.attempts := by
  unfold TxSlot.offered
  split <;> rfl

namespace TxSlot.Ticks

variable {m : UInt8} {slot slot' : TxSlot} {data : List UInt8} {packets : List Packet}

/-- The tick that begins a round has the first packets of it. -/
theorem begins (h : slot.Ticks m data packets slot') (hbegins : slot.Begins slot') :
    slot.SameHeader slot' ∧ ∃ ks, slot'.Round data slot.wanted ks packets := by
  obtain ⟨hopen', hbegins⟩ := hbegins
  cases h with
  | same =>
    rcases hbegins with hqueued | ⟨_, hattempts⟩
    · rw [hqueued] at hopen'
      cases hopen'
    · exact absurd rfl hattempts
  | offered retryDeadline packet hresumes hpaced hnext hcount hemits hpackets =>
    refine ⟨hresumes.header.trans (offered_header ..), ?_⟩
    rw [hpackets, ← List.nil_append packet.toList]
    refine Round.offered (.nil fun k => ?_) hnext hcount retryDeadline hemits
    cases hresumes with
    | goesOn hopen hround =>
      rcases hbegins with hqueued | ⟨_, hattempts⟩
      · rw [hopen] at hqueued
        cases hqueued
      · exact absurd (offered_attempts ..) hattempts
    | repeats hopen hround =>
      rw [wanted, if_pos hopen]
      rfl
    | opens hqueued =>
      rw [wanted, if_neg (by rw [hqueued]; decide)]
      rfl
  | gone => cases hopen'

/-- A tick within a round goes on with it. -/
theorem goesOn (h : slot.Ticks m data packets slot') (hopen : slot.state = .open)
    (hround : slot.roundBitmap ≠ 0) {wanted : UInt16} {ks : List Nat} {before : List Packet}
    (hr : slot.Round data wanted ks before) :
    slot'.state = .open ∧ slot.SameHeader slot' ∧
      ∃ ks, slot'.Round data wanted ks (before ++ packets) := by
  cases h with
  | same hidle =>
    refine ⟨hopen, ⟨rfl, rfl, rfl⟩, ks, ?_⟩
    rw [hidle hopen, List.append_nil]
    exact hr
  | offered retryDeadline packet hresumes hpaced hnext hcount hemits hpackets =>
    refine ⟨?_, hresumes.header.trans (offered_header ..), ?_⟩
    · rw [offered_state]
      cases hresumes with
      | goesOn | repeats => exact hopen
      | opens => rfl
    rw [hpackets]
    cases hresumes with
    | goesOn =>
      exact (hr.congr (Exec.skipToNext_sameDatagram slot).header rfl).offered hnext hcount
        retryDeadline hemits
    | repeats _ hover => exact absurd hover hround
    | opens hqueued =>
      rw [hopen] at hqueued
      cases hqueued
  | gone _ hover => exact absurd hover hround

end TxSlot.Ticks

/-- In every round, what was taken so far carries the fragments of the datagram that were wanted and
are not left. -/
theorem InRound.round {config : ArqConfig} {i : Fin 4} {calls : List (ArqCallbacks × Call)}
    {wanted : UInt16} {packets : List Packet} (h : InRound config i calls wanted packets) :
    (((ArqEngine.reset config).after calls).txSlots i).state = .open ∧
      ∃ data ks, lastAccepted i ((ArqEngine.reset config).trace calls) =
          some ((((ArqEngine.reset config).after calls).txSlots i).datagramId, data) ∧
        (((ArqEngine.reset config).after calls).txSlots i).Round data wanted ks packets := by
  induction h with
  | begins calls cb now h =>
    have hlive : (((ArqEngine.reset config).after calls).txSlots i).state ≠ .empty := by
      rcases h.2 with hqueued | ⟨hopen, _⟩
      · rw [hqueued]; decide
      · rw [hopen]; decide
    have hstep := ArqEngine.after_inStep config calls
    obtain ⟨hsame, ks, hround⟩ := (hstep.slot_ticks cb now i).begins h
    rw [ArqEngine.after_concat, ArqEngine.lastAccepted_concat config calls hlive,
      ArqEngine.lastAccepted_eq config calls hlive]
    exact ⟨h.1, _, ks, by rw [hsame.datagramId], hround⟩
  | @goesOn calls wanted packets h cb call hround hcut ih =>
    obtain ⟨hopen, data, ks, haccepted, hr⟩ := ih
    have hlive : (((ArqEngine.reset config).after calls).txSlots i).state ≠ .empty := by
      rw [hopen]
      decide
    have hstep := ArqEngine.after_inStep config calls
    obtain rfl : ((ArqEngine.reset config).after calls).datagram i = data := by
      rw [ArqEngine.lastAccepted_eq config calls hlive] at haccepted
      exact congrArg Prod.snd (Option.some.inj haccepted)
    rw [ArqEngine.after_concat, ArqEngine.lastAccepted_concat config calls hlive, haccepted]
    by_cases hcall : ∃ now, call = .onTick now
    · obtain ⟨now, rfl⟩ := hcall
      obtain ⟨hopen', hsame, ks', hr'⟩ := (hstep.slot_ticks cb now i).goesOn hopen hround hr
      exact ⟨hopen', _, ks', by rw [hsame.datagramId], hr'⟩
    · have hno : ∀ now, call ≠ .onTick now := not_exists.mp hcall
      have hsame := hstep.sameRound hopen cb hno hcut
      rw [hstep.no_data cb hno, List.append_nil]
      exact ⟨hsame.state.trans hopen, _, ks, by rw [hsame.header.datagramId],
        hr.congr hsame.header hsame.roundBitmap⟩

/-! ### Every DATA packet belongs to a round -/

namespace ArqEngine

variable {e : ArqEngine} {i : Fin 4}

/-- A round that goes on behind a call was not cut short by it. -/
theorem InStep.uncut (h : e.InStep) (cb : ArqCallbacks) {call : Call}
    (hopen : (e.txSlots i).state = .open) (hround : ((e.run cb call).txSlots i).roundBitmap ≠ 0) :
    ¬ call.Cuts (e.txSlots i) := by
  rintro ⟨packet, now, ack, rfl, hack, hcut⟩
  rw [run, Exec.onRxPacket_ack cb _ now hack] at hround
  rcases h.handleAck_round hopen ack now with ⟨_, hover⟩ | ⟨huncut, _⟩
  · exact hround hover
  · exact huncut hcut

end ArqEngine

namespace TxSlot

variable {m : UInt8} {slot slot' next : TxSlot} {data : List UInt8} {packets : List Packet}

/-- A slot that is offered goes on with its round, or begins one. -/
theorem Resumes.goes_on_or_begins (h : slot.Resumes m next) (retryDeadline : UInt32)
    (packet : Option Packet) : (slot.state = .open ∧ slot.roundBitmap ≠ 0) ∨
      slot.Begins (next.offered retryDeadline packet) := by
  cases h with
  | goesOn hopen hround => exact .inl ⟨hopen, hround⟩
  | repeats hopen =>
    refine .inr ⟨by rw [offered_state]; exact hopen, .inr ⟨hopen, ?_⟩⟩
    rw [offered_attempts]
    change slot.attempts + 1 ≠ slot.attempts
    intro heq
    simp at heq
  | opens hqueued => exact .inr ⟨by rw [offered_state]; rfl, .inl hqueued⟩

theorem Ticks.goes_on_or_begins (h : slot.Ticks m data packets slot') (hopen : slot'.state = .open)
    (hround : slot'.roundBitmap ≠ 0) :
    (slot.state = .open ∧ slot.roundBitmap ≠ 0) ∨ slot.Begins slot' := by
  cases h with
  | same => exact .inl ⟨hopen, hround⟩
  | offered retryDeadline packet hresumes => exact hresumes.goes_on_or_begins retryDeadline packet
  | gone => cases hopen

end TxSlot

namespace Exec

variable {e e' : Exec} {cb : ArqCallbacks} {now : UInt32} {p : Packet}

/-- The slot that the packet is from. -/
theorem Opening.sends (h : Opening cb now e (some p) e') : ∃ i next retryDeadline,
    (e.txSlots i).Resumes e.config.maxAttempts next ∧
      e'.txSlots i = next.offered retryDeadline (some p) := by
  cases h with
  | probes i hqueued hcredits harmed hdue hoffers =>
    exact ⟨i, _, _, .opens hqueued _, by rw [hoffers.txSlots, Function.update_self]⟩
  | pays i hqueued hcredits hoffers =>
    exact ⟨i, _, _, .opens hqueued _, by rw [hoffers.txSlots, Function.update_self]⟩

theorem Turn.sends (h : Turn cb now e (some p) e') : ∃ i next retryDeadline,
    (e.txSlots i).Resumes e.config.maxAttempts next ∧
      e'.txSlots i = next.offered retryDeadline (some p) := by
  cases h with
  | goesOn i hopen hround hoffers =>
    exact ⟨i, _, _, .goesOn hopen hround, by rw [hoffers.txSlots, Function.update_self]⟩
  | repeats i hopen hround hmissing hdue hattempts hoffers =>
    exact ⟨i, _, _, .repeats hopen hround hattempts, by rw [hoffers.txSlots, Function.update_self]⟩
  | givesUp i hexhausted hopening =>
    obtain ⟨k, next, retryDeadline, hresumes, hslot⟩ := hopening.sends
    obtain ⟨pool, hhalf⟩ := failTxSlot_sendingHalf e i
    have hconfig : (e.failTxSlot i).config = e.config := congrArg SendingHalf.config hhalf
    rw [failTxSlot_txSlots, hconfig] at hresumes
    by_cases hk : k = i
    · subst hk
      rw [Function.update_self] at hresumes
      cases hresumes with
      | goesOn hopen | repeats hopen | opens hopen => cases hopen
    · rw [Function.update_of_ne hk] at hresumes
      exact ⟨k, next, retryDeadline, hresumes, hslot⟩
  | opens hnone hopening => exact hopening.sends

end Exec

/-- A tick that hands over a DATA packet goes on with a round or begins one. -/
theorem ArqEngine.InStep.sends {e : ArqEngine} (h : e.InStep) {cb : ArqCallbacks} {now : UInt32}
    {packet : Packet} (hpacket : packet ∈ dataPackets (e.run cb (.onTick now)).events) :
    ∃ i, ((e.txSlots i).state = .open ∧ (e.txSlots i).roundBitmap ≠ 0) ∨
      (e.txSlots i).Begins ((e.run cb (.onTick now)).txSlots i) := by
  by_cases hpreempted : e.Preempted cb now
  · have hnone : dataPackets (e.run cb (.onTick now)).events = [] := by
      rw [run_preempted hpreempted]
      rcases h.beforeTurn_taken cb now with hnone | ⟨ack, packet, hparse, hack⟩
      · exact dataPackets_of_taken hnone
      · exact dataPackets_of_ack hack hparse
    rw [hnone] at hpacket
    cases hpacket
  · obtain ⟨_, hnone, sent, hturn⟩ := h.turn hpreempted
    have htaken : packet ∈ sent := by
      have hmem := List.mem_of_mem_filter hpacket
      rw [hturn.hands_over, hnone] at hmem
      simpa using hmem
    rw [Option.mem_def.mp htaken] at hturn
    obtain ⟨i, next, retryDeadline, hresumes, hslot⟩ := hturn.sends
    rw [e.beforeTurn_txSlots cb now] at hresumes
    refine ⟨i, ?_⟩
    rw [show (e.run cb (.onTick now)).txSlots i = _ from hslot]
    exact hresumes.goes_on_or_begins retryDeadline (some packet)

theorem Call.onTick_uncut (now : UInt32) (slot : TxSlot) : ¬ (Call.onTick now).Cuts slot := by
  rintro ⟨packet, now', ack, heq, _⟩
  cases heq

namespace InRound

variable {config : ArqConfig} {i : Fin 4}

/-- An open slot with fragments left is in a round. -/
theorem of_left (calls : List (ArqCallbacks × Call))
    (hopen : (((ArqEngine.reset config).after calls).txSlots i).state = .open)
    (hround : (((ArqEngine.reset config).after calls).txSlots i).roundBitmap ≠ 0) :
    ∃ wanted packets, InRound config i calls wanted packets := by
  induction calls using List.reverseRecOn with
  | nil => cases hopen
  | append_singleton calls step ih =>
    obtain ⟨cb, call⟩ := step
    rw [ArqEngine.after_concat] at hopen hround
    have hstep := ArqEngine.after_inStep config calls
    by_cases hcall : ∃ now, call = .onTick now
    · obtain ⟨now, rfl⟩ := hcall
      rcases (hstep.slot_ticks cb now i).goes_on_or_begins hopen hround with
        ⟨hbefore, hleft⟩ | hbegins
      · obtain ⟨wanted, packets, h⟩ := ih hbefore hleft
        exact ⟨wanted, _, h.goesOn cb _ hleft (Call.onTick_uncut now _)⟩
      · exact ⟨_, _, .begins calls cb now hbegins⟩
    · have hno := not_exists.mp hcall
      have hbefore := ArqEngine.opens_nothing cb hno hopen
      have hcut := hstep.uncut cb hbefore hround
      rw [(hstep.sameRound hbefore cb hno hcut).roundBitmap] at hround
      obtain ⟨wanted, packets, h⟩ := ih hbefore hround
      exact ⟨wanted, _, h.goesOn cb call hround hcut⟩

/-- Every DATA packet belongs to a round. -/
theorem of_packet (calls : List (ArqCallbacks × Call)) (cb : ArqCallbacks) (call : Call)
    {packet : Packet}
    (h : packet ∈ dataPackets (((ArqEngine.reset config).after calls).run cb call).events) :
    ∃ i wanted packets, InRound config i (calls ++ [(cb, call)]) wanted packets ∧
      packet ∈ packets := by
  have hstep := ArqEngine.after_inStep config calls
  by_cases hcall : ∃ now, call = .onTick now
  · obtain ⟨now, rfl⟩ := hcall
    obtain ⟨i, ⟨hopen, hround⟩ | hbegins⟩ := hstep.sends h
    · obtain ⟨wanted, packets, hin⟩ := of_left calls hopen hround
      exact ⟨i, wanted, _, hin.goesOn cb _ hround (Call.onTick_uncut now _),
        List.mem_append_right _ h⟩
    · exact ⟨i, _, _, .begins calls cb now hbegins, h⟩
  · rw [hstep.no_data cb (not_exists.mp hcall)] at h
    cases h

end InRound

/-! ### Branches that are never taken -/

namespace Exec

variable {e e' : Exec} {i : Fin 4} {cb : ArqCallbacks} {now : UInt32} {packet : Option Packet}

theorem tryCompleteRxSlots_sendable (cb : ArqCallbacks) (now : UInt32) (h : e.Valid)
    (hs : e.receiver.Sendable) : (e.tryCompleteRxSlots cb now).2.receiver.Sendable := by
  have hcompletes := tryCompleteRxSlotsFrom_completes cb now (List.finRange 4) h
  have hsame {e' : Exec} (hidle : Idles e e') : e'.receiver.Sendable := by
    rw [show e'.receiver = e.receiver from congrArg Party.receiver hidle.party_eq]
    exact hs
  cases hresult : (e.tryCompleteRxSlots cb now).1 with
  | false => exact hsame (hcompletes.idles hresult)
  | true =>
    obtain ⟨e', hidle, _, evs, _, ⟨hact, _⟩, _⟩ := hcompletes.act hresult
    exact Party.Act.sendable (hsame hidle) hact

/-- `sendPendingAck` finds no ACK that it cannot build. -/
theorem sendPendingAck_elsewhere (cb : ArqCallbacks) (now : UInt32) (hs : e.receiver.Sendable) :
    (e.sendPendingAck cb now).2.elsewhere = e.elsewhere := by
  unfold sendPendingAck
  split
  · next pending rest send hentries _ =>
    have hknown := hs.known pending.ack (List.mem_map_of_mem (by rw [hentries]; exact .head _))
    split
    · rfl
    rw [buildAckPacket, if_neg (not_not.mpr hknown)]
    dsimp only
    split <;> rfl
  · rfl

theorem Offers.malformed {slot : TxSlot} (h : Offers cb now e i slot packet e') :
    e'.counters.malformedInput = e.counters.malformedInput := by
  cases h with
  | taken _ h | refused _ h =>
    obtain ⟨calls, evs, rfl, _⟩ := h
    rfl

theorem Opening.malformed (h : Opening cb now e packet e') :
    e'.counters.malformedInput = e.counters.malformedInput := by
  cases h with
  | idle | arms | waits => rfl
  | probes i hqueued hcredits harmed hdue hoffers | pays i hqueued hcredits hoffers =>
    exact hoffers.malformed

theorem Turn.malformed (h : Turn cb now e packet e') :
    e'.counters.malformedInput = e.counters.malformedInput := by
  cases h with
  | waits => rfl
  | goesOn i hopen hround hoffers | repeats i hopen hround hmissing hdue hattempts hoffers =>
    exact hoffers.malformed
  | givesUp i hexhausted hopening =>
    rw [hopening.malformed]
    unfold failTxSlot clearTxSlot
    dsimp only
    split <;> rfl
  | opens hnone hopening => exact hopening.malformed

end Exec

/-- A tick counts no malformed input. -/
theorem ArqEngine.InStep.malformed {e : ArqEngine} (h : e.InStep) (hs : e.receiver.Sendable)
    (cb : ArqCallbacks) (now : UInt32) :
    (e.run cb (.onTick now)).counters.malformedInput = e.counters.malformedInput := by
  have helsewhere : (e.beforeTurn cb now).elsewhere = e.elsewhere :=
    (Exec.sendPendingAck_elsewhere cb now
      (Exec.tryCompleteRxSlots_sendable (e := { e with }) cb now h.valid hs)).trans
      (Exec.tryCompleteRxSlots_elsewhere cb { e with } now)
  have hbefore : (e.beforeTurn cb now).counters.malformedInput = e.counters.malformedInput :=
    congrArg Prod.snd helsewhere
  by_cases hpreempted : e.Preempted cb now
  · rw [run_preempted hpreempted]
    exact hbefore
  · obtain ⟨_, _, packet, hturn⟩ := h.turn hpreempted
    rw [hturn.malformed]
    exact hbefore

/-- A tick ends a round only by handing over a packet of it. -/
theorem TxSlot.Ticks.ends {m : UInt8} {slot slot' : TxSlot} {data : List UInt8}
    {packets : List Packet} (h : slot.Ticks m data packets slot') (hopen : slot'.state = .open)
    (hround : slot'.roundBitmap = 0) : slot' = slot ∨ packets ≠ [] := by
  cases h with
  | same => exact .inl rfl
  | offered retryDeadline packet hresumes hpaced hnext hcount hemits hpackets =>
    cases packet with
    | none => exact absurd hround hnext.roundBitmap_ne_zero
    | some packet => exact .inr (by rw [hpackets, Option.toList_some]; exact List.cons_ne_nil _ _)
  | gone => cases hopen

/-! ### The result -/

/-- The DATA packets of an engine over all its runs. -/
structure KeepsRounds (config : ArqConfig) : Prop where
  /-- The packets of a round that was not cut short. -/
  complete : ∀ {i calls wanted packets}, InRound config i calls wanted packets →
    (((ArqEngine.reset config).after calls).txSlots i).roundBitmap = 0 →
    ∃ data ks, lastAccepted i ((ArqEngine.reset config).trace calls) =
        some ((((ArqEngine.reset config).after calls).txSlots i).datagramId, data) ∧
      ks.Pairwise (· < ·) ∧ (∀ k, k ∈ ks ↔ hasBit wanted k) ∧
      List.Forall₂ ((((ArqEngine.reset config).after calls).txSlots i).EmitsOf data wanted) ks
        packets
  /-- The packets so far. -/
  begun : ∀ {i calls wanted packets}, InRound config i calls wanted packets →
    ∃ data ks, lastAccepted i ((ArqEngine.reset config).trace calls) =
        some ((((ArqEngine.reset config).after calls).txSlots i).datagramId, data) ∧
      (((ArqEngine.reset config).after calls).txSlots i).Round data wanted ks packets
  /-- A slot with fragments left in its round is in a round. -/
  covered : ∀ {i} calls, (((ArqEngine.reset config).after calls).txSlots i).state = .open →
    (((ArqEngine.reset config).after calls).txSlots i).roundBitmap ≠ 0 →
    ∃ wanted packets, InRound config i calls wanted packets
  /-- There are no DATA packets but those of rounds. -/
  belongs : ∀ calls cb call packet,
    packet ∈ dataPackets (((ArqEngine.reset config).after calls).run cb call).events →
    ∃ i wanted packets, InRound config i (calls ++ [(cb, call)]) wanted packets ∧
      packet ∈ packets
  /-- `sendDataFragment` finds nothing malformed. -/
  wellFormed : ∀ calls cb now,
    (((ArqEngine.reset config).after calls).run cb (.onTick now)).counters.malformedInput =
      ((ArqEngine.reset config).after calls).counters.malformedInput
  /-- `trySendOpenData` ends no round without a packet. -/
  inRange : ∀ calls cb now i,
    ((((ArqEngine.reset config).after calls).run cb (.onTick now)).txSlots i).state = .open →
    ((((ArqEngine.reset config).after calls).run cb (.onTick now)).txSlots i).roundBitmap = 0 →
    (((ArqEngine.reset config).after calls).run cb (.onTick now)).txSlots i =
        ((ArqEngine.reset config).after calls).txSlots i ∨
      dataPackets (((ArqEngine.reset config).after calls).run cb (.onTick now)).events ≠ []

/-- In every run every round hands over exactly the fragments that were missing when it began, in
ascending order and with ROUND_END on the last one. -/
theorem rounds_kept (config : ArqConfig) : KeepsRounds config where
  complete {i calls wanted packets} h hover := by
    obtain ⟨_, data, ks, haccepted, hround⟩ := h.round
    refine ⟨data, ks, haccepted, hround.ascending, fun k => ?_, hround.emits⟩
    rw [hround.sent, hover, hasBit_zero]
    simp
  begun h := h.round.2
  covered calls hopen hround := InRound.of_left calls hopen hround
  belongs calls cb call packet h := InRound.of_packet calls cb call h
  wellFormed calls cb now := (ArqEngine.after_inStep config calls).malformed
    (ArqEngine.run_sendable config calls) cb now
  inRange calls cb now i hopen hround :=
    ((ArqEngine.after_inStep config calls).slot_ticks cb now i).ends hopen hround

end FlrcTnc.Arq
