import FlrcTnc.Arq.Refine

/-! What the sending functions of the engine do, as acts of the party. -/

namespace FlrcTnc.Arq

open Framing Mask

/-! ### Runs of the party -/

namespace Party

theorem steps_idle_eq {p q : Party} {evs : List Event} (h : Trace.Steps Idle p evs q) : q = p :=
  h.invariant (P := fun r => r = p) (fun hr hstep => hstep.2.1.trans hr) rfl

theorem Idle.light {p q : Party} {evs : List Event} (h : Idle p evs q) : Light p evs q :=
  ⟨h.1, fun ev hev hdecisive => by
    have hrefusal := h.2.2 ev hev
    cases ev with
    | delivered id data ok => cases ok <;> simp_all [Event.Refusal, Event.Decisive]
    | accepted | failed => exact hrefusal
    | sent | opened | completed | ackQueued => exact hdecisive⟩

end Party

/-- The two slots hold the same datagram in the same state; at most their paces differ. -/
structure TxSlot.SameDatagram (s s' : TxSlot) : Prop where
  state : s'.state = s.state
  handle : s'.handle = s.handle
  data : s'.data = s.data
  len : s'.len = s.len
  datagramId : s'.datagramId = s.datagramId
  fragmentCount : s'.fragmentCount = s.fragmentCount
  ackedBitmap : s'.ackedBitmap = s.ackedBitmap

/-- `e'` comes from `e` by a run `R` of the party, and is in order. -/
def Exec.Follows (R : Party → List Event → Party → Prop) (e e' : Exec) : Prop :=
  e'.Valid ∧ ∃ evs, e'.events = e.events ++ evs ∧ R e.party evs e'.party

/-- `e` and `e'` differ in nothing that the party sees. -/
structure Exec.Same (e e' : Exec) : Prop where
  party : e'.party = e.party
  valid : e.Valid → e'.Valid
  events : e'.events = e.events

namespace Exec

variable {e e' e'' : Exec} {R : Party → List Event → Party → Prop}

theorem Same.refl (e : Exec) : Same e e := ⟨rfl, id, rfl⟩

theorem Same.trans (h : Same e e') (h' : Same e' e'') : Same e e'' :=
  ⟨h'.party.trans h.party, fun hv => h'.valid (h.valid hv), h'.events.trans h.events⟩

theorem count_same (e : Exec) (f : ArqCounters → ArqCounters) : Same e (e.count f) := ⟨rfl, id, rfl⟩

theorem Follows.valid (h : Follows R e e') : e'.Valid := h.1

theorem Follows.same_left (h : Same e e') (h' : Follows R e' e'') : Follows R e e'' := by
  obtain ⟨hv, evs, hevs, hR⟩ := h'
  exact ⟨hv, evs, by rw [hevs, h.events], by rwa [h.party] at hR⟩

theorem Follows.same_right (h : Follows R e e') (h' : Same e' e'') : Follows R e e'' := by
  obtain ⟨hv, evs, hevs, hR⟩ := h
  exact ⟨h'.valid hv, evs, by rw [h'.events, hevs], by rwa [h'.party]⟩

theorem Follows.mono {S : Party → List Event → Party → Prop} (h : Follows R e e')
    (hRS : ∀ {evs}, R e.party evs e'.party → S e.party evs e'.party) : Follows S e e' := by
  obtain ⟨hv, evs, hevs, hR⟩ := h
  exact ⟨hv, evs, hevs, hRS hR⟩

theorem Follows.of_same (hv : e.Valid) (h : Same e e') : Follows (Trace.Steps R) e e' :=
  ⟨h.valid hv, [], by rw [h.events, List.append_nil], by rw [h.party]; exact .nil _⟩

theorem Follows.append (h : Follows (Trace.Steps R) e e') (h' : Follows (Trace.Steps R) e' e'') :
    Follows (Trace.Steps R) e e'' := by
  obtain ⟨_, evs, hevs, hR⟩ := h
  obtain ⟨hv, evs', hevs', hR'⟩ := h'
  exact ⟨hv, evs ++ evs', by rw [hevs', hevs, List.append_assoc], hR.append hR'⟩

/-- The run `e` to `e'` comes to nothing. -/
abbrev Idles : Exec → Exec → Prop := Follows (Trace.Steps Party.Idle)

/-- The run `e` to `e'` decides nothing. -/
abbrev Lights : Exec → Exec → Prop := Follows (Trace.Steps Party.Light)

theorem Idles.lights (h : Idles e e') : Lights e e' := h.mono fun hR => hR.mono Party.Idle.light

theorem Idles.party_eq (h : Idles e e') : e'.party = e.party := by
  obtain ⟨_, _, _, hR⟩ := h
  exact Party.steps_idle_eq hR

/-! ### Callbacks and credits -/

theorem egressCapacity_snd (cb : ArqCallbacks) (e : Exec) (default : UInt8) :
    ∃ n, (e.egressCapacity cb default).2 = { e with calls := n } := by
  rw [egressCapacity]
  split
  · exact ⟨e.calls, rfl⟩
  · exact ⟨e.calls + 1, rfl⟩

theorem currentCredits_snd (cb : ArqCallbacks) (e : Exec) :
    ∃ n, (e.currentCredits cb).2 = { e with calls := n } := egressCapacity_snd cb e _

/-- `enqueueAck` on the frames of the queue. -/
theorem enqueueAck_snd (e : Exec) (ack : AckFrame) (deadline : UInt32) (source : AckSource) :
    ∃ pending counters, (e.enqueueAck ack deadline source).2 = { e with
        pendingAcks := pending
        counters := counters
        events := e.events ++ enqueueEvents e.pendingAcks.frames ack source } ∧
      pending.frames = enqueue e.pendingAcks.frames ack := by
  have hfind : (e.pendingAcks.frames.findIdx? fun p => p.datagramId = ack.datagramId) =
      e.pendingAcks.entries.findIdx? fun p => p.ack.datagramId = ack.datagramId := by
    rw [PendingAcks.frames, List.findIdx?_map]
    rfl
  have hlength : e.pendingAcks.frames.length = e.pendingAcks.entries.length := by
    rw [PendingAcks.frames, List.length_map]
  simp only [enqueueAck, enqueueEvents, enqueue, hfind, hlength]
  cases hi : e.pendingAcks.entries.findIdx? fun p => p.ack.datagramId = ack.datagramId with
  | some i =>
    refine ⟨_, e.counters, rfl, ?_⟩
    simp [PendingAcks.frames, List.map_set]
  | none =>
    by_cases hfull : e.pendingAcks.entries.length ≥ arqPendingAckCapacity
    · simp only [hfull, ↓reduceDIte, ↓reduceIte, and_self, List.append_nil]
      exact ⟨_, _, rfl, rfl⟩
    · simp only [hfull, ↓reduceDIte, ↓reduceIte, and_false]
      exact ⟨_, e.counters, rfl, by simp [PendingAcks.frames]⟩

/-- `enqueueAck` as the receiver sees it. -/
theorem enqueueAck_party (e : Exec) (ack : AckFrame) (deadline : UInt32) (source : AckSource) :
    (e.enqueueAck ack deadline source).2.party = ⟨e.sender, e.receiver.queue ack⟩ ∧
      (e.enqueueAck ack deadline source).2.events =
        e.events ++ enqueueEvents e.receiver.pending ack source ∧
      (e.Valid → (e.enqueueAck ack deadline source).2.Valid) := by
  obtain ⟨pending, counters, heq, hframes⟩ := enqueueAck_snd e ack deadline source
  rw [heq]
  refine ⟨?_, rfl, id⟩
  rw [ArqEngine.party, ArqEngine.receiver]
  simp only [hframes]
  rfl

/-! ### Sending -/

/-- A call that returns false comes to nothing, and one that returns true decides nothing. -/
structure Sends (e : Exec) (result : Bool × Exec) : Prop where
  idles : result.1 = false → Idles e result.2
  lights : Lights e result.2

theorem Sends.of_idles {b : Bool} (h : Idles e e') : Sends e (b, e') := ⟨fun _ => h, h.lights⟩

theorem Sends.of_lights (h : Lights e e') : Sends e (true, e') :=
  ⟨fun hfalse => absurd hfalse (by simp), h⟩

theorem Sends.after {r : Bool × Exec} (h : Idles e e') (hr : Sends e' r) : Sends e r :=
  ⟨fun hfalse => h.append (hr.idles hfalse), h.lights.append hr.lights⟩

/-- The pending ACK at the front is sent, or nothing happens. -/
theorem sendPendingAck_sends (cb : ArqCallbacks) (now : UInt32) (h : e.Valid) :
    Sends e (e.sendPendingAck cb now) := by
  have hsame : Idles e e := .of_same h (.refl e)
  rw [sendPendingAck]
  split
  · next pending rest send hpending _ =>
    split
    · exact .of_idles hsame
    · split
      · exact .of_idles (.of_same h ⟨rfl, id, rfl⟩)
      · next packet hbuild =>
        have hparse : parseAckPacket packet = .ok pending.ack := ack_exact.parses_of_builds hbuild
        have hframes : e.receiver.pending = pending.ack :: rest.map (·.ack) := by
          change e.pendingAcks.entries.map (·.ack) = _
          rw [hpending, List.map_cons]
        have hact := Receiver.Act.sendAck e.receiver pending.ack _ hframes packet hparse
        dsimp only
        split
        · next hok =>
          simp only [Bool.not_eq_true] at hok
          rw [hok]
          refine .of_idles ⟨h, [.sent packet false], rfl, .single ⟨.receiver _ ?_, rfl, ?_⟩⟩
          · exact hact false
          · intro ev hev
            rw [List.mem_singleton.mp hev]
            trivial
        · next hok =>
          simp only [Bool.not_eq_true, Bool.not_eq_false] at hok
          rw [hok]
          refine .of_lights ⟨h, [.sent packet true], rfl, .single ⟨?_, ?_⟩⟩
          · exact .receiver _ (hact true)
          · intro ev hev
            rw [List.mem_singleton.mp hev]
            exact id
  · exact .of_idles hsame

/-- The party of an engine of which the transmit slots have changed. -/
theorem party_of_tx {slots : Fin 4 → Option Outgoing} {nextId : UInt16}
    (hslots : (fun k => (e'.txSlots k).outgoing e'.txPool) = slots)
    (hid : e'.nextDatagramId = nextId) (hreceiver : e'.receiver = e.receiver) :
    e'.party = ⟨⟨slots, nextId⟩, e.receiver⟩ := by
  rw [ArqEngine.party, ArqEngine.sender, hslots, hid, hreceiver]

theorem act_of_tx {slots : Fin 4 → Option Outgoing} {nextId : UInt16} {evs : List Event}
    (hslots : (fun k => (e'.txSlots k).outgoing e'.txPool) = slots)
    (hid : e'.nextDatagramId = nextId) (hreceiver : e'.receiver = e.receiver)
    (h : Party.Act e.party evs ⟨⟨slots, nextId⟩, e.receiver⟩) : Party.Act e.party evs e'.party := by
  rw [party_of_tx hslots hid hreceiver]
  exact h

/-- A change of pace shows nowhere. -/
theorem setTx_same {i : Fin 4} {slot : TxSlot} (h : (e.txSlots i).SameDatagram slot)
    (hlive : (e.txSlots i).state ≠ .empty) : Same e (e.setTx i slot) where
  party := by
    have hview : slot.outgoing e.txPool = (e.txSlots i).outgoing e.txPool := by
      simp only [TxSlot.outgoing, h.state, h.datagramId, h.data, h.len, h.ackedBitmap]
    refine party_of_tx ?_ rfl rfl
    exact Slots.map_update_same (g := fun s => TxSlot.outgoing e.txPool s) hview
  valid hv := ⟨hv.1.update hlive (by rw [h.state]; exact hlive) h.data h.handle h.len
    h.fragmentCount, hv.2⟩
  events := rfl

theorem skipToNext_sameDatagram (slot : TxSlot) : slot.SameDatagram slot.skipToNext :=
  ⟨rfl, rfl, rfl, rfl, rfl, rfl, rfl⟩

theorem beginRound_sameDatagram (slot : TxSlot) : slot.SameDatagram slot.beginRound :=
  ⟨rfl, rfl, rfl, rfl, rfl, rfl, rfl⟩

theorem fragmentSent_sameDatagram (slot : TxSlot) (deadline : UInt32) :
    slot.SameDatagram (slot.fragmentSent deadline) :=
  ⟨rfl, rfl, rfl, rfl, rfl, rfl, rfl⟩

/-- The datagram of an open slot. -/
theorem sender_open {i : Fin 4} (hopen : (e.txSlots i).state = .open) :
    e.sender.Open i ⟨true, (e.txSlots i).datagramId,
      (e.txPool.memory (e.txSlots i).data).read 0 (e.txSlots i).len.toNat,
      (e.txSlots i).ackedBitmap⟩ := by
  refine ⟨?_, rfl⟩
  simp only [ArqEngine.sender, TxSlot.outgoing, hopen]
  rfl

/-- A packet that is handed over carries a fragment of the datagram in the slot. -/
theorem sendDataFragment_eq (cb : ArqCallbacks) (i : Fin 4) (k : UInt8) (h : e.Valid)
    (hopen : (e.txSlots i).state = .open) :
    ∃ counters calls evs, (e.sendDataFragment cb i k).2 =
        { e with counters := counters, calls := calls, events := e.events ++ evs } ∧
      ((evs = [] ∧ (e.sendDataFragment cb i k).1 = false) ∨
        ∃ packet, evs = [.sent packet (e.sendDataFragment cb i k).1] ∧
          ∀ ok, Party.Act e.party [.sent packet ok] e.party) := by
  have hnothing (counters : ArqCounters) : ({ e with counters := counters } : Exec) =
      { e with counters := counters, calls := e.calls, events := e.events ++ [] } := by
    rw [List.append_nil]
  obtain ⟨ref, hslot⟩ := h.1.slot i (by rw [hopen]; decide)
  rw [sendDataFragment]
  cases cb.sendPacket with
  | none => exact ⟨_, _, [], hnothing e.counters, .inl ⟨rfl, rfl⟩⟩
  | some send =>
    simp only [hslot.data, Option.map_some]
    split
    · exact ⟨_, _, [], hnothing _, .inl ⟨rfl, rfl⟩⟩
    · next fragments hdescribe =>
      split
      · exact ⟨_, _, [], hnothing _, .inl ⟨rfl, rfl⟩⟩
      · next header payload hfragment =>
        split
        · exact ⟨_, _, [], hnothing _, .inl ⟨rfl, rfl⟩⟩
        · next packet hbuild =>
          obtain ⟨hvalid, hid, hlen, _, hindex, hpayload⟩ :=
            describeDatagram_sound hdescribe hfragment
          have hparse : parseDataPacket packet =
              .ok (header, payload.read 0 header.payloadLen.toNat) :=
            data_exact.parses_of_builds ⟨by simp, hbuild⟩
          refine ⟨_, _, _, rfl, .inr ⟨packet, rfl, fun ok => .sender _ ?_⟩⟩
          refine .send _ i _ (sender_open hopen) packet header _ ⟨hvalid, hid, ?_, ?_⟩ hparse ok
          · rw [hlen, Buffer.read_length]
          · rw [hpayload, hslot.data, hindex]
            rfl

theorem sendDataFragment_sends (cb : ArqCallbacks) (i : Fin 4) (k : UInt8) (h : e.Valid)
    (hopen : (e.txSlots i).state = .open) :
    Sends e (e.sendDataFragment cb i k) ∧
      (e.sendDataFragment cb i k).2.txSlots = e.txSlots := by
  obtain ⟨counters, calls, evs, heq, hevs⟩ := sendDataFragment_eq cb i k h hopen
  rw [heq]
  refine ⟨⟨fun hfalse => ?_, ?_⟩, rfl⟩
  · rw [heq]
    refine ⟨h, evs, rfl, ?_⟩
    rcases hevs with ⟨rfl, _⟩ | ⟨packet, rfl, hact⟩
    · exact .nil _
    · refine .single ⟨hact _, rfl, fun ev hev => ?_⟩
      rw [List.mem_singleton.mp hev, hfalse]
      trivial
  · rw [heq]
    refine ⟨h, evs, rfl, ?_⟩
    rcases hevs with ⟨rfl, _⟩ | ⟨packet, rfl, hact⟩
    · exact .nil _
    · refine .single ⟨hact _, fun ev hev => ?_⟩
      rw [List.mem_singleton.mp hev]
      exact id

theorem trySendOpenDataFrom_sends (cb : ArqCallbacks) (now : UInt32) (slots : List (Fin 4))
    (h : e.Valid) : Sends e (trySendOpenDataFrom cb now slots e) := by
  induction slots generalizing e with
  | nil => exact .of_idles (.of_same h (.refl e))
  | cons i rest ih =>
    rw [trySendOpenDataFrom]
    split
    · exact ih h
    · next hskip =>
      simp only [not_or, not_not] at hskip
      obtain ⟨hopen, _⟩ := hskip
      have hlive : (e.txSlots i).state ≠ .empty := by rw [hopen]; decide
      dsimp only
      split
      · have hsame : Same e (e.setTx i { (e.txSlots i).skipToNext with
            roundBitmap := 0, retryDeadline := now + e.config.retryTimeoutCycles }) :=
          setTx_same ⟨rfl, rfl, rfl, rfl, rfl, rfl, rfl⟩ hlive
        exact (ih (hsame.valid h)).after (.of_same h hsame)
      · have hsame := setTx_same (skipToNext_sameDatagram (e.txSlots i)) hlive
        have hslot : (e.setTx i (e.txSlots i).skipToNext).txSlots i =
            (e.txSlots i).skipToNext := Function.update_self ..
        obtain ⟨hsends, hslots⟩ := sendDataFragment_sends cb i
          (e.txSlots i).skipToNext.nextFragment (hsame.valid h) (by rw [hslot]; exact hopen)
        have hrun := hsends.after (.of_same h hsame)
        split
        · next e' heq =>
          rw [heq] at hrun hslots
          have hsent : Same e' (e'.setTx i ((e.txSlots i).skipToNext.fragmentSent
              (now + e'.config.retryTimeoutCycles))) := by
            refine setTx_same ?_ ?_
            · rw [hslots, hslot]
              exact fragmentSent_sameDatagram _ _
            · rw [hslots, hslot]
              exact hlive
          exact .of_lights (hrun.lights.same_right hsent)
        · next e' heq =>
          rw [heq] at hrun
          have hidle := hrun.idles rfl
          exact (ih hidle.valid).after hidle

theorem trySendOpenData_sends (cb : ArqCallbacks) (now : UInt32) (h : e.Valid) :
    Sends e (e.trySendOpenData cb now) := trySendOpenDataFrom_sends cb now _ h

/-- A slot that is cleared is empty, and its buffer is free again. -/
theorem clearTxSlot_eq {i : Fin 4} (h : e.Valid) (hlive : (e.txSlots i).state ≠ .empty) :
    (e.clearTxSlot i).party = ⟨e.sender.setSlot i none, e.receiver⟩ ∧ (e.clearTxSlot i).Valid ∧
      (e.clearTxSlot i).events = e.events := by
  obtain ⟨hhandle, hvalid, hview⟩ := h.1.clear hlive
  simp only [clearTxSlot, hhandle, if_true]
  exact ⟨party_of_tx hview rfl rfl, ⟨hvalid, h.2⟩, rfl⟩

/-- An open slot that is cleared without an ACK was missing a fragment. -/
theorem failTxSlot_act {i : Fin 4} (h : e.Valid) (hopen : (e.txSlots i).state = .open)
    (hmissing : ¬ ((e.txSlots i).ackedBitmap &&& expectedBitmap (e.txSlots i).fragmentCount =
      expectedBitmap (e.txSlots i).fragmentCount)) : Follows Party.Own e (e.failTxSlot i) := by
  have hlive : (e.txSlots i).state ≠ .empty := by rw [hopen]; decide
  obtain ⟨ref, hslot⟩ := h.1.slot i hlive
  let counted : Exec := { e with counters.retryExhaustion := e.counters.retryExhaustion + 1 }
  obtain ⟨hparty, hvalid, hevents⟩ := clearTxSlot_eq (e := counted) h hlive
  refine ⟨hvalid, [.failed i], congrArg (fun evs => evs ++ [Event.failed i]) hevents, ?_⟩
  change Party.Own e.party _ (counted.clearTxSlot i).party
  rw [hparty]
  refine ⟨.sender _ (.fail _ i _ (sender_open hopen) ?_), fun ev hev => by
    rw [List.mem_singleton.mp hev]
    exact id⟩
  rw [Outgoing.AllAcked, Buffer.read_length, ← hslot.expectedBitmap_eq]
  exact hmissing

/-- What `trySendRetransmit` leads to: a fragment is sent, or nothing, or a datagram is given up. -/
def Retransmits (e : Exec) (result : Bool × Exec) : Prop :=
  Sends e result ∨ (result.1 = false ∧ ∃ e', Idles e e' ∧ Follows Party.Own e' result.2)

theorem Retransmits.after {r : Bool × Exec} (h : Idles e e') (hr : Retransmits e' r) :
    Retransmits e r := by
  rcases hr with hr | ⟨hfalse, e'', hidle, hact⟩
  · exact .inl (hr.after h)
  · exact .inr ⟨hfalse, e'', h.append hidle, hact⟩

theorem trySendRetransmitFrom_spec (cb : ArqCallbacks) (now : UInt32) (slots : List (Fin 4))
    (h : e.Valid) : Retransmits e (trySendRetransmitFrom cb now slots e) := by
  induction slots generalizing e with
  | nil => exact .inl (.of_idles (.of_same h (.refl e)))
  | cons i rest ih =>
    rw [trySendRetransmitFrom]
    dsimp only
    split
    · exact ih h
    next hskip =>
    simp only [not_or, not_not] at hskip
    obtain ⟨hopen, _⟩ := hskip
    have hlive : (e.txSlots i).state ≠ .empty := by rw [hopen]; decide
    split
    · exact ih h
    next hmissing =>
    split
    · exact ih h
    split
    · exact .inr ⟨rfl, e, .of_same h (.refl e), failTxSlot_act h hopen hmissing⟩
    have hsame := setTx_same (beginRound_sameDatagram (e.txSlots i)) hlive
    split
    · have hslot : (e.setTx i (e.txSlots i).beginRound).txSlots i = (e.txSlots i).beginRound :=
        Function.update_self ..
      obtain ⟨hsends, hslots⟩ := sendDataFragment_sends cb i
        (e.txSlots i).beginRound.nextFragment (hsame.valid h) (by rw [hslot]; exact hopen)
      have hrun := hsends.after (.of_same h hsame)
      split
      · next e' heq =>
        rw [heq] at hrun hslots
        have hsent : Same e' (e'.setTx i ((e.txSlots i).beginRound.fragmentSent
            (now + e'.config.retryTimeoutCycles))) := by
          refine setTx_same ?_ ?_
          · rw [hslots, hslot]
            exact fragmentSent_sameDatagram _ _
          · rw [hslots, hslot]
            exact hlive
        exact .inl (.of_lights (hrun.lights.same_right hsent))
      · next e' heq =>
        rw [heq] at hrun
        have hidle := hrun.idles rfl
        exact (ih hidle.valid).after hidle
    · exact (ih (hsame.valid h)).after (.of_same h hsame)

theorem txCount_ne_zero {state : TxState} {i : Fin 4} (h : (e.txSlots i).state = state) :
    e.txCount state ≠ 0 := by
  have hpos : 0 < (List.finRange 4).countP fun k => (e.txSlots k).state = state :=
    List.countP_pos_iff.mpr ⟨i, List.mem_finRange i, by simpa using h⟩
  have hle : ((List.finRange 4).countP fun k => (e.txSlots k).state = state) ≤ 4 :=
    List.countP_le_length
  intro h0
  have hzero := congrArg UInt8.toNat h0
  rw [ArqEngine.txCount, UInt8.toNat_ofNat', Nat.mod_eq_of_lt (by omega)] at hzero
  simp only [UInt8.reduceToNat] at hzero
  omega

/-- The first slot of a list of all slots that satisfies a test. -/
theorem find_finRange_eq_some {P : Fin 4 → Bool} {i : Fin 4}
    (h : (List.finRange 4).find? P = some i) : P i ∧ ∀ k < i, ¬ P k := by
  revert h
  revert i
  revert P
  decide +kernel

theorem creditProbe_same (now : UInt32) : Same e (e.creditProbe now).2 := by
  rw [creditProbe]
  split
  · exact .refl e
  · split
    · exact ⟨rfl, id, rfl⟩
    · split
      · exact ⟨rfl, id, rfl⟩
      · split
        · exact .refl e
        · exact ⟨rfl, id, rfl⟩

/-- The first waiting datagram is opened while nothing is open. -/
theorem openSlot_act {i : Fin 4} (now : UInt32) (h : e.Valid)
    (hnone : ∀ k, (e.txSlots k).state ≠ .open) (hqueued : (e.txSlots i).state = .queued)
    (hfirst : ∀ k < i, (e.txSlots k).state ≠ .queued) : Lights e (e.openSlot i now) := by
  have hlive : (e.txSlots i).state ≠ .empty := by rw [hqueued]; decide
  obtain ⟨ref, hslot⟩ := h.1.slot i hlive
  have hview := TxValid.outgoing_update e.txPool e.txSlots i { e.txSlots i with
    state := .open
    ackedBitmap := 0
    roundBitmap := expectedBitmap (e.txSlots i).fragmentCount
    nextFragment := 0
    attempts := 1
    retryDeadline := now + e.config.retryTimeoutCycles }
  have hview' : (e.openSlot i now).party = _ := party_of_tx hview rfl rfl
  refine ⟨⟨h.1.update hlive (by simp) rfl rfl rfl rfl, h.2⟩, [.opened i], rfl, ?_⟩
  rw [hview']
  refine .single ⟨.sender _ ?_, fun ev hev => by rw [List.mem_singleton.mp hev]; exact id⟩
  refine .openSlot e.sender i ⟨false, (e.txSlots i).datagramId,
    (e.txPool.memory (e.txSlots i).data).read 0 (e.txSlots i).len.toNat,
    (e.txSlots i).ackedBitmap⟩ ?_ ?_ ?_
  · simp only [ArqEngine.sender, TxSlot.outgoing, hqueued]
    rfl
  · intro k u hu hopened
    simp only [ArqEngine.sender, TxSlot.outgoing] at hu
    split at hu
    · cases hu
    · cases hu
      exact hnone k (by simpa using hopened)
  · intro k hk
    have hempty : (e.txSlots k).state = .empty := by
      cases hstate : (e.txSlots k).state with
      | empty => rfl
      | queued => exact absurd hstate (hfirst k hk)
      | «open» => exact absurd hstate (hnone k)
    simp only [ArqEngine.sender, TxSlot.outgoing, hempty, if_true]

theorem tryOpenQueued_lights (cb : ArqCallbacks) (now : UInt32) (h : e.Valid) :
    Lights e (e.tryOpenQueued cb now).2 := by
  rw [tryOpenQueued]
  split
  · exact .of_same h (.refl e)
  next hactive =>
  rw [not_not] at hactive
  have hprobe := creditProbe_same (e := e) now
  have hslots : (e.creditProbe now).2.txSlots = e.txSlots := by
    rw [creditProbe]
    repeat' split
    all_goals rfl
  split
  · next e' heq =>
    rw [heq] at hprobe
    exact .of_same h hprobe
  · next e' heq =>
    rw [heq] at hprobe hslots
    have hdisarm : Same e { e' with creditProbeArmed := false } := hprobe.trans ⟨rfl, id, rfl⟩
    dsimp only
    split
    · exact .of_same h hdisarm
    · next i hfind =>
      obtain ⟨hqueued, hfirst⟩ := find_finRange_eq_some hfind
      have hopen := openSlot_act (e := { e' with creditProbeArmed := false }) (i := i) now
        (hdisarm.valid h) (fun k hk => txCount_ne_zero (by rw [← hslots]; exact hk) hactive)
        (by simpa using hqueued) (fun k hk => by simpa using hfirst k hk)
      exact (hopen.same_left hdisarm).append (trySendOpenData_sends cb now hopen.valid).lights

/-! ### Accepting and acknowledging -/

/-- `onTxDatagram` takes the datagram into the first empty slot, or changes nothing. -/
theorem onTxDatagram_spec (data : Option (List UInt8)) (h : e.Valid) :
    Same e (e.onTxDatagram data).2 ∨ Follows Party.Act e (e.onTxDatagram data).2 := by
  unfold onTxDatagram
  dsimp only
  split
  · exact .inl ⟨rfl, id, rfl⟩
  next data =>
  split
  · exact .inl ⟨rfl, id, rfl⟩
  next hlen =>
  split
  · exact .inl ⟨rfl, id, rfl⟩
  next i hfind =>
  obtain ⟨hempty, hfirst⟩ := find_finRange_eq_some hfind
  rw [decide_eq_true_eq] at hempty
  have hpos : 0 < data.length := by omega
  have hmax : data.length ≤ 1280 := by
    simp only [v3MaxDatagram, UInt16.reduceToNat] at hlen
    omega
  obtain ⟨ref, pool', hacquire, hvalid, hview⟩ := h.1.accept hempty hpos hmax e.nextDatagramId
  rw [hacquire]
  refine .inr ⟨⟨hvalid, h.2⟩, [.accepted i e.nextDatagramId data], rfl, ?_⟩
  refine act_of_tx hview rfl rfl ?_
  refine .sender _ (.accept e.sender i data hpos hmax ?_ ?_)
  · simp only [ArqEngine.sender, TxSlot.outgoing, hempty, if_true]
  · intro k hk
    have hlive := hfirst k hk
    rw [decide_eq_true_eq] at hlive
    simp only [ArqEngine.sender, TxSlot.outgoing, hlive, if_false]
    exact Option.some_ne_none _

/-- The slots that an ACK may be for. -/
theorem sender_open_iff {i : Fin 4} {t : Outgoing} :
    e.sender.Open i t ↔ (e.txSlots i).state = .open ∧
      t = ⟨true, (e.txSlots i).datagramId,
        (e.txPool.memory (e.txSlots i).data).read 0 (e.txSlots i).len.toNat,
        (e.txSlots i).ackedBitmap⟩ := by
  constructor
  · rintro ⟨ht, hopened⟩
    simp only [ArqEngine.sender, TxSlot.outgoing] at ht
    split at ht
    · cases ht
    · cases ht
      simp only [decide_eq_true_eq] at hopened
      simp [hopened]
  · rintro ⟨hopen, rfl⟩
    exact sender_open hopen

theorem handleAck_follows (ack : AckFrame) (now : UInt32) (h : e.Valid) :
    Follows (fun p evs q => ∃ s, p.sender.Receive ack evs s ∧ q = ⟨s, p.receiver⟩) e
      (e.handleAck ack now) := by
  rw [handleAck]
  dsimp only
  split
  · next hnone =>
    refine ⟨h, [], by simp, e.sender, .ignore _ fun i t ht hid => ?_, rfl⟩
    obtain ⟨hopen, rfl⟩ := sender_open_iff.mp ht
    have hmiss := List.find?_eq_none.mp hnone i (List.mem_finRange i)
    exact hmiss (by simp [hopen, show (e.txSlots i).datagramId = ack.datagramId from hid])
  · next i hfind =>
    obtain ⟨hhit, _⟩ := find_finRange_eq_some hfind
    simp only [decide_eq_true_eq] at hhit
    obtain ⟨hopen, hid⟩ := hhit
    have hlive : (e.txSlots i).state ≠ .empty := by rw [hopen]; decide
    obtain ⟨ref, hslot⟩ := h.1.slot i hlive
    have hfull := hslot.expectedBitmap_eq
    have ht := sender_open hopen
    let credited : Exec := { e with remoteCredits := clampCredits ack.receiverCredits }
    -- the slot with new acknowledged bits, at whatever pace
    have hset (slot : TxSlot) (acked : UInt16) (hsame : (e.txSlots i).SameDatagram
        { slot with ackedBitmap := (e.txSlots i).ackedBitmap }) (hacked :
          slot.ackedBitmap = acked) :
        (credited.setTx i slot).Valid ∧ (credited.setTx i slot).party =
          ⟨e.sender.setSlot i (some ⟨true, (e.txSlots i).datagramId,
            (e.txPool.memory (e.txSlots i).data).read 0 (e.txSlots i).len.toNat, acked⟩),
            e.receiver⟩ := by
      have hstate : slot.state = .open := hsame.state.trans hopen
      refine ⟨⟨h.1.update hlive (by rw [hstate]; decide) hsame.data hsame.handle hsame.len
        hsame.fragmentCount, h.2⟩, party_of_tx ?_ rfl rfl⟩
      refine (TxValid.outgoing_update e.txPool e.txSlots i slot).trans ?_
      have hview : slot.outgoing e.txPool = some ⟨true, (e.txSlots i).datagramId,
          (e.txPool.memory (e.txSlots i).data).read 0 (e.txSlots i).len.toNat, acked⟩ := by
        rw [TxSlot.outgoing, if_neg (by rw [hstate]; decide), hstate, hacked, hsame.datagramId,
          hsame.data, hsame.len]
        rfl
      rw [hview]
      rfl
    split
    · next hwithdrawal =>
      obtain ⟨hvalid, hparty⟩ := hset { e.txSlots i with
        ackedBitmap := (e.txSlots i).ackedBitmap &&& ack.fragmentBitmap
        roundBitmap := 0
        nextFragment := 0
        attempts := 1
        retryDeadline := now + e.config.creditStallTimeoutCycles } _
        ⟨rfl, rfl, rfl, rfl, rfl, rfl, rfl⟩ rfl
      refine ⟨hvalid, [], by simp [setTx], _, .withdraw _ i _ ht hid hwithdrawal, ?_⟩
      exact hparty
    · next hother =>
      obtain ⟨hvalid, hparty⟩ := hset { e.txSlots i with
        ackedBitmap := (e.txSlots i).ackedBitmap ||| ack.fragmentBitmap } _
        ⟨rfl, rfl, rfl, rfl, rfl, rfl, rfl⟩ rfl
      have hall : ((e.txSlots i).ackedBitmap ||| ack.fragmentBitmap) &&&
          expectedBitmap (e.txSlots i).fragmentCount = expectedBitmap (e.txSlots i).fragmentCount ↔
          Outgoing.AllAcked ⟨true, (e.txSlots i).datagramId,
            (e.txPool.memory (e.txSlots i).data).read 0 (e.txSlots i).len.toNat,
            (e.txSlots i).ackedBitmap ||| ack.fragmentBitmap⟩ := by
        rw [Outgoing.AllAcked, Buffer.read_length, hfull]
        rfl
      split
      · next hdone =>
        obtain ⟨hcovers, hfailure⟩ := hdone
        refine ⟨?_, [.completed i], ?_, _, .complete _ i _ ht hid hfailure (hall.mp hcovers), ?_⟩
        all_goals
          let acked := credited.setTx i { e.txSlots i with
            ackedBitmap := (e.txSlots i).ackedBitmap ||| ack.fragmentBitmap }
          let counted : Exec := { acked with counters.txCompleted := acked.counters.txCompleted +
            1 }
          have hopen' : (counted.txSlots i).state ≠ .empty := by
            change (Function.update e.txSlots i _ i).state ≠ _
            rw [Function.update_self]
            exact hlive
          obtain ⟨hparty', hvalid', hevents'⟩ :=
            clearTxSlot_eq (e := counted) (i := i) hvalid hopen'
        · exact hvalid'
        · exact congrArg (fun evs => evs ++ [Event.completed i]) hevents'
        · change (counted.clearTxSlot i).party = _
          rw [hparty']
          change (⟨acked.party.sender.setSlot i none, acked.party.receiver⟩ : Party) = _
          rw [hparty, Sender.setSlot_setSlot]
          rfl
      · next hpart =>
        refine ⟨hvalid, [], by simp [setTx], _, .add _ i _ ht hid hother ?_, ?_⟩
        · rintro ⟨hcovers, hfailure⟩
          exact hpart ⟨hall.mpr hcovers, hfailure⟩
        · exact hparty

end Exec

end FlrcTnc.Arq
