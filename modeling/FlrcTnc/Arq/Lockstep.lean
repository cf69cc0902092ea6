import FlrcTnc.Arq.Shift

/-! The functions of the engine keep two engines shifted: each of them answers alike in both and
hands the callbacks the same packets but for the ids. -/

namespace FlrcTnc.Arq

open Framing

namespace Exec

variable {k : UInt32} {j : UInt16} {e e' : Exec}

/-! ### Datagrams from above -/

theorem onTxDatagram_agree (h : e.Shifted k j e') (data : Option (List UInt8)) :
    Agree k j (e.onTxDatagram data) (e'.onTxDatagram data) := by
  have hrejected := h.count fun c => { c with txRejected := c.txRejected + 1 }
  unfold onTxDatagram
  cases data with
  | none => exact agree_mk_iff.mpr ⟨rfl, hrejected⟩
  | some data =>
    dsimp only
    split
    · exact agree_mk_iff.mpr ⟨rfl, hrejected⟩
    rw [h.find_state, h.txPool]
    cases (List.finRange 4).find? fun i => (e.txSlots i).state = .empty with
    | none =>
      exact agree_mk_iff.mpr ⟨rfl, hrejected.count fun c =>
        { c with saturation := c.saturation + 1 }⟩
    | some i =>
      dsimp only
      obtain ⟨result, pool, lease⟩ := acquireDatagram e.txPool
      cases result with
      | ok =>
        have hnext : e'.nextDatagramId + 1 = e.nextDatagramId + 1 + j := by
          rw [h.nextDatagramId]
          grind
        have hslot : TxSlot.forDatagram lease (UInt16.ofNat data.length) e'.nextDatagramId =
            (TxSlot.forDatagram lease (UInt16.ofNat data.length) e.nextDatagramId).shift k j := by
          rw [h.nextDatagramId]
          rfl
        have hpool : ({ e with
            txPool := pool.setMemory lease.data ((pool.memory lease.data).write 0 data)
            nextDatagramId := e.nextDatagramId + 1 } : Exec).Shifted k j { e' with
              txPool := pool.setMemory lease.data ((pool.memory lease.data).write 0 data)
              nextDatagramId := e'.nextDatagramId + 1 } :=
          { h with txPool := rfl, nextDatagramId := hnext }
        refine agree_mk_iff.mpr ⟨rfl, (hpool.setTx i _ hslot).emit _ ?_⟩
        rw [h.nextDatagramId]
        rfl
      | exhausted | invalidHandle | doubleRelease =>
        refine agree_mk_iff.mpr ⟨rfl, ?_⟩
        exact (hrejected.setTxPool pool).count fun c =>
          { c with allocationFailure := c.allocationFailure + 1 }

/-! ### Credits and ACKs -/

theorem egressCapacity_agree (h : e.Shifted k j e') (cb : ArqCallbacks) (default : UInt8) :
    Agree k j (e.egressCapacity cb default) (e'.egressCapacity (cb.shift j) default) := by
  unfold egressCapacity
  rw [show (cb.shift j).egressCapacity = cb.egressCapacity from rfl]
  cases cb.egressCapacity with
  | none => exact agree_mk_iff.mpr ⟨rfl, h⟩
  | some egress => exact agree_mk_iff.mpr ⟨by rw [h.calls], h.called⟩

theorem currentCredits_agree (h : e.Shifted k j e') (cb : ArqCallbacks) :
    Agree k j (e.currentCredits cb) (e'.currentCredits (cb.shift j)) := by
  obtain ⟨egress, e₁, e₁', hr, hr', h₁⟩ := (egressCapacity_agree h cb arqMaxRxDatagrams).eq_mk
  have hactive : (fun i => decide ¬ (e₁'.rxSlots i).active) =
      fun i => decide ¬ (e₁.rxSlots i).active := by
    funext i
    rw [h₁.rxSlots i]
    rfl
  unfold currentCredits
  rw [hr, hr']
  dsimp only
  rw [hactive, h₁.rxPool]
  exact agree_mk_iff.mpr ⟨rfl, h₁⟩

theorem enqueueAck_agree (h : e.Shifted k j e') (ack : AckFrame) (deadline : UInt32)
    (source : AckSource) : Agree k j (e.enqueueAck ack deadline source)
      (e'.enqueueAck (ack.shiftId j) (deadline + k) source) := by
  have hfind : (e'.pendingAcks.entries.findIdx?
      fun p => p.ack.datagramId = (ack.shiftId j).datagramId) =
      e.pendingAcks.entries.findIdx? fun p => p.ack.datagramId = ack.datagramId := by
    rw [h.pendingAcks, List.findIdx?_map]
    refine congrArg (List.findIdx? · _) (funext fun p => ?_)
    exact decide_eq_decide.mpr (UInt16.add_left_inj j)
  have hlength : e'.pendingAcks.entries.length = e.pendingAcks.entries.length := by
    rw [h.pendingAcks, List.length_map]
  unfold enqueueAck
  dsimp only
  rw [hfind]
  cases e.pendingAcks.entries.findIdx? fun p => p.ack.datagramId = ack.datagramId with
  | some i =>
    refine agree_mk_iff.mpr ⟨rfl, Shifted.emit ?_ _ rfl⟩
    refine { h with pendingAcks := ?_ }
    dsimp only
    rw [h.pendingAcks, List.map_set]
    rfl
  | none =>
    dsimp only
    by_cases hfull : e.pendingAcks.entries.length ≥ arqPendingAckCapacity
    · rw [dif_pos hfull, dif_pos (by rw [hlength]; exact hfull)]
      exact agree_mk_iff.mpr ⟨rfl, h.count fun c => { c with saturation := c.saturation + 1 }⟩
    · rw [dif_neg hfull, dif_neg (by rw [hlength]; exact hfull)]
      refine agree_mk_iff.mpr ⟨rfl, Shifted.emit ?_ _ rfl⟩
      refine { h with pendingAcks := ?_ }
      dsimp only
      rw [h.pendingAcks, List.map_append]
      rfl

theorem sendPendingAck_agree (h : e.Shifted k j e') (cb : ArqCallbacks) (now : UInt32) :
    Agree k j (e.sendPendingAck cb now) (e'.sendPendingAck (cb.shift j) (now + k)) := by
  generalize hr' : e'.sendPendingAck (cb.shift j) (now + k) = r'
  unfold sendPendingAck at hr' ⊢
  split
  · next pending rest send hentries hsend =>
    have hentries' : e'.pendingAcks.entries = pending.shift k j :: rest.map (·.shift k j) := by
      rw [h.pendingAcks, hentries]
      rfl
    have hsend' : (cb.shift j).sendPacket = some fun n packet => send n (packet.shiftId (-j)) := by
      rw [ArqCallbacks.shift, hsend]
      rfl
    split at hr'
    · next pending' rest' send' hpending' hcb' =>
      rw [hentries'] at hpending'
      obtain ⟨rfl, rfl⟩ := List.cons.inj hpending'
      rw [hsend'] at hcb'
      obtain rfl := Option.some.inj hcb'
      rw [show isBefore (now + k) (pending.shift k j).readyDeadline =
          isBefore now pending.readyDeadline
        from isBefore_shift k now pending.readyDeadline] at hr'
      by_cases hbefore : isBefore now pending.readyDeadline
      · rw [if_pos hbefore] at hr' ⊢
        subst hr'
        exact agree_mk_iff.mpr ⟨rfl, h⟩
      rw [if_neg hbefore] at hr' ⊢
      cases hbuild : buildAckPacket pending.ack with
      | error err =>
        rw [show buildAckPacket (pending.shift k j).ack = .error err from
          buildAckPacket_shiftId_error hbuild] at hr'
        subst hr'
        exact agree_mk_iff.mpr ⟨rfl, h.count fun c =>
          { c with malformedInput := c.malformedInput + 1 }⟩
      | ok packet =>
        rw [show buildAckPacket (pending.shift k j).ack = .ok (packet.shiftId j) from
          buildAckPacket_shiftId hbuild] at hr'
        dsimp only at hr' ⊢
        rw [shiftId_neg_of_ack hbuild, h.calls] at hr'
        subst hr'
        have hsent := h.called.emit (.sent packet (send e.calls packet)) rfl
        by_cases hok : send e.calls packet = true
        · rw [if_neg (not_not.mpr hok), if_neg (not_not.mpr hok)]
          exact agree_mk_iff.mpr ⟨rfl, { hsent with pendingAcks := rfl }⟩
        · rw [if_pos hok, if_pos hok]
          exact agree_mk_iff.mpr ⟨rfl, hsent⟩
    · next hnot => exact absurd hsend' (hnot _ _ _ hentries')
  · next hnot =>
    split at hr'
    · next pending' rest' send' hpending' hcb' =>
      rw [h.pendingAcks] at hpending'
      obtain ⟨pending, rest, hentries, _⟩ := List.map_eq_cons_iff.mp hpending'
      obtain ⟨send, hsend, _⟩ := Option.map_eq_some_iff.mp hcb'
      exact absurd hsend (hnot pending rest send hentries)
    · subst hr'
      exact agree_mk_iff.mpr ⟨rfl, h⟩

/-- The ACK of a slot that has taken a fragment. -/
theorem queueRxAck_shifted (h : e.Shifted k j e') (cb : ArqCallbacks) {l : Fin 4}
    (hactive : (e.rxSlots l).reassembly.active) (failure : FailureStatus) (now : UInt32) :
    (e.queueRxAck cb l failure now).Shifted k j
      (e'.queueRxAck (cb.shift j) l failure (now + k)) := by
  have hcredits : Agree k j
      (if failure = .creditWithdrawal then (0, e) else e.currentCredits cb)
      (if failure = .creditWithdrawal then (0, e') else e'.currentCredits (cb.shift j)) := by
    split
    · exact agree_mk_iff.mpr ⟨rfl, h⟩
    · exact currentCredits_agree h cb
  obtain ⟨credits, e₁, e₁', hr, hr', h₁⟩ := hcredits.eq_mk
  unfold queueRxAck
  dsimp only
  rw [hr, hr', h.rxSlots l, RxSlot.shift_datagramId hactive]
  dsimp only
  rw [h₁.ackDeadline]
  exact (enqueueAck_agree h₁ ⟨_, _, _, _⟩ _ _).shifted

theorem queueFailureAck_shifted (h : e.Shifted k j e') (cb : ArqCallbacks) (id bitmap : UInt16)
    (failure : FailureStatus) (now : UInt32) (source : AckSource) :
    (e.queueFailureAck cb id bitmap failure now source).Shifted k j
      (e'.queueFailureAck (cb.shift j) (id + j) bitmap failure (now + k) source) := by
  obtain ⟨credits, e₁, e₁', hr, hr', h₁⟩ := (currentCredits_agree h cb).eq_mk
  unfold queueFailureAck
  rw [hr, hr']
  dsimp only
  rw [h₁.ackDeadline]
  exact (enqueueAck_agree h₁ ⟨id, bitmap, credits, failure⟩ _ source).shifted

/-! ### Sending -/

theorem sendDataFragment_agree (h : e.Shifted k j e') (cb : ArqCallbacks) {i : Fin 4}
    (hlive : (e.txSlots i).state ≠ .empty) (fragmentIndex : UInt8) :
    Agree k j (e.sendDataFragment cb i fragmentIndex)
      (e'.sendDataFragment (cb.shift j) i fragmentIndex) := by
  have hmalformed := h.count fun c => { c with malformedInput := c.malformedInput + 1 }
  have hdescribe : describeDatagram (((e.txSlots i).shift k j).data.map e.txPool.storage)
      ((e.txSlots i).shift k j).len ((e.txSlots i).shift k j).datagramId
      (if ((e.txSlots i).shift k j).roundBitmap &&& ~~~ fragmentBit fragmentIndex = 0 then
        v3DataFlagRoundEnd else 0) e.txQueuedCount (some v3MaxFrags) =
      (describeDatagram ((e.txSlots i).data.map e.txPool.storage) (e.txSlots i).len
        (e.txSlots i).datagramId
        (if (e.txSlots i).roundBitmap &&& ~~~ fragmentBit fragmentIndex = 0 then
          v3DataFlagRoundEnd else 0) e.txQueuedCount (some v3MaxFrags)).map
            (·.map (·.shiftId j)) := by
    rw [TxSlot.shift_datagramId hlive]
    exact describeDatagram_shiftId _ _ _ _ _ _
  unfold sendDataFragment
  cases hsend : cb.sendPacket with
  | none =>
    rw [show (cb.shift j).sendPacket = none by rw [ArqCallbacks.shift, hsend]; rfl]
    exact agree_mk_iff.mpr ⟨rfl, h⟩
  | some send =>
    rw [show (cb.shift j).sendPacket = some fun n packet => send n (packet.shiftId (-j)) by
      rw [ArqCallbacks.shift, hsend]; rfl]
    dsimp only
    rw [h.txSlots i, h.txPool, h.txQueuedCount, h.calls, hdescribe]
    cases hfragments : describeDatagram ((e.txSlots i).data.map e.txPool.storage) (e.txSlots i).len
        (e.txSlots i).datagramId
        (if (e.txSlots i).roundBitmap &&& ~~~ fragmentBit fragmentIndex = 0 then
          v3DataFlagRoundEnd else 0) e.txQueuedCount (some v3MaxFrags) with
    | error err => exact agree_mk_iff.mpr ⟨rfl, hmalformed⟩
    | ok fragments =>
      dsimp only [Except.map]
      rw [List.getElem?_map]
      cases hfragment : fragments[fragmentIndex.toNat]? with
      | none => exact agree_mk_iff.mpr ⟨rfl, hmalformed⟩
      | some fragment =>
        obtain ⟨header, payload⟩ := fragment
        obtain ⟨datagram, hdatagram⟩ := exists_datagram_of_describe hfragments
        rw [hdatagram] at hfragments
        obtain ⟨hvalid, _⟩ := describeDatagram_sound hfragments hfragment
        obtain ⟨packet, hbuilds⟩ := exists_buildsData hvalid
          (payload.read_length 0 header.payloadLen.toNat)
        have hshifted : buildDataPacket (header.shiftId j)
            (some (payload.read 0 header.payloadLen.toNat)) = .ok (packet.shiftId j) :=
          (buildsData_shiftId hbuilds).2
        dsimp only [Option.map_some, FragmentDescriptor.shiftId]
        rw [DataHeader.shiftId_payloadLen, hbuilds.2, hshifted]
        dsimp only
        rw [shiftId_neg_of_data hbuilds]
        exact agree_mk_iff.mpr ⟨rfl, h.called.emit _ rfl⟩

theorem trySendOpenDataFrom_agree (h : e.Shifted k j e') (cb : ArqCallbacks) (now : UInt32)
    (slots : List (Fin 4)) : Agree k j (trySendOpenDataFrom cb now slots e)
      (trySendOpenDataFrom (cb.shift j) (now + k) slots e') := by
  induction slots generalizing e e' with
  | nil => exact agree_mk_iff.mpr ⟨rfl, h⟩
  | cons i rest ih =>
    unfold trySendOpenDataFrom
    rw [h.txSlots i, TxSlot.shift_state, TxSlot.shift_roundBitmap]
    split
    · exact ih h
    next hskip =>
    have hopen : (e.txSlots i).skipToNext.state = .open := not_not.mp (not_or.mp hskip).1
    rw [TxSlot.skipToNext_shift]
    generalize (e.txSlots i).skipToNext = slot at hopen
    have hset := h.setTx i slot rfl
    dsimp only
    rw [TxSlot.shift_nextFragment, TxSlot.shift_fragmentCount]
    split
    · refine ih (h.setTx i _ ?_)
      rw [h.retryDeadline]
      simp only [TxSlot.shift, hopen, if_true]
    · obtain ⟨sent, e₁, e₁', hr, hr', h₁⟩ := (sendDataFragment_agree hset cb (i := i)
        (by rw [setTx_self, hopen]; decide) slot.nextFragment).eq_mk
      rw [hr, hr']
      cases sent with
      | false => exact ih h₁
      | true =>
        dsimp only
        rw [h₁.retryDeadline]
        exact agree_mk_iff.mpr ⟨rfl, h₁.setTx i _ (TxSlot.fragmentSent_shift hopen _)⟩

theorem trySendOpenData_agree (h : e.Shifted k j e') (cb : ArqCallbacks) (now : UInt32) :
    Agree k j (e.trySendOpenData cb now) (e'.trySendOpenData (cb.shift j) (now + k)) :=
  trySendOpenDataFrom_agree h cb now (List.finRange 4)

theorem clearTxSlot_shifted (h : e.Shifted k j e') (i : Fin 4) :
    (e.clearTxSlot i).Shifted k j (e'.clearTxSlot i) := by
  unfold clearTxSlot
  rw [h.txSlots i, h.txPool, TxSlot.shift_handle]
  dsimp only
  split
  · exact (h.setTxPool _).setTx i _ rfl
  · exact h.setTx i _ rfl

theorem failTxSlot_shifted (h : e.Shifted k j e') (i : Fin 4) :
    (e.failTxSlot i).Shifted k j (e'.failTxSlot i) :=
  have hcounted := h.count fun c => { c with retryExhaustion := c.retryExhaustion + 1 }
  (clearTxSlot_shifted hcounted i).emit _ rfl

theorem completeTxSlot_shifted (h : e.Shifted k j e') (i : Fin 4) :
    (e.completeTxSlot i).Shifted k j (e'.completeTxSlot i) :=
  have hcounted := h.count fun c => { c with txCompleted := c.txCompleted + 1 }
  (clearTxSlot_shifted hcounted i).emit _ rfl

theorem trySendRetransmitFrom_agree (h : e.Shifted k j e') (cb : ArqCallbacks) (now : UInt32)
    (slots : List (Fin 4)) : Agree k j (trySendRetransmitFrom cb now slots e)
      (trySendRetransmitFrom (cb.shift j) (now + k) slots e') := by
  induction slots generalizing e e' with
  | nil => exact agree_mk_iff.mpr ⟨rfl, h⟩
  | cons i rest ih =>
    unfold trySendRetransmitFrom
    rw [h.txSlots i]
    dsimp only
    rw [TxSlot.shift_state, TxSlot.shift_roundBitmap]
    split
    · exact ih h
    next hskip =>
    have hopen : (e.txSlots i).state = .open := not_not.mp (not_or.mp hskip).1
    rw [TxSlot.shift_ackedBitmap, TxSlot.shift_fragmentCount, TxSlot.shift_retryDeadline hopen,
      isBefore_shift, TxSlot.shift_attempts, h.maxAttempts]
    split
    · exact ih h
    split
    · exact ih h
    split
    · exact agree_mk_iff.mpr ⟨rfl, failTxSlot_shifted h i⟩
    have hround : (e.txSlots i).beginRound.state = .open := hopen
    rw [TxSlot.beginRound_shift]
    generalize (e.txSlots i).beginRound = slot at hround
    have hset := h.setTx i slot rfl
    rw [TxSlot.shift_nextFragment, TxSlot.shift_fragmentCount]
    split
    · obtain ⟨sent, e₁, e₁', hr, hr', h₁⟩ := (sendDataFragment_agree hset cb (i := i)
        (by rw [setTx_self, hround]; decide) slot.nextFragment).eq_mk
      rw [hr, hr']
      cases sent with
      | false => exact ih h₁
      | true =>
        dsimp only
        rw [h₁.retryDeadline]
        exact agree_mk_iff.mpr ⟨rfl, h₁.setTx i _ (TxSlot.fragmentSent_shift hround _)⟩
    · exact ih hset

theorem trySendRetransmit_agree (h : e.Shifted k j e') (cb : ArqCallbacks) (now : UInt32) :
    Agree k j (e.trySendRetransmit cb now) (e'.trySendRetransmit (cb.shift j) (now + k)) :=
  trySendRetransmitFrom_agree h cb now (List.finRange 4)

theorem creditProbe_agree (h : e.Shifted k j e') (now : UInt32) :
    Agree k j (e.creditProbe now) (e'.creditProbe (now + k)) := by
  unfold creditProbe
  rw [h.remoteCredits, h.txQueuedCount, h.armed, h.stallDeadline]
  split
  · exact agree_mk_iff.mpr ⟨rfl, h⟩
  split
  · exact agree_mk_iff.mpr ⟨rfl, { h with
      remoteCredits := rfl
      armed := rfl
      probe := fun harmed => by cases harmed }⟩
  split
  · exact agree_mk_iff.mpr ⟨rfl, { h with
      remoteCredits := rfl
      armed := rfl
      probe := fun _ => rfl }⟩
  next harmed =>
  rw [h.probe (not_not.mp harmed), isBefore_shift]
  split
  · exact agree_mk_iff.mpr ⟨rfl, h⟩
  · exact agree_mk_iff.mpr ⟨rfl, h.count fun c =>
      { c with creditStallProbes := c.creditStallProbes + 1 }⟩

theorem openSlot_shifted (h : e.Shifted k j e') {i : Fin 4} (hlive : (e.txSlots i).state ≠ .empty)
    (now : UInt32) : (e.openSlot i now).Shifted k j (e'.openSlot i (now + k)) := by
  unfold openSlot
  dsimp only
  refine Shifted.emit ?_ _ rfl
  rw [h.txSlots i, h.retryDeadline]
  have hopened : ({ (e.txSlots i).shift k j with
      state := .open
      ackedBitmap := 0
      roundBitmap := expectedBitmap (e.txSlots i).fragmentCount
      nextFragment := 0
      attempts := 1
      retryDeadline := now + e.config.retryTimeoutCycles + k } : TxSlot) =
      ({ e.txSlots i with
        state := .open
        ackedBitmap := 0
        roundBitmap := expectedBitmap (e.txSlots i).fragmentCount
        nextFragment := 0
        attempts := 1
        retryDeadline := now + e.config.retryTimeoutCycles } : TxSlot).shift k j := by
    simp [TxSlot.shift, hlive]
  have hset := h.setTx i _ hopened
  have hcredits : (if e'.remoteCredits > 0 then e'.remoteCredits - 1 else e'.remoteCredits) =
      if e.remoteCredits > 0 then e.remoteCredits - 1 else e.remoteCredits := by
    rw [h.remoteCredits]
  exact { hset with remoteCredits := hcredits }

theorem tryOpenQueued_agree (h : e.Shifted k j e') (cb : ArqCallbacks) (now : UInt32) :
    Agree k j (e.tryOpenQueued cb now) (e'.tryOpenQueued (cb.shift j) (now + k)) := by
  unfold tryOpenQueued
  rw [h.txActiveCount]
  split
  · exact agree_mk_iff.mpr ⟨rfl, h⟩
  obtain ⟨probed, e₁, e₁', hr, hr', h₁⟩ := (creditProbe_agree h now).eq_mk
  rw [hr, hr']
  cases probed with
  | false => exact agree_mk_iff.mpr ⟨rfl, h₁⟩
  | true =>
    dsimp only
    have hdisarmed : ({ e₁ with creditProbeArmed := false } : Exec).Shifted k j
        { e₁' with creditProbeArmed := false } :=
      { h₁ with armed := rfl, probe := fun harmed => by cases harmed }
    rw [h₁.find_state]
    cases hfind : (List.finRange 4).find? fun i => (e₁.txSlots i).state = .queued with
    | none => exact agree_mk_iff.mpr ⟨rfl, hdisarmed⟩
    | some i =>
      have hqueued : (e₁.txSlots i).state = .queued := by
        simpa using List.find?_some hfind
      exact trySendOpenData_agree (openSlot_shifted hdisarmed (by rw [hqueued]; decide) now) cb now

/-! ### Receiving -/

theorem handleAck_shifted (h : e.Shifted k j e') (ack : AckFrame) (now : UInt32) :
    (e.handleAck ack now).Shifted k j (e'.handleAck (ack.shiftId j) (now + k)) := by
  have hfind : (fun i => decide ((e'.txSlots i).state = .open ∧
      (e'.txSlots i).datagramId = (ack.shiftId j).datagramId)) =
      fun i => decide ((e.txSlots i).state = .open ∧
        (e.txSlots i).datagramId = ack.datagramId) := by
    funext i
    rw [h.txSlots i, TxSlot.shift_state]
    refine decide_eq_decide.mpr (and_congr_right fun hopen => ?_)
    rw [TxSlot.shift_datagramId (by rw [hopen]; decide)]
    exact UInt16.add_left_inj j
  have hcredited : ({ e with remoteCredits := clampCredits ack.receiverCredits } : Exec).Shifted k j
      { e' with remoteCredits := clampCredits ack.receiverCredits } :=
    { h with remoteCredits := rfl }
  unfold handleAck
  dsimp only
  rw [hfind]
  cases hslot : (List.finRange 4).find? fun i =>
      (e.txSlots i).state = .open ∧ (e.txSlots i).datagramId = ack.datagramId with
  | none => exact hcredited
  | some i =>
    have hopen : (e.txSlots i).state = .open := by
      have hboth := List.find?_some hslot
      exact (of_decide_eq_true hboth).1
    dsimp only
    rw [h.txSlots i, h.stallDeadline, AckFrame.shiftId_failure, AckFrame.shiftId_receiverCredits,
      AckFrame.shiftId_fragmentBitmap, TxSlot.shift_ackedBitmap, TxSlot.shift_fragmentCount]
    split
    · refine hcredited.setTx i _ ?_
      simp only [TxSlot.shift, hopen, if_true]
    have hacked := hcredited.setTx i { e.txSlots i with
      ackedBitmap := (e.txSlots i).ackedBitmap ||| ack.fragmentBitmap } rfl
    split
    · exact completeTxSlot_shifted hacked i
    · exact hacked

theorem findRxSlot_shifted (h : e.Shifted k j e')
    (hactive : ∀ l, (e.rxSlots l).active → (e.rxSlots l).reassembly.active) (id : UInt16) :
    e'.findRxSlot (id + j) = e.findRxSlot id := by
  have hfind : (fun l => decide ((e'.rxSlots l).active ∧
      (e'.rxSlots l).reassembly.datagramId = id + j)) =
      fun l => decide ((e.rxSlots l).active ∧ (e.rxSlots l).reassembly.datagramId = id) := by
    funext l
    rw [h.rxSlots l]
    refine decide_eq_decide.mpr (and_congr_right fun hl => ?_)
    rw [RxSlot.shift_datagramId (hactive l hl)]
    exact UInt16.add_left_inj j
  unfold findRxSlot
  rw [hfind]

theorem allocateRxSlot_agree (h : e.Shifted k j e') :
    Agree k j e.allocateRxSlot e'.allocateRxSlot := by
  have hfree : (fun l => decide ¬ (e'.rxSlots l).active) =
      fun l => decide ¬ (e.rxSlots l).active := by
    funext l
    rw [h.rxSlots l]
    rfl
  unfold allocateRxSlot
  rw [hfree, h.rxPool]
  cases (List.finRange 4).find? fun l => ¬ (e.rxSlots l).active with
  | none => exact agree_mk_iff.mpr ⟨rfl, h.count fun c => { c with saturation := c.saturation + 1 }⟩
  | some l =>
    dsimp only
    obtain ⟨result, pool, lease⟩ := acquireDatagram e.rxPool
    cases result with
    | ok =>
      refine agree_mk_iff.mpr ⟨rfl, (h.setRxPool pool).setRx l _ ?_⟩
      rw [h.rxSlots l]
      exact RxSlot.activate_shift _ lease
    | exhausted | invalidHandle | doubleRelease =>
      exact agree_mk_iff.mpr ⟨rfl, h.setRxPool pool⟩

theorem releaseRxSlot_shifted (h : e.Shifted k j e') (l : Fin 4) :
    (e.releaseRxSlot l).Shifted k j (e'.releaseRxSlot l) := by
  unfold releaseRxSlot
  rw [h.rxSlots l, h.rxPool, RxSlot.shift_handle]
  dsimp only
  split
  · exact (h.setRxPool _).setRx l _ rfl
  · exact h.setRx l _ rfl

theorem finishRxSlot_shifted (h : e.Shifted k j e') (cb : ArqCallbacks) {l : Fin 4}
    (hactive : (e.rxSlots l).reassembly.active) (now : UInt32) :
    (e.finishRxSlot cb l now).Shifted k j (e'.finishRxSlot (cb.shift j) l (now + k)) := by
  unfold finishRxSlot
  dsimp only
  rw [h.rxSlots l, RxSlot.shift_datagramId hactive, RxSlot.shift_fragmentCount]
  obtain ⟨stored, e₁, e₁', hr₁, hr₁', h₁⟩ := (currentCredits_agree h cb).eq_mk
  rw [hr₁, hr₁']
  dsimp only
  have hstored := h₁.setWindow (h₁.window.store (e.rxSlots l).reassembly.datagramId
    ⟨expectedBitmap (e.rxSlots l).reassembly.fragmentCount, stored, .none⟩)
  obtain ⟨credits, e₂, e₂', hr₂, hr₂', h₂⟩ := (currentCredits_agree hstored cb).eq_mk
  refine releaseRxSlot_shifted (Shifted.count ?_ fun c => { c with delivered := c.delivered + 1 }) l
  rw [hr₂, hr₂']
  dsimp only
  rw [h₂.ackDeadline]
  exact (enqueueAck_agree h₂ ⟨_, _, _, _⟩ _ _).shifted

/-- Only a reassembly that has its id is complete. -/
theorem tryCompleteRxSlot_agree (h : e.Shifted k j e') (cb : ArqCallbacks) (l : Fin 4)
    (now : UInt32) :
    Agree k j (e.tryCompleteRxSlot cb l now) (e'.tryCompleteRxSlot (cb.shift j) l (now + k)) := by
  unfold tryCompleteRxSlot
  dsimp only
  rw [h.rxSlots l, RxSlot.isComplete_shift]
  split
  · exact agree_mk_iff.mpr ⟨rfl, h⟩
  next hcomplete =>
  have hactive : (e.rxSlots l).reassembly.active := by
    have hfields := not_not.mp hcomplete
    unfold reassemblyIsComplete at hfields
    exact (of_decide_eq_true hfields).1
  rw [RxSlot.shift_datagramId hactive, RxSlot.shift_output, RxSlot.shift_datagramLength,
    show (cb.shift j).deliverDatagram = cb.deliverDatagram from rfl]
  have hslots : (e.egressCapacity cb 1).2.rxSlots = e.rxSlots := by
    obtain ⟨n, hn⟩ := egressCapacity_snd cb e 1
    rw [hn]
  obtain ⟨egress, e₁, e₁', hr, hr', h₁⟩ := (egressCapacity_agree h cb 1).eq_mk
  rw [hr] at hslots
  rw [hr, hr']
  cases cb.deliverDatagram with
  | none => exact agree_mk_iff.mpr ⟨rfl, h₁⟩
  | some deliver =>
    dsimp only
    split
    · exact agree_mk_iff.mpr ⟨rfl, h₁⟩
    rw [h₁.rxPool, h₁.calls]
    generalize (e₁.rxPool.memory (e.rxSlots l).reassembly.output).read 0
      (e.rxSlots l).reassembly.datagramLength.toNat = data
    have hdelivered := h₁.called.emit (.delivered (e.rxSlots l).reassembly.datagramId data
      (deliver e₁.calls data)) rfl
    split
    · exact agree_mk_iff.mpr ⟨rfl, hdelivered⟩
    · refine agree_mk_iff.mpr ⟨rfl, finishRxSlot_shifted hdelivered cb ?_ now⟩
      rw [← hslots] at hactive
      exact hactive

theorem tryCompleteRxSlot_rxSlots (cb : ArqCallbacks) (e : Exec) (l : Fin 4) (now : UInt32)
    (hfalse : (e.tryCompleteRxSlot cb l now).1 = false) :
    (e.tryCompleteRxSlot cb l now).2.rxSlots = e.rxSlots := by
  have hegress : (e.egressCapacity cb 1).2.rxSlots = e.rxSlots := by
    obtain ⟨n, hn⟩ := egressCapacity_snd cb e 1
    rw [hn]
  unfold tryCompleteRxSlot at hfalse ⊢
  dsimp only at hfalse ⊢
  split
  · rfl
  next hcomplete =>
  rw [if_neg hcomplete] at hfalse
  split
  · next egress e₁ deliver heq hdeliver =>
    rw [heq] at hegress
    rw [heq, hdeliver] at hfalse
    dsimp only at hfalse
    split
    · exact hegress
    next hroom =>
    rw [if_neg hroom] at hfalse
    split
    · exact hegress
    · next hok =>
      rw [if_neg hok] at hfalse
      cases hfalse
  · next egress e₁ heq _ =>
    rw [heq] at hegress
    exact hegress

theorem tryCompleteRxSlotsFrom_agree (h : e.Shifted k j e') (cb : ArqCallbacks) (now : UInt32)
    (slots : List (Fin 4)) : Agree k j (tryCompleteRxSlotsFrom cb now slots e)
      (tryCompleteRxSlotsFrom (cb.shift j) (now + k) slots e') := by
  induction slots generalizing e e' with
  | nil => exact agree_mk_iff.mpr ⟨rfl, h⟩
  | cons l rest ih =>
    unfold tryCompleteRxSlotsFrom
    rw [h.rxSlots l, RxSlot.shift_active, RxSlot.shift_waiting]
    split
    · obtain ⟨completed, e₁, e₁', hr, hr', h₁⟩ := (tryCompleteRxSlot_agree h cb l now).eq_mk
      rw [hr, hr']
      cases completed with
      | true => exact agree_mk_iff.mpr ⟨rfl, h₁⟩
      | false => exact ih h₁
    · exact ih h

theorem tryCompleteRxSlots_agree (h : e.Shifted k j e') (cb : ArqCallbacks) (now : UInt32) :
    Agree k j (e.tryCompleteRxSlots cb now) (e'.tryCompleteRxSlots (cb.shift j) (now + k)) :=
  tryCompleteRxSlotsFrom_agree h cb now (List.finRange 4)

theorem waitForEgress_shifted (h : e.Shifted k j e') (l : Fin 4) :
    (e.waitForEgress l).Shifted k j (e'.waitForEgress l) := by
  refine h.setRx l _ ?_
  rw [h.rxSlots l]
  rfl

theorem acknowledgeData_shifted (h : e.Shifted k j e') (cb : ArqCallbacks) {l : Fin 4}
    (hactive : (e.rxSlots l).reassembly.active) (header : DataHeader) (now : UInt32) :
    (e.acknowledgeData cb l header now).Shifted k j
      (e'.acknowledgeData (cb.shift j) l (header.shiftId j) (now + k)) := by
  unfold acknowledgeData
  rw [h.rxSlots l, RxSlot.isComplete_shift, DataHeader.shiftId_flags]
  split
  · obtain ⟨completed, e₁, e₁', hr, hr', h₁⟩ := (tryCompleteRxSlot_agree h cb l now).eq_mk
    rw [hr, hr']
    cases completed with
    | true => exact h₁
    | false =>
      dsimp only
      have hwaits := (waitForEgress_shifted h₁ l).count fun c =>
        { c with creditWithdrawal := c.creditWithdrawal + 1 }
      refine queueRxAck_shifted hwaits cb ?_ .creditWithdrawal now
      have hkept := tryCompleteRxSlot_rxSlots cb e l now (by rw [hr])
      rw [hr] at hkept
      rw [count, waitForEgress, setRx_self]
      rw [← hkept] at hactive
      exact hactive
  split
  · exact queueRxAck_shifted h cb hactive .none now
  · exact h

theorem storeReassembly_shifted (h : e.Shifted k j e') (l : Fin 4) (reassembly : ReassemblyV3)
    (memory : Buffer) : (e.storeReassembly l reassembly memory).Shifted k j
      (e'.storeReassembly l (reassembly.shiftId j) memory) := by
  unfold storeReassembly
  rw [h.rxSlots l, h.rxPool]
  exact (h.setRxPool _).setRx l _ rfl

theorem acceptData_shifted (h : e.Shifted k j e') (cb : ArqCallbacks) (l : Fin 4)
    (header : DataHeader)
    (payload : List UInt8) (now : UInt32) :
    (e.acceptData cb l header payload now).Shifted k j
      (e'.acceptData (cb.shift j) l (header.shiftId j) payload (now + k)) := by
  have hshift := acceptFragment_shiftId (j := j) (e.rxSlots l).reassembly
    (e.rxPool.memory (e.rxSlots l).reassembly.output) header (some payload)
  unfold acceptData
  dsimp only
  rw [h.rxSlots l, RxSlot.shift_output, h.rxPool, show ((e.rxSlots l).shift j).reassembly =
    (e.rxSlots l).reassembly.shiftId j from rfl, hshift]
  cases haccept : acceptFragment (e.rxSlots l).reassembly
      (e.rxPool.memory (e.rxSlots l).reassembly.output) header (some payload) with
  | mk accepted stored =>
    obtain ⟨reassembly, memory⟩ := stored
    dsimp only
    have hstored := storeReassembly_shifted h l reassembly memory
    split
    · exact queueFailureAck_shifted
        (hstored.count fun c => { c with malformedInput := c.malformedInput + 1 }) cb _ _ _ _ _
    · next hresult =>
      refine acknowledgeData_shifted hstored cb ?_ header now
      rw [storeReassembly, setRx_self]
      exact acceptFragment_active haccept hresult

theorem handleData_shifted (h : e.Shifted k j e')
    (hactive : ∀ l, (e.rxSlots l).active → (e.rxSlots l).reassembly.active) (cb : ArqCallbacks)
    (header : DataHeader) (payload : List UInt8) (now : UInt32) :
    (e.handleData cb header payload now).Shifted k j
      (e'.handleData (cb.shift j) (header.shiftId j) payload (now + k)) := by
  unfold handleData
  rw [DataHeader.shiftId_datagramId, h.window.find, findRxSlot_shifted h hactive]
  cases duplicateWindowFind e.duplicateWindow header.datagramId with
  | some duplicate =>
    dsimp only
    have hcounted := h.count fun c => { c with duplicateSuppressed := c.duplicateSuppressed + 1 }
    obtain ⟨credits, e₁, e₁', hr, hr', h₁⟩ := (currentCredits_agree hcounted cb).eq_mk
    rw [hr, hr']
    dsimp only
    rw [h₁.ackDeadline]
    exact (enqueueAck_agree h₁ ⟨_, _, _, _⟩ _ _).shifted
  | none =>
    dsimp only
    cases e.findRxSlot header.datagramId with
    | some l => exact acceptData_shifted h cb l header payload now
    | none =>
      dsimp only
      obtain ⟨slot, e₁, e₁', hr, hr', h₁⟩ := (allocateRxSlot_agree h).eq_mk
      rw [hr, hr']
      cases slot with
      | some l => exact acceptData_shifted h₁ cb l header payload now
      | none => exact (queueFailureAck_shifted h₁ cb _ _ _ _ _).count _

/-! ### Calls -/

theorem onRxPacket_shifted (h : e.Shifted k j e')
    (hactive : ∀ l, (e.rxSlots l).active → (e.rxSlots l).reassembly.active) (cb : ArqCallbacks)
    (packet : Packet) (now : UInt32) :
    (e.onRxPacket cb packet now).Shifted k j
      (e'.onRxPacket (cb.shift j) (packet.shiftId j) (now + k)) := by
  have hmalformed := h.count fun c => { c with malformedInput := c.malformedInput + 1 }
  unfold onRxPacket
  dsimp only
  cases hdata : parseDataPacket packet with
  | ok frame =>
    obtain ⟨header, payload⟩ := frame
    have hdata' := parseDataPacket_shiftId (j := j) hdata
    rw [parsePacketType_of_data hdata, parsePacketType_of_data hdata', hdata']
    exact handleData_shifted h hactive cb header payload now
  | error err =>
    cases hack : parseAckPacket packet with
    | ok ack =>
      have hack' := parseAckPacket_shiftId (j := j) hack
      rw [parsePacketType_of_ack hack, parsePacketType_of_ack hack', hack']
      exact handleAck_shifted h ack now
    | error err' =>
      -- a packet without an id is the same packet
      rw [shiftId_of_neither hdata hack, hdata, hack]
      split
      · exact hmalformed
      · exact hmalformed
      · exact hmalformed
      · split
        · exact hmalformed
        · exact h
      · split
        · exact hmalformed
        · exact h

theorem onTick_shifted (h : e.Shifted k j e') (cb : ArqCallbacks) (now : UInt32) :
    (e.onTick cb now).Shifted k j (e'.onTick (cb.shift j) (now + k)) := by
  unfold onTick
  obtain ⟨completed, e₁, e₁', hr, hr', h₁⟩ := (tryCompleteRxSlots_agree h cb now).eq_mk
  rw [hr, hr']
  cases completed with
  | true => exact (sendPendingAck_agree h₁ cb now).shifted
  | false =>
  dsimp only
  obtain ⟨acked, e₂, e₂', hr, hr', h₂⟩ := (sendPendingAck_agree h₁ cb now).eq_mk
  rw [hr, hr']
  cases acked with
  | true => exact h₂
  | false =>
  dsimp only
  obtain ⟨repeated, e₃, e₃', hr, hr', h₃⟩ := (trySendRetransmit_agree h₂ cb now).eq_mk
  rw [hr, hr']
  cases repeated with
  | true => exact h₃
  | false =>
  dsimp only
  obtain ⟨sent, e₄, e₄', hr, hr', h₄⟩ := (trySendOpenData_agree h₃ cb now).eq_mk
  rw [hr, hr']
  cases sent with
  | true => exact h₄
  | false => exact (tryOpenQueued_agree h₄ cb now).shifted

end Exec

/-! ### Deadlines -/

namespace ArqEngine

variable {k : UInt32} {j : UInt16} {e e' : ArqEngine}

theorem earliestRetry_shifted (h : e.Shifted k j e') (now : UInt32) (slots : List (Fin 4))
    (best : Option UInt32) : e'.earliestRetry (now + k) slots (best.map (· + k)) =
      (e.earliestRetry now slots best).map (· + k) := by
  induction slots generalizing best with
  | nil => rfl
  | cons i rest ih =>
    unfold earliestRetry
    rw [h.txSlots i]
    dsimp only
    rw [TxSlot.shift_state, TxSlot.shift_ackedBitmap, TxSlot.shift_fragmentCount,
      TxSlot.shift_roundBitmap]
    split
    · exact ih best
    next hopen =>
    split
    · rfl
    rw [TxSlot.shift_retryDeadline (not_not.mp hopen)]
    have hearlier : (best.map (· + k)).all
        (fun best => isBefore ((e.txSlots i).retryDeadline + k) best) =
        best.all fun best => isBefore (e.txSlots i).retryDeadline best := by
      simp only [Option.all_map, isBefore_shift]
    rw [hearlier]
    split
    · exact ih (some (e.txSlots i).retryDeadline)
    · exact ih best

theorem nextDeadline_shifted (h : e.Shifted k j e') (now : UInt32) :
    e'.nextDeadline (now + k) = (e.nextDeadline now).map (· + k) := by
  have hwaits : (∃ l, (e'.rxSlots l).active ∧ (e'.rxSlots l).completeWaitingEgress) ↔
      ∃ l, (e.rxSlots l).active ∧ (e.rxSlots l).completeWaitingEgress := by
    refine exists_congr fun l => ?_
    rw [h.rxSlots l, RxSlot.shift_active, RxSlot.shift_waiting]
  have hround : (∃ i, (e'.txSlots i).state = .open ∧ (e'.txSlots i).roundBitmap ≠ 0) ↔
      ∃ i, (e.txSlots i).state = .open ∧ (e.txSlots i).roundBitmap ≠ 0 := by
    refine exists_congr fun i => ?_
    rw [h.txSlots i, TxSlot.shift_state, TxSlot.shift_roundBitmap]
  unfold nextDeadline
  rw [h.pendingAcks]
  cases e.pendingAcks.entries with
  | cons pending rest => rfl
  | nil =>
    simp only [List.map_nil, hwaits, hround, h.txQueuedCount, h.txActiveCount, h.remoteCredits,
      h.armed]
    split
    · rfl
    split
    · rfl
    split
    · rfl
    rw [← earliestRetry_shifted h]
    refine congrArg _ ?_
    split
    · next hprobe => rw [Option.map_some, h.probe hprobe.1]
    · rfl

end ArqEngine

end FlrcTnc.Arq
