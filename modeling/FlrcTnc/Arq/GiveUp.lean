import FlrcTnc.Arq.Timing

/-! Which datagrams a tick leaves in the transmit slots.  A tick takes none out but the one that it
gives up, so it empties the slots only by giving up the last datagram. -/

namespace FlrcTnc.Arq

open Framing

/-- An open datagram of which the last attempt has gone unanswered for too long. -/
structure TxSlot.Exhausted (slot : TxSlot) (maxAttempts : UInt8) (now : UInt32) : Prop where
  isOpen : slot.state = .open
  roundOver : slot.roundBitmap = 0
  missing : ¬ slot.Acknowledged
  due : ¬ isBefore now slot.retryDeadline
  lastAttempt : maxAttempts ≤ slot.attempts

/-- No transmit slot holds a datagram. -/
def ArqEngine.Vacant (e : ArqEngine) : Prop := ∀ i, (e.txSlots i).state = .empty

/-- The only datagram is exhausted, and a tick at `now` has neither a datagram to deliver nor an ACK
to send before it comes to that. -/
structure ArqEngine.GivesUpLast (e : ArqEngine) (cb : ArqCallbacks) (now : UInt32) : Prop where
  last : ∃ i, (e.txSlots i).Exhausted e.config.maxAttempts now ∧
    ∀ k, k ≠ i → (e.txSlots k).state = .empty
  delivers : (Exec.tryCompleteRxSlots cb { e with } now).1 = false
  acknowledges : ((Exec.tryCompleteRxSlots cb { e with } now).2.sendPendingAck cb now).1 = false

theorem ArqEngine.vacant_iff_live {e : ArqEngine} : e.Vacant ↔ ∀ i, (e.txSlots i).live = false := by
  simp [ArqEngine.Vacant, TxSlot.live]

namespace Exec

/-- The slots and the config are as before. -/
structure SameTx (e e' : Exec) : Prop where
  txSlots : e'.txSlots = e.txSlots
  config : e'.config = e.config

/-- The same slots hold datagrams. -/
def SameLive (e e' : Exec) : Prop := ∀ k, (e'.txSlots k).live = (e.txSlots k).live

variable {e e' e'' : Exec}

theorem SameTx.refl (e : Exec) : SameTx e e := ⟨rfl, rfl⟩

theorem SameTx.trans (h : SameTx e e') (h' : SameTx e' e'') : SameTx e e'' :=
  ⟨h'.txSlots.trans h.txSlots, h'.config.trans h.config⟩

theorem count_sameTx (e : Exec) (f : ArqCounters → ArqCounters) : SameTx e (e.count f) := ⟨rfl, rfl⟩

theorem SameTx.live (h : SameTx e e') : SameLive e e' := fun k => by rw [h.txSlots]

theorem SameLive.trans (h : SameLive e e') (h' : SameLive e' e'') : SameLive e e'' :=
  fun k => (h' k).trans (h k)

theorem SameLive.vacant_iff (h : SameLive e e') : e'.Vacant ↔ e.Vacant := by
  rw [ArqEngine.vacant_iff_live, ArqEngine.vacant_iff_live]
  exact forall_congr' fun k => by rw [h k]

theorem setTx_live {i : Fin 4} {slot : TxSlot} (h : slot.live = (e.txSlots i).live) :
    SameLive e (e.setTx i slot) := congrFun (Slots.map_update_same h)

/-! ### The stages of a tick -/

theorem egressCapacity_sameTx (cb : ArqCallbacks) (e : Exec) (default : UInt8) :
    SameTx e (e.egressCapacity cb default).2 := by
  obtain ⟨n, hn⟩ := egressCapacity_snd cb e default
  rw [hn]
  exact ⟨rfl, rfl⟩

theorem enqueueAck_sameTx (e : Exec) (ack : AckFrame) (deadline : UInt32) (source : AckSource) :
    SameTx e (e.enqueueAck ack deadline source).2 := by
  obtain ⟨pending, counters, heq, _⟩ := enqueueAck_snd e ack deadline source
  rw [heq]
  exact ⟨rfl, rfl⟩

theorem releaseRxSlot_sameTx (e : Exec) (j : Fin 4) : SameTx e (e.releaseRxSlot j) := by
  unfold releaseRxSlot
  dsimp only
  split <;> exact ⟨rfl, rfl⟩

theorem finishRxSlot_sameTx (cb : ArqCallbacks) (e : Exec) (j : Fin 4) (now : UInt32) :
    SameTx e (e.finishRxSlot cb j now) := by
  -- the engine before `++delivered`
  obtain ⟨e', hsame, heq⟩ : ∃ e', SameTx e e' ∧ e.finishRxSlot cb j now =
      (e'.count fun c => { c with delivered := c.delivered + 1 }).releaseRxSlot j := by
    refine ⟨_, ?_, rfl⟩
    refine .trans ?_ (enqueueAck_sameTx _ _ _ _)
    refine .trans ?_ (egressCapacity_sameTx cb _ _)
    refine (egressCapacity_sameTx cb e arqMaxRxDatagrams).trans ?_
    exact ⟨rfl, rfl⟩
  rw [heq]
  have hcount := hsame.trans (count_sameTx e' fun c => { c with delivered := c.delivered + 1 })
  exact hcount.trans (releaseRxSlot_sameTx _ j)

theorem tryCompleteRxSlot_sameTx (cb : ArqCallbacks) (e : Exec) (j : Fin 4) (now : UInt32) :
    SameTx e (e.tryCompleteRxSlot cb j now).2 := by
  have hegress := egressCapacity_sameTx cb e 1
  unfold tryCompleteRxSlot
  dsimp only
  split
  · exact .refl e
  cases cb.deliverDatagram with
  | none => exact hegress
  | some deliver =>
    dsimp only
    split
    · exact hegress
    split
    · exact hegress.trans ⟨rfl, rfl⟩
    · refine hegress.trans (.trans ?_ (finishRxSlot_sameTx cb _ j now))
      exact ⟨rfl, rfl⟩

theorem tryCompleteRxSlotsFrom_sameTx (cb : ArqCallbacks) (now : UInt32) (slots : List (Fin 4))
    (e : Exec) : SameTx e (tryCompleteRxSlotsFrom cb now slots e).2 := by
  induction slots generalizing e with
  | nil => exact .refl e
  | cons j rest ih =>
    have hslot := tryCompleteRxSlot_sameTx cb e j now
    rw [tryCompleteRxSlotsFrom]
    split
    · split
      · next e' heq =>
        rw [heq] at hslot
        exact hslot
      · next e' heq =>
        rw [heq] at hslot
        exact hslot.trans (ih e')
    · exact ih e

theorem sendPendingAck_sameTx (cb : ArqCallbacks) (e : Exec) (now : UInt32) :
    SameTx e (e.sendPendingAck cb now).2 := by
  unfold sendPendingAck
  split
  · dsimp only
    split
    · exact .refl e
    split
    · exact ⟨rfl, rfl⟩
    · split <;> exact ⟨rfl, rfl⟩
  · exact .refl e

theorem sendDataFragment_sameTx (cb : ArqCallbacks) (e : Exec) (i : Fin 4) (k : UInt8) :
    SameTx e (e.sendDataFragment cb i k).2 := by
  unfold sendDataFragment
  split
  · exact .refl e
  dsimp only
  split
  · exact ⟨rfl, rfl⟩
  split
  · exact ⟨rfl, rfl⟩
  · split <;> exact ⟨rfl, rfl⟩

theorem trySendOpenData_live (cb : ArqCallbacks) (t : UInt32) (e : Exec) :
    SameLive e (e.trySendOpenData cb t).2 := by
  intro k
  unfold TxSlot.live
  rw [trySendOpenData, trySendOpenDataFrom_state]

theorem creditProbe_sameTx (e : Exec) (t : UInt32) : SameTx e (e.creditProbe t).2 := by
  unfold creditProbe
  split
  · exact .refl e
  split
  · exact ⟨rfl, rfl⟩
  split
  · exact ⟨rfl, rfl⟩
  · split <;> exact ⟨rfl, rfl⟩

theorem tryOpenQueued_live (cb : ArqCallbacks) (t : UInt32) (e : Exec) :
    SameLive e (e.tryOpenQueued cb t).2 := by
  have hprobe := creditProbe_sameTx e t
  rw [tryOpenQueued]
  split
  · exact (SameTx.refl e).live
  split
  · next e' heq =>
    rw [heq] at hprobe
    exact hprobe.live
  next e' heq =>
  rw [heq] at hprobe
  dsimp only
  split
  · exact hprobe.live
  · next i hfind =>
    have hqueued : (e'.txSlots i).state = .queued := by
      simpa using (find_finRange_eq_some hfind).1
    refine hprobe.live.trans (.trans ?_ (trySendOpenData_live cb t _))
    refine setTx_live (e := { e' with creditProbeArmed := false }) ?_
    unfold TxSlot.live
    rw [hqueued]
    rfl

/-! ### Giving up -/

theorem failTxSlot_txSlots (e : Exec) (i : Fin 4) :
    (e.failTxSlot i).txSlots = Function.update e.txSlots i {} := by
  unfold failTxSlot clearTxSlot
  dsimp only
  split <;> rfl

/-- At most one datagram goes, and only because it is exhausted. -/
theorem trySendRetransmitFrom_live (cb : ArqCallbacks) (t : UInt32) {slots : List (Fin 4)}
    (hnodup : slots.Nodup) (e : Exec) :
    SameLive e (trySendRetransmitFrom cb t slots e).2 ∨
      ∃ i ∈ slots, (e.txSlots i).Exhausted e.config.maxAttempts t ∧
        ∀ k, k ≠ i → ((trySendRetransmitFrom cb t slots e).2.txSlots k).live =
          (e.txSlots k).live := by
  induction slots generalizing e with
  | nil => exact .inl (SameTx.refl e).live
  | cons i rest ih =>
    obtain ⟨hi, hnodup⟩ := List.nodup_cons.mp hnodup
    have hpass : SameLive e (trySendRetransmitFrom cb t rest e).2 ∨
        ∃ j ∈ i :: rest, (e.txSlots j).Exhausted e.config.maxAttempts t ∧
          ∀ k, k ≠ j → ((trySendRetransmitFrom cb t rest e).2.txSlots k).live =
            (e.txSlots k).live :=
      (ih hnodup e).imp_right fun ⟨j, hj, h⟩ => ⟨j, List.mem_cons_of_mem i hj, h⟩
    -- the rest of the slots after the attempt of slot `i` came to nothing
    have hrest {e' : Exec} {slot : TxSlot} (hlive : slot.live = (e.txSlots i).live)
        (hsame : SameTx (e.setTx i slot) e') :
        SameLive e (trySendRetransmitFrom cb t rest e').2 ∨
          ∃ j ∈ i :: rest, (e.txSlots j).Exhausted e.config.maxAttempts t ∧
            ∀ k, k ≠ j → ((trySendRetransmitFrom cb t rest e').2.txSlots k).live =
              (e.txSlots k).live := by
      have hfirst : SameLive e e' := (setTx_live hlive).trans hsame.live
      rcases ih hnodup e' with hkeeps | ⟨j, hj, hexhausted, hother⟩
      · exact .inl (hfirst.trans hkeeps)
      · have hji : j ≠ i := ne_of_mem_of_not_mem hj hi
        rw [hsame.txSlots, hsame.config, setTx_of_ne hji] at hexhausted
        exact .inr ⟨j, List.mem_cons_of_mem i hj, hexhausted,
          fun k hk => (hother k hk).trans (hfirst k)⟩
    rw [trySendRetransmitFrom]
    dsimp only
    split
    · exact hpass
    next hskip =>
    simp only [not_or, not_not] at hskip
    split
    · exact hpass
    next hmissing =>
    split
    · exact hpass
    next hdue =>
    split
    · next hattempts =>
      refine .inr ⟨i, List.mem_cons_self .., ⟨hskip.1, hskip.2, hmissing, hdue, hattempts⟩,
        fun k hk => ?_⟩
      rw [failTxSlot_txSlots, Function.update_of_ne hk]
    have hround : (e.txSlots i).beginRound.live = (e.txSlots i).live := rfl
    split
    · have hsend := sendDataFragment_sameTx cb (e.setTx i (e.txSlots i).beginRound) i
        (e.txSlots i).beginRound.nextFragment
      split
      · next e' heq =>
        rw [heq] at hsend
        refine .inl (((setTx_live hround).trans hsend.live).trans (setTx_live ?_))
        rw [hsend.txSlots, setTx_self]
        rfl
      · next e' heq =>
        rw [heq] at hsend
        exact hrest hround hsend
    · exact hrest hround (.refl _)

/-- The only open datagram, exhausted, is given up. -/
theorem trySendRetransmitFrom_exhausted (cb : ArqCallbacks) {t : UInt32} {i : Fin 4}
    (h : (e.txSlots i).Exhausted e.config.maxAttempts t)
    (hone : ∀ k, (e.txSlots k).state = .open → k = i) {slots : List (Fin 4)} (hi : i ∈ slots) :
    trySendRetransmitFrom cb t slots e = (false, e.failTxSlot i) := by
  induction slots with
  | nil => cases hi
  | cons k rest ih =>
    rw [trySendRetransmitFrom]
    dsimp only
    by_cases hki : k = i
    · subst hki
      rw [if_neg (by simp [h.isOpen, h.roundOver]), if_neg (show ¬ (_ = _) from h.missing),
        if_neg h.due, if_pos (show _ ≥ _ from h.lastAttempt)]
    · rw [if_pos (.inl fun hopen => hki (hone k hopen))]
      exact ih ((List.mem_cons.mp hi).resolve_left fun h => hki h.symm)

/-- Behind `trySendRetransmit` a tick takes no datagram out. -/
theorem onTick_live {cb : ArqCallbacks} {t : UInt32} {e₁ e₂ : Exec}
    (hcomplete : e.tryCompleteRxSlots cb t = (false, e₁))
    (hsend : e₁.sendPendingAck cb t = (false, e₂)) :
    SameLive (e₂.trySendRetransmit cb t).2 (e.onTick cb t) := by
  rw [onTick, hcomplete]
  dsimp only
  rw [hsend]
  dsimp only
  split
  · next e₃ hretransmit =>
    rw [hretransmit]
    exact (SameTx.refl e₃).live
  next e₃ hretransmit =>
  rw [hretransmit]
  have hdata := trySendOpenData_live cb t e₃
  split
  · next e₄ heq =>
    rw [heq] at hdata
    exact hdata
  · next e₄ heq =>
    rw [heq] at hdata
    exact hdata.trans (tryOpenQueued_live cb t e₄)

/-- The retransmissions leave no datagram if there was none, or if the only one is exhausted. -/
theorem trySendRetransmit_vacant_iff (cb : ArqCallbacks) (t : UInt32) (e : Exec) :
    (e.trySendRetransmit cb t).2.Vacant ↔ e.Vacant ∨
      ∃ i, (e.txSlots i).Exhausted e.config.maxAttempts t ∧
        ∀ k, k ≠ i → (e.txSlots k).state = .empty := by
  rw [trySendRetransmit]
  constructor
  · intro hvacant
    rcases trySendRetransmitFrom_live cb t (List.nodup_finRange 4) e with
      hkeeps | ⟨i, _, hexhausted, hother⟩
    · exact .inl (hkeeps.vacant_iff.mp hvacant)
    · refine .inr ⟨i, hexhausted, fun k hk => ?_⟩
      have hlive := (hother k hk).symm.trans (ArqEngine.vacant_iff_live.mp hvacant k)
      simpa [TxSlot.live] using hlive
  · rintro (hvacant | ⟨i, hexhausted, hnone⟩)
    · rw [trySendRetransmitFrom_skip cb fun i _ hopen => by rw [hvacant i] at hopen; cases hopen]
      exact hvacant
    · have hone (k : Fin 4) (hopen : (e.txSlots k).state = .open) : k = i := by
        by_contra hki
        rw [hnone k hki] at hopen
        cases hopen
      rw [trySendRetransmitFrom_exhausted cb hexhausted hone (List.mem_finRange i)]
      intro k
      dsimp only
      rw [failTxSlot_txSlots]
      exact update_cases (P := fun slot : TxSlot => slot.state = .empty) rfl hnone k

/-- A tick leaves no datagram if there was none, or if it gives up the last one. -/
theorem onTick_vacant_iff {e : ArqEngine} (cb : ArqCallbacks) (t : UInt32) :
    (onTick cb { e with } t).Vacant ↔ e.Vacant ∨ e.GivesUpLast cb t := by
  have hfirst : SameTx { e with } (tryCompleteRxSlots cb { e with } t).2 :=
    tryCompleteRxSlotsFrom_sameTx cb t (List.finRange 4) { e with }
  cases hcomplete : tryCompleteRxSlots cb { e with } t with
  | mk completed e₁ =>
    rw [hcomplete] at hfirst
    have hsecond := hfirst.trans (sendPendingAck_sameTx cb e₁ t)
    cases completed with
    | true =>
      have hnot : ¬ e.GivesUpLast cb t := by
        intro h
        have hdelivers := h.delivers
        rw [hcomplete] at hdelivers
        cases hdelivers
      rw [or_iff_left hnot, onTick, hcomplete]
      exact hsecond.live.vacant_iff
    | false =>
      cases hsend : e₁.sendPendingAck cb t with
      | mk sent e₂ =>
        rw [hsend] at hsecond
        cases sent with
        | true =>
          have hnot : ¬ e.GivesUpLast cb t := by
            intro h
            have hacknowledges := h.acknowledges
            rw [hcomplete, hsend] at hacknowledges
            cases hacknowledges
          rw [or_iff_left hnot, onTick, hcomplete]
          dsimp only
          rw [hsend]
          exact hsecond.live.vacant_iff
        | false =>
          rw [(onTick_live hcomplete hsend).vacant_iff, trySendRetransmit_vacant_iff,
            hsecond.live.vacant_iff, hsecond.txSlots, hsecond.config]
          refine or_congr_right ⟨fun hlast => ⟨hlast, by rw [hcomplete], by rw [hcomplete, hsend]⟩,
            fun hlast => hlast.last⟩

end Exec

end FlrcTnc.Arq
