import FlrcTnc.Arq.Sending
import Mathlib.Tactic.IntervalCases

/-! What the receiving functions of the engine do, as acts of the party. -/

namespace FlrcTnc.Arq

open Framing Mask

namespace Exec

variable {e e' e'' : Exec} {R : Party → List Event → Party → Prop}

/-- The party of an engine of which the receive slots, the window and the ACKs have changed. -/
theorem party_of_rx {slots : Fin 4 → Option Incoming} {window : DuplicateWindow}
    {pending : List AckFrame} (hslots : (fun j => (e'.rxSlots j).incoming e'.rxPool) = slots)
    (hwindow : e'.duplicateWindow = window) (hpending : e'.pendingAcks.frames = pending)
    (hsender : e'.sender = e.sender) : e'.party = ⟨e.sender, ⟨slots, window, pending⟩⟩ := by
  rw [ArqEngine.party, ArqEngine.receiver, hslots, hwindow, hpending, hsender]

/-- The datagram in an active slot. -/
theorem receiver_slot {j : Fin 4} (hactive : (e.rxSlots j).active) :
    e.receiver.slots j = some ⟨(e.rxSlots j).reassembly.datagramId,
      (e.rxSlots j).reassembly.datagramLength, (e.rxSlots j).reassembly.receivedBitmap,
      e.rxPool.memory (e.rxSlots j).reassembly.output⟩ := by
  simp only [ArqEngine.receiver, RxSlot.incoming, hactive, if_true]

theorem receiver_slot_none {j : Fin 4} (hactive : ¬ (e.rxSlots j).active) :
    e.receiver.slots j = none := by
  simp only [ArqEngine.receiver, RxSlot.incoming, if_neg hactive]

theorem receiver_slot_some {j : Fin 4} {r : Incoming} (h : e.receiver.slots j = some r) :
    (e.rxSlots j).active ∧ r = ⟨(e.rxSlots j).reassembly.datagramId,
      (e.rxSlots j).reassembly.datagramLength, (e.rxSlots j).reassembly.receivedBitmap,
      e.rxPool.memory (e.rxSlots j).reassembly.output⟩ := by
  by_cases hactive : (e.rxSlots j).active
  · rw [receiver_slot hactive] at h
    exact ⟨hactive, (Option.some.inj h).symm⟩
  · rw [receiver_slot_none hactive] at h
    cases h

/-- What the view of a slot says about the slot. -/
theorem slot_view {j : Fin 4} {r : Incoming} (h : e.Valid) (hr : e.receiver.slots j = some r) :
    (e.rxSlots j).active ∧ (e.rxSlots j).reassembly.datagramId = r.id ∧
      (e.rxSlots j).reassembly.datagramLength = r.length ∧
      (e.rxSlots j).reassembly.receivedBitmap = r.bits ∧
      (e.rxSlots j).reassembly.fragmentCount = r.fragmentCount ∧
      expectedBitmap (e.rxSlots j).reassembly.fragmentCount = fullMask r.length.toNat ∧
      (e.rxPool.memory (e.rxSlots j).reassembly.output).read 0
        (e.rxSlots j).reassembly.datagramLength.toNat = r.content ∧
      (reassemblyIsComplete (e.rxSlots j).reassembly ↔ r.Complete) := by
  obtain ⟨hactive, rfl⟩ := receiver_slot_some hr
  obtain ⟨ref, hv⟩ := h.2.slot j hactive
  exact ⟨hactive, rfl, rfl, rfl, hv.consistent.count, hv.expectedBitmap_eq, rfl,
    hv.consistent.isComplete_iff hv.active⟩

theorem queueFailureAck_spec (cb : ArqCallbacks) (datagramId bitmap : UInt16)
    (failure : FailureStatus) (now : UInt32) (source : AckSource) (h : e.Valid) :
    ∃ credits, Follows
      (fun p evs q => evs = enqueueEvents p.receiver.pending
        ⟨datagramId, bitmap, credits, failure⟩ source ∧
        q = ⟨p.sender, p.receiver.queue ⟨datagramId, bitmap, credits, failure⟩⟩) e
      (e.queueFailureAck cb datagramId bitmap failure now source) := by
  obtain ⟨n, hn⟩ := currentCredits_snd cb e
  rw [queueFailureAck]
  cases hcredits : e.currentCredits cb with
  | mk credits e' =>
    rw [hcredits] at hn
    cases hn
    obtain ⟨hparty, hevents, hvalid⟩ := enqueueAck_party { e with calls := n }
      ⟨datagramId, bitmap, credits, failure⟩ (now + e.config.ackTurnaroundCycles) source
    exact ⟨credits, hvalid h, _, hevents, rfl, hparty⟩

theorem lowest_bit {n : Nat} (h0 : 0 < n) (h12 : n ≤ 12) :
    below n ≠ 0 ∧ below n &&& ~~~ (below n - 1) = bit 0 := by
  interval_cases n <;> decide

/-- The ACK of a reassembly that is not complete. -/
theorem queueRxAck_none (cb : ArqCallbacks) {j : Fin 4} {r : Incoming} (now : UInt32) (h : e.Valid)
    (hr : e.receiver.slots j = some r) :
    ∃ credits, Follows
      (fun p evs q => evs = enqueueEvents p.receiver.pending ⟨r.id, r.bits, credits, .none⟩
        (.reassembly r.fragmentCount) ∧
        q = ⟨p.sender, p.receiver.queue ⟨r.id, r.bits, credits, .none⟩⟩) e
      (e.queueRxAck cb j .none now) := by
  obtain ⟨_, hid, _, hbits, hcount, _⟩ := slot_view h hr
  obtain ⟨n, hn⟩ := currentCredits_snd cb e
  have hnone : ¬ FailureStatus.none = .creditWithdrawal := by decide
  simp only [queueRxAck, hnone, false_and, if_false]
  cases hcredits : e.currentCredits cb with
  | mk credits e' =>
    rw [hcredits] at hn
    cases hn
    obtain ⟨hparty, hevents, hvalid⟩ := enqueueAck_party { e with calls := n }
      ⟨r.id, r.bits, credits, .none⟩ (now + e.config.ackTurnaroundCycles)
      (.reassembly r.fragmentCount)
    rw [hid, hbits, hcount]
    exact ⟨credits, hvalid h, _, hevents, rfl, hparty⟩

/-- The ACK of a complete reassembly that could not be delivered. -/
theorem queueRxAck_withdrawal (cb : ArqCallbacks) {j : Fin 4} {r : Incoming} (now : UInt32)
    (h : e.Valid) (hr : e.receiver.slots j = some r) (hcomplete : r.Complete) :
    Follows
      (fun p evs q => evs = enqueueEvents p.receiver.pending (Receiver.withdrawalAck r)
        (.reassembly r.fragmentCount) ∧
        q = ⟨p.sender, p.receiver.queue (Receiver.withdrawalAck r)⟩) e
      (e.queueRxAck cb j .creditWithdrawal now) := by
  obtain ⟨hactive, hid, hlength, hbits, hcount, hfull, _⟩ := slot_view h hr
  obtain ⟨ref, hv⟩ := h.2.slot j hactive
  have hmax := hv.consistent.length_toNat_le
  have hpos : 0 < (e.rxSlots j).reassembly.datagramLength.toNat :=
    Nat.pos_of_ne_zero fun h0 => hv.consistent.length_pos (UInt16.toNat_inj.mp h0)
  rw [hlength] at hmax hpos
  rw [hcount] at hfull
  obtain ⟨hne, hlowest⟩ := lowest_bit (fragments_pos hpos) (fragments_le hmax)
  have hbitmap : r.bits &&& fullMask r.length.toNat = fullMask r.length.toNat := hcomplete
  simp only [queueRxAck, hid, hbits, hcount, hfull, if_true, true_and]
  rw [if_pos ⟨hbitmap, hne⟩]
  simp only [fullMask, hlowest]
  obtain ⟨hparty, hevents, hvalid⟩ := enqueueAck_party e (Receiver.withdrawalAck r)
    (now + e.config.ackTurnaroundCycles) (.reassembly r.fragmentCount)
  exact ⟨hvalid h, _, hevents, rfl, hparty⟩

/-- A slot that is released is empty, and its buffer is free again. -/
theorem releaseRxSlot_eq {j : Fin 4} (h : e.Valid) (hactive : (e.rxSlots j).active) :
    (e.releaseRxSlot j).party = ⟨e.sender, ⟨Function.update e.receiver.slots j none,
      e.duplicateWindow, e.pendingAcks.frames⟩⟩ ∧ (e.releaseRxSlot j).Valid ∧
      (e.releaseRxSlot j).events = e.events := by
  obtain ⟨hhandle, hvalid, hview⟩ := h.2.clear hactive
  simp only [releaseRxSlot, hhandle, if_true]
  exact ⟨party_of_rx hview rfl rfl rfl, ⟨h.1, hvalid⟩, rfl⟩

/-- The delivered datagram is stored in the window and acknowledged, and its slot is cleared. -/
theorem finishRxSlot_spec (cb : ArqCallbacks) {j : Fin 4} {r : Incoming} (now : UInt32)
    (h : e.Valid) (hr : e.receiver.slots j = some r) :
    ∃ stored credits, Follows
      (fun p evs q => evs = enqueueEvents p.receiver.pending (Receiver.finalAck r credits)
        (.reassembly r.fragmentCount) ∧
        q = ⟨p.sender, p.receiver.finish j r stored credits⟩) e (e.finishRxSlot cb j now) := by
  obtain ⟨hactive, hid, _, _, hcount, hfull, _⟩ := slot_view h hr
  rw [hcount] at hfull
  obtain ⟨n, hn⟩ := currentCredits_snd cb e
  simp only [finishRxSlot, hid, hcount, hfull]
  cases hcredits : e.currentCredits cb with
  | mk stored e₁ =>
    rw [hcredits] at hn
    subst hn
    dsimp only
    obtain ⟨m, hm⟩ := currentCredits_snd cb { e with
      calls := n
      duplicateWindow :=
        duplicateWindowStore e.duplicateWindow r.id ⟨fullMask r.length.toNat, stored, .none⟩ }
    cases hcredits' : currentCredits cb { e with
      calls := n
      duplicateWindow :=
        duplicateWindowStore e.duplicateWindow r.id ⟨fullMask r.length.toNat, stored, .none⟩ } with
    | mk credits e₂ =>
      rw [hcredits'] at hm
      subst hm
      let stored' : Exec := { e with
        calls := m
        duplicateWindow :=
          duplicateWindowStore e.duplicateWindow r.id ⟨fullMask r.length.toNat, stored, .none⟩ }
      obtain ⟨pending, counters, hqueue, hframes⟩ := enqueueAck_snd stored'
        ⟨r.id, fullMask r.length.toNat, credits, .none⟩ (now + e.config.ackTurnaroundCycles)
        (.reassembly r.fragmentCount)
      change ∃ stored credits, Follows _ e (releaseRxSlot (count (enqueueAck stored' _ _ _).2 _) j)
      rw [hqueue]
      obtain ⟨hparty, hvalid, hevents⟩ := releaseRxSlot_eq (j := j) (e := count { stored' with
        pendingAcks := pending
        counters := counters
        events := stored'.events ++ enqueueEvents stored'.pendingAcks.frames
          ⟨r.id, fullMask r.length.toNat, credits, .none⟩ (.reassembly r.fragmentCount) }
        fun c => { c with delivered := c.delivered + 1 }) h hactive
      refine ⟨stored, credits, hvalid, _, hevents, rfl, ?_⟩
      rw [hparty]
      change (⟨e.sender, ⟨_, _, pending.frames⟩⟩ : Party) = _
      rw [hframes]
      rfl

/-- A complete datagram is delivered, or nothing happens. -/
theorem tryCompleteRxSlot_spec (cb : ArqCallbacks) {j : Fin 4} {r : Incoming} (now : UInt32)
    (h : e.Valid) (hr : e.receiver.slots j = some r) (hcomplete : r.Complete) :
    ((e.tryCompleteRxSlot cb j now).1 = false ∧ (e.tryCompleteRxSlot cb j now).2.Valid ∧
      (e.tryCompleteRxSlot cb j now).2.party = e.party ∧
      ∃ refused, (e.tryCompleteRxSlot cb j now).2.events = e.events ++ refused ∧
        (refused = [] ∨ refused = [.delivered r.id r.content false])) ∨
    ((e.tryCompleteRxSlot cb j now).1 = true ∧ ∃ stored credits, Follows
      (fun p evs q => evs = Receiver.finishEvents p.receiver r credits ∧
        q = ⟨p.sender, p.receiver.finish j r stored credits⟩) e
      (e.tryCompleteRxSlot cb j now).2) := by
  obtain ⟨_, hid, _, _, _, _, hcontent, hdone⟩ := slot_view h hr
  have hdone := hdone.mpr hcomplete
  rw [tryCompleteRxSlot]
  dsimp only
  rw [if_neg (by simpa using hdone)]
  obtain ⟨n, hn⟩ := egressCapacity_snd cb e 1
  cases hegress : e.egressCapacity cb 1 with
  | mk egress e₁ =>
    rw [hegress] at hn
    subst hn
    cases cb.deliverDatagram with
    | none => exact .inl ⟨rfl, h, rfl, [], by simp, .inl rfl⟩
    | some deliver =>
      dsimp only
      split
      · exact .inl ⟨rfl, h, rfl, [], by simp, .inl rfl⟩
      · simp only [hid, hcontent]
        split
        · next hok =>
          simp only [Bool.not_eq_true] at hok
          rw [hok]
          exact .inl ⟨rfl, h, rfl, _, rfl, .inr rfl⟩
        · next hok =>
          simp only [Bool.not_eq_true, Bool.not_eq_false] at hok
          rw [hok]
          obtain ⟨stored, credits, hvalid, evs, hevents, rfl, hparty⟩ :=
            finishRxSlot_spec cb (e := emit (called { e with calls := n })
              (.delivered r.id r.content true)) now h hr
          refine .inr ⟨rfl, stored, credits, hvalid, _, ?_, rfl, hparty⟩
          rw [hevents]
          exact List.append_assoc ..

/-- With an open egress, a complete datagram is delivered. -/
theorem tryCompleteRxSlot_open {cb : ArqCallbacks} (hcb : cb.EgressOpen) {j : Fin 4} (now : UInt32)
    (hcomplete : reassemblyIsComplete (e.rxSlots j).reassembly) :
    (e.tryCompleteRxSlot cb j now).1 = true := by
  obtain ⟨hegress, deliver, hdeliver, htakes⟩ := hcb
  have hpositive : (e.egressCapacity cb 1).1 ≠ 0 := by
    rw [egressCapacity]
    split
    · change (1 : UInt8) ≠ 0
      decide
    · next egress hsome => exact hegress egress hsome _
  rw [tryCompleteRxSlot]
  dsimp only
  rw [if_neg (by simpa using hcomplete), hdeliver]
  dsimp only
  rw [if_neg hpositive, if_neg (by simp [htakes])]

theorem waitForEgress_same (h : e.Valid) (j : Fin 4) : Same e (e.waitForEgress j) := by
  obtain ⟨hvalid, hview⟩ := h.2.setWaiting j true
  exact ⟨party_of_rx hview rfl rfl rfl, fun hv => ⟨hv.1, hvalid⟩, rfl⟩

/-- The end of `handleData` settles the fragment that slot `j` has taken, and with an open egress
slot `j` does not wait for it. -/
theorem acknowledgeData_spec (cb : ArqCallbacks) {j : Fin 4} {r : Incoming} (header : DataHeader)
    (now : UInt32) (h : e.Valid) (hr : e.receiver.slots j = some r) :
    Follows (fun p evs q => ∃ s, p.receiver.Settle j r evs s ∧
      (cb.EgressOpen → ∀ r, s.slots j = some r → ¬ r.Complete) ∧ q = ⟨p.sender, s⟩) e
      (e.acknowledgeData cb j header now) := by
  obtain ⟨_, _, _, _, _, _, _, hdone⟩ := slot_view h hr
  rw [acknowledgeData]
  split
  · next hcomplete =>
    have hdelivers (hcb : cb.EgressOpen) := tryCompleteRxSlot_open hcb now hcomplete
    have hcomplete := hdone.mp hcomplete
    cases hresult : e.tryCompleteRxSlot cb j now with
    | mk ok e' =>
      rw [hresult] at hdelivers
      have hspec := tryCompleteRxSlot_spec cb now h hr hcomplete
      rw [hresult] at hspec
      rcases hspec with ⟨rfl, hv, hparty, refused, hevents, hrefused⟩ |
        ⟨rfl, stored, credits, hv, evs, hevents, rfl, hparty⟩
      · dsimp only at hv hparty hevents ⊢
        have hsame := (waitForEgress_same hv j).trans (count_same _ fun c =>
          { c with creditWithdrawal := c.creditWithdrawal + 1 })
        have hslot : ((e'.waitForEgress j).count fun c =>
            { c with creditWithdrawal := c.creditWithdrawal + 1 }).receiver.slots j = some r := by
          have hreceiver := congrArg Party.receiver (hsame.party.trans hparty)
          change ArqEngine.receiver _ = _ at hreceiver
          rw [hreceiver]
          exact hr
        obtain ⟨hv', evs, hevents', rfl, hparty'⟩ := (queueRxAck_withdrawal cb now
          (hsame.valid hv) hslot hcomplete).same_left hsame
        refine ⟨hv', _, ?_, _, .block hcomplete refused hrefused, fun hcb => ?_, ?_⟩
        · rw [hevents', hevents, List.append_assoc, hparty]
        · cases hdelivers hcb
        · rw [hparty] at hparty'
          exact hparty'
      · refine ⟨hv, _, hevents, _, .deliver hcomplete stored credits, fun _ q hq => ?_, hparty⟩
        exact absurd rfl (Slots.of_update_none hq).1
  · next hpart =>
    have hpart : ¬ r.Complete := fun hc => hpart (hdone.mpr hc)
    have hopen (q : Incoming) (hq : e.receiver.slots j = some q) : ¬ q.Complete := by
      cases hr.symm.trans hq
      exact hpart
    split
    · obtain ⟨credits, hv, evs, hevents, rfl, hparty⟩ := queueRxAck_none cb now h hr
      exact ⟨hv, _, hevents, _, .roundEnd hpart credits, fun _ => hopen, hparty⟩
    · exact ⟨h, [], by simp, _, .partly hpart, fun _ => hopen, rfl⟩

/-- A fragment that fits the reassembly of slot `j`, which may be without fragments so far. -/
theorem acceptData_taken (cb : ArqCallbacks) {j : Fin 4} {ref : BufferRef} {header : DataHeader}
    {payload : List UInt8} {opened : ReassemblyV3} (now : UInt32)
    (htx : TxValid e.txPool e.txSlots)
    (hothers : ∀ k ≠ j, (e.rxSlots k).active → ∃ ref, (e.rxSlots k).Valid ref)
    (hleases : Leases e.rxPool (Function.update (fun k => (e.rxSlots k).held) j (some ref)))
    (hactive : (e.rxSlots j).active) (hhandle : (e.rxSlots j).handle = .ofRef ref)
    (hreassembly : (e.rxSlots j).reassembly.Valid ref) (hvalid : validateDataHeader header)
    (hlen : payload.length = header.payloadLen.toNat)
    (hopen : openReassembly (e.rxSlots j).reassembly header = some opened) :
    Follows (fun p evs q => ∃ s, (p.receiver.setSlot j (some (Incoming.add ⟨header.datagramId,
        header.datagramLength, opened.receivedBitmap, e.rxPool.memory (some ref)⟩ header
        payload))).Settle j (Incoming.add ⟨header.datagramId, header.datagramLength,
        opened.receivedBitmap, e.rxPool.memory (some ref)⟩ header payload) evs s ∧
        (cb.EgressOpen → ∀ r, s.slots j = some r → ¬ r.Complete) ∧ q = ⟨p.sender, s⟩) e
        (e.acceptData cb j header payload now) := by
  rcases acceptFragment_eq (e.rxPool.memory (e.rxSlots j).reassembly.output)
    hreassembly hvalid hlen with ⟨_, _, hact, hmismatch, _⟩ |
      ⟨opened', result, state', memory', hopen', haccept, hresult, hactive', hvalid', hid',
        hlength',
        hbits', hmemory'⟩
  · simp only [openReassembly, hact, not_true, if_false, if_pos hmismatch] at hopen
    cases hopen
  · cases hopen.symm.trans hopen'
    have hslot : RxSlot.Valid { e.rxSlots j with reassembly := state' } ref :=
      ⟨hhandle, hvalid', hactive'⟩
    obtain ⟨hrx, hview⟩ := RxValid.store hothers hleases hslot hactive memory'
    have hr : Incoming.mk state'.datagramId state'.datagramLength state'.receivedBitmap memory' =
        Incoming.add ⟨header.datagramId, header.datagramLength, opened.receivedBitmap,
          e.rxPool.memory (some ref)⟩ header payload := by
      rw [hid', hlength', hbits', hmemory', hreassembly.output]
      rfl
    rw [hr] at hview
    have hparty : (e.storeReassembly j state' memory').party =
        ⟨e.sender, e.receiver.setSlot j (some (Incoming.add ⟨header.datagramId,
          header.datagramLength, opened.receivedBitmap, e.rxPool.memory (some ref)⟩ header
          payload))⟩ := by
      refine party_of_rx ?_ rfl rfl rfl
      simp only [storeReassembly, setRx, hreassembly.output]
      exact hview
    have hstored : (e.storeReassembly j state' memory').Valid := by
      refine ⟨htx, ?_⟩
      simp only [storeReassembly, setRx, hreassembly.output]
      exact hrx
    have hslot : (e.storeReassembly j state' memory').receiver.slots j =
        some (Incoming.add ⟨header.datagramId, header.datagramLength, opened.receivedBitmap,
          e.rxPool.memory (some ref)⟩ header payload) := by
      have hreceiver := congrArg Party.receiver hparty
      change (e.storeReassembly j state' memory').receiver = _ at hreceiver
      rw [hreceiver]
      exact Function.update_self ..
    obtain ⟨hv, evs, hevents, s, hsettle, hdrains, hparty'⟩ :=
      acknowledgeData_spec cb header now hstored hslot
    have hok : ¬ result ∈ [.metadataMismatch, .badArgument, .badLength, .outputTooSmall] := by
      rcases List.mem_pair.mp hresult with rfl | rfl <;> decide
    simp only [acceptData, haccept, if_neg hok]
    refine ⟨hv, evs, hevents, s, ?_, hdrains, ?_⟩
    · rw [hparty] at hsettle
      exact hsettle
    · rw [hparty] at hparty'
      exact hparty'

/-- What `handleData` promises of its result; with an open egress nothing newly waits. -/
abbrev Receives (cb : ArqCallbacks) (header : DataHeader) (payload : List UInt8) :
    Exec → Exec → Prop :=
  Follows fun p evs q => ∃ s, p.receiver.Receive header payload evs s ∧
    (cb.EgressOpen → p.receiver.Drains s) ∧ q = ⟨p.sender, s⟩

/-- A fragment is taken, and its datagram does not wait in an open egress. -/
theorem Receives.taken {cb : ArqCallbacks} {header : DataHeader} {payload : List UInt8} {j : Fin 4}
    {r : Incoming} {e' : Exec} (hnew : ¬ e.receiver.window.Has header.datagramId)
    (htakes : e.receiver.Takes header payload j r)
    (h : Follows (fun p evs q => ∃ s, (p.receiver.setSlot j (some r)).Settle j r evs s ∧
      (cb.EgressOpen → ∀ r, s.slots j = some r → ¬ r.Complete) ∧ q = ⟨p.sender, s⟩) e e') :
    Receives cb header payload e e' := by
  obtain ⟨hv, evs, hevents, s, hsettle, hdrains, hparty⟩ := h
  refine ⟨hv, evs, hevents, s, .taken j r hnew htakes hsettle, fun hcb k q hq hcomplete => ?_,
    hparty⟩
  by_cases hk : k = j
  · subst hk
    exact absurd hcomplete (hdrains hcb q hq)
  · rcases Receiver.setSlot_eq_some_iff.mp (hsettle.slots hq) with ⟨hkj, _⟩ | ⟨_, hold⟩
    · exact absurd hkj hk
    · exact hold

/-- The fields that `reassemblyMetadataMatches` compares. -/
theorem metadataMatches_iff {j : Fin 4} {r : Incoming} {header : DataHeader} (h : e.Valid)
    (hr : e.receiver.slots j = some r) (hvalid : validateDataHeader header) :
    reassemblyMetadataMatches (e.rxSlots j).reassembly header ↔ r.Matches header := by
  obtain ⟨_, hid, hlength, _, hcount, _⟩ := slot_view h hr
  obtain ⟨_, _, _, _, hheader, _⟩ := validateDataHeader_iff.mp hvalid
  simp only [reassemblyMetadataMatches, decide_eq_true_eq, hid, hlength, hcount,
    Incoming.Matches, hheader]
  constructor
  · rintro ⟨hid, hlength, _⟩
    exact ⟨hid, hlength⟩
  · rintro ⟨hid, hlength⟩
    exact ⟨hid, hlength, by rw [Incoming.fragmentCount, hlength]⟩

/-- A fragment of another length than that of its datagram in slot `j` is rejected. -/
theorem acceptData_mismatch (cb : ArqCallbacks) {j : Fin 4} {r : Incoming} {header : DataHeader}
    {payload : List UInt8} (now : UInt32) (h : e.Valid) (hr : e.receiver.slots j = some r)
    (hid : r.id = header.datagramId) (hlength : r.length ≠ header.datagramLength)
    (hvalid : validateDataHeader header) (hlen : payload.length = header.payloadLen.toNat)
    (hnew : ¬ e.receiver.window.Has header.datagramId) :
    Receives cb header payload e (e.acceptData cb j header payload now) := by
  obtain ⟨hactive, _, _, hrbits, hrcount, _⟩ := slot_view h hr
  obtain ⟨ref, hv⟩ := h.2.slot j hactive
  have hmismatch : ¬ reassemblyMetadataMatches (e.rxSlots j).reassembly header := by
    rw [metadataMatches_iff h hr hvalid]
    exact fun hmatches => hlength hmatches.2
  rcases acceptFragment_eq (e.rxPool.memory (e.rxSlots j).reassembly.output)
    hv.reassembly hvalid hlen with ⟨state', haccept, _, _, hstate⟩ |
      ⟨opened, _, _, _, hopen, _⟩
  · have hslot : RxSlot.Valid { e.rxSlots j with reassembly := state' } ref := by
      rw [hstate]
      exact ⟨hv.handle, ⟨hv.reassembly.output, hv.reassembly.capacity, fun _ =>
        ⟨hv.consistent.length_pos, hv.consistent.length_le, hv.consistent.count,
          hv.consistent.bits, hv.consistent.lengths, hv.consistent.bytes⟩⟩, hv.active⟩
    have hheld : (e.rxSlots j).held = some ref := by
      rw [RxSlot.held, if_pos hactive, hv.reassembly.output]
    have hleases : Leases e.rxPool
        (Function.update (fun k => (e.rxSlots k).held) j (some ref)) := by
      rw [← hheld, Function.update_eq_self]
      exact h.2.leases
    obtain ⟨hrx, hview⟩ := RxValid.store (fun k _ => h.2.slot k) hleases hslot hactive
      (e.rxPool.memory (e.rxSlots j).reassembly.output)
    have hsame : Same e (e.storeReassembly j state'
        (e.rxPool.memory (e.rxSlots j).reassembly.output)) := by
      have hfields : Incoming.mk state'.datagramId state'.datagramLength state'.receivedBitmap
          (e.rxPool.memory (e.rxSlots j).reassembly.output) = r := by
        rw [(receiver_slot_some hr).2, hstate]
      rw [hfields, ← hr, ← hv.reassembly.output] at hview
      rw [← hv.reassembly.output] at hrx
      exact ⟨party_of_rx (hview.trans (Function.update_eq_self ..)) rfl rfl rfl,
        fun hv => ⟨hv.1, hrx⟩, rfl⟩
    have hcounted := hsame.trans (count_same _ fun c =>
      { c with malformedInput := c.malformedInput + 1 })
    have hbits : state'.receivedBitmap = r.bits := by rw [hstate]; exact hrbits
    have hcount : state'.fragmentCount = r.fragmentCount := by rw [hstate]; exact hrcount
    simp only [acceptData, haccept]
    rw [if_pos (List.mem_cons_self ..), hbits, hcount]
    obtain ⟨credits, hfollows⟩ := queueFailureAck_spec cb header.datagramId r.bits
      .malformedInput now (.reassembly r.fragmentCount) (hcounted.valid h)
    obtain ⟨hv', evs, hevents, rfl, hparty⟩ := hfollows.same_left hcounted
    exact ⟨hv', _, hevents, _, .mismatch _ j r credits hnew hr hid hlength, fun _ => .queue _ _,
      hparty⟩
  · have hactive' := hv.active
    simp only [openReassembly, hactive', not_true, if_false, if_pos hmismatch] at hopen
    cases hopen

/-- A fragment of the datagram in slot `j` is taken. -/
theorem acceptData_held (cb : ArqCallbacks) {j : Fin 4} {r : Incoming} {header : DataHeader}
    {payload : List UInt8} (now : UInt32) (h : e.Valid) (hr : e.receiver.slots j = some r)
    (hmatches : r.Matches header) (hvalid : validateDataHeader header)
    (hlen : payload.length = header.payloadLen.toNat)
    (hnew : ¬ e.receiver.window.Has header.datagramId) :
    Receives cb header payload e (e.acceptData cb j header payload now) := by
  obtain ⟨hactive, hreq⟩ := receiver_slot_some hr
  obtain ⟨ref, hv⟩ := h.2.slot j hactive
  have hheld : (e.rxSlots j).held = some ref := by
    rw [RxSlot.held, if_pos hactive, hv.reassembly.output]
  have hleases : Leases e.rxPool
      (Function.update (fun k => (e.rxSlots k).held) j (some ref)) := by
    rw [← hheld, Function.update_eq_self]
    exact h.2.leases
  have hopen : openReassembly (e.rxSlots j).reassembly header = some (e.rxSlots j).reassembly := by
    rw [openReassembly, if_neg (by simp [hv.active]),
      if_neg (by simpa using (metadataMatches_iff h hr hvalid).mpr hmatches)]
  have htaken := acceptData_taken cb now h.1 (fun k _ => h.2.slot k) hleases hactive hv.handle
    hv.reassembly hvalid hlen hopen
  have hr' : Incoming.mk header.datagramId header.datagramLength
      (e.rxSlots j).reassembly.receivedBitmap (e.rxPool.memory (some ref)) = r := by
    rw [← hmatches.1, ← hmatches.2, ← hv.reassembly.output, hreq]
  rw [hr'] at htaken
  exact .taken hnew (.held r hr hmatches) htaken

/-- The slot that is found holds the datagram, and if none is found none does. -/
theorem findRxSlot_some {datagramId : UInt16} {j : Fin 4} (h : e.findRxSlot datagramId = some j) :
    ∃ r, e.receiver.slots j = some r ∧ r.id = datagramId := by
  obtain ⟨hhit, _⟩ := find_finRange_eq_some h
  simp only [decide_eq_true_eq] at hhit
  exact ⟨_, receiver_slot hhit.1, hhit.2⟩

theorem findRxSlot_none {datagramId : UInt16} (h : e.findRxSlot datagramId = none) {k : Fin 4}
    {r : Incoming} (hr : e.receiver.slots k = some r) : r.id ≠ datagramId := by
  obtain ⟨hactive, rfl⟩ := receiver_slot_some hr
  have hmiss := List.find?_eq_none.mp h k (List.mem_finRange k)
  exact fun hid => hmiss (by simp only [decide_eq_true_eq]; exact ⟨hactive, hid⟩)

/-- The first fragment of a datagram goes to an empty slot. -/
theorem acceptData_fresh (cb : ArqCallbacks) {j : Fin 4} {header : DataHeader}
    {payload : List UInt8} (now : UInt32) (h : e.Valid) (hempty : ¬ (e.rxSlots j).active)
    (hothers : ∀ k r, e.receiver.slots k = some r → r.id ≠ header.datagramId)
    (hvalid : validateDataHeader header) (hlen : payload.length = header.payloadLen.toNat)
    (hnew : ¬ e.receiver.window.Has header.datagramId) :
    ∃ pool lease, acquireDatagram e.rxPool = (.ok, pool, lease) ∧
      Receives cb header payload e (acceptData cb
        ({ e with rxPool := pool }.setRx j ((e.rxSlots j).activate lease)) j header payload
          now) := by
  have hnone : (e.rxSlots j).held = none := by rw [RxSlot.held, if_neg hempty]
  obtain ⟨ref, pool, hacquire, hstorage, hunused, hleases⟩ := h.2.leases.acquire hnone
  refine ⟨pool, _, hacquire, ?_⟩
  let lease : DatagramLease := ⟨.ofRef ref, some ref, v3MaxDatagram⟩
  let e₁ : Exec := { e with rxPool := pool }.setRx j ((e.rxSlots j).activate lease)
  have hslots : e₁.rxSlots = Function.update e.rxSlots j ((e.rxSlots j).activate lease) := rfl
  have hslot : e₁.rxSlots j = (e.rxSlots j).activate lease := Function.update_self ..
  have hpool : e₁.rxPool = pool := rfl
  have hheld : Function.update (fun k => (e₁.rxSlots k).held) j (some ref) =
      Function.update (fun k => (e.rxSlots k).held) j (some ref) := by
    rw [hslots, Slots.map_update e.rxSlots RxSlot.held, Function.update_idem]
  have hview : Function.update (fun k => (e₁.rxSlots k).incoming e₁.rxPool) j =
      Function.update (fun k => (e.rxSlots k).incoming e.rxPool) j := by
    funext r
    rw [hslots, RxValid.incoming_update, Function.update_idem, hpool,
      RxValid.incoming_congr hstorage]
  have hfresh : ¬ (e₁.rxSlots j).reassembly.active := by
    rw [hslot]
    simp [RxSlot.activate, resetReassembly]
  have hreassembly : (e₁.rxSlots j).reassembly.Valid ref := by
    rw [hslot] at hfresh ⊢
    exact ⟨rfl, rfl, fun hactive => absurd hactive hfresh⟩
  obtain ⟨opened, hopen, hbits⟩ : ∃ opened,
      openReassembly (e₁.rxSlots j).reassembly header = some opened ∧
        opened.receivedBitmap = 0 := by
    rw [openReassembly, if_pos hfresh]
    exact ⟨_, rfl, rfl⟩
  have hslots' (k : Fin 4) (hk : k ≠ j) (hactive : (e₁.rxSlots k).active) :
      ∃ ref, (e₁.rxSlots k).Valid ref := by
    rw [hslots, Function.update_of_ne hk] at hactive ⊢
    exact h.2.slot k hactive
  obtain ⟨hv', evs, hevents, s, hsettle, hdrains, hparty⟩ := acceptData_taken (e := e₁) cb now h.1
    hslots' (hheld ▸ hleases) (by rw [hslot]; rfl) (by rw [hslot]; rfl) hreassembly hvalid hlen
      hopen
  have hset (r : Option Incoming) : e₁.party.receiver.setSlot j r = e.receiver.setSlot j r := by
    rw [Receiver.setSlot, Receiver.setSlot]
    congr 1
    exact congrFun hview r
  rw [hset, hbits] at hsettle
  exact .taken hnew (.fresh (e₁.rxPool.memory (some ref)) (receiver_slot_none hempty) hothers)
    ⟨hv', evs, hevents, s, hsettle, hdrains, hparty⟩

theorem handleData_receives (cb : ArqCallbacks) {header : DataHeader} {payload : List UInt8}
    (now : UInt32) (h : e.Valid) (hvalid : validateDataHeader header)
    (hlen : payload.length = header.payloadLen.toNat) :
    Receives cb header payload e (e.handleData cb header payload now) := by
  rw [handleData]
  split
  · next stored hstored =>
    have hsame := count_same e fun c => { c with duplicateSuppressed := c.duplicateSuppressed + 1 }
    obtain ⟨credits, hfollows⟩ := queueFailureAck_spec cb header.datagramId stored.fragmentBitmap
      stored.failure now .duplicate (hsame.valid h)
    obtain ⟨hv, evs, hevents, rfl, hparty⟩ := hfollows.same_left hsame
    exact ⟨hv, _, hevents, _, .duplicate _ stored credits hstored, fun _ => .queue _ _, hparty⟩
  · next hmiss =>
    have hnew : ¬ e.receiver.window.Has header.datagramId := DuplicateWindow.not_has_of_find hmiss
    split
    · next j hfind =>
      obtain ⟨r, hr, hid⟩ := findRxSlot_some hfind
      by_cases hlength : r.length = header.datagramLength
      · exact acceptData_held cb now h hr ⟨hid, hlength⟩ hvalid hlen hnew
      · exact acceptData_mismatch cb now h hr hid hlength hvalid hlen hnew
    · next hfind =>
      have hothers : ∀ k r, e.receiver.slots k = some r → r.id ≠ header.datagramId :=
        fun k r => findRxSlot_none hfind
      rw [allocateRxSlot]
      cases hslot : (List.finRange 4).find? fun j => ¬ (e.rxSlots j).active with
      | some j =>
        obtain ⟨hempty, _⟩ := find_finRange_eq_some hslot
        obtain ⟨pool, lease, hacquire, hreceives⟩ := acceptData_fresh cb (j := j) now h
          (by simpa using hempty) hothers hvalid hlen hnew
        simp only [hacquire]
        exact hreceives
      | none =>
        dsimp only
        have hsame := count_same e fun c => { c with saturation := c.saturation + 1 }
        obtain ⟨credits, hfollows⟩ := queueFailureAck_spec cb header.datagramId 0
          .allocationFailure now .refused (hsame.valid h)
        obtain ⟨hv, evs, hevents, rfl, hparty⟩ :=
          (hfollows.same_left hsame).same_right (count_same _ fun c =>
            { c with allocationFailure := c.allocationFailure + 1 })
        refine ⟨hv, _, hevents, _, .noSlot _ credits hnew fun k => ?_, fun _ => .queue _ _, hparty⟩
        have hfull := List.find?_eq_none.mp hslot k (List.mem_finRange k)
        have hactive : (e.rxSlots k).active := by simpa using hfull
        exact ⟨_, receiver_slot hactive, hothers k _ (receiver_slot hactive)⟩

end Exec

end FlrcTnc.Arq
