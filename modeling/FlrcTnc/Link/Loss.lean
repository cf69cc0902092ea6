import FlrcTnc.Link.Integrity

/-! No acknowledged loss: what the sender knows to have arrived stands in a reassembly of the
receiver, as long as the datagram is not delivered.  So the last bits come only after delivery. -/

namespace FlrcTnc

open Framing Arq Mask

namespace Link

/-- The datagram in the slot was delivered since it was accepted. -/
def Arrived (log : List Fate) (i : Fin 4) (t : Outgoing) : Prop :=
  .delivered t.id t.data ∈ since i log

instance (log : List Fate) (i : Fin 4) (t : Outgoing) : Decidable (Arrived log i t) :=
  inferInstanceAs (Decidable (_ ∈ _))

theorem NoAcknowledgedLoss.nil : NoAcknowledgedLoss [] := fun past i rest h => by simp at h

theorem NoAcknowledgedLoss.snoc {log : List Fate} {fate : Fate} (h : NoAcknowledgedLoss log)
    (hfate : ∀ i, fate = .completed i →
      ∃ id data, occupant i log = some (id, data) ∧ .delivered id data ∈ since i log) :
    NoAcknowledgedLoss (log ++ [fate]) := by
  have halways : Trace.Always (fun past fate => ∀ i, fate = .completed i →
      ∃ id data, occupant i past = some (id, data) ∧ .delivered id data ∈ since i past)
      (log ++ [fate]) := by
    refine Trace.always_append (fun past fate rest hsplit i hcompleted => ?_)
      (Trace.always_singleton.mpr (by rwa [List.append_nil]))
    subst hcompleted
    exact h past i rest hsplit
  exact fun past i rest hsplit => halways past _ rest hsplit i rfl

end Link

namespace Flow

open Link

/-- An acknowledged bit of the datagram: the sender has it, or an ACK brings it. -/
def Known (f : Flow) (t : Outgoing) (k : Nat) : Prop :=
  hasBit t.acked k ∨ ∃ ack ∈ f.receiver.pending ++ f.acks, ack.datagramId = t.id ∧
    ack.failure ≠ .creditWithdrawal ∧ hasBit ack.fragmentBitmap k

/-- The acknowledged bits are those of fragments at the receiver, and one is missing. -/
structure Partial (f : Flow) (t : Outgoing) : Prop where
  bits : ∀ k, f.Known t k → ∃ j r, f.receiver.slots j = some r ∧ r.id = t.id ∧ hasBit r.bits k
  missing : ∃ k < fragments t.data.length, ¬ f.Known t k

/-- The flow is about no other datagram with the id of `t`, and until `t` has arrived, some fragment
of it is not acknowledged.  What `arrived` means is left open. -/
structure Honest (arrived : Prop) (f : Flow) (t : Outgoing) : Prop where
  frames : ∀ frame ∈ f.data, frame.1.datagramId = t.id → PieceOf t.data frame
  slots : ∀ j r, f.receiver.slots j = some r → r.id = t.id → r.Holds t.data
  window : f.receiver.window.Has t.id → arrived
  acked : arrived ∨ f.Partial t

/-- Nothing is left of an earlier datagram with the id. -/
structure Free (receiver : Receiver) (data : List DataFrame) (acks : List AckFrame) (id : UInt16) :
    Prop where
  frames : ∀ frame ∈ data, frame.1.datagramId ≠ id
  slots : ∀ j, ∀ r ∈ receiver.slots j, r.id ≠ id
  window : ¬ receiver.window.Has id
  acks : ∀ ack ∈ receiver.pending ++ acks, ack.datagramId = id → ack.failure ≠ .creditWithdrawal →
    ack.fragmentBitmap = 0

/-- Nothing of the datagram is acknowledged. -/
def Unacknowledged (acks : List AckFrame) (t : Outgoing) : Prop :=
  t.acked = 0 ∧ ∀ ack ∈ acks, ack.datagramId = t.id → ack.failure ≠ .creditWithdrawal →
    ack.fragmentBitmap = 0

variable {rules : Rules} {f f' : Flow} {arrived arrived' : Prop} {i : Fin 4} {t : Outgoing}

/-- Less in flight, and no new acknowledged bits. -/
theorem Honest.mono (h : f.Honest arrived t) {t' : Outgoing} (harrived : arrived → arrived')
    (hid : t'.id = t.id) (hdata : t'.data = t.data) (hframes : ∀ frame ∈ f'.data, frame ∈ f.data)
    (hslots : f'.receiver.slots = f.receiver.slots)
    (hwindow : f'.receiver.window = f.receiver.window)
    (hknown : ∀ k, f'.Known t' k → f.Known t k) : f'.Honest arrived' t' := by
  refine ⟨fun frame hframe => ?_, fun j r hr => ?_, fun hhas => ?_, ?_⟩
  · rw [hid, hdata]
    exact h.frames frame (hframes frame hframe)
  · rw [hid, hdata]
    rw [hslots] at hr
    exact h.slots j r hr
  · rw [hwindow, hid] at hhas
    exact harrived (h.window hhas)
  · rcases h.acked with ha | hsome
    · exact .inl (harrived ha)
    · refine .inr ⟨fun k hk => ?_, ?_⟩
      · rw [hslots, hid]
        exact hsome.bits k (hknown k hk)
      · rw [hdata]
        obtain ⟨k, hk, hmissing⟩ := hsome.missing
        exact ⟨k, hk, fun hk' => hmissing (hknown k hk')⟩

/-- The sending half goes on. -/
theorem Honest.sender (h : f.Honest arrived t) {s : Sender} {log : List Fate} {t' : Outgoing}
    (harrived : arrived → arrived') (hid : t'.id = t.id) (hdata : t'.data = t.data)
    (hknown : ∀ k, f.Known t' k → f.Known t k) :
    Honest arrived' { f with sender := s, log := log } t' :=
  h.mono harrived hid hdata (fun _ hframe => hframe) rfl rfl hknown

/-- A datagram that is opened with a free id. -/
theorem Honest.openSlot (hfits : t.Fits) (hfree : Free f.receiver f.data f.acks t.id) :
    Honest arrived { f with
      sender := f.sender.setSlot i (some { t with opened := true, acked := 0 }) }
      { t with opened := true, acked := 0 } := by
  have hknown (k : Nat) : ¬ Known { f with
      sender := f.sender.setSlot i (some { t with opened := true, acked := 0 }) }
      { t with opened := true, acked := 0 } k := by
    rintro (hk | ⟨ack, hack, hid, hfailure, hk⟩)
    · simp at hk
    · rw [hfree.acks ack hack hid hfailure] at hk
      simp at hk
  exact ⟨fun frame hframe hid => absurd hid (hfree.frames frame hframe),
    fun j r hr hid => absurd hid (hfree.slots j r hr), fun hhas => absurd hhas hfree.window,
    .inr ⟨fun k hk => absurd hk (hknown k), 0, fragments_pos hfits.1, hknown 0⟩⟩

/-- The receiver takes a fragment. -/
theorem Honest.take (h : f.Honest arrived t) (harrived : arrived → arrived') {frame : DataFrame}
    (hframe : frame ∈ f.data) (hvalid : validateDataHeader frame.1) {j : Fin 4} {r : Incoming}
    (htakes : f.receiver.Takes frame.1 frame.2 j r) :
    Honest arrived' { f with receiver := f.receiver.setSlot j (some r) } t := by
  refine ⟨h.frames, fun k q hq hid => ?_, fun hhas => harrived (h.window hhas), ?_⟩
  · rcases Receiver.setSlot_eq_some_iff.mp hq with ⟨rfl, hnew⟩ | ⟨_, hold⟩
    · cases hnew
      have hframeId : frame.1.datagramId = t.id := htakes.id_eq.symm.trans hid
      exact htakes.holds (h.frames frame hframe hframeId) hvalid fun q hq hmatches =>
        h.slots k q hq (hmatches.1.trans hframeId)
    · exact h.slots k q hold hid
  · rcases h.acked with ha | hsome
    · exact .inl (harrived ha)
    · refine .inr ⟨fun k hk => ?_, hsome.missing⟩
      obtain ⟨l, q, hq, hid, hbit⟩ := hsome.bits k hk
      by_cases hl : l = j
      · subst hl
        refine ⟨l, r, Receiver.setSlot_eq_some_iff.mpr (.inl ⟨rfl, rfl⟩), ?_⟩
        cases htakes with
        | held p hp hmatches =>
          cases hp.symm.trans hq
          refine ⟨hid, ?_⟩
          rw [Incoming.add, hasBit_or, hbit, Bool.true_or]
        | fresh buffer hempty hnew =>
          rw [hq] at hempty
          cases hempty
      · exact ⟨l, q, Receiver.setSlot_eq_some_iff.mpr (.inr ⟨hl, hq⟩), hid, hbit⟩

/-- What a newly queued ACK adds to the acknowledged bits. -/
theorem known_queue (ack : AckFrame) {k : Nat}
    (h : Known { f with receiver := f.receiver.queue ack } t k) :
    f.Known t k ∨ (ack.datagramId = t.id ∧ ack.failure ≠ .creditWithdrawal ∧
      hasBit ack.fragmentBitmap k) := by
  rcases h with hk | ⟨a, ha, hid, hfailure, hk⟩
  · exact .inl (.inl hk)
  · rcases List.mem_append.mp ha with ha | ha
    · rcases mem_of_mem_enqueue ha with rfl | hold
      · exact .inr ⟨hid, hfailure, hk⟩
      · exact .inl (.inr ⟨a, List.mem_append_left _ hold, hid, hfailure, hk⟩)
    · exact .inl (.inr ⟨a, List.mem_append_right _ ha, hid, hfailure, hk⟩)

/-- The receiver queues an ACK. -/
theorem Honest.queue (h : f.Honest arrived t) (harrived : arrived → arrived') (hbase : f.Base)
    (hfits : t.Fits) {ack : AckFrame} (hqueues : f.Queues ack) :
    Honest arrived' { f with receiver := f.receiver.queue ack } t := by
  have hquiet (hno : ∀ k, ¬ (ack.datagramId = t.id ∧ ack.failure ≠ .creditWithdrawal ∧
      hasBit ack.fragmentBitmap k)) :
      Honest arrived' { f with receiver := f.receiver.queue ack } t :=
    h.mono harrived rfl rfl (fun _ hframe => hframe) rfl rfl fun k hk =>
      (known_queue _ hk).resolve_right (hno k)
  have hwindow (hhas : f.receiver.window.Has t.id) : arrived' := harrived (h.window hhas)
  cases hqueues with
  | duplicate id stored credits hstored =>
    by_cases hid : id = t.id
    · subst hid
      exact ⟨h.frames, h.slots, hwindow, .inl (hwindow (DuplicateWindow.has_of_find hstored))⟩
    · exact hquiet fun k ⟨hsame, _⟩ => hid hsame
  | refused frame hframe credits hnew hfull =>
    exact hquiet fun k ⟨_, _, hbit⟩ => by simp at hbit
  | mismatch frame hframe j r credits hr hid hlength =>
    refine hquiet fun k ⟨hsame, _⟩ => hlength (UInt16.toNat_inj.mp ?_)
    rw [(h.slots j r hr (hid.trans hsame)).length, (h.frames frame hframe hsame).1]
  | partly j r credits hr hpart =>
    by_cases hid : r.id = t.id
    · refine ⟨h.frames, h.slots, hwindow, ?_⟩
      rcases h.acked with ha | hsome
      · exact .inl (harrived ha)
      -- the bits of the new ACK are those of the reassembly, which misses one
      have hbits (k : Nat) (hk : Known { f with
          receiver := f.receiver.queue ⟨r.id, r.bits, credits, .none⟩ } t k) : hasBit r.bits k := by
        rcases known_queue _ hk with hold | ⟨_, _, hbit⟩
        · obtain ⟨l, q, hq, hqid, hbit⟩ := hsome.bits k hold
          obtain rfl := hbase.receiver.distinct hq hr (hqid.trans hid.symm)
          cases hq.symm.trans hr
          exact hbit
        · exact hbit
      refine .inr ⟨fun k hk => ⟨j, r, hr, hid, hbits k hk⟩, ?_⟩
      have hlength := (h.slots j r hr hid).length
      rw [Incoming.Complete, hlength, not_covers_fullMask_iff hfits.2] at hpart
      obtain ⟨k, hk, hmissing⟩ := hpart
      refine ⟨k, hk, fun hknown => ?_⟩
      rw [hbits k hknown] at hmissing
      cases hmissing
    · exact hquiet fun k ⟨hsame, _⟩ => hid hsame
  | withdrawal j r hr hcomplete => exact hquiet fun k ⟨_, hfailure, _⟩ => hfailure rfl

/-- A datagram is delivered. -/
theorem Honest.deliver (h : f.Honest arrived t) (harrived : arrived → arrived') (hbase : f.Base)
    {j : Fin 4} {r : Incoming} (hr : f.receiver.slots j = some r) (hcomplete : r.Complete)
    (hdelivered : r.id = t.id → r.content = t.data → arrived') (stored credits : UInt8)
    (log : List Fate) :
    Honest arrived' { f with receiver := f.receiver.finish j r stored credits, log := log } t := by
  by_cases hid : r.id = t.id
  · have hcontent := (h.slots j r hr hid).content_eq (hbase.receiver.fits hr) hcomplete
    have hnow := hdelivered hid hcontent
    exact ⟨h.frames, fun k q hq => h.slots k q (Slots.of_update_none hq).2, fun _ => hnow,
      .inl hnow⟩
  · refine ⟨h.frames, fun k q hq => h.slots k q (Slots.of_update_none hq).2, fun hhas => ?_, ?_⟩
    · rcases DuplicateWindow.has_of_store hhas with hsame | hold
      · exact absurd hsame.symm hid
      · exact harrived (h.window hold)
    · rcases h.acked with ha | hsome
      · exact .inl (harrived ha)
      · have hknown (k : Nat) (hk : Known { f with
            receiver := f.receiver.finish j r stored credits, log := log } t k) : f.Known t k :=
          (known_queue (Receiver.finalAck r credits) hk).resolve_right
            fun ⟨hsame, _⟩ => hid hsame
        refine .inr ⟨fun k hk => ?_, ?_⟩
        · obtain ⟨l, q, hq, hqid, hbit⟩ := hsome.bits k (hknown k hk)
          refine ⟨l, q, Slots.update_eq_some_iff.mpr (.inr ⟨?_, hq⟩), hqid, hbit⟩
          rintro rfl
          cases hq.symm.trans hr
          exact hid hqid
        · obtain ⟨k, hk, hmissing⟩ := hsome.missing
          exact ⟨k, hk, fun hk' => hmissing (hknown k hk')⟩

/-- The receiver loses its state. -/
theorem Honest.resetR (h : f.Honest arrived t) (harrived : arrived → arrived') (hfits : t.Fits)
    (hrules : ¬ arrived → Unacknowledged f.acks t) :
    Honest arrived' { f with receiver := ⟨fun _ => none, {}, []⟩ } t := by
  refine ⟨h.frames, fun j r hr => ?_, fun hhas => ?_, ?_⟩
  · cases hr
  · exact absurd hhas (DuplicateWindow.not_has_empty _)
  · by_cases ha : arrived
    · exact .inl (harrived ha)
    · obtain ⟨hacked, hacks⟩ := hrules ha
      have hknown (k : Nat) : ¬ Known { f with receiver := ⟨fun _ => none, {}, []⟩ } t k := by
        rintro (hk | ⟨ack, hack, hid, hfailure, hk⟩)
        · rw [hacked, hasBit_zero] at hk
          cases hk
        · rw [hacks ack hack hid hfailure, hasBit_zero] at hk
          cases hk
      exact .inr ⟨fun k hk => absurd hk (hknown k), 0, fragments_pos hfits.1, hknown 0⟩

/-- By the ACK that completes it, the datagram has arrived. -/
theorem Honest.arrived_of_complete (h : f.Honest arrived t) (hfits : t.Fits) {ack : AckFrame}
    (hack : ack ∈ f.acks) (hid : t.id = ack.datagramId) (hfailure : ack.failure = .none)
    (hall : { t with acked := t.acked ||| ack.fragmentBitmap }.AllAcked) : arrived := by
  rcases h.acked with ha | hsome
  · exact ha
  · obtain ⟨k, hk, hmissing⟩ := hsome.missing
    have hbit := (covers_fullMask_iff hfits.2).mp hall k hk
    rw [hasBit_or, Bool.or_eq_true] at hbit
    refine absurd ?_ hmissing
    rcases hbit with hbit | hbit
    · exact .inl hbit
    · exact .inr ⟨ack, List.mem_append_right _ hack, hid.symm, by rw [hfailure]; decide, hbit⟩

/-- The flow stays honest about the open datagram, for any notion of arrival that a delivery brings
about and that lasts. -/
theorem honest_step {A : Flow → Fin 4 → Outgoing → Prop}
    (h : ∀ i t, f.sender.Open i t → f.Honest (A f i t) t) (hbase : f.Base)
    (hstep : Step rules f f')
    (hlasts : ∀ i t t', f.sender.Open i t → f'.sender.slots i = some t' → t'.id = t.id →
      t'.data = t.data → A f i t → A f' i t')
    (hopen : ∀ i t, f.sender.slots i = some t → ¬ t.opened →
      rules.opens f.receiver f.data f.acks t → Free f.receiver f.data f.acks t.id)
    (hdeliver : ∀ i t j r stored credits, f.sender.Open i t → f.receiver.slots j = some r →
      r.id = t.id → r.content = t.data → rules.delivers f.sender f.receiver.window f.data r.id →
      A { f with
        receiver := f.receiver.finish j r stored credits
        log := f.log ++ [.delivered r.id r.content] } i t)
    (hreset : rules.resetsR f → ∀ i t, f.sender.Open i t → ¬ A f i t →
      Unacknowledged f.acks t) :
    ∀ i t, f'.sender.Open i t → f'.Honest (A f' i t) t := by
  have hfits {i : Fin 4} {t : Outgoing} (ht : f.sender.Open i t) : t.Fits := hbase.sender.fits ht.1
  have hsame {i : Fin 4} {t : Outgoing} (ht : f.sender.Open i t)
      (ht' : f'.sender.slots i = some t) : A f i t → A f' i t :=
    hlasts i t t ht ht' rfl rfl
  cases hstep with
  | accept i data hpos hmax hempty =>
    intro k u hu
    rcases Sender.setSlot_eq_some_iff.mp hu.1 with ⟨_, hnew⟩ | ⟨_, hold⟩
    · cases hnew
      cases hu.2
    · exact (h k u ⟨hold, hu.2⟩).sender (hsame ⟨hold, hu.2⟩ hu.1) rfl rfl fun _ hk => hk
  | openSlot i t ht hnone hrules =>
    intro k u hu
    obtain ⟨rfl, rfl⟩ := Sender.open_setSlot hnone hu
    exact Honest.openSlot (hbase.sender.fits ht) (hopen k t ht (hnone k t ht) hrules)
  | send i t ht frame hcarries =>
    intro k u hu
    have hhonest := h k u hu
    have harrived := hsame hu hu.1
    refine ⟨fun frame' hframe hid => ?_, hhonest.slots, fun hhas => harrived (hhonest.window hhas),
      hhonest.acked.imp harrived fun hsome => ⟨hsome.bits, hsome.missing⟩⟩
    rcases List.mem_append.mp hframe with hframe | hframe
    · exact hhonest.frames frame' hframe hid
    · obtain rfl := hbase.sender.one_open ht hu
      cases ht.1.symm.trans hu.1
      rw [List.mem_singleton.mp hframe]
      exact ⟨hcarries.length, hcarries.payload⟩
  | fail i | complete i =>
    intro k u hu
    have hold : f.sender.Open k u := ⟨(Slots.of_update_none hu.1).2, hu.2⟩
    exact (h k u hold).sender (hsame hold hu.1) rfl rfl fun _ hk => hk
  | withdraw i t ht ack hack hid hfailure =>
    intro k u hu
    rcases Sender.setSlot_eq_some_iff.mp hu.1 with ⟨rfl, hnew⟩ | ⟨_, hold⟩
    · cases hnew
      refine (h k t ht).sender (hlasts k t _ ht hu.1 rfl rfl) rfl rfl fun n hn => ?_
      rcases hn with hn | hn
      · rw [hasBit_and, Bool.and_eq_true] at hn
        exact .inl hn.1
      · exact .inr hn
    · exact (h k u ⟨hold, hu.2⟩).sender (hsame ⟨hold, hu.2⟩ hu.1) rfl rfl fun _ hk => hk
  | add i t ht ack hack hid hfailure =>
    intro k u hu
    rcases Sender.setSlot_eq_some_iff.mp hu.1 with ⟨rfl, hnew⟩ | ⟨_, hold⟩
    · cases hnew
      refine (h k t ht).sender (hlasts k t _ ht hu.1 rfl rfl) rfl rfl fun n hn => ?_
      rcases hn with hn | hn
      · rw [hasBit_or, Bool.or_eq_true] at hn
        rcases hn with hn | hn
        · exact .inl hn
        · exact .inr ⟨ack, List.mem_append_right _ hack, hid.symm, hfailure, hn⟩
      · exact .inr hn
    · exact (h k u ⟨hold, hu.2⟩).sender (hsame ⟨hold, hu.2⟩ hu.1) rfl rfl fun _ hk => hk
  | take frame hframe j r hnew htakes =>
    exact fun k u hu => (h k u hu).take (hsame hu hu.1) hframe (hbase.frames frame hframe).1 htakes
  | queue ack hqueues =>
    exact fun k u hu => (h k u hu).queue (hsame hu hu.1) hbase (hfits hu) hqueues
  | deliver j r hr hcomplete stored credits hrules =>
    exact fun k u hu => (h k u hu).deliver (hsame hu hu.1) hbase hr hcomplete
      (fun hid hcontent => hdeliver k u j r stored credits hu hr hid hcontent hrules)
        stored credits _
  | sendAck ack rest hpending =>
    refine fun k u hu => (h k u hu).mono (hsame hu hu.1) rfl rfl (fun _ hframe => hframe) rfl rfl
      fun n hn => ?_
    rcases hn with hn | ⟨a, ha, hrest⟩
    · exact .inl hn
    · refine .inr ⟨a, ?_, hrest⟩
      rw [hpending]
      exact mem_of_mem_sendAck ha
  | drop data acks hdata hacks =>
    refine fun k u hu => (h k u hu).mono (hsame hu hu.1) rfl rfl
      (fun _ hframe => hdata.subset hframe) rfl rfl fun n hn => ?_
    rcases hn with hn | ⟨a, ha, hrest⟩
    · exact .inl hn
    · refine .inr ⟨a, ?_, hrest⟩
      rcases List.mem_append.mp ha with ha | ha
      · exact List.mem_append_left _ ha
      · exact List.mem_append_right _ (hacks.subset ha)
  | resetS nextId hrules =>
    intro k u hu
    cases hu.1
  | resetR hrules =>
    exact fun k u hu => (h k u hu).resetR (hsame hu hu.1) (hfits hu) (hreset hrules k u hu)

/-- What was delivered of the datagram in a slot stays so while it is there. -/
theorem arrived_lasts (hstep : Step rules f f') {t' : Outgoing} (ht : f.sender.Open i t)
    (hid : t'.id = t.id) (hdata : t'.data = t.data) (h : Arrived f.log i t) :
    Arrived f'.log i t' := by
  rw [Arrived, hid, hdata]
  cases hstep with
  | accept k data hpos hmax hempty =>
    have hne : k ≠ i := by
      rintro rfl
      cases hempty.symm.trans ht.1
    rw [since_accepted, if_neg hne]
    exact List.mem_append_left _ h
  | complete k =>
    rw [since_completed]
    exact List.mem_append_left _ h
  | deliver j r =>
    rw [since_delivered]
    exact List.mem_append_left _ h
  | openSlot | send | fail | withdraw | add | take | queue | sendAck | drop | resetS | resetR =>
    exact h

/-- The flow is honest about the open datagram, and the log records no acknowledged loss. -/
structure Lossless (f : Flow) : Prop where
  opened : ∀ i t, f.sender.Open i t → f.Honest (Arrived f.log i t) t
  log : NoAcknowledgedLoss f.log

theorem Lossless.empty (nextId : UInt16) : Lossless (.empty nextId) := by
  refine ⟨fun i t ht => ?_, .nil⟩
  cases ht.1

/-- What the loss of the receiver's state must not meet: a datagram that is open and not delivered,
of which something is acknowledged. -/
def NothingToLose (f : Flow) : Prop :=
  ∀ i, ∀ t ∈ f.sender.slots i, t.opened → ¬ Arrived f.log i t → Unacknowledged f.acks t

theorem Lossless.step (h : f.Lossless) (hbase : f.Base) (hstep : Step rules f f')
    (hopen : ∀ i t, f.sender.slots i = some t → ¬ t.opened →
      rules.opens f.receiver f.data f.acks t → Free f.receiver f.data f.acks t.id)
    (hreset : rules.resetsR f → f.NothingToLose) : f'.Lossless := by
  refine ⟨honest_step (A := fun f i t => Arrived f.log i t) h.opened hbase hstep
    (fun i t t' ht _ hid hdata => arrived_lasts hstep ht hid hdata) hopen
    (fun i t j r stored credits ht hr hid hcontent _ => ?_)
    (fun hrules i t ht => hreset hrules i t ht.1 ht.2), ?_⟩
  · rw [Arrived, since_delivered, ← hid, ← hcontent]
    exact List.mem_append_right _ (List.mem_singleton_self _)
  · cases hstep with
    | accept | deliver => exact h.log.snoc fun _ hfate => by cases hfate
    | complete i t ht ack hack hid hfailure hall =>
      refine h.log.snoc fun k hfate => ?_
      cases hfate
      exact ⟨t.id, t.data, hbase.occupants i t ht.1,
        (h.opened i t ht).arrived_of_complete (hbase.sender.fits ht.1) hack hid hfailure hall⟩
    | openSlot | send | fail | withdraw | add | take | queue | sendAck | drop | resetS | resetR =>
      exact h.log

instance (receiver : Receiver) (data : List DataFrame) (acks : List AckFrame) (id : UInt16) :
    Decidable (Free receiver data acks id) :=
  decidable_of_iff ((∀ frame ∈ data, frame.1.datagramId ≠ id) ∧
      (∀ j, ∀ r ∈ receiver.slots j, r.id ≠ id) ∧ ¬ receiver.window.Has id ∧
      ∀ ack ∈ receiver.pending ++ acks, ack.datagramId = id → ack.failure ≠ .creditWithdrawal →
        ack.fragmentBitmap = 0)
    ⟨fun ⟨hframes, hslots, hwindow, hacks⟩ => ⟨hframes, hslots, hwindow, hacks⟩,
      fun h => ⟨h.frames, h.slots, h.window, h.acks⟩⟩

instance (acks : List AckFrame) (t : Outgoing) : Decidable (Unacknowledged acks t) :=
  inferInstanceAs (Decidable (_ ∧ _))

instance (f : Flow) : Decidable f.NothingToLose :=
  inferInstanceAs (Decidable (∀ i, ∀ t ∈ f.sender.slots i, _))

end Flow

/-! ### Runs -/

namespace Link

/-- A datagram that is opened finds nothing of an earlier one with its id, and `r` is not reset
while something of an open datagram is acknowledged that it did not deliver. -/
def freshIds : Flow.Rules where
  opens receiver data acks t := Flow.Free receiver data acks t.id
  resetsR f := f.NothingToLose

instance : freshIds.Decides where
  opens receiver data acks t := inferInstanceAs (Decidable (Flow.Free receiver data acks t.id))
  fails _ _ _ := instDecidableTrue
  delivers _ _ _ _ := instDecidableTrue
  resetsS := instDecidableTrue
  resetsR f := inferInstanceAs (Decidable f.NothingToLose)

/-- If `s` opens only datagrams with a free id, and `r` is reset only while nothing undelivered is
acknowledged, whatever `s` completes was delivered since it was accepted. -/
theorem noAcknowledgedLoss_of_freshIds (s r : ArqConfig) (moves : List Move)
    (hkeeps : (start s r).Keeps freshIds .fifo moves) :
    NoAcknowledgedLoss ((start s r).after .fifo moves).log := by
  have hrun := run_invariant (P := fun f => f.Base ∧ f.Lossless)
    (fun hf hstep => ⟨hf.1.step hstep,
      hf.2.step hf.1 hstep (fun _ _ _ _ hrules => hrules) fun hrules => hrules⟩)
    (start_valid s r) moves hkeeps ⟨.empty _, .empty _⟩
  exact hrun.2.log

/-- A datagram arrives and is completed; `r` is reset, and another datagram arrives. -/
def freshMoves : List Move :=
  [.submit .s (some [1, 2]), .tick .s openCallbacks 0, .receive .r 0 openCallbacks 0,
    .tick .r openCallbacks 0, .receive .s 0 openCallbacks 0, .reset .r, .submit .s (some [3]),
    .tick .s openCallbacks 0, .receive .r 0 openCallbacks 0, .tick .r openCallbacks 0,
    .receive .s 0 openCallbacks 0]

set_option maxRecDepth 100000 in
theorem noAcknowledgedLoss_freshMoves :
    NoAcknowledgedLoss ((start {} {}).after .fifo freshMoves).log :=
  noAcknowledgedLoss_of_freshIds {} {} freshMoves (by decide +kernel)

/-- The second of two fragments arrives and is acknowledged, `r` is reset, and then the first one
arrives and is acknowledged. -/
def losingMoves : List Move :=
  [.submit .s (some (List.replicate 116 7)), .tick .s openCallbacks 0, .tick .s openCallbacks 0,
    .lose .r 0, .receive .r 0 openCallbacks 0, .tick .r openCallbacks 0,
    .receive .s 0 openCallbacks 0, .reset .r, .tick .s openCallbacks 8,
    .receive .r 0 openCallbacks 8, .tick .r openCallbacks 8, .receive .s 0 openCallbacks 8]

set_option maxRecDepth 100000 in
theorem losingMoves_log : ((start {} {}).after .fifo losingMoves).log =
    [.accepted 0 0 (List.replicate 116 7), .completed 0] := by
  decide +kernel

theorem not_noAcknowledgedLoss : ¬ ∀ (s r : ArqConfig) (moves : List Move),
    NoAcknowledgedLoss ((start s r).after .fifo moves).log := by
  intro h
  obtain ⟨id, data, _, hmem⟩ := h {} {} losingMoves [.accepted 0 0 (List.replicate 116 7)] 0 []
    losingMoves_log
  cases hmem

end Link

end FlrcTnc
