import FlrcTnc.Link.Loss

/-! Without resets, and as long as the ids last, a datagram that is opened finds nothing of an
earlier one: no id is given twice, and no id is in use before its datagram is opened.  So nothing is
lost that was acknowledged, on any channel. -/

namespace FlrcTnc

open Framing Arq

namespace Link

theorem acceptedIds_append (log log' : List Fate) :
    acceptedIds (log ++ log') = acceptedIds log ++ acceptedIds log' := List.filterMap_append ..

theorem deliveredIds_append (log log' : List Fate) :
    deliveredIds (log ++ log') = deliveredIds log ++ deliveredIds log' := List.filterMap_append ..

end Link

namespace Flow

open Link

/-- The id is found outside the sender. -/
inductive Uses (f : Flow) (id : UInt16) : Prop
  | frame (h : InFlight f.data id)
  | slot (j : Fin 4) (r : Incoming) (hr : f.receiver.slots j = some r) (hid : r.id = id)
  | window (h : f.receiver.window.Has id)
  | ack (ack : AckFrame) (hack : ack ∈ f.receiver.pending ++ f.acks) (hid : ack.datagramId = id)
  | delivered (h : id ∈ deliveredIds f.log)

/-- The ids count up from `initial`, and those not yet opened are nowhere in use. -/
structure Fresh (initial : UInt16) (f : Flow) : Prop where
  ids : acceptedIds f.log =
    (List.range (acceptedIds f.log).length).map fun k => initial + UInt16.ofNat k
  next : f.sender.nextId = initial + UInt16.ofNat (acceptedIds f.log).length
  slots : ∀ i t, f.sender.slots i = some t → t.id ∈ acceptedIds f.log
  distinct : ∀ i k t u, f.sender.slots i = some t → f.sender.slots k = some u → t.id = u.id → i = k
  used : ∀ id, f.Uses id → id ∈ acceptedIds f.log
  queued : ∀ i t, f.sender.slots i = some t → ¬ t.opened → ¬ f.Uses t.id

variable {rules : Rules} {f f' : Flow} {initial : UInt16}

theorem not_uses_empty (nextId id : UInt16) : ¬ Uses (.empty nextId) id := by
  rintro (⟨frame, hframe, _⟩ | ⟨j, r, hr, _⟩ | h | ⟨ack, hack, _⟩ | h)
  · cases hframe
  · cases hr
  · exact DuplicateWindow.not_has_empty id h
  · cases hack
  · cases h

theorem Fresh.empty (initial : UInt16) : Fresh initial (.empty initial) where
  ids := rfl
  next := (UInt16.add_zero initial).symm
  slots i t ht := by cases ht
  distinct i k t u ht := by cases ht
  used id h := absurd h (not_uses_empty initial id)
  queued i t ht := by cases ht

/-- A queued ACK has an id that was in use. -/
theorem Queues.uses {ack : AckFrame} (h : f.Queues ack) : f.Uses ack.datagramId := by
  cases h with
  | duplicate id stored credits hstored => exact .window (DuplicateWindow.has_of_find hstored)
  | refused frame hframe | mismatch frame hframe => exact .frame ⟨frame, hframe, rfl⟩
  | partly j r credits hr => exact .slot j r hr rfl
  | withdrawal j r hr => exact .slot j r hr rfl

theorem uses_queue {ack : AckFrame} {id : UInt16}
    (h : Uses { f with receiver := f.receiver.queue ack } id) :
      f.Uses id ∨ ack.datagramId = id := by
  cases h with
  | frame h => exact .inl (.frame h)
  | slot j r hr hid => exact .inl (.slot j r hr hid)
  | window h => exact .inl (.window h)
  | ack a ha hid =>
    rcases List.mem_append.mp ha with ha | ha
    · rcases mem_of_mem_enqueue ha with rfl | hold
      · exact .inr hid
      · exact .inl (.ack a (List.mem_append_left _ hold) hid)
    · exact .inl (.ack a (List.mem_append_right _ ha) hid)
  | delivered h => exact .inl (.delivered h)

/-- The sender and what the log says about it do not matter. -/
theorem Uses.of_sender {sender : Sender} {log : List Fate} {id : UInt16}
    (h : Uses { f with sender := sender, log := log } id)
    (hlog : deliveredIds log = deliveredIds f.log) : f.Uses id := by
  cases h with
  | frame h => exact .frame h
  | slot j r hr hid => exact .slot j r hr hid
  | window h => exact .window h
  | ack a ha hid => exact .ack a ha hid
  | delivered h => exact .delivered (hlog ▸ h)

/-- Only an open datagram brings its id into use. -/
theorem uses_step {id : UInt16} (hstep : Step rules f f') (h : f'.Uses id) :
    f.Uses id ∨ ∃ i t, f.sender.Open i t ∧ t.id = id := by
  cases hstep with
  | accept i data hpos hmax hempty =>
    exact .inl (h.of_sender (by rw [deliveredIds_append]; exact List.append_nil _))
  | complete i t ht ack hack hid hfailure hall =>
    exact .inl (h.of_sender (by rw [deliveredIds_append]; exact List.append_nil _))
  | openSlot | fail | withdraw | add | resetS => exact .inl (h.of_sender rfl)
  | send i t ht frame hcarries =>
    cases h with
    | frame h =>
      obtain ⟨frame', hframe, hid⟩ := h
      rcases List.mem_append.mp hframe with hframe | hframe
      · exact .inl (.frame ⟨frame', hframe, hid⟩)
      · rw [List.mem_singleton.mp hframe, hcarries.id] at hid
        exact .inr ⟨i, t, ht, hid⟩
    | slot j r hr hid => exact .inl (.slot j r hr hid)
    | window h => exact .inl (.window h)
    | ack a ha hid => exact .inl (.ack a ha hid)
    | delivered h => exact .inl (.delivered h)
  | take frame hframe j r hnew htakes =>
    refine .inl ?_
    cases h with
    | frame h => exact .frame h
    | slot k q hq hid =>
      rcases Receiver.setSlot_eq_some_iff.mp hq with ⟨rfl, hnew⟩ | ⟨_, hold⟩
      · cases hnew
        exact .frame ⟨frame, hframe, htakes.id_eq.symm.trans hid⟩
      · exact .slot k q hold hid
    | window h => exact .window h
    | ack a ha hid => exact .ack a ha hid
    | delivered h => exact .delivered h
  | queue ack hqueues =>
    rcases uses_queue h with h | rfl
    · exact .inl h
    · exact .inl hqueues.uses
  | deliver j r hr hcomplete stored credits hrules =>
    refine .inl ?_
    cases h with
    | frame h => exact .frame h
    | slot k q hq hid => exact .slot k q (Slots.of_update_none hq).2 hid
    | window h =>
      rcases DuplicateWindow.has_of_store h with rfl | hold
      · exact .slot j r hr rfl
      · exact .window hold
    | ack a ha hid =>
      rcases List.mem_append.mp ha with ha | ha
      · rcases mem_of_mem_enqueue ha with rfl | hold
        · exact .slot j r hr hid
        · exact .ack a (List.mem_append_left _ hold) hid
      · exact .ack a (List.mem_append_right _ ha) hid
    | delivered h =>
      rw [deliveredIds_append] at h
      rcases List.mem_append.mp h with h | h
      · exact .delivered h
      · exact .slot j r hr (List.mem_singleton.mp h).symm
  | sendAck ack rest hpending =>
    refine .inl ?_
    cases h with
    | frame h => exact .frame h
    | slot k q hq hid => exact .slot k q hq hid
    | window h => exact .window h
    | ack a ha hid =>
      refine .ack a ?_ hid
      rw [hpending]
      exact mem_of_mem_sendAck ha
    | delivered h => exact .delivered h
  | drop data acks hdata hacks =>
    refine .inl ?_
    cases h with
    | frame h =>
      obtain ⟨frame, hframe, hid⟩ := h
      exact .frame ⟨frame, hdata.subset hframe, hid⟩
    | slot k q hq hid => exact .slot k q hq hid
    | window h => exact .window h
    | ack a ha hid =>
      refine .ack a ?_ hid
      rcases List.mem_append.mp ha with ha | ha
      · exact List.mem_append_left _ ha
      · exact List.mem_append_right _ (hacks.subset ha)
    | delivered h => exact .delivered h
  | resetR hrules =>
    refine .inl ?_
    cases h with
    | frame h => exact .frame h
    | slot k q hq hid => cases hq
    | window h => exact absurd h (DuplicateWindow.not_has_empty id)
    | ack a ha hid => exact .ack a (List.mem_append_right _ ha) hid
    | delivered h => exact .delivered h

/-- A step that accepts nothing: the datagrams are as they were, and what was not open was not. -/
theorem Fresh.keep (h : Fresh initial f) (hstep : Step rules f f')
    (hids : acceptedIds f'.log = acceptedIds f.log) (hnext : f'.sender.nextId = f.sender.nextId)
    (hslots : ∀ i t, f'.sender.slots i = some t →
      ∃ u, f.sender.slots i = some u ∧ t.id = u.id ∧ (¬ t.opened → ¬ u.opened)) :
    Fresh initial f' := by
  refine ⟨hids ▸ h.ids, hids ▸ hnext ▸ h.next, fun i t ht => ?_, fun i k t u ht hu heq => ?_,
    fun id hid => ?_, fun i t ht hqueued huses => ?_⟩
  · obtain ⟨v, hv, hid, _⟩ := hslots i t ht
    rw [hids, hid]
    exact h.slots i v hv
  · obtain ⟨v, hv, hidv, _⟩ := hslots i t ht
    obtain ⟨w, hw, hidw, _⟩ := hslots k u hu
    exact h.distinct i k v w hv hw (hidv.symm.trans (heq.trans hidw))
  · rw [hids]
    rcases uses_step hstep hid with hold | ⟨i, t, ht, rfl⟩
    · exact h.used id hold
    · exact h.slots i t ht.1
  · obtain ⟨v, hv, hid, hopened⟩ := hslots i t ht
    rw [hid] at huses
    rcases uses_step hstep huses with hold | ⟨k, u, hu, heq⟩
    · exact h.queued i v hv (hopened hqueued) hold
    · obtain rfl := h.distinct k i u v hu.1 hv heq
      cases hu.1.symm.trans hv
      exact hopened hqueued hu.2

/-- The next id was not given before. -/
theorem Fresh.next_not_mem (h : Fresh initial f) (hcount : (acceptedIds f.log).length < 65536) :
    f.sender.nextId ∉ acceptedIds f.log := by
  rw [h.ids, h.next]
  intro hmem
  obtain ⟨k, hk, heq⟩ := List.mem_map.mp hmem
  have hlt := List.mem_range.mp hk
  have hsame := UInt16.toNat_inj.mpr ((UInt16.add_right_inj initial).mp heq)
  rw [UInt16.toNat_ofNat', UInt16.toNat_ofNat', Nat.mod_eq_of_lt (by omega),
    Nat.mod_eq_of_lt (by omega)] at hsame
  omega

/-- A datagram is accepted. -/
theorem Fresh.accept (h : Fresh initial f) (hcount : (acceptedIds f.log).length < 65536)
    (i : Fin 4) (data : List UInt8) :
    Fresh initial { f with
      sender := { f.sender.setSlot i (some ⟨false, f.sender.nextId, data, 0⟩) with
        nextId := f.sender.nextId + 1 }
      log := f.log ++ [.accepted i f.sender.nextId data] } := by
  have hnew := h.next_not_mem hcount
  have hids : acceptedIds (f.log ++ [.accepted i f.sender.nextId data]) =
      acceptedIds f.log ++ [f.sender.nextId] := acceptedIds_append ..
  have hslot {k : Fin 4} {t : Outgoing} (ht : (f.sender.setSlot i
      (some ⟨false, f.sender.nextId, data, 0⟩)).slots k = some t) :
      (k = i ∧ t.id = f.sender.nextId) ∨ f.sender.slots k = some t := by
    rcases Sender.setSlot_eq_some_iff.mp ht with ⟨hk, hnew⟩ | ⟨_, hold⟩
    · cases hnew
      exact .inl ⟨hk, rfl⟩
    · exact .inr hold
  have huses {id : UInt16} (hid : Uses { f with
      sender := { f.sender.setSlot i (some ⟨false, f.sender.nextId, data, 0⟩) with
        nextId := f.sender.nextId + 1 }
      log := f.log ++ [.accepted i f.sender.nextId data] } id) : f.Uses id :=
    hid.of_sender (by rw [deliveredIds_append]; exact List.append_nil _)
  refine ⟨?_, ?_, fun k t ht => ?_, fun k l t u ht hu heq => ?_, fun id hid => ?_,
    fun k t ht hqueued hid => ?_⟩
  · rw [hids, List.length_append, List.length_singleton, List.range_succ, List.map_append, ← h.ids,
      h.next]
    rfl
  · change f.sender.nextId + 1 = _
    rw [hids, List.length_append, List.length_singleton, UInt16.ofNat_add, ← UInt16.add_assoc,
      ← h.next]
    rfl
  · rw [hids]
    rcases hslot ht with ⟨_, hid⟩ | hold
    · exact List.mem_append_right _ (List.mem_singleton.mpr hid)
    · exact List.mem_append_left _ (h.slots k t hold)
  · rcases hslot ht with ⟨rfl, hid⟩ | hold
    · rcases hslot hu with ⟨rfl, _⟩ | hold
      · rfl
      · exact absurd (h.slots l u hold) (heq ▸ hid ▸ hnew)
    · rcases hslot hu with ⟨rfl, hid⟩ | hold'
      · exact absurd (h.slots k t hold) (heq ▸ hid ▸ hnew)
      · exact h.distinct k l t u hold hold' heq
  · rw [hids]
    exact List.mem_append_left _ (h.used id (huses hid))
  · rcases hslot ht with ⟨_, hnext⟩ | hold
    · exact hnew (hnext ▸ h.used _ (huses hid))
    · exact h.queued k t hold hqueued (huses hid)

theorem Fresh.step (h : Fresh initial f) (hstep : Step rules f f') (hresets : ¬ rules.resetsS)
    (hcount : (acceptedIds f.log).length < 65536) : Fresh initial f' := by
  have hkeep := h.keep hstep
  have hsame (i : Fin 4) (t : Outgoing) (ht : f.sender.slots i = some t) :
      ∃ u, f.sender.slots i = some u ∧ t.id = u.id ∧ (¬ t.opened → ¬ u.opened) :=
    ⟨t, ht, rfl, id⟩
  cases hstep with
  | accept i data hpos hmax hempty => exact h.accept hcount i data
  | openSlot i t ht hnone hrules =>
    refine hkeep rfl rfl fun k u hu => ?_
    rcases Sender.setSlot_eq_some_iff.mp hu with ⟨rfl, hnew⟩ | ⟨_, hold⟩
    · cases hnew
      exact ⟨t, ht, rfl, fun hqueued => absurd rfl hqueued⟩
    · exact hsame k u hold
  | send i t ht frame hcarries => exact hkeep rfl rfl hsame
  | fail i t ht hmissing hrules =>
    exact hkeep rfl rfl fun k u hu => hsame k u (Slots.of_update_none hu).2
  | withdraw i t ht ack hack hid hfailure =>
    refine hkeep rfl rfl fun k u hu => ?_
    rcases Sender.setSlot_eq_some_iff.mp hu with ⟨rfl, hnew⟩ | ⟨_, hold⟩
    · cases hnew
      exact ⟨t, ht.1, rfl, id⟩
    · exact hsame k u hold
  | add i t ht ack hack hid hfailure =>
    refine hkeep rfl rfl fun k u hu => ?_
    rcases Sender.setSlot_eq_some_iff.mp hu with ⟨rfl, hnew⟩ | ⟨_, hold⟩
    · cases hnew
      exact ⟨t, ht.1, rfl, id⟩
    · exact hsame k u hold
  | complete i t ht ack hack hid hfailure hall =>
    refine hkeep ?_ rfl fun k u hu => hsame k u (Slots.of_update_none hu).2
    rw [acceptedIds_append]
    exact List.append_nil _
  | take frame hframe j r hnew htakes => exact hkeep rfl rfl hsame
  | queue ack hqueues => exact hkeep rfl rfl hsame
  | deliver j r hr hcomplete stored credits hrules =>
    refine hkeep ?_ rfl hsame
    rw [acceptedIds_append]
    exact List.append_nil _
  | sendAck ack rest hpending => exact hkeep rfl rfl hsame
  | drop data acks hdata hacks => exact hkeep rfl rfl hsame
  | resetS nextId hrules => exact absurd hrules hresets
  | resetR hrules => exact hkeep rfl rfl hsame

/-- The count of accepted datagrams does not fall. -/
theorem acceptedIds_step (hstep : Step rules f f') :
    (acceptedIds f.log).length ≤ (acceptedIds f'.log).length := by
  cases hstep with
  | accept | complete | deliver =>
    rw [acceptedIds_append, List.length_append]
    exact Nat.le_add_right ..
  | openSlot | send | fail | withdraw | add | take | queue | sendAck | drop | resetS | resetR =>
    exact Nat.le_refl _

/-- A datagram that is not yet open finds its id free. -/
theorem Fresh.free (h : Fresh initial f) {i : Fin 4} {t : Outgoing}
    (ht : f.sender.slots i = some t) (hqueued : ¬ t.opened) :
    Free f.receiver f.data f.acks t.id := by
  have hunused := h.queued i t ht hqueued
  exact ⟨fun frame hframe hid => hunused (.frame ⟨frame, hframe, hid⟩),
    fun j r hr hid => hunused (.slot j r hr hid), fun hhas => hunused (.window hhas),
    fun ack hack hid => absurd (.ack ack hack hid) hunused⟩

theorem Free.unclaimed {receiver : Receiver} {data : List DataFrame} {acks : List AckFrame}
    {t : Outgoing} (h : Free receiver data acks t.id) : Unclaimed receiver data t :=
  ⟨fun frame hframe hid => absurd hid (h.frames frame hframe),
    fun j r hr hid => absurd hid (h.slots j r hr)⟩

/-- The flow is fresh as long as the ids last. -/
def FreshWhile (initial : UInt16) (P : Flow → Prop) (f : Flow) : Prop :=
  f.Base ∧ ((acceptedIds f.log).length < 65536 → Fresh initial f ∧ P f)

theorem FreshWhile.step {P : Flow → Prop} (h : FreshWhile initial P f) (hstep : Step rules f f')
    (hresets : ¬ rules.resetsS) (hP : Fresh initial f → f.Base → P f → P f') :
    FreshWhile initial P f' := by
  refine ⟨h.1.step hstep, fun hcount => ?_⟩
  have hcount' := Nat.lt_of_le_of_lt (acceptedIds_step hstep) hcount
  obtain ⟨hfresh, hold⟩ := h.2 hcount'
  exact ⟨hfresh.step hstep hresets hcount', hP hfresh h.1 hold⟩

namespace Rules

/-- The rules, and neither engine is reset. -/
def noReset (rules : Rules) : Rules := { rules with resetsS := False, resetsR := fun _ => False }

end Rules

end Flow

/-! ### Runs -/

namespace Link

variable {rules : Flow.Rules} {channel : Channel}

theorem keeps_default (channel : Channel) (l : Link) (moves : List Move) :
    l.Keeps {} channel moves := by
  induction moves generalizing l with
  | nil => trivial
  | cons move moves ih =>
    refine ⟨?_, ih _⟩
    have hs (f : Flow) (ev : Event) : Flow.Rules.AtS {} f ev := by
      cases ev <;> first | trivial | exact fun _ _ => trivial
    have hr (f : Flow) (ev : Event) : Flow.Rules.AtR {} f ev := by
      cases ev with
      | delivered id data ok => cases ok <;> trivial
      | sent | accepted | opened | failed | completed | ackQueued => trivial
    cases move with
    | submit side | tick side | flush side =>
      cases side with
      | s => exact fun ev _ => hs _ ev
      | r => exact fun ev _ => hr _ ev
    | receive side k cb now =>
      cases side with
      | s => trivial
      | r =>
        change l.ObeysArrival {} cb now (channel.take l.toR k)
        cases channel.take l.toR k with
        | none => trivial
        | some taken => exact fun ev _ => hr _ ev
    | lose => trivial
    | reset side => cases side <;> trivial

theorem Keeps.noReset {l : Link} {moves : List Move} (h : l.Keeps rules channel moves)
    (hreset : ∀ move ∈ moves, ¬ move.isReset) : l.Keeps rules.noReset channel moves := by
  induction moves generalizing l with
  | nil => trivial
  | cons move moves ih =>
    refine ⟨?_, ih h.2 fun move hmove => hreset move (List.mem_cons_of_mem _ hmove)⟩
    have hobeys := h.1
    have hhead := hreset move (List.mem_cons_self ..)
    have hs (f : Flow) (ev : Event) (h : rules.AtS f ev) : rules.noReset.AtS f ev := by
      cases ev <;> exact h
    have hr (f : Flow) (ev : Event) (h : rules.AtR f ev) : rules.noReset.AtR f ev := by
      cases ev with
      | delivered id data ok => cases ok <;> exact h
      | sent | accepted | opened | failed | completed | ackQueued => trivial
    cases move with
    | submit side | tick side | flush side =>
      cases side with
      | s => exact fun ev hev => hs _ ev (hobeys ev hev)
      | r => exact fun ev hev => hr _ ev (hobeys ev hev)
    | receive side k cb now =>
      cases side with
      | s => trivial
      | r =>
        change l.ObeysArrival rules cb now (channel.take l.toR k) at hobeys
        change l.ObeysArrival rules.noReset cb now (channel.take l.toR k)
        cases htake : channel.take l.toR k with
        | none => trivial
        | some taken =>
          rw [htake] at hobeys
          exact fun ev hev => hr _ ev (hobeys ev hev)
    | lose => trivial
    | reset side => exact absurd rfl hhead

/-- Neither engine is reset and `s` accepts fewer than 65536 datagrams: whatever `s` completes was
delivered, and whatever `r` delivers was accepted, on a channel that loses, repeats and reorders. -/
theorem noAcknowledgedLoss_and_integrity (s r : ArqConfig) (moves : List Move)
    (hreset : ∀ move ∈ moves, ¬ move.isReset)
    (hcount : (acceptedIds ((start s r).after .any moves).log).length < 65536) :
    NoAcknowledgedLoss ((start s r).after .any moves).log ∧
      Integrity ((start s r).after .any moves).log := by
  have hrun := run_invariant (P := Flow.FreshWhile s.initialDatagramId fun f => f.Lossless ∧
    f.Owned)
    (fun hf hstep => hf.step hstep id fun hfresh hbase ⟨hlossless, howned⟩ =>
      ⟨hlossless.step hbase hstep (fun _ _ ht hqueued _ => hfresh.free ht hqueued) False.elim,
        howned.step hbase hstep fun _ _ ht hqueued _ => (hfresh.free ht hqueued).unclaimed⟩)
    (start_valid s r) moves (Keeps.noReset (keeps_default .any _ moves) hreset)
    ⟨.empty _, fun _ => ⟨.empty _, .empty _, .empty _⟩⟩
  obtain ⟨_, hlossless, owner, howns⟩ := hrun.2 hcount
  exact ⟨hlossless.log, howns.integrity⟩

/-- The first fragment arrives twice, the second before it. -/
def reorderedMoves : List Move :=
  [.submit .s (some (List.replicate 116 7)), .tick .s openCallbacks 0, .tick .s openCallbacks 0,
    .receive .r 1 openCallbacks 0, .receive .r 0 openCallbacks 0, .receive .r 0 openCallbacks 0,
    .tick .r openCallbacks 0, .receive .s 0 openCallbacks 0, .receive .s 0 openCallbacks 0]

set_option maxRecDepth 100000 in
theorem noAcknowledgedLoss_and_integrity_reorderedMoves :
    NoAcknowledgedLoss ((start {} {}).after .any reorderedMoves).log ∧
      Integrity ((start {} {}).after .any reorderedMoves).log :=
  noAcknowledgedLoss_and_integrity {} {} reorderedMoves (by decide) (by decide +kernel)

end Link

end FlrcTnc
