import FlrcTnc.Link.Fresh
import FlrcTnc.Arq.Window

/-! At most one delivery: what `s` can still send of a delivered datagram, the duplicate window
keeps off.  This needs the window to reach back to every datagram that `s` has open or in flight. -/

namespace FlrcTnc

open Framing Arq

namespace Flow

open Link

/-- `s` has a datagram with the id open, or a DATA frame of one is in flight. -/
def Awaited (sender : Sender) (data : List DataFrame) (id : UInt16) : Prop :=
  (∃ i, ∃ t ∈ sender.slots i, t.opened ∧ t.id = id) ∨ InFlight data id

instance (sender : Sender) (data : List DataFrame) (id : UInt16) :
    Decidable (Awaited sender data id) := inferInstanceAs (Decidable (_ ∨ _))

/-- When `id` is delivered, the window retains what `s` may still send. -/
def RetainsAwaited (sender : Sender) (window : DuplicateWindow) (data : List DataFrame)
    (id : UInt16) : Prop :=
  ∀ i, (i = id ∨ window.Has i) → Awaited sender data i → window.Retains id i

instance (sender : Sender) (window : DuplicateWindow) (data : List DataFrame) (id : UInt16) :
    Decidable (RetainsAwaited sender window data id) :=
  decidable_of_iff ((Awaited sender data id → window.Retains id id) ∧
      ∀ entry ∈ window.entries, entry.valid → Awaited sender data entry.datagramId →
        window.Retains id entry.datagramId) <| by
    refine ⟨fun ⟨hself, hentries⟩ i hi hawaited => ?_, fun h => ⟨h id (.inl rfl), ?_⟩⟩
    · rcases hi with rfl | ⟨entry, hmem, hfor⟩
      · exact hself hawaited
      · obtain ⟨hvalid, rfl⟩ := DuplicateWindow.isFor_iff.mp hfor
        exact hentries entry hmem hvalid hawaited
    · exact fun entry hmem hvalid => h entry.datagramId
        (.inr ⟨entry, hmem, DuplicateWindow.isFor_iff.mpr ⟨hvalid, rfl⟩⟩)

/-- No datagram is delivered twice, and none that was delivered is on its way past the window. -/
structure Once (f : Flow) : Prop where
  distinct : f.receiver.window.Distinct
  nodup : (deliveredIds f.log).Nodup
  awaited : ∀ id ∈ deliveredIds f.log, Awaited f.sender f.data id → f.receiver.window.Has id
  slots : ∀ j r, f.receiver.slots j = some r → r.id ∉ deliveredIds f.log

variable {rules : Rules} {f f' : Flow} {initial : UInt16}

theorem Once.empty (nextId : UInt16) : Once (.empty nextId) where
  distinct := .empty
  nodup := List.nodup_nil
  awaited id h := by cases h
  slots j r hr := by cases hr

/-- What is newly awaited was just opened. -/
theorem awaited_step {id : UInt16} (hstep : Step rules f f') (h : Awaited f'.sender f'.data id) :
    Awaited f.sender f.data id ∨ ∃ i t, f.sender.slots i = some t ∧ ¬ t.opened ∧ t.id = id := by
  have hslots (sender : Sender) (hsender : ∀ i t, sender.slots i = some t → t.opened →
      ∃ u, f.sender.slots i = some u ∧ u.id = t.id) (h : Awaited sender f.data id) :
      Awaited f.sender f.data id ∨ ∃ i t, f.sender.slots i = some t ∧ ¬ t.opened ∧ t.id = id := by
    rcases h with ⟨i, t, ht, hopened, rfl⟩ | hflight
    · obtain ⟨u, hu, hid⟩ := hsender i t ht hopened
      by_cases huo : u.opened
      · exact .inl (.inl ⟨i, u, hu, huo, hid⟩)
      · exact .inr ⟨i, u, hu, huo, hid⟩
    · exact .inl (.inr hflight)
  cases hstep with
  | accept i data hpos hmax hempty =>
    refine hslots _ (fun k t ht hopened => ?_) h
    rcases Sender.setSlot_eq_some_iff.mp ht with ⟨_, hnew⟩ | ⟨_, hold⟩
    · cases hnew
      cases hopened
    · exact ⟨t, hold, rfl⟩
  | openSlot i t ht hnone hrules =>
    refine hslots _ (fun k u hu hopened => ?_) h
    rcases Sender.setSlot_eq_some_iff.mp hu with ⟨rfl, hnew⟩ | ⟨_, hold⟩
    · cases hnew
      exact ⟨t, ht, rfl⟩
    · exact ⟨u, hold, rfl⟩
  | send i t ht frame hcarries =>
    rcases h with hopen | ⟨frame', hframe, hid⟩
    · exact .inl (.inl hopen)
    · rcases List.mem_append.mp hframe with hframe | hframe
      · exact .inl (.inr ⟨frame', hframe, hid⟩)
      · rw [List.mem_singleton.mp hframe, hcarries.id] at hid
        exact .inl (.inl ⟨i, t, ht.1, ht.2, hid⟩)
  | fail i | complete i =>
    exact hslots _ (fun k u hu _ => ⟨u, (Slots.of_update_none hu).2, rfl⟩) h
  | withdraw i t ht | add i t ht =>
    refine hslots _ (fun k u hu _ => ?_) h
    rcases Sender.setSlot_eq_some_iff.mp hu with ⟨rfl, hnew⟩ | ⟨_, hold⟩
    · cases hnew
      exact ⟨t, ht.1, rfl⟩
    · exact ⟨u, hold, rfl⟩
  | take | queue | deliver | sendAck | resetR => exact .inl h
  | drop data acks hdata hacks =>
    rcases h with hopen | ⟨frame, hframe, hid⟩
    · exact .inl (.inl hopen)
    · exact .inl (.inr ⟨frame, hdata.subset hframe, hid⟩)
  | resetS nextId hrules =>
    exact hslots _ (fun i t ht => by cases ht) h

/-- A step that delivers nothing and leaves the window as it is. -/
theorem Once.keep (h : f.Once) (hfresh : Fresh initial f) (hstep : Step rules f f')
    (hlog : deliveredIds f'.log = deliveredIds f.log)
    (hwindow : f'.receiver.window = f.receiver.window)
    (hslots : ∀ j r, f'.receiver.slots j = some r → r.id ∉ deliveredIds f.log) : f'.Once := by
  refine ⟨hwindow ▸ h.distinct, hlog ▸ h.nodup, fun id hid hawaited => ?_, fun j r hr => ?_⟩
  · rw [hlog] at hid
    rw [hwindow]
    rcases awaited_step hstep hawaited with hold | ⟨i, t, ht, hqueued, rfl⟩
    · exact h.awaited id hid hold
    · exact absurd (.delivered hid) (hfresh.queued i t ht hqueued)
  · rw [hlog]
    exact hslots j r hr

/-- A datagram is delivered. -/
theorem Once.deliver (h : f.Once) (hbase : f.Base) {j : Fin 4} {r : Incoming}
    (hr : f.receiver.slots j = some r) (stored credits : UInt8)
    (hretains : RetainsAwaited f.sender f.receiver.window f.data r.id) :
    Once { f with
      receiver := f.receiver.finish j r stored credits
      log := f.log ++ [.delivered r.id r.content] } := by
  have hlog : deliveredIds (f.log ++ [.delivered r.id r.content]) = deliveredIds f.log ++ [r.id] :=
    deliveredIds_append ..
  refine ⟨h.distinct.store _, ?_, fun id hid hawaited => ?_, fun k q hq hmem => ?_⟩
  · rw [hlog, ← List.concat_eq_append]
    exact h.nodup.concat (h.slots j r hr)
  · rw [hlog] at hid
    have hknown : id = r.id ∨ f.receiver.window.Has id := by
      rcases List.mem_append.mp hid with hold | hnew
      · exact .inr (h.awaited id hold hawaited)
      · exact .inl (List.mem_singleton.mp hnew)
    exact h.distinct.has_store hknown (hretains id hknown hawaited)
  · obtain ⟨hk, hold⟩ := Slots.of_update_none hq
    rw [hlog] at hmem
    rcases List.mem_append.mp hmem with hmem | hmem
    · exact h.slots k q hold hmem
    · exact hk (hbase.receiver.distinct hold hr (List.mem_singleton.mp hmem))

theorem Once.step (h : f.Once) (hfresh : Fresh initial f) (hbase : f.Base)
    (hstep : Step rules f f') (hresets : ¬ rules.resetsR f)
    (hdelivers : ∀ id, rules.delivers f.sender f.receiver.window f.data id →
      RetainsAwaited f.sender f.receiver.window f.data id) : f'.Once := by
  have hkeep := h.keep hfresh hstep
  cases hstep with
  | accept | complete =>
    refine hkeep ?_ rfl h.slots
    rw [deliveredIds_append]
    exact List.append_nil _
  | openSlot | send | fail | withdraw | add | queue | sendAck | drop | resetS =>
    exact hkeep rfl rfl h.slots
  | take frame hframe j r hnew htakes =>
    refine hkeep rfl rfl fun k q hq => ?_
    rcases Receiver.setSlot_eq_some_iff.mp hq with ⟨rfl, hset⟩ | ⟨_, hold⟩
    · cases hset
      -- the window has no entry for the frame, so its datagram was not delivered
      intro hmem
      rw [htakes.id_eq] at hmem
      exact hnew (h.awaited _ hmem (.inr ⟨frame, hframe, rfl⟩))
    · exact h.slots k q hold
  | deliver j r hr hcomplete stored credits hrules =>
    exact h.deliver hbase hr stored credits (hdelivers r.id hrules)
  | resetR hrules => exact absurd hrules hresets

end Flow

/-! ### Runs -/

namespace Link

/-- The window retains what `s` may still send, whenever `r` delivers. -/
def retaining : Flow.Rules where
  delivers := Flow.RetainsAwaited

instance : retaining.Decides where
  opens _ _ _ _ := instDecidableTrue
  fails _ _ _ := instDecidableTrue
  delivers sender window data id :=
    inferInstanceAs (Decidable (Flow.RetainsAwaited sender window data id))
  resetsS := instDecidableTrue
  resetsR _ := instDecidableTrue

/-- Neither engine is reset and `s` accepts fewer than 65536 datagrams: if the window always retains
what `s` may still send, `r` delivers no datagram twice. -/
theorem deliveredIds_nodup_of_retaining (s r : ArqConfig) (moves : List Move)
    (hreset : ∀ move ∈ moves, ¬ move.isReset)
    (hcount : (acceptedIds ((start s r).after .fifo moves).log).length < 65536)
    (hkeeps : (start s r).Keeps retaining .fifo moves) :
    (deliveredIds ((start s r).after .fifo moves).log).Nodup := by
  have hrun := run_invariant (P := Flow.FreshWhile s.initialDatagramId Flow.Once)
    (fun hf hstep => hf.step hstep id fun hfresh hbase honce =>
      honce.step hfresh hbase hstep id fun _ hrules => hrules)
    (start_valid s r) moves (hkeeps.noReset hreset) ⟨.empty _, fun _ => ⟨.empty _, .empty _⟩⟩
  exact (hrun.2 hcount).2.nodup

/-- The ACK of a delivery is lost, and the datagram is sent once more. -/
def repeatedMoves : List Move :=
  [.submit .s (some [1]), .tick .s openCallbacks 0, .receive .r 0 openCallbacks 0,
    .tick .r openCallbacks 0, .lose .s 0, .tick .s openCallbacks 8, .receive .r 0 openCallbacks 8,
    .tick .r openCallbacks 8, .receive .s 0 openCallbacks 8]

set_option maxRecDepth 100000 in
theorem deliveredIds_nodup_repeatedMoves :
    (deliveredIds ((start {} {}).after .fifo repeatedMoves).log).Nodup :=
  deliveredIds_nodup_of_retaining {} {} repeatedMoves (by decide) (by decide +kernel)
    (by decide +kernel)

/-- A datagram goes through, and the slot it leaves takes the next one before `s` looks for what to
open. -/
def overtaking : List Move :=
  [.tick .s openCallbacks 0, .receive .r 0 openCallbacks 0, .tick .r openCallbacks 0,
    .receive .s 0 openCallbacks 0]

/-- The datagram with id 1 waits while 65 others go through; then it is delivered, its ACK is lost,
and it is sent once more. -/
def twiceMoves : List Move :=
  .submit .s (some [0]) :: .submit .s (some [1]) :: overtaking ++
    (List.replicate 64 (.submit .s (some [2]) :: overtaking)).flatten ++
    [.tick .s openCallbacks 0, .receive .r 0 openCallbacks 0, .tick .r openCallbacks 0, .lose .s 0,
      .tick .s openCallbacks 8, .receive .r 0 openCallbacks 8]

set_option maxRecDepth 100000 in
theorem twiceMoves_log : (∀ move ∈ twiceMoves, ¬ move.isReset) ∧
    (acceptedIds ((start {} {}).after .fifo twiceMoves).log).length = 66 ∧
      (deliveredIds ((start {} {}).after .fifo twiceMoves).log).count 1 = 2 := by
  decide +kernel

theorem not_deliveredIds_nodup : ¬ ∀ (s r : ArqConfig) (moves : List Move),
    (∀ move ∈ moves, ¬ move.isReset) →
    (acceptedIds ((start s r).after .fifo moves).log).length < 65536 →
    (deliveredIds ((start s r).after .fifo moves).log).Nodup := by
  intro h
  obtain ⟨hreset, haccepted, hcount⟩ := twiceMoves_log
  have hnodup := h {} {} twiceMoves hreset (by rw [haccepted]; decide)
  rw [List.nodup_iff_count_le_one] at hnodup
  have hle := hnodup 1
  omega

end Link

end FlrcTnc
