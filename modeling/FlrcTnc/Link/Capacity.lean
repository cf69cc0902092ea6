import FlrcTnc.Link.Once

/-! What datagrams that `s` gave up leave at `r`.  A reassembly is freed by delivery alone, so `s`
must not give up a datagram of which `r` has a part, or may still get one. -/

namespace FlrcTnc

open Framing Arq Mask

namespace Flow

open Link

/-- `r` has delivered the datagram with the id, or it has nothing of it and nothing of it is on its
way.  Where complete datagrams may take slots, `r` may also have all of it, and whole datagrams may
be on their way. -/
def Settled (whole : Bool) (receiver : Receiver) (data : List DataFrame) (id : UInt16) : Prop :=
  receiver.window.Has id ∨ (whole ∧ ∃ j, ∃ r ∈ receiver.slots j, r.id = id ∧ r.Complete) ∨
    ((∀ frame ∈ data, frame.1.datagramId = id →
        whole ∧ frame.1.datagramLength.toNat ≤ 115) ∧
      ∀ j, ∀ r ∈ receiver.slots j, r.id ≠ id)

instance (whole : Bool) (receiver : Receiver) (data : List DataFrame) (id : UInt16) :
    Decidable (Settled whole receiver data id) := inferInstanceAs (Decidable (_ ∨ _ ∨ _))

/-- Whatever is not settled is open. -/
structure Kept (whole : Bool) (f : Flow) : Prop where
  opened : ∀ i t, f.sender.Open i t → f.Honest (f.receiver.window.Has t.id) t
  distinct : f.receiver.window.Distinct
  plain : f.receiver.window.Plain
  apart : ∀ j r, f.receiver.slots j = some r → ¬ f.receiver.window.Has r.id
  settled : ∀ id, (∃ i t, f.sender.Open i t ∧ t.id = id) ∨ Settled whole f.receiver f.data id

variable {whole : Bool} {rules : Rules} {f f' : Flow} {id : UInt16}

theorem Kept.empty (nextId : UInt16) : Kept whole (.empty nextId) where
  opened i t ht := by cases ht.1
  distinct := .empty
  plain := .empty
  apart j r hr := by cases hr
  settled id := by
    refine .inr (.inr (.inr ⟨fun frame hframe => ?_, fun j r hr => ?_⟩))
    · cases hframe
    · cases hr

/-- A reassembly is of the open datagram, unless it is complete and such may take slots. -/
theorem Kept.open_of_held (h : f.Kept whole) (hbase : f.Base) {j : Fin 4} {r : Incoming}
    (hr : f.receiver.slots j = some r) (hpart : whole → ¬ r.Complete) :
    ∃ i t, f.sender.Open i t ∧ t.id = r.id := by
  rcases h.settled r.id with hopen | hhas | ⟨hwhole, k, q, hq, hid, hcomplete⟩ | ⟨_, hnone⟩
  · exact hopen
  · exact absurd hhas (h.apart j r hr)
  · obtain rfl := hbase.receiver.distinct hq hr hid
    cases (show f.receiver.slots k = some q from hq).symm.trans hr
    exact absurd hcomplete (hpart hwhole)
  · exact absurd rfl (hnone j r hr)

/-- A frame that is a whole datagram completes its reassembly. -/
theorem complete_of_whole {receiver : Receiver} {frame : DataFrame} {j : Fin 4} {r : Incoming}
    (htakes : receiver.Takes frame.1 frame.2 j r) (hvalid : validateDataHeader frame.1)
    (hfits : r.Fits) (hwhole : frame.1.datagramLength.toNat ≤ 115) : r.Complete := by
  obtain ⟨hpos, _, hindex, _⟩ := validateDataHeader_toNat hvalid
  have hone : fragments frame.1.datagramLength.toNat = 1 := by rw [fragments]; omega
  rw [hone] at hindex
  have hzero : frame.1.fragmentIndex.toNat = 0 := by omega
  rw [hfits.complete_iff, htakes.length_eq, hone]
  intro k hk
  obtain rfl : k = 0 := by omega
  cases htakes with
  | held | fresh =>
    rw [Incoming.add, hasBit_or, hzero, hasBit_bit (by decide)]
    simp

/-- A reassembly that takes a fragment stays complete. -/
theorem complete_add {r : Incoming} (h : r.Complete) (header : DataHeader) (payload : List UInt8) :
    (r.add header payload).Complete :=
  covers_iff.mpr fun k hk => by rw [Incoming.add, hasBit_or, covers_iff.mp h k hk, Bool.true_or]

/-- What is settled stays so when a fragment is taken. -/
theorem Settled.take (hsettled : Settled whole f.receiver f.data id) (hbase : f.Base)
    {frame : DataFrame} (hframe : frame ∈ f.data) {j : Fin 4} {r : Incoming}
    (hnew : ¬ f.receiver.window.Has frame.1.datagramId)
    (htakes : f.receiver.Takes frame.1 frame.2 j r) :
    Settled whole (f.receiver.setSlot j (some r)) f.data id := by
  have hvalid := (hbase.frames frame hframe).1
  by_cases hid : frame.1.datagramId = id
  · subst hid
    have hcompletes : whole ∧ r.Complete := by
      rcases hsettled with hhas | ⟨hwhole, k, q, hq, hid, hcomplete⟩ | ⟨hflight, _⟩
      · exact absurd hhas hnew
      · refine ⟨hwhole, ?_⟩
        cases htakes with
        | held p hp hmatches =>
          obtain rfl := hbase.receiver.distinct hq hp (hid.trans hmatches.1.symm)
          cases (show f.receiver.slots k = some q from hq).symm.trans hp
          exact complete_add hcomplete _ _
        | fresh _ _ hnone => exact absurd hid (hnone k q hq)
      · obtain ⟨hwhole, hlength⟩ := hflight frame hframe rfl
        exact ⟨hwhole, complete_of_whole htakes hvalid (htakes.fits hbase.receiver hvalid) hlength⟩
    exact .inr (.inl ⟨hcompletes.1, j, r, Receiver.setSlot_eq_some_iff.mpr (.inl ⟨rfl, rfl⟩),
      htakes.id_eq, hcompletes.2⟩)
  · rcases hsettled with hhas | ⟨hwhole, k, q, hq, hqid, hcomplete⟩ | ⟨hflight, hnone⟩
    · exact .inl hhas
    · refine .inr (.inl ⟨hwhole, k, q, Receiver.setSlot_eq_some_iff.mpr (.inr ⟨?_, hq⟩), hqid,
        hcomplete⟩)
      rintro rfl
      cases htakes with
      | held p hp hmatches =>
        cases (show f.receiver.slots k = some q from hq).symm.trans hp
        exact hid (hmatches.1.symm.trans hqid)
      | fresh _ hempty =>
        cases (show f.receiver.slots k = some q from hq).symm.trans hempty
    · refine .inr (.inr ⟨hflight, fun k q hq hqid => ?_⟩)
      rcases Receiver.setSlot_eq_some_iff.mp hq with ⟨_, hset⟩ | ⟨_, hold⟩
      · cases hset
        exact hid (htakes.id_eq.symm.trans hqid)
      · exact hnone k q hold hqid

/-- What is settled stays so when a datagram is delivered. -/
theorem Kept.settled_deliver (h : f.Kept whole) (hbase : f.Base) {j : Fin 4} {r : Incoming}
    (hr : f.receiver.slots j = some r) (stored credits : UInt8)
    (hretains : RetainsAwaited f.sender f.receiver.window f.data r.id)
    (hsettled : Settled whole f.receiver f.data id) :
    Settled whole (f.receiver.finish j r stored credits) f.data id := by
  by_cases hknown : id = r.id ∨ f.receiver.window.Has id
  · by_cases hflight : InFlight f.data id
    · exact .inl (h.distinct.has_store hknown (hretains id hknown (.inr hflight)))
    · -- nothing of it is in flight or in another slot
      refine .inr (.inr ⟨fun frame hframe hid => absurd ⟨frame, hframe, hid⟩ hflight,
        fun k q hq hid => ?_⟩)
      obtain ⟨hk, hold⟩ := Slots.of_update_none hq
      rcases hknown with rfl | hhas
      · exact hk (hbase.receiver.distinct hold hr hid)
      · exact h.apart k q hold (hid ▸ hhas)
  · rw [not_or] at hknown
    rcases hsettled with hhas | ⟨hwhole, k, q, hq, hid, hcomplete⟩ | ⟨hflight, hnone⟩
    · exact absurd hhas hknown.2
    · refine .inr (.inl ⟨hwhole, k, q, Slots.update_eq_some_iff.mpr (.inr ⟨?_, hq⟩), hid,
        hcomplete⟩)
      rintro rfl
      cases (show f.receiver.slots k = some q from hq).symm.trans hr
      exact hknown.1 hid.symm
    · exact .inr (.inr ⟨hflight, fun k q hq => hnone k q (Slots.of_update_none hq).2⟩)

/-- A step that changes at most the sender and what is in flight and pending. -/
theorem Kept.keep (h : f.Kept whole) (hslots : f'.receiver.slots = f.receiver.slots)
    (hwindow : f'.receiver.window = f.receiver.window)
    (hopened : ∀ i t, f'.sender.Open i t → f'.Honest (f'.receiver.window.Has t.id) t)
    (hsettled : ∀ id, (∃ i t, f'.sender.Open i t ∧ t.id = id) ∨
      Settled whole f'.receiver f'.data id) : f'.Kept whole := by
  refine ⟨hopened, hwindow ▸ h.distinct, hwindow ▸ h.plain, fun j r hr => ?_, hsettled⟩
  rw [hwindow]
  exact h.apart j r (hslots ▸ hr)

theorem Kept.step (h : f.Kept whole) (hbase : f.Base) (hstep : Step rules f f')
    (hopen : ∀ t, rules.opens f.receiver f.data f.acks t → Free f.receiver f.data f.acks t.id)
    (hfail : ∀ t, rules.fails f.receiver f.data t → Settled whole f.receiver f.data t.id)
    (hdeliver : ∀ id, rules.delivers f.sender f.receiver.window f.data id →
      RetainsAwaited f.sender f.receiver.window f.data id)
    (hresetS : ¬ rules.resetsS) (hresetR : ¬ rules.resetsR f) : f'.Kept whole := by
  have hretains {i : Fin 4} {t : Outgoing} {r : Incoming} {stored : DuplicateAckState}
      (ht : f.sender.Open i t)
      (hrules : rules.delivers f.sender f.receiver.window f.data r.id)
      (hknown : t.id = r.id ∨ f.receiver.window.Has t.id) :
      (duplicateWindowStore f.receiver.window r.id stored).Has t.id :=
    h.distinct.has_store hknown
      (hdeliver r.id hrules t.id hknown (.inl ⟨i, t, ht.1, ht.2, rfl⟩))
  have hopened := honest_step (A := fun f _ t => f.receiver.window.Has t.id) h.opened hbase
    hstep (fun i t t' ht _ hid _ hhas => by
      rw [hid]
      cases hstep with
      | deliver j r hr hcomplete stored credits hrules => exact hretains ht hrules (.inr hhas)
      | resetR hrules => exact absurd hrules hresetR
      | accept | openSlot | send | fail | withdraw | add | complete | take | queue | sendAck | drop
      | resetS => exact hhas)
    (fun _ t _ _ hrules => hopen t hrules)
    (fun i t j r stored credits ht hr hid hcontent hrules => hretains ht hrules (.inl hid.symm))
    (fun hrules => absurd hrules hresetR)
  -- an open datagram that is still in its slot is still open
  have hstays (sender : Sender)
      (hsender : ∀ i t, f.sender.Open i t → ∃ u, sender.Open i u ∧ u.id = t.id) (id : UInt16) :
      (∃ i t, sender.Open i t ∧ t.id = id) ∨ Settled whole f.receiver f.data id := by
    rcases h.settled id with ⟨i, t, ht, rfl⟩ | hsettled
    · obtain ⟨u, hu, hid⟩ := hsender i t ht
      exact .inl ⟨i, u, hu, hid⟩
    · exact .inr hsettled
  cases hstep with
  | accept i data hpos hmax hempty =>
    refine h.keep rfl rfl hopened (hstays _ fun k t ht => ⟨t, ⟨?_, ht.2⟩, rfl⟩)
    refine Sender.setSlot_eq_some_iff.mpr (.inr ⟨?_, ht.1⟩)
    rintro rfl
    cases hempty.symm.trans ht.1
  | openSlot i t ht hnone hrules =>
    exact h.keep rfl rfl hopened (hstays _ fun k u hu => absurd hu.2 (hnone k u hu.1))
  | send i t ht frame hcarries =>
    refine h.keep rfl rfl hopened fun id => ?_
    by_cases hid : t.id = id
    · exact .inl ⟨i, t, ht, hid⟩
    · refine (h.settled id).imp_right fun hsettled => hsettled.imp_right fun hsettled =>
        hsettled.imp_right fun hnothing => ⟨fun frame' hframe hsame => ?_, hnothing.2⟩
      rcases List.mem_append.mp hframe with hframe | hframe
      · exact hnothing.1 frame' hframe hsame
      · rw [List.mem_singleton.mp hframe, hcarries.id] at hsame
        exact absurd hsame hid
  | fail i t ht hmissing hrules =>
    refine h.keep rfl rfl hopened fun id => ?_
    rcases h.settled id with ⟨k, u, hu, rfl⟩ | hsettled
    · obtain rfl := hbase.sender.one_open ht hu
      cases ht.1.symm.trans hu.1
      exact .inr (hfail t hrules)
    · exact .inr hsettled
  | complete i t ht ack hack hid hfailure hall =>
    refine h.keep rfl rfl hopened fun id => ?_
    rcases h.settled id with ⟨k, u, hu, rfl⟩ | hsettled
    · obtain rfl := hbase.sender.one_open ht hu
      cases ht.1.symm.trans hu.1
      exact .inr (.inl ((h.opened i t ht).arrived_of_complete (hbase.sender.fits ht.1) hack hid
        hfailure hall))
    · exact .inr hsettled
  | withdraw i t ht | add i t ht =>
    refine h.keep rfl rfl hopened (hstays _ fun k u hu => ?_)
    obtain rfl := hbase.sender.one_open ht hu
    cases ht.1.symm.trans hu.1
    exact ⟨_, ⟨Sender.setSlot_eq_some_iff.mpr (.inl ⟨rfl, rfl⟩), ht.2⟩, rfl⟩
  | take frame hframe j r hnew htakes =>
    refine ⟨hopened, h.distinct, h.plain, fun k q hq => ?_, fun id =>
      (h.settled id).imp_right fun hsettled => hsettled.take hbase hframe hnew htakes⟩
    rcases Receiver.setSlot_eq_some_iff.mp hq with ⟨_, hset⟩ | ⟨_, hold⟩
    · cases hset
      rw [htakes.id_eq]
      exact hnew
    · exact h.apart k q hold
  | queue | sendAck => exact h.keep rfl rfl hopened h.settled
  | deliver j r hr hcomplete stored credits hrules =>
    refine ⟨hopened, h.distinct.store _, h.plain.store rfl, fun k q hq hhas => ?_, fun id =>
      (h.settled id).imp_right fun hsettled =>
        h.settled_deliver hbase hr stored credits (hdeliver r.id hrules) hsettled⟩
    obtain ⟨hk, hold⟩ := Slots.of_update_none hq
    rcases DuplicateWindow.has_of_store hhas with hid | hhas
    · exact hk (hbase.receiver.distinct hold hr hid)
    · exact h.apart k q hold hhas
  | drop data acks hdata hacks =>
    refine h.keep rfl rfl hopened fun id => (h.settled id).imp_right fun hsettled =>
      hsettled.imp_right fun hsettled => hsettled.imp_right fun hnothing =>
        ⟨fun frame hframe => hnothing.1 frame (hdata.subset hframe), hnothing.2⟩
  | resetS nextId hrules => exact absurd hrules hresetS
  | resetR hrules => exact absurd hrules hresetR

end Flow

namespace Arq

/-- ALLOCATION_FAILURE is the answer to a frame that finds all slots taken by other datagrams. -/
theorem Receiver.Receive.full_of_allocationFailure {s s' : Receiver} {header : DataHeader}
    {payload : List UInt8} {evs : List Event} (h : s.Receive header payload evs s')
    (hplain : s.window.Plain) {ack : AckFrame} {source : AckSource}
    (hmem : .ackQueued ack source ∈ evs) (hfailure : ack.failure = .allocationFailure) :
    ∀ j, ∃ r, s.slots j = some r ∧ r.id ≠ ack.datagramId := by
  cases h with
  | duplicate stored credits hstored =>
    cases eq_of_mem_enqueueEvents hmem
    cases (hplain.find hstored).symm.trans hfailure
  | noSlot credits hnew hfull =>
    cases eq_of_mem_enqueueEvents hmem
    exact hfull
  | mismatch =>
    cases eq_of_mem_enqueueEvents hmem
    cases hfailure
  | taken j r hnew htakes hsettle =>
    cases hsettle with
    | partly => cases hmem
    | roundEnd =>
      cases eq_of_mem_enqueueEvents hmem
      cases hfailure
    | deliver =>
      rcases List.mem_cons.mp hmem with hdelivered | hmem
      · cases hdelivered
      · cases eq_of_mem_enqueueEvents hmem
        cases hfailure
    | block hcomplete refused hrefused =>
      rcases List.mem_append.mp hmem with hmem | hmem
      · rcases hrefused with rfl | rfl
        · cases hmem
        · cases List.mem_singleton.mp hmem
      · cases eq_of_mem_enqueueEvents hmem
        cases hfailure

theorem Party.Receive.full_of_allocationFailure {packet : Packet} {p q : Party} {evs : List Event}
    (h : Party.Receive packet p evs q) (hplain : p.receiver.window.Plain) {ack : AckFrame}
    {source : AckSource} (hmem : .ackQueued ack source ∈ evs)
    (hfailure : ack.failure = .allocationFailure) :
    ∀ j, ∃ r, p.receiver.slots j = some r ∧ r.id ≠ ack.datagramId := by
  cases h with
  | ignore => cases hmem
  | data s hpacket hreceive => exact hreceive.full_of_allocationFailure hplain hmem hfailure
  | ack r hpacket hreceive => exact (hreceive.ofSender _ hmem).elim

end Arq

/-! ### Runs -/

namespace Link

/-- Every incomplete reassembly of `r` is of a datagram that `s` has open, or of which a DATA packet
is in flight. -/
def NothingAbandoned (l : Link) : Prop :=
  ∀ j r, l.r.receiver.slots j = some r → ¬ r.Complete →
    Flow.Awaited l.s.sender l.flow.data r.id

/-- `r` answers some packet on its way with ALLOCATION_FAILURE for the datagram that `s` has
open. -/
def RefusesOpen (l : Link) : Prop :=
  ∃ packet ∈ l.toR, ∃ cb now ack source,
    .ackQueued ack source ∈ (l.r.run cb (.onRxPacket packet now)).events ∧
      ack.failure = .allocationFailure ∧ ∃ i t, l.s.sender.Open i t ∧ t.id = ack.datagramId

/-- Whatever `r` is called with leaves its egress open. -/
def Move.EgressOpen : Move → Prop
  | .tick .r cb _ | .flush .r cb _ | .receive .r _ cb _ => cb.EgressOpen
  | .submit .. | .tick .s .. | .flush .s .. | .receive .s .. | .lose .. | .reset _ => True

/-- A datagram is opened with a free id and given up when it is settled, and the window retains what
`s` may still send. -/
def settling (whole : Bool) : Flow.Rules where
  opens receiver data acks t := Flow.Free receiver data acks t.id
  fails receiver data t := Flow.Settled whole receiver data t.id
  delivers := Flow.RetainsAwaited

instance (whole : Bool) : (settling whole).Decides where
  opens receiver data acks t := inferInstanceAs (Decidable (Flow.Free receiver data acks t.id))
  fails receiver data t := inferInstanceAs (Decidable (Flow.Settled whole receiver data t.id))
  delivers sender window data id :=
    inferInstanceAs (Decidable (Flow.RetainsAwaited sender window data id))
  resetsS := instDecidableTrue
  resetsR _ := instDecidableTrue

variable {channel : Channel}

theorem after_valid (channel : Channel) {l : Link} (h : l.Valid) (moves : List Move) :
    (l.after channel moves).Valid := by
  induction moves generalizing l with
  | nil => exact h
  | cons move moves ih => exact ih (step_valid h move)

/-- With an open egress, no datagram waits at `r`. -/
theorem step_drains {l : Link} (h : l.Valid) {move : Move} (hmove : move.EgressOpen) :
    l.r.receiver.Drains (l.step channel move).r.receiver := by
  cases move with
  | submit side data =>
    cases side with
    | s => exact .refl _
    | r => exact ArqEngine.run_drains h.2 _ _ fun _ _ hcall => by cases hcall
  | tick side cb now =>
    cases side with
    | s => exact .refl _
    | r => exact ArqEngine.run_drains h.2 _ _ fun _ _ _ => hmove
  | flush side cb now =>
    cases side with
    | s => exact .refl _
    | r => exact ArqEngine.run_drains h.2 _ _ fun _ _ _ => hmove
  | receive side k cb now =>
    cases side with
    | s =>
      rw [step]
      split <;> exact .refl _
    | r =>
      rw [step]
      split
      · exact ArqEngine.run_drains h.2 _ _ fun _ _ _ => hmove
      · exact .refl _
  | lose side => cases side <;> exact .refl _
  | reset side =>
    cases side with
    | s => exact .refl _
    | r => exact fun j r hr => by cases hr

theorem after_drains {l : Link} (h : l.Valid) (moves : List Move)
    (hmoves : ∀ move ∈ moves, move.EgressOpen) :
    l.r.receiver.Drains (l.after channel moves).r.receiver := by
  induction moves generalizing l with
  | nil => exact .refl _
  | cons move moves ih =>
    exact (step_drains h (hmoves move (List.mem_cons_self ..))).trans
      (ih (step_valid h move) fun move hmove => hmoves move (List.mem_cons_of_mem _ hmove))

/-- What is abandoned and takes a slot is complete, and only where such may. -/
theorem nothingAbandoned_of_kept {whole : Bool} {l : Link} (hbase : l.flow.Base)
    (hkept : l.flow.Kept whole) : l.NothingAbandoned := by
  intro j r hr hpart
  obtain ⟨i, t, ht, hid⟩ := hkept.open_of_held hbase hr fun _ => hpart
  exact .inl ⟨i, t, ht.1, ht.2, hid⟩

/-- A refusal of the open datagram finds the slots taken by other ones, all of them complete. -/
theorem not_refusesOpen {whole : Bool} {l : Link} (h : l.Valid) (hbase : l.flow.Base)
    (hkept : l.flow.Kept whole)
    (hdrained : whole → ∀ r, l.r.receiver.slots 0 = some r → ¬ r.Complete) : ¬ l.RefusesOpen := by
  rintro ⟨packet, _, cb, now, ack, source, hmem, hfailure, i, t, ht, hid⟩
  have hdoes : Party.Receive packet l.r.party _ _ :=
    (ArqEngine.run_spec h.2 cb (.onRxPacket packet now)).2
  obtain ⟨r, hr, hother⟩ := hdoes.full_of_allocationFailure hkept.plain hmem hfailure 0
  obtain ⟨k, u, hu, huid⟩ := hkept.open_of_held hbase hr fun hwhole => hdrained hwhole r hr
  obtain rfl := hbase.sender.one_open hu ht
  cases hu.1.symm.trans ht.1
  exact hother (huid.symm.trans hid)

/-- Neither engine is reset: if `s` opens only datagrams with a free id and gives up only settled
ones, and the window retains what `s` may still send, then nothing abandoned takes a slot of `r`,
and `r` has room for the open datagram.  What is whole is settled if `r` always finds its egress
open. -/
theorem nothingAbandoned_of_settling (s r : ArqConfig) (moves : List Move) (whole : Bool)
    (hreset : ∀ move ∈ moves, ¬ move.isReset)
    (hkeeps : (start s r).Keeps (settling whole) .fifo moves)
    (hegress : whole → ∀ move ∈ moves, move.EgressOpen) :
    ((start s r).after .fifo moves).NothingAbandoned ∧
      ¬ ((start s r).after .fifo moves).RefusesOpen := by
  obtain ⟨hbase, hkept⟩ := run_invariant (P := fun f => f.Base ∧ f.Kept whole)
    (fun hf hstep => ⟨hf.1.step hstep,
      hf.2.step hf.1 hstep (fun _ h => h) (fun _ h => h) (fun _ h => h) id id⟩)
    (start_valid s r) moves (hkeeps.noReset hreset) ⟨.empty _, .empty _⟩
  refine ⟨nothingAbandoned_of_kept hbase hkept,
    not_refusesOpen (after_valid .fifo (start_valid s r) moves) hbase hkept ?_⟩
  intro hwhole q hq hcomplete
  have hold := after_drains (start_valid s r) moves (hegress hwhole) 0 q hq hcomplete
  cases hold

/-- A datagram of one fragment is given up before it arrives, and a longer one follows. -/
def settledMoves : List Move :=
  [.submit .s (some [1]), .tick .s openCallbacks 0, .tick .s openCallbacks 8,
    .submit .s (some (List.replicate 116 7)), .tick .s openCallbacks 8,
    .receive .r 0 openCallbacks 8, .tick .s openCallbacks 8, .receive .r 0 openCallbacks 8]

set_option maxRecDepth 100000 in
theorem nothingAbandoned_settledMoves :
    ((start { maxAttempts := 1 } {}).after .fifo settledMoves).NothingAbandoned ∧
      ¬ ((start { maxAttempts := 1 } {}).after .fifo settledMoves).RefusesOpen := by
  have hopen : openCallbacks.EgressOpen := by
    refine ⟨fun egress hegress n => ?_, _, rfl, fun _ _ => rfl⟩
    cases hegress
    exact (show (4 : UInt8) ≠ 0 by decide)
  refine nothingAbandoned_of_settling { maxAttempts := 1 } {} settledMoves true (by decide)
    (by decide +kernel) ?_
  simp [settledMoves, Move.EgressOpen, hopen]

/-- Of two fragments only the first one ever arrives, and after eight rounds the datagram is given
up. -/
def abandoningMoves : List Move :=
  [.submit .s (some (List.replicate 116 7)), .tick .s openCallbacks 0, .tick .s openCallbacks 0,
    .receive .r 0 openCallbacks 0, .lose .r 0] ++
  [8, 16, 24, 32, 40, 48, 56].flatMap (fun now => [.tick .s openCallbacks now,
    .tick .s openCallbacks now, .lose .r 0, .lose .r 0]) ++
  [.tick .s openCallbacks 64]

set_option maxRecDepth 100000 in
theorem abandoningMoves_left : (∀ move ∈ abandoningMoves, ¬ move.isReset) ∧
    (∃ q ∈ ((start {} {}).after .fifo abandoningMoves).r.receiver.slots 0, ¬ q.Complete ∧
      ¬ Flow.Awaited ((start {} {}).after .fifo abandoningMoves).s.sender
        ((start {} {}).after .fifo abandoningMoves).flow.data q.id) := by
  decide +kernel

theorem not_nothingAbandoned : ¬ ∀ (s r : ArqConfig) (moves : List Move),
    (∀ move ∈ moves, ¬ move.isReset) →
    ((start s r).after .fifo moves).NothingAbandoned ∧
      ((∀ move ∈ moves, move.EgressOpen) → ¬ ((start s r).after .fifo moves).RefusesOpen) := by
  intro h
  obtain ⟨hreset, q, hq, hpart, hawaited⟩ := abandoningMoves_left
  exact hawaited ((h {} {} abandoningMoves hreset).1 0 q hq hpart)

end Link

end FlrcTnc
