import FlrcTnc.Link.Base

/-! Integrity: `r` delivers datagrams that `s` accepted, and no mixtures of two.  Reassemblies are
told apart by id and length alone, so a datagram that is opened must not find a reassembly or a
fragment of another one with the same id and length. -/

namespace FlrcTnc

open Framing Arq Mask

namespace Link

/-- `s` accepted the datagram. -/
def Accepted (log : List Fate) (id : UInt16) (data : List UInt8) : Prop :=
  ∃ i, .accepted i id data ∈ log

theorem Accepted.append {log : List Fate} {id : UInt16} {data : List UInt8}
    (h : Accepted log id data) (fates : List Fate) : Accepted (log ++ fates) id data := by
  obtain ⟨i, hmem⟩ := h
  exact ⟨i, List.mem_append_left _ hmem⟩

theorem Integrity.nil : Integrity [] := fun past id data rest h => by simp at h

theorem Integrity.snoc {log : List Fate} {fate : Fate} (h : Integrity log)
    (hfate : ∀ id data, fate = .delivered id data → Accepted log id data) :
    Integrity (log ++ [fate]) := by
  have halways : Trace.Always (fun past fate => ∀ id data, fate = .delivered id data →
      Accepted past id data) (log ++ [fate]) := by
    refine Trace.always_append (fun past fate rest hsplit id data hdelivered => ?_)
      (Trace.always_singleton.mpr (by rwa [List.append_nil]))
    subst hdelivered
    exact h past id data rest hsplit
  exact fun past id data rest hsplit => halways past _ rest hsplit id data rfl

end Link

namespace Flow

open Link

/-- Nothing in flight and nothing at the receiver has the id and the length of the datagram. -/
def Unclaimed (receiver : Receiver) (data : List DataFrame) (t : Outgoing) : Prop :=
  (∀ frame ∈ data, frame.1.datagramId = t.id → frame.1.datagramLength.toNat ≠ t.data.length) ∧
    ∀ j, ∀ r ∈ receiver.slots j, r.id = t.id → r.length.toNat ≠ t.data.length

instance (receiver : Receiver) (data : List DataFrame) (t : Outgoing) :
    Decidable (Unclaimed receiver data t) := inferInstanceAs (Decidable (_ ∧ _))

/-- Every id and length in the flow belongs to one accepted datagram. -/
structure Owns (owner : UInt16 → Nat → List UInt8) (f : Flow) : Prop where
  frames : ∀ frame ∈ f.data,
    PieceOf (owner frame.1.datagramId frame.1.datagramLength.toNat) frame ∧
      Accepted f.log frame.1.datagramId (owner frame.1.datagramId frame.1.datagramLength.toNat)
  slots : ∀ j r, f.receiver.slots j = some r →
    r.Holds (owner r.id r.length.toNat) ∧ Accepted f.log r.id (owner r.id r.length.toNat)
  opened : ∀ i t, f.sender.Open i t → owner t.id t.data.length = t.data
  integrity : Integrity f.log

def Owned (f : Flow) : Prop := ∃ owner, Owns owner f

theorem Owned.empty (nextId : UInt16) : Owned (.empty nextId) := by
  refine ⟨fun _ _ => [], fun frame hframe => ?_, fun j r hr => ?_, fun i t ht => ?_, .nil⟩
  · cases hframe
  · cases hr
  · cases ht.1

variable {rules : Rules} {f f' : Flow} {owner : UInt16 → Nat → List UInt8}

/-- The sender changes, but opens nothing. -/
theorem Owns.of_sender (h : Owns owner f) {s : Sender}
    (hs : ∀ i t, s.Open i t → ∃ u, f.sender.Open i u ∧ t.id = u.id ∧ t.data = u.data) :
    Owns owner { f with sender := s } := by
  refine ⟨h.frames, h.slots, fun i t ht => ?_, h.integrity⟩
  obtain ⟨u, hu, hid, hdata⟩ := hs i t ht
  rw [hid, hdata]
  exact h.opened i u hu

/-- The log grows. -/
theorem Owns.of_log (h : Owns owner f) (fate : Fate)
    (hfate : ∀ id data, fate = .delivered id data → Accepted f.log id data) :
    Owns owner { f with log := f.log ++ [fate] } :=
  ⟨fun frame hframe => ⟨(h.frames frame hframe).1, (h.frames frame hframe).2.append _⟩,
    fun j r hr => ⟨(h.slots j r hr).1, (h.slots j r hr).2.append _⟩, h.opened,
      h.integrity.snoc hfate⟩

/-- A datagram that finds its id and length free becomes their owner. -/
theorem Owns.openSlot (h : Owns owner f) {i : Fin 4} {t : Outgoing}
    (hnone : ∀ k u, f.sender.slots k = some u → ¬ u.opened)
    (hfree : Unclaimed f.receiver f.data t) :
    Owned { f with sender := f.sender.setSlot i (some { t with opened := true, acked := 0 }) } := by
  let owner' : UInt16 → Nat → List UInt8 := fun id length =>
    if id = t.id ∧ length = t.data.length then t.data else owner id length
  have hother {id : UInt16} {length : Nat} (hne : id = t.id → length ≠ t.data.length) :
      owner' id length = owner id length := if_neg fun ⟨hid, hlength⟩ => hne hid hlength
  refine ⟨owner', fun frame hframe => ?_, fun j r hr => ?_, fun k u hu => ?_, h.integrity⟩
  · rw [hother (hfree.1 frame hframe)]
    exact h.frames frame hframe
  · rw [hother (hfree.2 j r hr)]
    exact h.slots j r hr
  · obtain ⟨rfl, rfl⟩ := Sender.open_setSlot hnone hu
    exact if_pos ⟨rfl, rfl⟩

theorem Owns.take (h : Owns owner f) (hbase : f.Base) {frame : DataFrame} (hframe : frame ∈ f.data)
    {j : Fin 4} {r : Incoming} (htakes : f.receiver.Takes frame.1 frame.2 j r) :
    Owns owner { f with receiver := f.receiver.setSlot j (some r) } := by
  obtain ⟨hpiece, haccepted⟩ := h.frames frame hframe
  refine ⟨h.frames, fun k q hq => ?_, h.opened, h.integrity⟩
  rcases Receiver.setSlot_eq_some_iff.mp hq with ⟨rfl, hnew⟩ | ⟨_, hold⟩
  · cases hnew
    rw [htakes.id_eq, htakes.length_eq]
    refine ⟨htakes.holds hpiece (hbase.frames frame hframe).1 fun q hq hmatches => ?_, haccepted⟩
    have hholds := (h.slots k q hq).1
    rwa [hmatches.1, hmatches.2] at hholds
  · exact h.slots k q hold

theorem Owned.step (h : f.Owned) (hbase : f.Base) (hstep : Step rules f f')
    (hopen : ∀ i t, f.sender.slots i = some t → ¬ t.opened →
      rules.opens f.receiver f.data f.acks t → Unclaimed f.receiver f.data t) : f'.Owned := by
  obtain ⟨owner, h⟩ := h
  cases hstep with
  | accept i data hpos hmax hempty =>
    have hlog := h.of_log (.accepted i f.sender.nextId data) fun _ _ hfate => by cases hfate
    refine ⟨owner, hlog.frames, hlog.slots, fun k t ht => ?_, hlog.integrity⟩
    rcases Sender.setSlot_eq_some_iff.mp ht.1 with ⟨_, hnew⟩ | ⟨_, hold⟩
    · cases hnew
      cases ht.2
    · exact h.opened k t ⟨hold, ht.2⟩
  | openSlot i t ht hnone hrules =>
    exact h.openSlot hnone (hopen i t ht (hnone i t ht) hrules)
  | send i t ht frame hcarries =>
    refine ⟨owner, fun frame' hframe => ?_, h.slots, h.opened, h.integrity⟩
    rcases List.mem_append.mp hframe with hframe | hframe
    · exact h.frames frame' hframe
    · rw [List.mem_singleton.mp hframe, hcarries.id, hcarries.length, h.opened i t ht]
      exact ⟨⟨hcarries.length, hcarries.payload⟩, i, mem_of_occupant (hbase.occupants i t ht.1)⟩
  | fail i t ht hmissing hrules =>
    exact ⟨owner, h.of_sender fun k u hu =>
      ⟨u, ⟨(Slots.of_update_none hu.1).2, hu.2⟩, rfl, rfl⟩⟩
  | withdraw i t ht ack hack hid hfailure | add i t ht ack hack hid hfailure =>
    refine ⟨owner, h.of_sender fun k u hu => ?_⟩
    rcases Sender.setSlot_eq_some_iff.mp hu.1 with ⟨rfl, hnew⟩ | ⟨_, hold⟩
    · cases hnew
      exact ⟨t, ht, rfl, rfl⟩
    · exact ⟨u, ⟨hold, hu.2⟩, rfl, rfl⟩
  | complete i t ht ack hack hid hfailure hall =>
    have hlog := h.of_log (.completed i) fun _ _ hfate => by cases hfate
    exact ⟨owner, hlog.of_sender fun k u hu =>
      ⟨u, ⟨(Slots.of_update_none hu.1).2, hu.2⟩, rfl, rfl⟩⟩
  | take frame hframe j r hnew htakes => exact ⟨owner, h.take hbase hframe htakes⟩
  | queue ack hqueues => exact ⟨owner, h.frames, h.slots, h.opened, h.integrity⟩
  | deliver j r hr hcomplete stored credits hrules =>
    obtain ⟨hholds, haccepted⟩ := h.slots j r hr
    have hcontent := hholds.content_eq (hbase.receiver.fits hr) hcomplete
    have hlog := h.of_log (.delivered r.id r.content) fun id data hfate => by
      cases hfate
      rw [hcontent]
      exact haccepted
    exact ⟨owner, hlog.frames, fun k q hq => hlog.slots k q (Slots.of_update_none hq).2,
      hlog.opened, hlog.integrity⟩
  | sendAck ack rest hpending => exact ⟨owner, h.frames, h.slots, h.opened, h.integrity⟩
  | drop data acks hdata hacks =>
    exact ⟨owner, fun frame hframe => h.frames frame (hdata.subset hframe), h.slots, h.opened,
      h.integrity⟩
  | resetS nextId hrules =>
    refine ⟨owner, h.frames, h.slots, fun i t ht => ?_, h.integrity⟩
    cases ht.1
  | resetR hrules =>
    refine ⟨owner, h.frames, fun j r hr => ?_, h.opened, h.integrity⟩
    cases hr

end Flow

/-! ### Runs -/

namespace Link

/-- A datagram that is opened finds its id and length free. -/
def unclaimedIds : Flow.Rules where
  opens receiver data _ t := Flow.Unclaimed receiver data t

instance : unclaimedIds.Decides where
  opens receiver data _ t := inferInstanceAs (Decidable (Flow.Unclaimed receiver data t))
  fails _ _ _ := instDecidableTrue
  delivers _ _ _ _ := instDecidableTrue
  resetsS := instDecidableTrue
  resetsR _ := instDecidableTrue

/-- If every datagram that `s` opens finds its id and length free, `r` delivers only what `s`
accepted, whenever the engines are reset. -/
theorem integrity_of_unclaimed (s r : ArqConfig) (moves : List Move)
    (hkeeps : (start s r).Keeps unclaimedIds .fifo moves) :
    Integrity ((start s r).after .fifo moves).log := by
  have hrun := run_invariant (P := fun f => f.Base ∧ f.Owned)
    (fun hf hstep => ⟨hf.1.step hstep, hf.2.step hf.1 hstep fun i t _ _ hrules => hrules⟩)
    (start_valid s r) moves hkeeps ⟨.empty _, .empty _⟩
  obtain ⟨owner, howns⟩ := hrun.2
  exact howns.integrity

/-- Two datagrams with a reset of `s` between them; the first arrives before. -/
def unclaimedMoves : List Move :=
  [.submit .s (some [1, 2]), .tick .s openCallbacks 0, .receive .r 0 openCallbacks 0, .reset .s,
    .submit .s (some [3]), .tick .s openCallbacks 0, .receive .r 0 openCallbacks 0]

set_option maxRecDepth 100000 in
theorem integrity_unclaimedMoves :
    Integrity ((start {} { initialDatagramId := 7 }).after .fifo unclaimedMoves).log :=
  integrity_of_unclaimed {} { initialDatagramId := 7 } unclaimedMoves (by decide +kernel)

/-- The first of two fragments arrives, the second is lost, and after a reset of `s` a datagram of
the same length follows. -/
def mixingMoves : List Move :=
  [.submit .s (some (List.replicate 116 7)), .tick .s openCallbacks 0, .tick .s openCallbacks 0,
    .receive .r 0 openCallbacks 0, .lose .r 0, .reset .s, .submit .s (some (List.replicate 116 9)),
    .tick .s openCallbacks 0, .tick .s openCallbacks 0, .receive .r 0 openCallbacks 0,
    .receive .r 0 openCallbacks 0]

set_option maxRecDepth 100000 in
theorem mixingMoves_log : ((start {} {}).after .fifo mixingMoves).log =
    [.accepted 0 0 (List.replicate 116 7), .accepted 0 0 (List.replicate 116 9),
      .delivered 0 (List.replicate 115 7 ++ [9])] := by
  decide +kernel

theorem not_integrity : ¬ ∀ (s r : ArqConfig) (moves : List Move),
    (∀ move ∈ moves, move ≠ .reset .r) → Integrity ((start s r).after .fifo moves).log := by
  intro h
  have hmoves : ∀ move ∈ mixingMoves, move ≠ .reset .r := by
    simp [mixingMoves]
  obtain ⟨i, hmem⟩ := h {} {} mixingMoves hmoves
    [.accepted 0 0 (List.replicate 116 7), .accepted 0 0 (List.replicate 116 9)] 0
    (List.replicate 115 7 ++ [9]) [] mixingMoves_log
  revert i
  decide

end Link

end FlrcTnc
