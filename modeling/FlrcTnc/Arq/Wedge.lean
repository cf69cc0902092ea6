import FlrcTnc.Arq.Run

/-! Open datagrams without a missing fragment.  They arise exactly when a failure ACK other than a
withdrawal brings the last missing bits. -/

namespace FlrcTnc.Arq

open Framing Mask

/-! ### The sender -/

namespace Sender

/-- Every open datagram misses a fragment. -/
def NoWedge (s : Sender) : Prop := ∀ i t, s.Open i t → ¬ t.AllAcked

/-- A failure ACK other than a withdrawal does not bring the last missing bits of an open
datagram. -/
def LeavesMissing (s : Sender) (ack : AckFrame) : Prop :=
  ack.failure ≠ .none → ack.failure ≠ .creditWithdrawal → ∀ i t, s.Open i t →
    t.id = ack.datagramId → ¬ { t with acked := t.acked ||| ack.fragmentBitmap }.AllAcked

theorem not_allAcked_zero {t : Outgoing} (h : t.Fits) : ¬ { t with acked := 0 }.AllAcked := by
  have hfrag : fragments t.data.length ≤ 16 := (fragments_le h.2).trans (by decide)
  rw [Outgoing.AllAcked, fullMask, not_covers_below_iff hfrag]
  exact ⟨0, fragments_pos h.1, hasBit_zero 0⟩

theorem NoWedge.act {s s' : Sender} {evs : List Event} (h : s.NoWedge) (hinv : s.Inv)
    (hact : s.Act evs s') : s'.NoWedge := by
  cases hact with
  | accept i data hpos hmax hempty hfirst =>
    rintro j u ⟨hu, hopened⟩
    rcases setSlot_eq_some_iff.mp hu with ⟨_, hnew⟩ | ⟨_, hold⟩
    · cases hnew
      cases hopened
    · exact h j u ⟨hold, hopened⟩
  | openSlot i t ht hnone hfirst =>
    rintro j u ⟨hu, hopened⟩
    rcases setSlot_eq_some_iff.mp hu with ⟨_, hnew⟩ | ⟨_, hold⟩
    · cases hnew
      exact not_allAcked_zero (t := t) (hinv.fits ht)
    · exact h j u ⟨hold, hopened⟩
  | send => exact h
  | fail i t ht hmissing =>
    rintro j u ⟨hu, hopened⟩
    exact h j u ⟨(Slots.of_update_none hu).2, hopened⟩

/-- Whether an ACK leaves a datagram open without a missing fragment. -/
theorem NoWedge.receive_iff {s s' : Sender} {ack : AckFrame} {evs : List Event} (h : s.NoWedge)
    (hinv : s.Inv) (hreceive : s.Receive ack evs s') : s'.NoWedge ↔ s.LeavesMissing ack := by
  cases hreceive with
  | ignore hother =>
    exact ⟨fun _ _ _ i t ht hid => absurd hid (hother i t ht), fun _ => h⟩
  | withdraw i t ht hid hfailure =>
    refine ⟨fun _ _ hnot => absurd hfailure hnot, ?_⟩
    rintro - j u ⟨hu, hopened⟩
    rcases setSlot_eq_some_iff.mp hu with ⟨_, hnew⟩ | ⟨_, hold⟩
    · cases hnew
      -- fewer bits than before
      intro hall
      refine h i t ht (covers_iff.mpr fun k hk => ?_)
      have hbit := covers_iff.mp hall k hk
      rw [hasBit_and, Bool.and_eq_true] at hbit
      exact hbit.1
    · exact h j u ⟨hold, hopened⟩
  | add i t ht hid hfailure hmissing =>
    constructor
    · intro hno hnone _ j u hu hid'
      obtain rfl := hinv.one_open ht hu
      cases ht.1.symm.trans hu.1
      exact hno i _ ⟨setSlot_eq_some_iff.mpr (.inl ⟨rfl, rfl⟩), ht.2⟩
    · rintro hleaves j u ⟨hu, hopened⟩
      rcases setSlot_eq_some_iff.mp hu with ⟨_, hnew⟩ | ⟨_, hold⟩
      · cases hnew
        intro hall
        by_cases hnone : ack.failure = .none
        · exact hmissing ⟨hall, hnone⟩
        · exact hleaves hnone hfailure i t ht hid hall
      · exact h j u ⟨hold, hopened⟩
  | complete i t ht hid hfailure hall =>
    refine ⟨fun _ hnot => absurd hfailure hnot, ?_⟩
    rintro - j u ⟨hu, hopened⟩
    exact h j u ⟨(Slots.of_update_none hu).2, hopened⟩

end Sender

/-! ### The engine -/

/-- Every `OPEN` slot has an expected fragment that is not set in `acked_bitmap`. -/
def ArqEngine.NoWedge (e : ArqEngine) : Prop :=
  ∀ i, (e.txSlots i).state = .open →
    ∃ k, hasBit (expectedBitmap (e.txSlots i).fragmentCount) k ∧
      ¬ hasBit (e.txSlots i).ackedBitmap k

/-- Unless the call brings an ACK whose failure is neither `NONE` nor `CREDIT_WITHDRAWAL`, for the
datagram of an `OPEN` slot, with every expected bit that the slot misses. -/
def Call.LeavesMissing (e : ArqEngine) : Call → Prop
  | .onRxPacket packet _ =>
    ∀ ack, parseAckPacket packet = .ok ack → ack.failure ≠ .none →
      ack.failure ≠ .creditWithdrawal → ∀ i, (e.txSlots i).state = .open →
        (e.txSlots i).datagramId = ack.datagramId →
          ∃ k, hasBit (expectedBitmap (e.txSlots i).fragmentCount) k ∧
            ¬ hasBit ((e.txSlots i).ackedBitmap ||| ack.fragmentBitmap) k
  | .onTxDatagram _ | .onTick _ | .flushPendingAck _ => True

theorem not_covers_iff_exists {m full : UInt16} :
    ¬ Covers m full ↔ ∃ k, hasBit full k ∧ ¬ hasBit m k := by
  simp [covers_iff]

/-- The missing fragments of an open slot and of the datagram in it. -/
theorem ArqEngine.missing_iff {e : ArqEngine} (h : e.Valid) {i : Fin 4} {t : Outgoing}
    (ht : e.sender.Open i t) (acked : UInt16) :
    (∃ k, hasBit (expectedBitmap (e.txSlots i).fragmentCount) k ∧ ¬ hasBit acked k) ↔
      ¬ { t with acked }.AllAcked := by
  obtain ⟨hopen, rfl⟩ := Exec.sender_open_iff (e := { e with }).mp ht
  obtain ⟨ref, hslot⟩ := h.1.slot i (by rw [hopen]; decide)
  rw [Outgoing.AllAcked, Buffer.read_length, ← hslot.expectedBitmap_eq, not_covers_iff_exists]

theorem ArqEngine.noWedge_iff {e : ArqEngine} (h : e.Valid) : e.NoWedge ↔ e.sender.NoWedge := by
  constructor
  · intro hno i t ht
    obtain ⟨hopen, rfl⟩ := Exec.sender_open_iff (e := { e with }).mp ht
    exact (missing_iff h ht _).mp (hno i hopen)
  · intro hno i hopen
    have ht := Exec.sender_open (e := { e with }) hopen
    exact (missing_iff h ht _).mpr (hno i _ ht)

theorem Call.leavesMissing_iff {e : ArqEngine} (h : e.Valid) {packet : Packet} {now : UInt32} :
    (Call.onRxPacket packet now).LeavesMissing e ↔
      ∀ ack, parseAckPacket packet = .ok ack → e.sender.LeavesMissing ack := by
  constructor
  · intro hleaves ack hack hnone hwithdrawal i t ht hid
    obtain ⟨hopen, rfl⟩ := Exec.sender_open_iff (e := { e with }).mp ht
    exact (ArqEngine.missing_iff h ht _).mp (hleaves ack hack hnone hwithdrawal i hopen hid)
  · intro hleaves ack hack hnone hwithdrawal i hopen hid
    have ht := Exec.sender_open (e := { e with }) hopen
    exact (ArqEngine.missing_iff h ht _).mpr (hleaves ack hack hnone hwithdrawal i _ ht hid)

/-- What the party does of itself leaves every open datagram with a missing fragment. -/
theorem Party.noWedge_act {evs : List Event} {p q : Party}
    (h : p.sender.NoWedge ∧ p.Inv) (hact : Act p evs q) : q.sender.NoWedge ∧ q.Inv := by
  refine ⟨?_, h.2.act hact⟩
  cases hact with
  | sender r hact => exact h.1.act h.2.1 hact
  | receiver s hact => exact h.1

theorem Party.Receive.noWedge_iff {p q : Party} {evs : List Event} {packet : Packet}
    (h : p.sender.NoWedge) (hinv : p.Inv) (hreceive : Receive packet p evs q) :
    q.sender.NoWedge ↔ ∀ ack, parseAckPacket packet = .ok ack → p.sender.LeavesMissing ack := by
  cases hreceive with
  | ignore _ hdata hack => exact iff_of_true h fun ack hparse => absurd hparse (hack ack)
  | data s hpacket hreceive =>
    exact iff_of_true h fun ack hparse => absurd hparse (not_ack_of_data hpacket ack)
  | ack r hpacket hreceive =>
    rw [h.receive_iff hinv.1 hreceive]
    refine ⟨fun hleaves a ha => ?_, fun hleaves => hleaves _ hpacket⟩
    cases hpacket.symm.trans ha
    exact hleaves

/-- One call keeps `NoWedge` exactly if it leaves a fragment missing. -/
theorem ArqEngine.run_noWedge_iff {e : ArqEngine} (h : e.Valid) (hinv : e.party.Inv)
    (hno : e.NoWedge) (cb : ArqCallbacks) (call : Call) :
    (e.run cb call).NoWedge ↔ call.LeavesMissing e := by
  obtain ⟨hvalid, hdoes⟩ := run_spec h cb call
  rw [noWedge_iff hvalid]
  have hno' := (noWedge_iff h).mp hno
  cases call with
  | onRxPacket packet now =>
    rw [Call.leavesMissing_iff h]
    exact Party.Receive.noWedge_iff hno' hinv hdoes
  | onTxDatagram =>
    exact iff_of_true (Party.Submit.invariant (P := fun _ p => p.sender.NoWedge ∧ p.Inv) (a := [])
      Party.noWedge_act hdoes ⟨hno', hinv⟩).1 trivial
  | onTick | flushPendingAck =>
    exact iff_of_true (Party.Tick.invariant (P := fun _ p => p.sender.NoWedge ∧ p.Inv) (a := [])
      (fun hp hown => Party.noWedge_act hp hown.1) hdoes ⟨hno', hinv⟩).1 trivial

theorem ArqEngine.reset_noWedge (config : ArqConfig) : (reset config).NoWedge :=
  fun _ hopen => by cases hopen

/-- In a run every `OPEN` slot always misses a fragment exactly if no received failure ACK, other
than a withdrawal, brings all the bits that an `OPEN` slot misses. -/
theorem no_sender_wedge_iff (config : ArqConfig) (calls : List (ArqCallbacks × Call)) :
    (∀ before after, calls = before ++ after → ((ArqEngine.reset config).after before).NoWedge) ↔
      ∀ before cb call after, calls = before ++ (cb, call) :: after →
        call.LeavesMissing ((ArqEngine.reset config).after before) := by
  have hstep (before : List (ArqCallbacks × Call)) (cb : ArqCallbacks) (call : Call)
      (hno : ((ArqEngine.reset config).after before).NoWedge) :
      ((ArqEngine.reset config).after (before ++ [(cb, call)])).NoWedge ↔
        call.LeavesMissing ((ArqEngine.reset config).after before) := by
    rw [ArqEngine.after_append]
    exact ArqEngine.run_noWedge_iff (ArqEngine.after_valid (ArqEngine.reset_valid config) before)
      (ArqEngine.run_inv config before) hno cb call
  constructor
  · intro hno before cb call after hsplit
    refine (hstep before cb call (hno before _ hsplit)).mp (hno _ after ?_)
    rw [hsplit, List.append_assoc]
    rfl
  · intro hleaves before after hsplit
    induction before using List.reverseRecOn generalizing after with
    | nil => exact ArqEngine.reset_noWedge config
    | append_singleton before step ih =>
      rw [List.append_assoc] at hsplit
      exact (hstep before step.1 step.2 (ih _ hsplit)).mpr (hleaves before _ _ after hsplit)

/-! ### A wedged sender -/

/-- The packet of an ACK; nothing stands for a frame that `buildAckPacket` refuses. -/
def ackPacket (ack : AckFrame) : Packet :=
  match buildAckPacket ack with
  | .ok packet => packet
  | .error _ => ⟨[], by simp⟩

/-- One datagram of one fragment, and a `MALFORMED_INPUT` ACK that has received it. -/
def wedgingCalls : List (ArqCallbacks × Call) :=
  [({}, .onTxDatagram (some [0x55])), ({}, .onTick 0),
    ({}, .onRxPacket (ackPacket ⟨0, 1, 4, .malformedInput⟩) 0)]

theorem wedgingCalls_slot :
    let slot := ((ArqEngine.reset {}).after wedgingCalls).txSlots 0
    slot.state = .open ∧ slot.ackedBitmap = 1 ∧ slot.fragmentCount = 1 := by
  decide +kernel

theorem not_noWedge : ¬ ∀ (config : ArqConfig) (calls : List (ArqCallbacks × Call)),
    ((ArqEngine.reset config).after calls).NoWedge := by
  intro h
  obtain ⟨hopen, hacked, hcount⟩ := wedgingCalls_slot
  obtain ⟨k, hexpected, hmissing⟩ := h {} wedgingCalls 0 hopen
  rw [hcount] at hexpected
  rw [hacked] at hmissing
  exact hmissing hexpected

end FlrcTnc.Arq
