import FlrcTnc.Arq.Resources
import FlrcTnc.Arq.Engine
import FlrcTnc.Framing.Reassembly
import FlrcTnc.Lib.Slots

/-! The receiving half of the engine, for its own sake: four places for datagrams that arrive in
fragments, the duplicate window and the ACKs that wait to be sent.  When a complete datagram finds
its way out is left open, and so are the credits in ordinary ACKs. -/

namespace FlrcTnc.Arq

open Framing Mask

/-- A datagram that arrives: the fragments in `bits` stand in the buffer. -/
structure Incoming where
  id : UInt16
  length : UInt16
  bits : UInt16
  buffer : Buffer

namespace Incoming

/-- Every fragment has arrived. -/
def Complete (r : Incoming) : Prop := Covers r.bits (fullMask r.length.toNat)

instance (r : Incoming) : Decidable r.Complete := inferInstanceAs (Decidable (Covers ..))

/-- The bytes that a complete datagram hands on. -/
def content (r : Incoming) : List UInt8 := r.buffer.read 0 r.length.toNat

/-- A fragment arrives; one that is there already changes nothing. -/
def add (r : Incoming) (header : DataHeader) (payload : List UInt8) : Incoming :=
  { r with
    bits := r.bits ||| bit header.fragmentIndex.toNat
    buffer := if hasBit r.bits header.fragmentIndex.toNat then r.buffer
      else r.buffer.write (115 * header.fragmentIndex.toNat) payload }

@[simp] theorem add_id (r : Incoming) (header : DataHeader) (payload : List UInt8) :
    (r.add header payload).id = r.id := rfl

@[simp] theorem add_length (r : Incoming) (header : DataHeader) (payload : List UInt8) :
    (r.add header payload).length = r.length := rfl

/-- The header is of the same datagram. -/
def Matches (r : Incoming) (header : DataHeader) : Prop :=
  r.id = header.datagramId ∧ r.length = header.datagramLength

/-- The number of fragments, as headers carry it. -/
def fragmentCount (r : Incoming) : UInt8 := expectedFragmentCount r.length

structure Fits (r : Incoming) : Prop where
  length_pos : 0 < r.length.toNat
  length_le : r.length.toNat ≤ 1280
  bits : ∀ k, hasBit r.bits k → k < fragments r.length.toNat

theorem Fits.complete_iff {r : Incoming} (h : r.Fits) :
    r.Complete ↔ ∀ k < fragments r.length.toNat, hasBit r.bits k :=
  covers_fullMask_iff h.length_le

theorem Fits.expectedBitmap {r : Incoming} (h : r.Fits) :
    Arq.expectedBitmap r.fragmentCount = fullMask r.length.toNat := by
  refine fragmentExpectedBitmap_expectedFragmentCount ?_ (UInt16.le_iff_toNat_le.mpr h.length_le)
  intro h0
  have hpos := h.length_pos
  rw [h0] at hpos
  exact absurd hpos (by decide)

theorem Fits.add {r : Incoming} {header : DataHeader} {payload : List UInt8}
    (h : ∀ k, hasBit r.bits k → k < fragments r.length.toNat)
    (hlength : r.length = header.datagramLength) (hvalid : validateDataHeader header) :
    (r.add header payload).Fits := by
  obtain ⟨hpos, hmax, hindex, _⟩ := validateDataHeader_toNat hvalid
  have hfrag := fragments_le hmax
  refine ⟨by rw [add_length, hlength]; exact hpos, by rw [add_length, hlength]; exact hmax, ?_⟩
  intro k hk
  rw [Incoming.add, hasBit_or, hasBit_bit (by omega), Bool.or_eq_true, decide_eq_true_eq] at hk
  rw [add_length]
  rcases hk with hk | rfl
  · exact h k hk
  · rw [hlength]
    exact hindex

end Incoming

/-- `enqueueAck` on the frames: a pending ACK of the same datagram is replaced, and a new one is
dropped if there is no room. -/
def enqueue (pending : List AckFrame) (ack : AckFrame) : List AckFrame :=
  match pending.findIdx? fun p => p.datagramId = ack.datagramId with
  | some i => pending.set i ack
  | none => if pending.length ≥ arqPendingAckCapacity then pending else pending ++ [ack]

/-- The trace of `enqueue`. -/
def enqueueEvents (pending : List AckFrame) (ack : AckFrame) (source : AckSource) : List Event :=
  if (pending.findIdx? fun p => p.datagramId = ack.datagramId) = none ∧
      pending.length ≥ arqPendingAckCapacity then []
  else [.ackQueued ack source]

theorem mem_of_mem_enqueue {pending : List AckFrame} {ack a : AckFrame}
    (h : a ∈ enqueue pending ack) : a = ack ∨ a ∈ pending := by
  rw [enqueue] at h
  split at h
  · exact (List.mem_or_eq_of_mem_set h).symm
  · split at h
    · exact .inr h
    · rcases List.mem_append.mp h with h | h
      · exact .inr h
      · exact .inl (List.mem_singleton.mp h)

/-- An ACK that newly stands in the queue has left its trace. -/
theorem mem_enqueue_traced {pending : List AckFrame} {ack a : AckFrame} (source : AckSource)
    (h : a ∈ enqueue pending ack) :
    a ∈ pending ∨ (a = ack ∧ .ackQueued ack source ∈ enqueueEvents pending ack source) := by
  rw [enqueue] at h
  rw [enqueueEvents]
  split at h
  · next i hi =>
    rcases List.mem_or_eq_of_mem_set h with h | rfl
    · exact .inl h
    · exact .inr ⟨rfl, by simp [hi]⟩
  · next hnone =>
    split at h
    · exact .inl h
    · next hroom =>
      rcases List.mem_append.mp h with h | h
      · exact .inl h
      · exact .inr ⟨List.mem_singleton.mp h, by simp [hroom]⟩

theorem eq_of_mem_enqueueEvents {pending : List AckFrame} {ack : AckFrame} {source : AckSource}
    {ev : Event} (h : ev ∈ enqueueEvents pending ack source) : ev = .ackQueued ack source := by
  rw [enqueueEvents] at h
  split at h
  · cases h
  · exact List.mem_singleton.mp h

structure Receiver where
  slots : Fin 4 → Option Incoming
  window : DuplicateWindow
  pending : List AckFrame

namespace Receiver

def setSlot (s : Receiver) (j : Fin 4) (r : Option Incoming) : Receiver :=
  { s with slots := Function.update s.slots j r }

@[simp] theorem setSlot_window (s : Receiver) (j : Fin 4) (r : Option Incoming) :
    (s.setSlot j r).window = s.window := rfl

@[simp] theorem setSlot_pending (s : Receiver) (j : Fin 4) (r : Option Incoming) :
    (s.setSlot j r).pending = s.pending := rfl

theorem setSlot_eq_some_iff {s : Receiver} {j k : Fin 4} {r : Option Incoming} {q : Incoming} :
    (s.setSlot j r).slots k = some q ↔ (k = j ∧ r = some q) ∨ (k ≠ j ∧ s.slots k = some q) :=
  Slots.update_eq_some_iff

def queue (s : Receiver) (ack : AckFrame) : Receiver := { s with pending := enqueue s.pending ack }

@[simp] theorem queue_slots (s : Receiver) (ack : AckFrame) : (s.queue ack).slots = s.slots := rfl

@[simp] theorem queue_window (s : Receiver) (ack : AckFrame) :
    (s.queue ack).window = s.window := rfl

/-- The final ACK of a delivered datagram. -/
def finalAck (r : Incoming) (credits : UInt8) : AckFrame :=
  ⟨r.id, fullMask r.length.toNat, credits, .none⟩

/-- The receiver after `deliver_datagram` has taken the datagram of slot `j`. -/
def finish (s : Receiver) (j : Fin 4) (r : Incoming) (stored credits : UInt8) : Receiver :=
  { s.queue (finalAck r credits) with
    slots := Function.update s.slots j none
    window := duplicateWindowStore s.window r.id ⟨fullMask r.length.toNat, stored, .none⟩ }

/-- The trace of `finish`. -/
def finishEvents (s : Receiver) (r : Incoming) (credits : UInt8) : List Event :=
  .delivered r.id r.content true ::
    enqueueEvents s.pending (finalAck r credits) (.reassembly r.fragmentCount)

/-- What the receiver does of itself. -/
inductive Act : Receiver → List Event → Receiver → Prop
  /-- `deliver_datagram` refuses a complete datagram. -/
  | refuse (s : Receiver) (j : Fin 4) (r : Incoming) (hr : s.slots j = some r)
      (hcomplete : r.Complete) : Act s [.delivered r.id r.content false] s
  | deliver (s : Receiver) (j : Fin 4) (r : Incoming) (hr : s.slots j = some r)
      (hcomplete : r.Complete) (stored credits : UInt8) :
      Act s (finishEvents s r credits) (s.finish j r stored credits)
  /-- The first pending ACK is handed to `send_packet` and stays if that fails. -/
  | sendAck (s : Receiver) (ack : AckFrame) (rest : List AckFrame)
      (hpending : s.pending = ack :: rest) (packet : Packet)
      (hpacket : parseAckPacket packet = .ok ack) (ok : Bool) :
      Act s [.sent packet ok] { s with pending := if ok then rest else s.pending }

/-- Slot `j` takes the fragment: it holds the datagram already, or it is empty and no slot does. -/
inductive Takes (s : Receiver) (header : DataHeader) (payload : List UInt8) (j : Fin 4) :
    Incoming → Prop
  | held (r : Incoming) (hr : s.slots j = some r) (hmatches : r.Matches header) :
      Takes s header payload j (r.add header payload)
  | fresh (buffer : Buffer) (hempty : s.slots j = none)
      (hnew : ∀ k r, s.slots k = some r → r.id ≠ header.datagramId) :
      Takes s header payload j
        (Incoming.add ⟨header.datagramId, header.datagramLength, 0, buffer⟩ header payload)

/-- The CREDIT_WITHDRAWAL ACK of a complete datagram that nothing takes: fragment 0 is asked for
again. -/
def withdrawalAck (r : Incoming) : AckFrame := ⟨r.id, r.bits &&& ~~~ bit 0, 0, .creditWithdrawal⟩

/-- What follows a fragment that slot `j` has taken, which now holds `r`. -/
inductive Settle (s : Receiver) (j : Fin 4) (r : Incoming) : List Event → Receiver → Prop
  | partly (hpart : ¬ r.Complete) : Settle s j r [] s
  | roundEnd (hpart : ¬ r.Complete) (credits : UInt8) :
      Settle s j r
        (enqueueEvents s.pending ⟨r.id, r.bits, credits, .none⟩ (.reassembly r.fragmentCount))
        (s.queue ⟨r.id, r.bits, credits, .none⟩)
  | deliver (hcomplete : r.Complete) (stored credits : UInt8) :
      Settle s j r (finishEvents s r credits) (s.finish j r stored credits)
  | block (hcomplete : r.Complete) (refused : List Event)
      (hrefused : refused = [] ∨ refused = [.delivered r.id r.content false]) :
      Settle s j r
        (refused ++ enqueueEvents s.pending (withdrawalAck r) (.reassembly r.fragmentCount))
        (s.queue (withdrawalAck r))

/-- What a DATA frame does to the receiver. -/
inductive Receive (header : DataHeader) (payload : List UInt8) :
    Receiver → List Event → Receiver → Prop
  | duplicate (s : Receiver) (stored : DuplicateAckState) (credits : UInt8)
      (hstored : duplicateWindowFind s.window header.datagramId = some stored) :
      Receive header payload s
        (enqueueEvents s.pending
          ⟨header.datagramId, stored.fragmentBitmap, credits, stored.failure⟩ .duplicate)
        (s.queue ⟨header.datagramId, stored.fragmentBitmap, credits, stored.failure⟩)
  | noSlot (s : Receiver) (credits : UInt8) (hnew : ¬ s.window.Has header.datagramId)
      (hfull : ∀ j, ∃ r, s.slots j = some r ∧ r.id ≠ header.datagramId) :
      Receive header payload s
        (enqueueEvents s.pending ⟨header.datagramId, 0, credits, .allocationFailure⟩ .refused)
        (s.queue ⟨header.datagramId, 0, credits, .allocationFailure⟩)
  | mismatch (s : Receiver) (j : Fin 4) (r : Incoming) (credits : UInt8)
      (hnew : ¬ s.window.Has header.datagramId) (hr : s.slots j = some r)
      (hid : r.id = header.datagramId) (hlength : r.length ≠ header.datagramLength) :
      Receive header payload s
        (enqueueEvents s.pending ⟨header.datagramId, r.bits, credits, .malformedInput⟩
          (.reassembly r.fragmentCount))
        (s.queue ⟨header.datagramId, r.bits, credits, .malformedInput⟩)
  | taken {s s' : Receiver} {evs : List Event} (j : Fin 4) (r : Incoming)
      (hnew : ¬ s.window.Has header.datagramId) (htakes : s.Takes header payload j r)
      (hsettle : (s.setSlot j (some r)).Settle j r evs s') : Receive header payload s evs s'

/-- What is complete afterwards was there before. -/
def Drains (s s' : Receiver) : Prop :=
  ∀ j r, s'.slots j = some r → r.Complete → s.slots j = some r

theorem Drains.refl (s : Receiver) : s.Drains s := fun _ _ hr _ => hr

theorem Drains.trans {s t u : Receiver} (h : s.Drains t) (h' : t.Drains u) : s.Drains u :=
  fun j r hr hcomplete => h j r (h' j r hr hcomplete) hcomplete

theorem Drains.queue (s : Receiver) (ack : AckFrame) : s.Drains (s.queue ack) :=
  fun _ _ hr _ => hr

/-- Settling only empties slots. -/
theorem Settle.slots {s s' : Receiver} {j k : Fin 4} {r q : Incoming} {evs : List Event}
    (h : s.Settle j r evs s') (hq : s'.slots k = some q) : s.slots k = some q := by
  cases h with
  | partly | roundEnd | block => exact hq
  | deliver => exact (Slots.of_update_none hq).2

/-- The reassemblies are in range and of different datagrams. -/
structure Inv (s : Receiver) : Prop where
  fits : ∀ {j r}, s.slots j = some r → r.Fits
  distinct : ∀ {j k r q}, s.slots j = some r → s.slots k = some q → r.id = q.id → j = k

theorem Inv.empty {window : DuplicateWindow} {pending : List AckFrame} :
    Inv ⟨fun _ => none, window, pending⟩ where
  fits h := by cases h
  distinct h := by cases h

theorem Inv.clear {s : Receiver} (h : s.Inv) (j : Fin 4) (window : DuplicateWindow)
    (pending : List AckFrame) : Inv ⟨Function.update s.slots j none, window, pending⟩ where
  fits hr := h.fits (Slots.of_update_none hr).2
  distinct hr hq := h.distinct (Slots.of_update_none hr).2 (Slots.of_update_none hq).2

theorem Takes.id_eq {s : Receiver} {header : DataHeader} {payload : List UInt8} {j : Fin 4}
    {r : Incoming} (h : s.Takes header payload j r) : r.id = header.datagramId := by
  cases h with
  | held r hr hmatches => exact hmatches.1
  | fresh => rfl

theorem Takes.length_eq {s : Receiver} {header : DataHeader} {payload : List UInt8} {j : Fin 4}
    {r : Incoming} (h : s.Takes header payload j r) : r.length = header.datagramLength := by
  cases h with
  | held r hr hmatches => exact hmatches.2
  | fresh => rfl

/-- No other slot holds the datagram of a fragment that is taken. -/
theorem Takes.other {s : Receiver} {header : DataHeader} {payload : List UInt8} {j k : Fin 4}
    {r q : Incoming} (h : s.Takes header payload j r) (hinv : s.Inv) (hq : s.slots k = some q)
    (hk : k ≠ j) : q.id ≠ header.datagramId := by
  intro hid
  cases h with
  | held r hr hmatches => exact hk (hinv.distinct hq hr (hid.trans hmatches.1.symm))
  | fresh _ _ hnew => exact hnew k q hq hid

theorem Takes.fits {s : Receiver} {header : DataHeader} {payload : List UInt8} {j : Fin 4}
    {r : Incoming} (h : s.Takes header payload j r) (hinv : s.Inv)
    (hvalid : validateDataHeader header) : r.Fits := by
  cases h with
  | held r hr hmatches => exact Incoming.Fits.add (hinv.fits hr).bits hmatches.2 hvalid
  | fresh => exact Incoming.Fits.add (by simp) rfl hvalid

theorem Inv.takes {s : Receiver} {header : DataHeader} {payload : List UInt8} {j : Fin 4}
    {r : Incoming} (hinv : s.Inv) (h : s.Takes header payload j r)
    (hvalid : validateDataHeader header) : (s.setSlot j (some r)).Inv where
  fits hq := by
    rcases setSlot_eq_some_iff.mp hq with ⟨_, hnew⟩ | ⟨_, hold⟩
    · cases hnew
      exact h.fits hinv hvalid
    · exact hinv.fits hold
  distinct hq hp hid := by
    rcases setSlot_eq_some_iff.mp hq with ⟨rfl, hnew⟩ | ⟨hne, hold⟩
    · cases hnew
      rcases setSlot_eq_some_iff.mp hp with ⟨rfl, _⟩ | ⟨hne, hold⟩
      · rfl
      · exact absurd (hid.symm.trans h.id_eq) (h.other hinv hold hne)
    · rcases setSlot_eq_some_iff.mp hp with ⟨rfl, hnew⟩ | ⟨_, hold'⟩
      · cases hnew
        exact absurd (hid.trans h.id_eq) (h.other hinv hold hne)
      · exact hinv.distinct hold hold' hid

theorem Inv.act {s s' : Receiver} {evs : List Event} (h : s.Inv) (hact : Act s evs s') :
    s'.Inv := by
  cases hact with
  | refuse => exact h
  | deliver j r hr hcomplete stored credits => exact h.clear j _ _
  | sendAck ack rest hpending packet hpacket ok => exact ⟨h.fits, h.distinct⟩

theorem Inv.settle {s s' : Receiver} {j : Fin 4} {r : Incoming} {evs : List Event} (h : s.Inv)
    (hsettle : s.Settle j r evs s') : s'.Inv := by
  cases hsettle with
  | partly => exact h
  | roundEnd => exact ⟨h.fits, h.distinct⟩
  | deliver => exact h.clear j _ _
  | block => exact ⟨h.fits, h.distinct⟩

theorem Inv.receive {s s' : Receiver} {header : DataHeader} {payload : List UInt8}
    {evs : List Event} (h : s.Inv) (hvalid : validateDataHeader header)
    (hreceive : Receive header payload s evs s') : s'.Inv := by
  cases hreceive with
  | duplicate => exact ⟨h.fits, h.distinct⟩
  | noSlot => exact ⟨h.fits, h.distinct⟩
  | mismatch => exact ⟨h.fits, h.distinct⟩
  | taken j r hnew htakes hsettle => exact (h.takes htakes hvalid).settle hsettle

end Receiver

end FlrcTnc.Arq
