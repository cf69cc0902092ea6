import FlrcTnc.Arq.Engine
import FlrcTnc.Framing.Reassembly
import FlrcTnc.Lib.Slots

/-! The sending half of the engine, for its own sake: four places for datagrams, of which at most
one is open, and the fragments of it that are known to have arrived.  Rounds, deadlines, credits and
buffers do not appear: when a fragment is sent or a datagram is given up is left open. -/

namespace FlrcTnc.Arq

open Framing Mask

/-- A datagram that the sender holds, waiting (`QUEUED`) or `OPEN`. -/
structure Outgoing where
  opened : Bool
  id : UInt16
  data : List UInt8
  acked : UInt16
  deriving DecidableEq, Repr

namespace Outgoing

/-- The datagram is as long as the engine accepts. -/
def Fits (t : Outgoing) : Prop := 0 < t.data.length ∧ t.data.length ≤ 1280

/-- Every fragment is acknowledged. -/
def AllAcked (t : Outgoing) : Prop := Covers t.acked (fullMask t.data.length)

instance (t : Outgoing) : Decidable t.AllAcked := inferInstanceAs (Decidable (Covers ..))

/-- A DATA frame that carries a fragment of the datagram. -/
structure Carries (t : Outgoing) (header : DataHeader) (payload : List UInt8) : Prop where
  valid : validateDataHeader header
  id : header.datagramId = t.id
  length : header.datagramLength.toNat = t.data.length
  payload : payload = fragmentOf t.data header.fragmentIndex.toNat

end Outgoing

structure Sender where
  slots : Fin 4 → Option Outgoing
  nextId : UInt16

namespace Sender

def setSlot (s : Sender) (i : Fin 4) (t : Option Outgoing) : Sender :=
  { s with slots := Function.update s.slots i t }

@[simp] theorem setSlot_nextId (s : Sender) (i : Fin 4) (t : Option Outgoing) :
    (s.setSlot i t).nextId = s.nextId := rfl

theorem setSlot_eq_some_iff {s : Sender} {i j : Fin 4} {t : Option Outgoing} {u : Outgoing} :
    (s.setSlot i t).slots j = some u ↔ (j = i ∧ t = some u) ∨ (j ≠ i ∧ s.slots j = some u) :=
  Slots.update_eq_some_iff

@[simp] theorem setSlot_setSlot (s : Sender) (i : Fin 4) (t u : Option Outgoing) :
    (s.setSlot i t).setSlot i u = s.setSlot i u := by
  simp [setSlot]

/-- Slot `i` holds the open datagram `t`. -/
def Open (s : Sender) (i : Fin 4) (t : Outgoing) : Prop := s.slots i = some t ∧ t.opened

/-- What the sender does of itself. -/
inductive Act : Sender → List Event → Sender → Prop
  /-- The first empty slot takes a datagram. -/
  | accept (s : Sender) (i : Fin 4) (data : List UInt8) (hpos : 0 < data.length)
      (hmax : data.length ≤ 1280) (hempty : s.slots i = none)
      (hfirst : ∀ k < i, s.slots k ≠ none) :
      Act s [.accepted i s.nextId data]
        { s.setSlot i (some ⟨false, s.nextId, data, 0⟩) with nextId := s.nextId + 1 }
  /-- While nothing is open, the first waiting datagram is opened. -/
  | openSlot (s : Sender) (i : Fin 4) (t : Outgoing) (ht : s.slots i = some t)
      (hnone : ∀ k u, s.slots k = some u → ¬ u.opened) (hfirst : ∀ k < i, s.slots k = none) :
      Act s [.opened i] (s.setSlot i (some { t with opened := true, acked := 0 }))
  /-- A fragment of the open datagram is handed to `send_packet`. -/
  | send (s : Sender) (i : Fin 4) (t : Outgoing) (ht : s.Open i t) (packet : Packet)
      (header : DataHeader) (payload : List UInt8) (hcarries : t.Carries header payload)
      (hpacket : parseDataPacket packet = .ok (header, payload)) (ok : Bool) :
      Act s [.sent packet ok] s
  /-- The open datagram is given up; some fragment of it is not acknowledged. -/
  | fail (s : Sender) (i : Fin 4) (t : Outgoing) (ht : s.Open i t) (hmissing : ¬ t.AllAcked) :
      Act s [.failed i] (s.setSlot i none)

/-- What an ACK does to the sender. -/
inductive Receive (ack : AckFrame) : Sender → List Event → Sender → Prop
  | ignore (s : Sender) (hother : ∀ i t, s.Open i t → t.id ≠ ack.datagramId) : Receive ack s [] s
  | withdraw (s : Sender) (i : Fin 4) (t : Outgoing) (ht : s.Open i t)
      (hid : t.id = ack.datagramId) (hfailure : ack.failure = .creditWithdrawal) :
      Receive ack s [] (s.setSlot i (some { t with acked := t.acked &&& ack.fragmentBitmap }))
  | add (s : Sender) (i : Fin 4) (t : Outgoing) (ht : s.Open i t)
      (hid : t.id = ack.datagramId) (hfailure : ack.failure ≠ .creditWithdrawal)
      (hmissing : ¬ ({ t with acked := t.acked ||| ack.fragmentBitmap }.AllAcked ∧
        ack.failure = .none)) :
      Receive ack s [] (s.setSlot i (some { t with acked := t.acked ||| ack.fragmentBitmap }))
  | complete (s : Sender) (i : Fin 4) (t : Outgoing) (ht : s.Open i t)
      (hid : t.id = ack.datagramId) (hfailure : ack.failure = .none)
      (hall : { t with acked := t.acked ||| ack.fragmentBitmap }.AllAcked) :
      Receive ack s [.completed i] (s.setSlot i none)

/-- At most one datagram is open, and every datagram fits. -/
structure Inv (s : Sender) : Prop where
  one_open : ∀ {i j t u}, s.Open i t → s.Open j u → i = j
  fits : ∀ {i t}, s.slots i = some t → t.Fits

theorem Inv.empty {nextId : UInt16} : Inv ⟨fun _ => none, nextId⟩ where
  one_open h := by cases h.1
  fits h := by cases h

/-- Replacing the datagram of a slot by one of the same data, no more open than before. -/
theorem Inv.set {s : Sender} (h : s.Inv) {i : Fin 4} {t u : Outgoing} (ht : s.slots i = some t)
    (hdata : u.data = t.data) (hopen : u.opened → t.opened) : (s.setSlot i (some u)).Inv where
  one_open {j k v w} hv hw := by
    have hold {l : Fin 4} {x : Outgoing} (hx : (s.setSlot i (some u)).Open l x) :
        ∃ y, s.Open l y := by
      obtain ⟨hx, hxo⟩ := hx
      rcases setSlot_eq_some_iff.mp hx with ⟨rfl, hu⟩ | ⟨_, hx⟩
      · cases hu
        exact ⟨t, ht, hopen hxo⟩
      · exact ⟨x, hx, hxo⟩
    obtain ⟨_, hv⟩ := hold hv
    obtain ⟨_, hw⟩ := hold hw
    exact h.one_open hv hw
  fits {j v} hv := by
    rcases setSlot_eq_some_iff.mp hv with ⟨rfl, hu⟩ | ⟨_, hv⟩
    · cases hu
      have hfits := h.fits ht
      simpa only [Outgoing.Fits, hdata] using hfits
    · exact h.fits hv

theorem Inv.clear {s : Sender} (h : s.Inv) (i : Fin 4) : (s.setSlot i none).Inv where
  one_open hv hw :=
    h.one_open ⟨(Slots.of_update_none hv.1).2, hv.2⟩ ⟨(Slots.of_update_none hw.1).2, hw.2⟩
  fits hv := h.fits (Slots.of_update_none hv).2

/-- A new datagram that waits. -/
theorem Inv.accept {s : Sender} (h : s.Inv) (i : Fin 4) {data : List UInt8}
    (hpos : 0 < data.length) (hmax : data.length ≤ 1280) (id nextId : UInt16) :
    Inv { s.setSlot i (some ⟨false, id, data, 0⟩) with nextId } := by
  have hold {l : Fin 4} {x : Outgoing}
      (hx : (s.setSlot i (some ⟨false, id, data, 0⟩)).slots l = some x) :
      (¬ x.opened ∧ x.Fits) ∨ s.slots l = some x := by
    rcases setSlot_eq_some_iff.mp hx with ⟨rfl, hu⟩ | ⟨_, hx⟩
    · cases hu
      exact .inl ⟨by simp, hpos, hmax⟩
    · exact .inr hx
  refine ⟨fun hv hw => ?_, fun hv => ?_⟩
  · have hv' := (hold hv.1).resolve_left fun hx => hx.1 hv.2
    have hw' := (hold hw.1).resolve_left fun hx => hx.1 hw.2
    exact h.one_open ⟨hv', hv.2⟩ ⟨hw', hw.2⟩
  · rcases hold hv with hx | hx
    · exact hx.2
    · exact h.fits hx

/-- After a datagram is opened while nothing was open, it is the only open one. -/
theorem open_setSlot {s : Sender} {i k : Fin 4} {t u : Outgoing}
    (hnone : ∀ k u, s.slots k = some u → ¬ u.opened) (h : (s.setSlot i (some t)).Open k u) :
    k = i ∧ u = t := by
  rcases setSlot_eq_some_iff.mp h.1 with ⟨rfl, hu⟩ | ⟨_, hold⟩
  · exact ⟨rfl, (Option.some.inj hu).symm⟩
  · exact absurd h.2 (hnone k u hold)

theorem Inv.openSlot {s : Sender} (h : s.Inv) {i : Fin 4} {t : Outgoing} (ht : s.slots i = some t)
    (hnone : ∀ k u, s.slots k = some u → ¬ u.opened) :
    (s.setSlot i (some { t with opened := true, acked := 0 })).Inv := by
  refine ⟨fun {j k v w} hv hw => ?_, fun {j v} hv => ?_⟩
  · rw [(open_setSlot hnone hv).1, (open_setSlot hnone hw).1]
  · rcases setSlot_eq_some_iff.mp hv with ⟨rfl, hu⟩ | ⟨_, hv⟩
    · cases hu
      have hfits := h.fits ht
      exact hfits
    · exact h.fits hv

theorem Inv.act {s s' : Sender} {evs : List Event} (h : s.Inv) (hact : Act s evs s') : s'.Inv := by
  cases hact with
  | accept i data hpos hmax hempty hfirst => exact h.accept i hpos hmax _ _
  | openSlot i t ht hnone hfirst => exact h.openSlot ht hnone
  | send => exact h
  | fail i t ht hmissing => exact h.clear i

theorem Inv.receive {s s' : Sender} {ack : AckFrame} {evs : List Event} (h : s.Inv)
    (hreceive : Receive ack s evs s') : s'.Inv := by
  cases hreceive with
  | ignore => exact h
  | withdraw i t ht hid hfailure => exact h.set ht.1 rfl id
  | add i t ht hid hfailure hmissing => exact h.set ht.1 rfl id
  | complete i t ht hid hfailure hall => exact h.clear i

end Sender

end FlrcTnc.Arq
