import FlrcTnc.Arq.Turn
import Mathlib.Data.List.Forall2

/-! The DATA packets that one call hands over, and what a round needs of them. -/

namespace FlrcTnc.Arq

open Framing Mask

/-! ### What a tick does to one slot -/

/-- The DATA packets that `send_packet` took. -/
def dataPackets (evs : List Event) : List Packet :=
  (takenPackets evs).filter fun packet => parsePacketType packet = .ok .data

namespace TxSlot

/-- The slot as its next fragment is offered: its round goes on, another one begins, or its datagram
is opened. -/
inductive Resumes (maxAttempts : UInt8) (slot : TxSlot) : TxSlot → Prop
  | goesOn (hopen : slot.state = .open) (hround : slot.roundBitmap ≠ 0) :
      Resumes maxAttempts slot slot.skipToNext
  | repeats (hopen : slot.state = .open) (hround : slot.roundBitmap = 0)
      (hattempts : ¬ slot.attempts ≥ maxAttempts) : Resumes maxAttempts slot slot.beginRound
  | opens (hqueued : slot.state = .queued) (retryDeadline : UInt32) :
      Resumes maxAttempts slot (slot.begun retryDeadline)

/-- What a tick does to a slot that holds `data`; an open slot has the DATA packets for itself. -/
inductive Ticks (maxAttempts : UInt8) (slot : TxSlot) (data : List UInt8)
    (packets : List Packet) : TxSlot → Prop
  | same (hidle : slot.state = .open → packets = []) : Ticks maxAttempts slot data packets slot
  | offered {next : TxSlot} (retryDeadline : UInt32) (packet : Option Packet)
      (hresumes : slot.Resumes maxAttempts next) (hpaced : next.Paced) (hnext : next.AtNext)
      (hcount : next.fragmentCount.toNat ≤ 12)
      (hemits : ∀ p, packet = some p →
        next.Emits data next.nextFragment.toNat (next.Last next.nextFragment) p)
      (hpackets : packets = packet.toList) :
      Ticks maxAttempts slot data packets (next.offered retryDeadline packet)
  | gone (hopen : slot.state = .open) (hround : slot.roundBitmap = 0)
      (hattempts : maxAttempts ≤ slot.attempts) : Ticks maxAttempts slot data packets {}

end TxSlot

namespace Exec

variable {e e' : Exec} {i : Fin 4} {cb : ArqCallbacks} {now : UInt32} {packet : Option Packet}

theorem Offers.hands_over {slot : TxSlot} (h : Offers cb now e i slot packet e') :
    takenPackets e'.events = takenPackets e.events ++ packet.toList := by
  cases h with
  | taken _ h | refused _ h =>
    obtain ⟨calls, evs, rfl, htaken⟩ := h
    rw [← htaken]
    exact takenPackets_append e.events evs

theorem openSlot_taken (e : Exec) (i : Fin 4) (now : UInt32) :
    takenPackets (e.openSlot i now).events = takenPackets e.events := by
  refine (takenPackets_append e.events [.opened i]).trans ?_
  exact List.append_nil _

theorem Opening.hands_over (h : Opening cb now e packet e') :
    takenPackets e'.events = takenPackets e.events ++ packet.toList := by
  cases h with
  | idle | arms | waits => exact (List.append_nil _).symm
  | probes i hqueued hcredits harmed hdue hoffers => rw [hoffers.hands_over, openSlot_taken]; rfl
  | pays i hqueued hcredits hoffers => rw [hoffers.hands_over, openSlot_taken]

theorem failTxSlot_taken (e : Exec) (i : Fin 4) :
    takenPackets (e.failTxSlot i).events = takenPackets e.events := by
  have hevents : (e.failTxSlot i).events = e.events ++ [.failed i] := by
    rw [failTxSlot, emit, clearTxSlot_events]
    rfl
  rw [hevents, takenPackets_append]
  exact List.append_nil _

theorem Turn.hands_over (h : Turn cb now e packet e') :
    takenPackets e'.events = takenPackets e.events ++ packet.toList := by
  cases h with
  | waits => exact (List.append_nil _).symm
  | goesOn i hopen hround hoffers | repeats i hopen hround hmissing hdue hattempts hoffers =>
    exact hoffers.hands_over
  | givesUp i hexhausted hopening => rw [hopening.hands_over, failTxSlot_taken]
  | opens hnone hopening => exact hopening.hands_over

/-- The slot that made the offer. -/
theorem Offers.slot_ticks {next : TxSlot} {slot : TxSlot} {data : List UInt8}
    (h : Offers cb now e i next packet e') (hdata : e.datagram i = data)
    {maxAttempts : UInt8} (hresumes : slot.Resumes maxAttempts next) (hpaced : next.Paced)
    (hnext : next.AtNext) (hcount : next.fragmentCount.toNat ≤ 12) :
    slot.Ticks maxAttempts data packet.toList (e'.txSlots i) := by
  rw [h.txSlots, Function.update_self]
  refine .offered _ packet hresumes hpaced hnext hcount (fun p hp => ?_) rfl
  cases h with
  | taken hemits =>
    cases hp
    rw [← hdata]
    exact hemits
  | refused => cases hp

/-- Opening leaves a slot alone or opens it. -/
theorem openSlot_ticks (h : e.Valid) (hnone : ∀ k, (e.txSlots k).state ≠ .open)
    (hqueued : (e.txSlots i).state = .queued)
    (hoffers : Offers cb now (e.openSlot i now) i
      ((e.txSlots i).begun (now + e.config.retryTimeoutCycles)) packet e') (maxAttempts : UInt8)
    (k : Fin 4) : (e.txSlots k).Ticks maxAttempts (e.datagram k) packet.toList (e'.txSlots k) := by
  by_cases hk : k = i
  · subst hk
    obtain ⟨ref, hslot⟩ := h.1.slot k (by rw [hqueued]; decide)
    obtain ⟨hpos, hmax⟩ := hslot.fragmentCount_bounds
    obtain ⟨hpaced, hnext⟩ := TxSlot.begun_atNext hpos hmax (now + e.config.retryTimeoutCycles)
    have hdatagram : (e.openSlot k now).datagram k = e.datagram k := by
      unfold ArqEngine.datagram
      rw [openSlot_self]
      rfl
    exact hoffers.slot_ticks hdatagram (.opens hqueued _) hpaced hnext hmax
  · have hother : e'.txSlots k = e.txSlots k :=
      (hoffers.of_ne hk).trans (Function.update_of_ne hk ..)
    rw [hother]
    exact .same fun hopen => absurd hopen (hnone k)

theorem Opening.slot_ticks (h : Opening cb now e packet e') (hv : e.Valid)
    (hnone : ∀ k, (e.txSlots k).state ≠ .open) (maxAttempts : UInt8) (k : Fin 4) :
    (e.txSlots k).Ticks maxAttempts (e.datagram k) packet.toList (e'.txSlots k) := by
  cases h with
  | idle | arms | waits => exact .same fun hopen => absurd hopen (hnone k)
  | probes i hqueued hcredits harmed hdue hoffers =>
    exact openSlot_ticks (e := { e.probed with creditProbeArmed := false }) hv hnone hqueued hoffers
      maxAttempts k
  | pays i hqueued hcredits hoffers =>
    exact openSlot_ticks (e := { e with creditProbeArmed := false }) hv hnone hqueued hoffers
      maxAttempts k

theorem releaseDatagram_storage (pool : DatagramPool) (handle : DatagramHandle) :
    (releaseDatagram pool handle).2.storage = pool.storage := by
  unfold releaseDatagram
  split
  · rfl
  · split <;> rfl

/-- The buffers of the other slots stay as they are. -/
theorem failTxSlot_datagram (e : Exec) {i k : Fin 4} (h : k ≠ i) :
    (e.failTxSlot i).datagram k = e.datagram k := by
  have hstorage : (e.failTxSlot i).txPool.storage = e.txPool.storage := by
    unfold failTxSlot clearTxSlot
    dsimp only
    split
    · exact releaseDatagram_storage _ _
    · rfl
  unfold ArqEngine.datagram DatagramPool.memory
  rw [hstorage, failTxSlot_txSlots, Function.update_of_ne h]

theorem Turn.slot_ticks (h : Turn cb now e packet e') (hv : e.Valid) (hall : AllPaced e.txSlots)
    (hone : ∀ {i k}, (e.txSlots i).state = .open → (e.txSlots k).state = .open → k = i)
    (k : Fin 4) : (e.txSlots k).Ticks e.config.maxAttempts (e.datagram k) packet.toList
      (e'.txSlots k) := by
  cases h with
  | waits => exact .same fun _ => rfl
  | goesOn i hopen hround hoffers =>
    by_cases hk : k = i
    · subst hk
      obtain ⟨ref, hslot⟩ := hv.1.slot k (by rw [hopen]; decide)
      obtain ⟨_, hmax⟩ := hslot.fragmentCount_bounds
      obtain ⟨hpaced, hnext⟩ := (hall k hopen).skipToNext hmax hround
      exact hoffers.slot_ticks rfl (.goesOn hopen hround) hpaced hnext hmax
    · rw [hoffers.of_ne hk]
      exact .same fun hk' => absurd (hone hopen hk') hk
  | repeats i hopen hround hmissing hdue hattempts hoffers =>
    by_cases hk : k = i
    · subst hk
      obtain ⟨ref, hslot⟩ := hv.1.slot k (by rw [hopen]; decide)
      obtain ⟨hpos, hmax⟩ := hslot.fragmentCount_bounds
      obtain ⟨hpaced, hnext⟩ := TxSlot.beginRound_paced hpos hmax hmissing
      exact hoffers.slot_ticks rfl (.repeats hopen hround hattempts) hpaced hnext hmax
    · rw [hoffers.of_ne hk]
      exact .same fun hk' => absurd (hone hopen hk') hk
  | givesUp i hexhausted hopening =>
    have hfailed := failTxSlot_txSlots e i
    have hnone := failTxSlot_none_open fun l hl => hone hexhausted.isOpen hl
    have hticks := hopening.slot_ticks
      (failTxSlot_valid hv (by rw [hexhausted.isOpen]; decide)) hnone e.config.maxAttempts k
    by_cases hk : k = i
    · subst hk
      rw [hfailed, Function.update_self] at hticks
      -- nothing happens to the slot that is empty now
      generalize hlast : e'.txSlots k = last at hticks ⊢
      cases hticks with
      | same => exact .gone hexhausted.isOpen hexhausted.roundOver hexhausted.lastAttempt
      | offered _ _ hresumes =>
        cases hresumes with
        | goesOn hopen | repeats hopen | opens hopen => cases hopen
      | gone hopen => cases hopen
    · rw [hfailed, Function.update_of_ne hk, failTxSlot_datagram e hk] at hticks
      exact hticks
  | opens hnone hopening => exact hopening.slot_ticks hv hnone e.config.maxAttempts k

end Exec

/-! ### The packets of a round -/

namespace TxSlot

variable {slot slot' next : TxSlot} {data : List UInt8} {wanted : UInt16} {ks : List Nat}
  {packets : List Packet}

/-- The packet carries fragment `k`, with ROUND_END exactly if `k` is the last fragment that the
round wants. -/
def EmitsOf (slot : TxSlot) (data : List UInt8) (wanted : UInt16) (k : Nat) (packet : Packet) :
    Prop :=
  ∃ last : Bool, slot.Emits data k last packet ∧ (last ↔ ∀ j, hasBit wanted j → j ≤ k)

/-- The packets so far of a round over the fragments `wanted` carry the fragments `ks`, in ascending
order: those that are not left. -/
structure Round (slot : TxSlot) (data : List UInt8) (wanted : UInt16) (ks : List Nat)
    (packets : List Packet) : Prop where
  sent : ∀ k, k ∈ ks ↔ hasBit wanted k ∧ ¬ hasBit slot.roundBitmap k
  left : ∀ k, hasBit slot.roundBitmap k → hasBit wanted k
  ascending : ks.Pairwise (· < ·)
  ahead : ∀ k ∈ ks, ∀ j, hasBit slot.roundBitmap j → k < j
  emits : List.Forall₂ (slot.EmitsOf data wanted) ks packets

/-- What the packets of a slot depend on. -/
structure SameHeader (slot slot' : TxSlot) : Prop where
  datagramId : slot'.datagramId = slot.datagramId
  len : slot'.len = slot.len
  fragmentCount : slot'.fragmentCount = slot.fragmentCount

theorem SameDatagram.header (h : slot.SameDatagram slot') : slot.SameHeader slot' :=
  ⟨h.datagramId, h.len, h.fragmentCount⟩

theorem SameHeader.emitsOf (h : slot.SameHeader slot') {k : Nat} {packet : Packet}
    (hemits : slot.EmitsOf data wanted k packet) : slot'.EmitsOf data wanted k packet := by
  obtain ⟨last, ⟨header, hparse, hid, hlen, hcount, hindex, hflags⟩, hlast⟩ := hemits
  exact ⟨last, ⟨header, hparse, by rw [hid, h.datagramId], by rw [hlen, h.len],
    by rw [hcount, h.fragmentCount], hindex, hflags⟩, hlast⟩

/-- A change that leaves the round and the headers alone. -/
theorem Round.congr (h : slot.Round data wanted ks packets) (hsame : slot.SameHeader slot')
    (hround : slot'.roundBitmap = slot.roundBitmap) : slot'.Round data wanted ks packets where
  sent := by rw [hround]; exact h.sent
  left := by rw [hround]; exact h.left
  ascending := h.ascending
  ahead := by rw [hround]; exact h.ahead
  emits := h.emits.imp fun _ _ hemits => hsame.emitsOf hemits

/-- A round begins. -/
theorem Round.nil (hround : ∀ k, hasBit slot.roundBitmap k = hasBit wanted k) :
    slot.Round data wanted [] [] where
  sent k := by simp [hround]
  left k hk := by rwa [← hround]
  ascending := .nil
  ahead k hk := by cases hk
  emits := .nil

theorem last_iff (hnext : slot.AtNext) (hcount : slot.fragmentCount.toNat ≤ 12) :
    slot.Last slot.nextFragment ↔ ∀ j, hasBit slot.roundBitmap j → j = slot.nextFragment.toNat := by
  have hlt := UInt8.lt_iff_toNat_lt.mp hnext.lt
  have hbits (j : Nat) : hasBit (slot.roundBitmap &&& ~~~ fragmentBit slot.nextFragment) j =
      (hasBit slot.roundBitmap j && decide (j ≠ slot.nextFragment.toNat)) :=
    hasBit_fragmentSent (by omega) 0 j
  constructor
  · intro hlast j hj
    have hbit := hbits j
    rw [show slot.roundBitmap &&& ~~~ fragmentBit slot.nextFragment = 0 from hlast, hasBit_zero, hj]
      at hbit
    simpa using hbit.symm
  · intro hlast
    refine Mask.ext fun j => ?_
    rw [hbits, hasBit_zero]
    by_cases hj : hasBit slot.roundBitmap j
    · simp [hlast j hj]
    · simp [hj]

/-- The next fragment is taken. -/
theorem Round.sends (h : slot.Round data wanted ks packets) (hnext : slot.AtNext)
    (hcount : slot.fragmentCount.toNat ≤ 12) (retryDeadline : UInt32) {packet : Packet}
    (hemits : slot.Emits data slot.nextFragment.toNat (slot.Last slot.nextFragment) packet) :
    (slot.fragmentSent retryDeadline).Round data wanted (ks ++ [slot.nextFragment.toNat])
      (packets ++ [packet]) := by
  have hlt := UInt8.lt_iff_toNat_lt.mp hnext.lt
  have hbits (k : Nat) : hasBit (slot.fragmentSent retryDeadline).roundBitmap k =
      (hasBit slot.roundBitmap k && decide (k ≠ slot.nextFragment.toNat)) :=
    hasBit_fragmentSent (by omega) retryDeadline k
  have hsame : slot.SameHeader (slot.fragmentSent retryDeadline) := ⟨rfl, rfl, rfl⟩
  refine ⟨fun k => ?_, fun k hk => ?_, ?_, ?_, ?_⟩
  · rw [List.mem_append, List.mem_singleton, h.sent, hbits]
    by_cases hk : k = slot.nextFragment.toNat
    · subst hk
      simp [h.left _ hnext.bit]
    · simp [hk]
  · rw [hbits, Bool.and_eq_true] at hk
    exact h.left k hk.1
  · refine List.pairwise_append.mpr ⟨h.ascending, List.pairwise_singleton .., fun k hk j hj => ?_⟩
    rw [List.mem_singleton.mp hj]
    exact h.ahead k hk _ hnext.bit
  · intro k hk j hj
    rw [hbits, Bool.and_eq_true, decide_eq_true_eq] at hj
    rcases List.mem_append.mp hk with hk | hk
    · exact h.ahead k hk j hj.1
    · rw [List.mem_singleton.mp hk]
      exact Nat.lt_of_le_of_ne (hnext.first j hj.1) (Ne.symm hj.2)
  · refine List.rel_append (h.emits.imp fun _ _ hemits => hsame.emitsOf hemits) (.cons ?_ .nil)
    refine hsame.emitsOf ⟨_, hemits, ?_⟩
    rw [decide_eq_true_eq, last_iff hnext hcount]
    constructor
    · intro hlast j hj
      -- what is wanted has been sent, or is left and so is this fragment
      by_cases hleft : hasBit slot.roundBitmap j
      · exact Nat.le_of_eq (hlast j hleft)
      · exact Nat.le_of_lt (h.ahead j ((h.sent j).mpr ⟨hj, hleft⟩) _ hnext.bit)
    · exact fun hlast j hj => Nat.le_antisymm (hlast j (h.left j hj)) (hnext.first j hj)

theorem Round.offered (h : slot.Round data wanted ks packets) (hnext : slot.AtNext)
    (hcount : slot.fragmentCount.toNat ≤ 12) (retryDeadline : UInt32) {packet : Option Packet}
    (hemits : ∀ p, packet = some p →
      slot.Emits data slot.nextFragment.toNat (slot.Last slot.nextFragment) p) :
    ∃ ks, (slot.offered retryDeadline packet).Round data wanted ks (packets ++ packet.toList) := by
  cases packet with
  | none => exact ⟨ks, by rw [Option.toList_none, List.append_nil]; exact h⟩
  | some packet => exact ⟨_, h.sends hnext hcount retryDeadline (hemits packet rfl)⟩

end TxSlot

/-! ### Calls -/

namespace Exec

variable {e e' : Exec} {i : Fin 4} {cb : ArqCallbacks} {now : UInt32} {packet : Option Packet}

/-- What a turn hands over is a DATA packet. -/
theorem Offers.data {slot : TxSlot} (h : Offers cb now e i slot packet e') :
    ∀ p ∈ packet, parsePacketType p = .ok .data := by
  intro p hp
  cases h with
  | taken hemits =>
    cases hp
    obtain ⟨header, hparse, _⟩ := hemits.parses
    exact parsePacketType_of_data hparse
  | refused => cases hp

theorem Opening.data (h : Opening cb now e packet e') :
    ∀ p ∈ packet, parsePacketType p = .ok .data := by
  cases h with
  | idle | arms | waits => exact fun p hp => by cases hp
  | probes i hqueued hcredits harmed hdue hoffers => exact hoffers.data
  | pays i hqueued hcredits hoffers => exact hoffers.data

theorem Turn.data (h : Turn cb now e packet e') : ∀ p ∈ packet, parsePacketType p = .ok .data := by
  cases h with
  | waits => exact fun p hp => by cases hp
  | goesOn i hopen hround hoffers | repeats i hopen hround hmissing hdue hattempts hoffers =>
    exact hoffers.data
  | givesUp i hexhausted hopening | opens hnone hopening => exact hopening.data

end Exec

theorem dataPackets_of_taken {evs : List Event} (h : takenPackets evs = []) :
    dataPackets evs = [] := by
  rw [dataPackets, h, List.filter_nil]

theorem dataPackets_of_ack {evs : List Event} {ack : AckFrame} {packet : Packet}
    (h : takenPackets evs = [packet]) (hparse : parseAckPacket packet = .ok ack) :
    dataPackets evs = [] := by
  rw [dataPackets, h, List.filter_cons_of_neg, List.filter_nil]
  rw [parsePacketType_of_ack hparse]
  decide

namespace ArqEngine

variable {e : ArqEngine} {i : Fin 4}

/-- A tick hands over DATA packets for the slot that is open. -/
theorem InStep.slot_ticks (h : e.InStep) (cb : ArqCallbacks) (now : UInt32) (i : Fin 4) :
    (e.txSlots i).Ticks e.config.maxAttempts (e.datagram i)
      (dataPackets (e.run cb (.onTick now)).events) ((e.run cb (.onTick now)).txSlots i) := by
  have hslots := e.beforeTurn_txSlots cb now
  by_cases hpreempted : e.Preempted cb now
  · rw [run_preempted hpreempted, hslots]
    refine .same fun _ => ?_
    rcases h.beforeTurn_taken cb now with hnone | ⟨ack, packet, hparse, hack⟩
    · exact dataPackets_of_taken hnone
    · exact dataPackets_of_ack hack hparse
  · obtain ⟨hvalid, hnone, packet, hturn⟩ := h.turn hpreempted
    have hdatagram : (e.beforeTurn cb now).datagram i = e.datagram i := by
      unfold datagram
      rw [hslots, show (e.beforeTurn cb now).txPool = e.txPool from
        congrArg SendingHalf.txPool (e.beforeTurn_sendingHalf cb now)]
    have hpackets : dataPackets (e.run cb (.onTick now)).events = packet.toList := by
      rw [dataPackets, hturn.hands_over, hnone, List.nil_append, List.filter_eq_self]
      intro p hp
      rw [hturn.data p (by simpa using hp)]
      rfl
    have hticks := hturn.slot_ticks hvalid (by rw [hslots]; exact h.paced)
      (by rw [hslots]; exact h.one_open) i
    rw [hslots, hdatagram, show (e.beforeTurn cb now).config = e.config from
      congrArg SendingHalf.config (e.beforeTurn_sendingHalf cb now)] at hticks
    rw [hpackets]
    exact hticks

end ArqEngine

/-- An ACK that ends the round of the slot early: it completes the datagram, or it withdraws the
credit for it. -/
structure TxSlot.CutBy (slot : TxSlot) (ack : AckFrame) : Prop where
  isOpen : slot.state = .open
  id : slot.datagramId = ack.datagramId
  ends : ack.failure = .creditWithdrawal ∨ ack.failure = .none ∧
    { slot with ackedBitmap := slot.ackedBitmap ||| ack.fragmentBitmap }.Acknowledged

def Call.Cuts (call : Call) (slot : TxSlot) : Prop :=
  ∃ packet now ack, call = .onRxPacket packet now ∧ parseAckPacket packet = .ok ack ∧ slot.CutBy ack

/-- The slot is open still, with the same datagram and the same fragments left in the round. -/
structure TxSlot.SameRound (slot slot' : TxSlot) : Prop where
  header : slot.SameHeader slot'
  state : slot'.state = slot.state
  roundBitmap : slot'.roundBitmap = slot.roundBitmap

theorem TxSlot.SameRound.refl (slot : TxSlot) : slot.SameRound slot := ⟨⟨rfl, rfl, rfl⟩, rfl, rfl⟩

namespace ArqEngine

variable {e : ArqEngine} {i : Fin 4}

/-- An ACK cuts the round of the open slot short or leaves it as it is. -/
theorem InStep.handleAck_round (h : e.InStep) (hopen : (e.txSlots i).state = .open)
    (ack : AckFrame) (now : UInt32) :
    ((e.txSlots i).CutBy ack ∧ ((Exec.handleAck { e with } ack now).txSlots i).roundBitmap = 0) ∨
      (¬ (e.txSlots i).CutBy ack ∧
        (e.txSlots i).SameRound ((Exec.handleAck { e with } ack now).txSlots i)) := by
  unfold Exec.handleAck
  dsimp only
  split
  · next hnone =>
    refine .inr ⟨fun hcut => ?_, .refl _⟩
    have hmiss := List.find?_eq_none.mp hnone i (List.mem_finRange i)
    exact hmiss (decide_eq_true ⟨hopen, hcut.id⟩)
  next k hfind =>
  have hhit := (Exec.find_finRange_eq_some hfind).1
  rw [decide_eq_true_eq] at hhit
  obtain rfl : i = k := h.one_open hhit.1 hopen
  split
  · next hfail =>
    rw [Exec.setTx_self]
    exact .inl ⟨⟨hopen, hhit.2, .inl hfail⟩, rfl⟩
  next hfail =>
  split
  · next hcomplete =>
    rw [Exec.completeTxSlot_txSlots, Function.update_self]
    exact .inl ⟨⟨hopen, hhit.2, .inr ⟨hcomplete.2, hcomplete.1⟩⟩, rfl⟩
  · next hcomplete =>
    refine .inr ⟨fun hcut => ?_, ?_⟩
    · rcases hcut.ends with hwithdrawal | ⟨hnone, hall⟩
      · exact hfail hwithdrawal
      · exact hcomplete ⟨hall, hnone⟩
    · rw [Exec.setTx_self]
      exact ⟨⟨rfl, rfl, rfl⟩, rfl, rfl⟩

/-- A slot that holds a datagram takes no other. -/
theorem onTxDatagram_kept (e : ArqEngine) (hlive : (e.txSlots i).state ≠ .empty)
    (data : Option (List UInt8)) :
    (Exec.onTxDatagram { e with } data).2.txSlots i = e.txSlots i := by
  unfold Exec.onTxDatagram
  dsimp only
  split
  · rfl
  split
  · rfl
  split
  · rfl
  next k hfind =>
  have hempty := (Exec.find_finRange_eq_some hfind).1
  rw [decide_eq_true_eq] at hempty
  have hik : i ≠ k := by
    rintro rfl
    exact hlive hempty
  split
  · rw [Exec.emit, Exec.setTx_of_ne hik]
  · rfl

theorem onTxDatagram_sameRound (e : ArqEngine) (hlive : (e.txSlots i).state ≠ .empty)
    (data : Option (List UInt8)) :
    (e.txSlots i).SameRound ((Exec.onTxDatagram { e with } data).2.txSlots i) := by
  rw [onTxDatagram_kept e hlive]
  exact .refl _

/-- A call that is no tick and cuts nothing short keeps the round of an open slot. -/
theorem InStep.sameRound (h : e.InStep) (hopen : (e.txSlots i).state = .open) (cb : ArqCallbacks)
    {call : Call} (hcall : ∀ now, call ≠ .onTick now) (hcut : ¬ call.Cuts (e.txSlots i)) :
    (e.txSlots i).SameRound ((e.run cb call).txSlots i) := by
  have hsame {e' : Exec} (hhalf : e'.sendingHalf = e.sendingHalf) :
      (e.txSlots i).SameRound (e'.txSlots i) := by
    rw [show e'.txSlots = e.txSlots from congrArg SendingHalf.txSlots hhalf]
    exact .refl _
  cases call with
  | onTxDatagram data => exact e.onTxDatagram_sameRound (by rw [hopen]; decide) data
  | onRxPacket packet now =>
    rcases packet_cases packet with hrejected | hignored | ⟨header, payload, hdata⟩ | ⟨ack, hack⟩
    · rw [ArqEngine.run, Exec.onRxPacket_rejected cb _ now hrejected]
      exact .refl _
    · rw [ArqEngine.run, Exec.onRxPacket_ignored cb _ now hignored]
      exact .refl _
    · exact hsame ((e.withstands cb packet now).data header payload hdata)
    · rw [ArqEngine.run, Exec.onRxPacket_ack cb _ now hack]
      exact (h.handleAck_round hopen ack now).elim
        (fun hcuts => absurd ⟨packet, now, ack, rfl, hack, hcuts.1⟩ hcut) And.right
  | onTick now => exact absurd rfl (hcall now)
  | flushPendingAck now => exact hsame (Exec.sendPendingAck_sendingHalf cb { e with } now)

/-- Only ticks hand over DATA packets. -/
theorem InStep.no_data (h : e.InStep) (cb : ArqCallbacks) {call : Call}
    (hcall : ∀ now, call ≠ .onTick now) : dataPackets (e.run cb call).events = [] := by
  cases call with
  | onTxDatagram data =>
    refine dataPackets_of_taken ?_
    unfold run Exec.onTxDatagram
    dsimp only
    split
    · rfl
    split
    · rfl
    split
    · rfl
    · split <;> rfl
  | onRxPacket packet now =>
    exact dataPackets_of_taken (run_spec h.valid cb (.onRxPacket packet now)).2.takes_nothing
  | onTick now => exact absurd rfl (hcall now)
  | flushPendingAck now =>
    obtain ⟨evs, hevents, htaken⟩ := Exec.sendPendingAck_taken cb { e with } now
    rw [show (e.run cb (.flushPendingAck now)).events = evs from hevents]
    rcases htaken with ⟨_, hnone⟩ | ⟨_, ack, packet, hparse, hack⟩
    · exact dataPackets_of_taken hnone
    · exact dataPackets_of_ack hack hparse

end ArqEngine

end FlrcTnc.Arq
