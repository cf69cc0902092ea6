import FlrcTnc.Arq.Halves
import FlrcTnc.Arq.Ledger
import FlrcTnc.Arq.GiveUp

/-! Rounds: which fragment a tick hands to `send_packet` next, and what else a tick does to the
sending half of the engine. -/

namespace FlrcTnc.Arq

open Framing Mask

/-! ### The fragments of a round -/

namespace Exec

/-- `skipSent` stops at the first fragment of the round, or behind the last fragment. -/
theorem skipSent_spec (round : UInt16) {count : UInt8} (hcount : count.toNat ≤ 16) (passes : Nat)
    (next : UInt8) (hpasses : count.toNat ≤ next.toNat + passes) :
    next.toNat ≤ (skipSent round count passes next).toNat ∧
      (∀ k, next.toNat ≤ k → k < (skipSent round count passes next).toNat →
        hasBit round k = false) ∧
      (skipSent round count passes next < count →
        hasBit round (skipSent round count passes next).toNat) := by
  induction passes generalizing next with
  | zero =>
    refine ⟨Nat.le_refl _, fun k hle hlt => absurd hlt (Nat.not_lt.mpr hle), fun hlt => ?_⟩
    rw [skipSent, UInt8.lt_iff_toNat_lt] at hlt
    omega
  | succ passes ih =>
    rw [skipSent]
    split
    · next hskip =>
      obtain ⟨hlt, hbit⟩ := hskip
      rw [UInt8.lt_iff_toNat_lt] at hlt
      rw [fragmentBit_eq (by omega), and_bit_eq_zero (by omega)] at hbit
      have hsucc : (next + 1).toNat = next.toNat + 1 := by
        rw [UInt8.toNat_add, UInt8.toNat_one]
        omega
      obtain ⟨hle, hsent, hstop⟩ := ih (next + 1) (by omega)
      refine ⟨by omega, fun k hk hlast => ?_, hstop⟩
      by_cases heq : k = next.toNat
      · rwa [heq]
      · exact hsent k (by omega) hlast
    · next hstop =>
      refine ⟨Nat.le_refl _, fun k hle hlt => absurd hlt (Nat.not_lt.mpr hle), fun hlt => ?_⟩
      by_contra hbit
      rw [Bool.not_eq_true] at hbit
      refine hstop ⟨hlt, ?_⟩
      rw [UInt8.lt_iff_toNat_lt] at hlt
      rw [fragmentBit_eq (by omega), and_bit_eq_zero (by omega), hbit]

end Exec

namespace TxSlot

variable {slot : TxSlot}

/-- The fragments of the round are fragments of the datagram, and none of them lies before the next
one. -/
def Paced (slot : TxSlot) : Prop :=
  ∀ k, hasBit slot.roundBitmap k → slot.nextFragment.toNat ≤ k ∧ k < slot.fragmentCount.toNat

/-- The next fragment is the first one of the round. -/
structure AtNext (slot : TxSlot) : Prop where
  bit : hasBit slot.roundBitmap slot.nextFragment.toNat
  lt : slot.nextFragment < slot.fragmentCount
  first : ∀ k, hasBit slot.roundBitmap k → slot.nextFragment.toNat ≤ k

theorem exists_hasBit {m : UInt16} (h : m ≠ 0) : ∃ k, hasBit m k := by
  by_contra hnone
  refine h (Mask.ext fun k => ?_)
  rw [hasBit_zero]
  simpa using not_exists.mp hnone k

theorem Paced.skipToNext (h : slot.Paced) (hcount : slot.fragmentCount.toNat ≤ 12)
    (hround : slot.roundBitmap ≠ 0) : slot.skipToNext.Paced ∧ slot.skipToNext.AtNext := by
  obtain ⟨hle, hsent, hstop⟩ := Exec.skipSent_spec slot.roundBitmap
    (show slot.fragmentCount.toNat ≤ 16 by omega) slot.fragmentCount.toNat slot.nextFragment
    (by omega)
  have hfirst : ∀ k, hasBit slot.roundBitmap k → slot.skipToNext.nextFragment.toNat ≤ k := by
    intro k hk
    by_contra hlt
    have hnot := hsent k (h k hk).1 (Nat.lt_of_not_le hlt)
    rw [hk] at hnot
    cases hnot
  obtain ⟨k, hk⟩ := exists_hasBit hround
  have hlt : slot.skipToNext.nextFragment < slot.fragmentCount := by
    rw [UInt8.lt_iff_toNat_lt]
    exact Nat.lt_of_le_of_lt (hfirst k hk) (h k hk).2
  exact ⟨fun j hj => ⟨hfirst j hj, (h j hj).2⟩, hstop hlt, hlt, hfirst⟩

/-- The fragments that are left when the next one is sent. -/
theorem hasBit_fragmentSent (hlt : slot.nextFragment.toNat < 16) (deadline : UInt32) (k : Nat) :
    hasBit (slot.fragmentSent deadline).roundBitmap k =
      (hasBit slot.roundBitmap k && decide (k ≠ slot.nextFragment.toNat)) := by
  unfold fragmentSent
  dsimp only
  rw [fragmentBit_eq hlt, hasBit_and]
  by_cases hk : k < 16
  · rw [hasBit_not hk, hasBit_bit hlt]
    simp [eq_comm]
  · have hnone : hasBit slot.roundBitmap k = false := by
      refine Nat.testBit_lt_two_pow (Nat.lt_of_lt_of_le slot.roundBitmap.toNat_lt ?_)
      exact Nat.pow_le_pow_right (by decide) (Nat.le_of_not_lt hk)
    rw [hnone, Bool.false_and, Bool.false_and]

theorem AtNext.fragmentSent (h : slot.AtNext) (hcount : slot.fragmentCount.toNat ≤ 12)
    (hpaced : slot.Paced) (deadline : UInt32) : (slot.fragmentSent deadline).Paced := by
  have hlt := UInt8.lt_iff_toNat_lt.mp h.lt
  intro k hk
  rw [hasBit_fragmentSent (by omega), Bool.and_eq_true, decide_eq_true_eq] at hk
  obtain ⟨hle, hmax⟩ := hpaced k hk.1
  refine ⟨?_, hmax⟩
  change (slot.nextFragment + 1).toNat ≤ k
  rw [UInt8.toNat_add, UInt8.toNat_one]
  omega

/-- A slot whose next fragment is in the round is there already. -/
theorem AtNext.skipToNext_eq (h : slot.AtNext)
    (hcount : slot.fragmentCount.toNat ≤ 12) : slot.skipToNext = slot := by
  have hlt := UInt8.lt_iff_toNat_lt.mp h.lt
  have hstay : Exec.skipSent slot.roundBitmap slot.fragmentCount slot.fragmentCount.toNat
      slot.nextFragment = slot.nextFragment := by
    cases slot.fragmentCount.toNat with
    | zero => rfl
    | succ passes =>
      rw [Exec.skipSent, if_neg]
      rintro ⟨_, hbit⟩
      rw [fragmentBit_eq (by omega), and_bit_eq_zero (by omega), h.bit] at hbit
      cases hbit
  unfold TxSlot.skipToNext
  rw [hstay]

/-- A new round has the fragments that are not acknowledged. -/
theorem hasBit_beginRound (h0 : 0 < slot.fragmentCount.toNat)
    (hcount : slot.fragmentCount.toNat ≤ 12) (k : Nat) :
    hasBit slot.beginRound.roundBitmap k =
      (decide (k < slot.fragmentCount.toNat) && !hasBit slot.ackedBitmap k) := by
  change hasBit (expectedBitmap slot.fragmentCount &&& ~~~ slot.ackedBitmap) k = _
  rw [expectedBitmap, fragmentExpectedBitmap_eq h0 hcount, hasBit_and, hasBit_below (by omega)]
  by_cases hk : k < slot.fragmentCount.toNat
  · rw [hasBit_not (by omega)]
  · simp [hk]

theorem beginRound_paced (h0 : 0 < slot.fragmentCount.toNat)
    (hcount : slot.fragmentCount.toNat ≤ 12) (hmissing : ¬ slot.Acknowledged) :
    slot.beginRound.Paced ∧ slot.beginRound.AtNext := by
  let begun : TxSlot := { slot with
    attempts := slot.attempts + 1
    roundBitmap := expectedBitmap slot.fragmentCount &&& ~~~ slot.ackedBitmap
    nextFragment := 0 }
  have hbits (k : Nat) : hasBit begun.roundBitmap k =
      (decide (k < slot.fragmentCount.toNat) && !hasBit slot.ackedBitmap k) :=
    hasBit_beginRound h0 hcount k
  have hpaced : begun.Paced := by
    intro k hk
    rw [hbits, Bool.and_eq_true, decide_eq_true_eq] at hk
    exact ⟨Nat.zero_le k, hk.1⟩
  refine hpaced.skipToNext hcount fun hzero => hmissing ?_
  -- a round without fragments has them all acknowledged
  rw [Acknowledged, expectedBitmap, fragmentExpectedBitmap_eq h0 hcount]
  refine covers_iff.mpr fun k hk => ?_
  rw [hasBit_below (by omega)] at hk
  have hnone := hbits k
  rw [hzero, hasBit_zero, hk, Bool.true_and] at hnone
  simpa using hnone.symm

theorem AtNext.roundBitmap_ne_zero (h : slot.AtNext) : slot.roundBitmap ≠ 0 := by
  intro hzero
  have hbit := h.bit
  rw [hzero, hasBit_zero] at hbit
  cases hbit

theorem Valid.fragmentCount_bounds {ref : BufferRef} (h : slot.Valid ref) :
    0 < slot.fragmentCount.toNat ∧ slot.fragmentCount.toNat ≤ 12 := by
  rw [h.count, expectedFragmentCount_toNat h.len_pos h.len_le]
  exact ⟨fragments_pos h.len_toNat.1, fragments_le h.len_toNat.2⟩

end TxSlot

/-! ### Handing a fragment over -/

/-- `send_packet` takes whatever it is given. -/
def ArqCallbacks.TakesAll (cb : ArqCallbacks) : Prop :=
  ∃ send, cb.sendPacket = some send ∧ ∀ n packet, send n packet = true

/-- Only the fragments before `k` are left in the round. -/
def TxSlot.Last (slot : TxSlot) (k : UInt8) : Prop := slot.roundBitmap &&& ~~~ fragmentBit k = 0

instance (slot : TxSlot) (k : UInt8) : Decidable (slot.Last k) :=
  inferInstanceAs (Decidable (_ = _))

/-- The packet carries fragment `k` of the datagram `data` in the slot, and is marked as the last
one of the round or not. -/
structure TxSlot.Emits (slot : TxSlot) (data : List UInt8) (k : Nat) (last : Bool)
    (packet : Packet) : Prop where
  parses : ∃ header, parseDataPacket packet = .ok (header, fragmentOf data k) ∧
    header.datagramId = slot.datagramId ∧ header.datagramLength = slot.len ∧
    header.fragmentCount = slot.fragmentCount ∧ header.fragmentIndex.toNat = k ∧
    header.flags = if last then v3DataFlagRoundEnd else 0

/-- The bytes of the datagram in slot `i`. -/
def ArqEngine.datagram (e : ArqEngine) (i : Fin 4) : List UInt8 :=
  (e.txPool.memory (e.txSlots i).data).read 0 (e.txSlots i).len.toNat

namespace Exec

variable {e e' e'' : Exec} {i : Fin 4}

/-- Callbacks have been called, of which `send_packet` took the packet, if there is one; nothing
else has changed. -/
def Handed (e : Exec) (packet : Option Packet) (e' : Exec) : Prop :=
  ∃ calls evs, e' = { e with calls := calls, events := e.events ++ evs } ∧
    takenPackets evs = packet.toList

theorem Handed.refl (e : Exec) : Handed e none e := ⟨e.calls, [], by rw [List.append_nil], rfl⟩

theorem txCount_le (e : ArqEngine) (state : TxState) : e.txCount state ≤ v3MaxNibble := by
  have hle : ((List.finRange 4).countP fun i => (e.txSlots i).state = state) ≤ 4 :=
    List.countP_le_length
  rw [UInt8.le_iff_toNat_le, ArqEngine.txCount, UInt8.toNat_ofNat', Nat.mod_eq_of_lt (by omega)]
  simp only [v3MaxNibble, UInt8.reduceToNat]
  omega

/-- The next fragment of an open slot is handed over; `sendDataFragment` never finds it malformed.
-/
theorem sendDataFragment_next (cb : ArqCallbacks) (h : e.Valid)
    (hopen : (e.txSlots i).state = .open) {k : UInt8} (hk : k < (e.txSlots i).fragmentCount) :
    (∃ packet, (e.sendDataFragment cb i k).1 = true ∧
        (e.txSlots i).Emits (e.datagram i) k.toNat ((e.txSlots i).Last k) packet ∧
        Handed e (some packet) (e.sendDataFragment cb i k).2) ∨
      ((e.sendDataFragment cb i k).1 = false ∧ ¬ cb.TakesAll ∧
        Handed e none (e.sendDataFragment cb i k).2) := by
  obtain ⟨ref, hslot⟩ := h.1.slot i (by rw [hopen]; decide)
  have hmax : (e.txSlots i).len ≤ v3MaxDatagram := hslot.len_le
  have hcount := expectedFragmentCount_toNat hslot.len_pos hmax
  rw [← fragments, ← hslot.count] at hcount
  have hfrag := fragments_le hslot.len_toNat.2
  rw [sendDataFragment]
  cases hsend : cb.sendPacket with
  | none =>
    refine .inr ⟨rfl, ?_, .refl e⟩
    rintro ⟨send, heq, _⟩
    rw [hsend] at heq
    cases heq
  | some send =>
    dsimp only
    generalize hflags : (if (e.txSlots i).roundBitmap &&& ~~~ fragmentBit k = 0 then
      v3DataFlagRoundEnd else 0) = flags
    have hnibble : flags ≤ v3MaxNibble := by
      rw [← hflags]
      split <;> decide
    have hcapacity : expectedFragmentCount (e.txSlots i).len ≤ v3MaxFrags := by
      rw [← hslot.count, UInt8.le_iff_toNat_le, hcount]
      exact hfrag
    have hhint : e.txQueuedCount ≤ v3MaxNibble := txCount_le e.toArqEngine .queued
    obtain ⟨l, hdescribe, hlength⟩ := describeDatagram_ok (e.txPool.storage ref)
      (e.txSlots i).datagramId hslot.len_pos hmax hnibble hhint hcapacity
    obtain ⟨⟨header, payload⟩, hd⟩ : ∃ d, l[k.toNat]? = some d := by
      refine ⟨_, List.getElem?_eq_getElem ?_⟩
      rw [hlength, ← hcount]
      exact UInt8.lt_iff_toNat_lt.mp hk
    obtain ⟨hvalid, hid, hlen, hflag, hindex, hpayload⟩ := describeDatagram_sound hdescribe hd
    obtain ⟨_, _, _, _, hheaderCount, _⟩ := validateDataHeader_iff.mp hvalid
    dsimp only at hvalid hid hlen hflag hindex hpayload hheaderCount
    obtain ⟨packet, hbuild⟩ : ∃ packet, buildDataPacket header
        (some (payload.read 0 header.payloadLen.toNat)) = .ok packet := by
      obtain ⟨_, hbuild⟩ := buildDataPacket_of_valid hvalid (Buffer.read_length payload 0 _)
      exact ⟨_, hbuild⟩
    have hdata : e.datagram i = (e.txPool.storage ref).read 0 (e.txSlots i).len.toNat := by
      rw [ArqEngine.datagram, hslot.data]
      rfl
    have hparse : parseDataPacket packet = .ok (header, payload.read 0 header.payloadLen.toNat) :=
      data_exact.parses_of_builds ⟨Buffer.read_length payload 0 _, hbuild⟩
    rw [hpayload, ← hdata] at hparse
    have hemits : (e.txSlots i).Emits (e.datagram i) k.toNat ((e.txSlots i).Last k) packet :=
      ⟨header, hparse, hid, hlen, by rw [hheaderCount, hlen, hslot.count], hindex, by
        rw [hflag, ← hflags]
        simp only [decide_eq_true_eq]
        rfl⟩
    rw [hslot.data, Option.map_some, hdescribe]
    dsimp only
    rw [hd]
    dsimp only
    rw [hbuild]
    dsimp only
    cases hok : send e.calls packet with
    | true => exact .inl ⟨_, rfl, hemits, e.calls + 1, _, rfl, rfl⟩
    | false =>
      refine .inr ⟨rfl, ?_, e.calls + 1, _, rfl, rfl⟩
      rintro ⟨send', heq, htakes⟩
      rw [hsend] at heq
      cases heq
      rw [htakes] at hok
      cases hok

theorem Handed.trans {packet : Option Packet} (h : Handed e none e') (h' : Handed e' packet e'') :
    Handed e packet e'' := by
  obtain ⟨calls, evs, rfl, hnone⟩ := h
  obtain ⟨calls', evs', rfl, htaken⟩ := h'
  refine ⟨calls', evs ++ evs', by rw [← List.append_assoc], ?_⟩
  rw [takenPackets_append, hnone, htaken]
  rfl

theorem Handed.setTx {packet : Option Packet} (h : Handed e packet e') (i : Fin 4)
    (slot : TxSlot) : Handed (e.setTx i slot) packet (e'.setTx i slot) := by
  obtain ⟨calls, evs, rfl, htaken⟩ := h
  exact ⟨calls, evs, rfl, htaken⟩

/-- The next fragment of `slot`, which is slot `i` by then, is offered to `send_packet`, which takes
it or not. -/
inductive Offers (cb : ArqCallbacks) (now : UInt32) (e : Exec) (i : Fin 4) (slot : TxSlot) :
    Option Packet → Exec → Prop
  | taken {packet : Packet} {e' : Exec}
      (hemits : slot.Emits (e.datagram i) slot.nextFragment.toNat (slot.Last slot.nextFragment)
        packet)
      (h : Handed (e.setTx i (slot.fragmentSent (now + e.config.retryTimeoutCycles)))
        (some packet) e') : Offers cb now e i slot (some packet) e'
  | refused {e' : Exec} (hcb : ¬ cb.TakesAll) (h : Handed (e.setTx i slot) none e') :
      Offers cb now e i slot none e'

/-- An offer that was refused may be made again. -/
theorem Offers.after_refusal {cb : ArqCallbacks} {now : UInt32} {slot : TxSlot}
    {packet : Option Packet} (h : Handed (e.setTx i slot) none e')
    (h' : Offers cb now e' i slot packet e'')
    (hsame : (e.txSlots i).SameDatagram slot) : Offers cb now e i slot packet e'' := by
  obtain ⟨calls, evs, rfl, hnone⟩ := h
  have hdatagram : ({ e.setTx i slot with calls := calls, events := e.events ++ evs } :
      Exec).datagram i = e.datagram i := by
    unfold ArqEngine.datagram
    simp only [setTx, Function.update_self, hsame.data, hsame.len]
  cases h' with
  | taken hemits h' =>
    rw [hdatagram] at hemits
    refine .taken hemits (.trans ⟨calls, evs, ?_, hnone⟩ h')
    unfold setTx
    simp only [Function.update_idem]
  | refused hcb h' =>
    refine .refused hcb (.trans ⟨calls, evs, ?_, hnone⟩ h')
    unfold setTx
    simp only [Function.update_idem]

/-- `sendDataFragment` makes the offer for a slot that has just changed its pace. -/
theorem sendDataFragment_offers (cb : ArqCallbacks) (now : UInt32) {slot : TxSlot} (h : e.Valid)
    (hopen : (e.txSlots i).state = .open) (hsame : (e.txSlots i).SameDatagram slot)
    (hnext : slot.AtNext) :
    (∃ packet e', (e.setTx i slot).sendDataFragment cb i slot.nextFragment = (true, e') ∧
        Offers cb now e i slot (some packet)
          (e'.setTx i (slot.fragmentSent (now + e'.config.retryTimeoutCycles)))) ∨
      ∃ e', (e.setTx i slot).sendDataFragment cb i slot.nextFragment = (false, e') ∧
        Offers cb now e i slot none e' := by
  have hlive : (e.txSlots i).state ≠ .empty := by rw [hopen]; decide
  have hslot : (e.setTx i slot).txSlots i = slot := setTx_self e i slot
  have hdatagram : (e.setTx i slot).datagram i = e.datagram i := by
    unfold ArqEngine.datagram
    rw [hslot, hsame.data, hsame.len]
    rfl
  have hsends := sendDataFragment_next (e := e.setTx i slot) (i := i) cb
    ((setTx_same hsame hlive).valid h) (by rw [hslot, hsame.state, hopen])
    (k := slot.nextFragment) (by rw [hslot]; exact hnext.lt)
  rw [hslot, hdatagram] at hsends
  cases hresult : (e.setTx i slot).sendDataFragment cb i slot.nextFragment with
  | mk taken e' =>
    rw [hresult] at hsends
    rcases hsends with ⟨packet, rfl, hemits, calls, evs, rfl, htaken⟩ | ⟨rfl, hcb, hhanded⟩
    · refine .inl ⟨packet, _, rfl, .taken hemits ⟨calls, evs, ?_, htaken⟩⟩
      unfold setTx
      simp only [Function.update_idem]
    · exact .inr ⟨e', rfl, .refused hcb hhanded⟩

theorem Offers.handed {cb : ArqCallbacks} {now : UInt32} {slot : TxSlot}
    (h : Offers cb now e i slot none e') : Handed (e.setTx i slot) none e' := by
  cases h with
  | refused _ h => exact h

theorem Offers.of_ne {cb : ArqCallbacks} {now : UInt32} {slot : TxSlot} {packet : Option Packet}
    (h : Offers cb now e i slot packet e') {k : Fin 4} (hk : k ≠ i) :
    e'.txSlots k = e.txSlots k := by
  cases h with
  | taken _ h | refused _ h =>
    obtain ⟨calls, evs, rfl, _⟩ := h
    exact Function.update_of_ne hk ..

/-- The open slot is in a round: its next fragment is offered. -/
theorem trySendOpenDataFrom_offers (cb : ArqCallbacks) (now : UInt32) (h : e.Valid)
    (hopen : (e.txSlots i).state = .open) (hround : (e.txSlots i).roundBitmap ≠ 0)
    (hpaced : (e.txSlots i).Paced) (hone : ∀ k, (e.txSlots k).state = .open → k = i)
    {slots : List (Fin 4)} (hnodup : slots.Nodup) (hi : i ∈ slots) :
    ∃ packet e', trySendOpenDataFrom cb now slots e = (packet.isSome, e') ∧
      Offers cb now e i (e.txSlots i).skipToNext packet e' := by
  induction slots with
  | nil => cases hi
  | cons k rest ih =>
    obtain ⟨hk, hnodup⟩ := List.nodup_cons.mp hnodup
    rw [trySendOpenDataFrom]
    by_cases hki : k = i
    · subst hki
      obtain ⟨ref, hslot⟩ := h.1.slot k (by rw [hopen]; decide)
      obtain ⟨_, hnext⟩ := hpaced.skipToNext hslot.fragmentCount_bounds.2 hround
      rw [if_neg (by simp [hopen, hround])]
      dsimp only
      rw [if_neg (by rw [ge_iff_le, UInt8.not_le]; exact hnext.lt)]
      rcases sendDataFragment_offers cb now h hopen (skipToNext_sameDatagram _) hnext with
        ⟨packet, e', hsend, hoffers⟩ | ⟨e', hsend, hoffers⟩
      · rw [hsend]
        exact ⟨some packet, _, rfl, hoffers⟩
      · rw [hsend]
        refine ⟨none, e', ?_, hoffers⟩
        -- the other slots are not open
        refine trySendOpenDataFrom_skip cb now fun l hl hopen => ?_
        have hlk : l ≠ k := ne_of_mem_of_not_mem hl hk
        rw [hoffers.of_ne hlk] at hopen
        exact absurd (hone l hopen) hlk
    · rw [if_pos (.inl fun hopen => hki (hone k hopen))]
      exact ih hnodup ((List.mem_cons.mp hi).resolve_left fun h => hki h.symm)

/-- The open slot is due for a new round: its first fragment is offered. -/
theorem trySendRetransmitFrom_offers (cb : ArqCallbacks) (now : UInt32) (h : e.Valid)
    (hopen : (e.txSlots i).state = .open) (hround : (e.txSlots i).roundBitmap = 0)
    (hmissing : ¬ (e.txSlots i).Acknowledged) (hdue : ¬ isBefore now (e.txSlots i).retryDeadline)
    (hattempts : ¬ (e.txSlots i).attempts ≥ e.config.maxAttempts)
    (hone : ∀ k, (e.txSlots k).state = .open → k = i)
    {slots : List (Fin 4)} (hnodup : slots.Nodup) (hi : i ∈ slots) :
    ∃ packet e', trySendRetransmitFrom cb now slots e = (packet.isSome, e') ∧
      Offers cb now e i (e.txSlots i).beginRound packet e' := by
  induction slots with
  | nil => cases hi
  | cons k rest ih =>
    obtain ⟨hk, hnodup⟩ := List.nodup_cons.mp hnodup
    rw [trySendRetransmitFrom]
    dsimp only
    by_cases hki : k = i
    · subst hki
      obtain ⟨ref, hslot⟩ := h.1.slot k (by rw [hopen]; decide)
      obtain ⟨hpos, hmax⟩ := hslot.fragmentCount_bounds
      obtain ⟨_, hnext⟩ := TxSlot.beginRound_paced hpos hmax hmissing
      rw [if_neg (by simp [hopen, hround]), if_neg (show ¬ (_ = _) from hmissing), if_neg hdue,
        if_neg hattempts, if_pos hnext.lt]
      rcases sendDataFragment_offers cb now h hopen (beginRound_sameDatagram _) hnext with
        ⟨packet, e', hsend, hoffers⟩ | ⟨e', hsend, hoffers⟩
      · rw [hsend]
        exact ⟨some packet, _, rfl, hoffers⟩
      · rw [hsend]
        refine ⟨none, e', ?_, hoffers⟩
        refine trySendRetransmitFrom_skip cb fun l hl hopen => ?_
        have hlk : l ≠ k := ne_of_mem_of_not_mem hl hk
        rw [hoffers.of_ne hlk] at hopen
        exact absurd (hone l hopen) hlk
    · rw [if_pos (.inl fun hopen => hki (hone k hopen))]
      exact ih hnodup ((List.mem_cons.mp hi).resolve_left fun h => hki h.symm)

end Exec

end FlrcTnc.Arq
