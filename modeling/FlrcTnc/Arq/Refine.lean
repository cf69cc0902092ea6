import FlrcTnc.Arq.Party

/-! The engine refines the party: its slots and pools are in order after every call, and what a call
does is what the two halves may do. -/

namespace FlrcTnc.Arq

open Framing Mask

/-! ### The view of the engine -/

def TxSlot.outgoing (pool : DatagramPool) (slot : TxSlot) : Option Outgoing :=
  if slot.state = .empty then none
  else some ⟨slot.state = .open, slot.datagramId, (pool.memory slot.data).read 0 slot.len.toNat,
    slot.ackedBitmap⟩

def RxSlot.incoming (pool : DatagramPool) (slot : RxSlot) : Option Incoming :=
  if slot.active then
    some ⟨slot.reassembly.datagramId, slot.reassembly.datagramLength,
      slot.reassembly.receivedBitmap,
      pool.memory slot.reassembly.output⟩
  else none

def PendingAcks.frames (pending : PendingAcks) : List AckFrame := pending.entries.map (·.ack)

def ArqEngine.sender (e : ArqEngine) : Sender :=
  ⟨fun i => (e.txSlots i).outgoing e.txPool, e.nextDatagramId⟩

def ArqEngine.receiver (e : ArqEngine) : Receiver :=
  ⟨fun j => (e.rxSlots j).incoming e.rxPool, e.duplicateWindow, e.pendingAcks.frames⟩

def ArqEngine.party (e : ArqEngine) : Party := ⟨e.sender, e.receiver⟩

/-! ### Slots in order -/

structure TxSlot.Valid (slot : TxSlot) (ref : BufferRef) : Prop where
  data : slot.data = some ref
  handle : slot.handle = .ofRef ref
  len_pos : slot.len ≠ 0
  len_le : slot.len ≤ v3MaxDatagram
  count : slot.fragmentCount = expectedFragmentCount slot.len

structure RxSlot.Valid (slot : RxSlot) (ref : BufferRef) : Prop where
  handle : slot.handle = .ofRef ref
  reassembly : slot.reassembly.Valid ref
  active : slot.reassembly.active

/-- The buffer that a slot has leased. -/
def TxSlot.held (slot : TxSlot) : Option BufferRef :=
    if slot.state = .empty then none else slot.data

def RxSlot.held (slot : RxSlot) : Option BufferRef :=
  if slot.active then slot.reassembly.output else none

/-- The transmit slots with their pool. -/
structure TxValid (pool : DatagramPool) (slots : Fin 4 → TxSlot) : Prop where
  slot : ∀ i, (slots i).state ≠ .empty → ∃ ref, (slots i).Valid ref
  leases : Leases pool fun i => (slots i).held

/-- The receive slots with their pool. -/
structure RxValid (pool : DatagramPool) (slots : Fin 4 → RxSlot) : Prop where
  slot : ∀ j, (slots j).active → ∃ ref, (slots j).Valid ref
  leases : Leases pool fun j => (slots j).held

def ArqEngine.Valid (e : ArqEngine) : Prop :=
  TxValid e.txPool e.txSlots ∧ RxValid e.rxPool e.rxSlots

theorem ArqEngine.reset_valid (config : ArqConfig) : (reset config).Valid :=
  ⟨⟨fun _ h => absurd rfl h, Leases.initial fun _ => rfl⟩,
    ⟨fun _ h => absurd h (by simp [reset]), Leases.initial fun _ => rfl⟩⟩

theorem TxSlot.Valid.len_toNat {slot : TxSlot} {ref : BufferRef} (h : slot.Valid ref) :
    0 < slot.len.toNat ∧ slot.len.toNat ≤ 1280 :=
  ⟨Nat.pos_of_ne_zero fun h0 => h.len_pos (UInt16.toNat_inj.mp h0),
    UInt16.le_iff_toNat_le.mp h.len_le⟩

theorem TxSlot.Valid.expectedBitmap_eq {slot : TxSlot} {ref : BufferRef} (h : slot.Valid ref) :
    expectedBitmap slot.fragmentCount = fullMask slot.len.toNat := by
  rw [expectedBitmap, h.count]
  exact fragmentExpectedBitmap_expectedFragmentCount h.len_pos h.len_le

theorem RxSlot.Valid.consistent {slot : RxSlot} {ref : BufferRef} (h : slot.Valid ref) :
    slot.reassembly.Consistent := h.reassembly.consistent h.active

theorem RxSlot.Valid.expectedBitmap_eq {slot : RxSlot} {ref : BufferRef} (h : slot.Valid ref) :
    expectedBitmap slot.reassembly.fragmentCount =
      fullMask slot.reassembly.datagramLength.toNat := by
  rw [expectedBitmap, h.consistent.count]
  exact fragmentExpectedBitmap_expectedFragmentCount h.consistent.length_pos h.consistent.length_le

/-! ### Pools and views -/

theorem DatagramPool.memory_congr {pool pool' : DatagramPool} (h : pool'.storage = pool.storage) :
    pool'.memory = pool.memory := by
  funext ref
  simp only [DatagramPool.memory, h]

theorem DatagramPool.setMemory_memory_self (pool : DatagramPool) (ref : BufferRef)
    (memory : Buffer) : (pool.setMemory (some ref) memory).memory (some ref) = memory := by
  simp [DatagramPool.setMemory, DatagramPool.memory]

theorem DatagramPool.setMemory_memory_of_ne (pool : DatagramPool) {ref ref' : BufferRef}
    (memory : Buffer) (h : ref' ≠ ref) :
    (pool.setMemory (some ref) memory).memory (some ref') = pool.memory (some ref') := by
  simp [DatagramPool.setMemory, DatagramPool.memory, h]

namespace TxValid

variable {pool pool' : DatagramPool} {slots : Fin 4 → TxSlot}

theorem outgoing_update (pool : DatagramPool) (slots : Fin 4 → TxSlot) (i : Fin 4) (slot : TxSlot) :
    (fun k => (Function.update slots i slot k).outgoing pool) =
      Function.update (fun k => (slots k).outgoing pool) i (slot.outgoing pool) :=
  Slots.map_update slots (fun s => s.outgoing pool) i slot

theorem outgoing_congr (h : pool'.storage = pool.storage) (slots : Fin 4 → TxSlot) :
    (fun k => (slots k).outgoing pool') = fun k => (slots k).outgoing pool := by
  funext k
  simp only [TxSlot.outgoing, DatagramPool.memory_congr h]

/-- A slot that keeps its buffer and its datagram. -/
theorem update (h : TxValid pool slots) {i : Fin 4} {slot : TxSlot}
    (hold : (slots i).state ≠ .empty) (hstate : slot.state ≠ .empty)
    (hdata : slot.data = (slots i).data) (hhandle : slot.handle = (slots i).handle)
    (hlen : slot.len = (slots i).len) (hcount : slot.fragmentCount = (slots i).fragmentCount) :
    TxValid pool (Function.update slots i slot) where
  slot k hk := by
    by_cases hki : k = i
    · subst hki
      rw [Function.update_self]
      obtain ⟨ref, hv⟩ := h.slot k hold
      exact ⟨ref, hdata.trans hv.data, hhandle.trans hv.handle, hlen ▸ hv.len_pos, hlen ▸ hv.len_le,
        by rw [hcount, hlen, hv.count]⟩
    · rw [Function.update_of_ne hki] at hk ⊢
      exact h.slot k hk
  leases := by
    have hheld : slot.held = (slots i).held := by
      rw [TxSlot.held, TxSlot.held, if_neg hstate, if_neg hold, hdata]
    have hsame := Slots.map_update_same hheld
    rw [hsame]
    exact h.leases

/-- The slot is cleared and its buffer released. -/
theorem clear (h : TxValid pool slots) {i : Fin 4} (hold : (slots i).state ≠ .empty) :
    (slots i).handle.isValid ∧
      TxValid (releaseDatagram pool (slots i).handle).2 (Function.update slots i {}) ∧
      (fun k => (Function.update slots i {} k).outgoing
        (releaseDatagram pool (slots i).handle).2) =
        Function.update (fun k => (slots k).outgoing pool) i none := by
  obtain ⟨ref, hv⟩ := h.slot i hold
  have hheld : (slots i).held = some ref := by rw [TxSlot.held, if_neg hold, hv.data]
  obtain ⟨hstorage, hleases⟩ := h.leases.release hheld
  rw [hv.handle]
  refine ⟨DatagramHandle.ofRef_isValid ref, ⟨fun k hk => ?_, ?_⟩, ?_⟩
  · by_cases hki : k = i
    · subst hki
      rw [Function.update_self] at hk
      exact absurd rfl hk
    · rw [Function.update_of_ne hki] at hk ⊢
      exact h.slot k hk
  · rw [Slots.map_update slots TxSlot.held]
    exact hleases
  · rw [outgoing_update, outgoing_congr hstorage]
    rfl

/-- An empty slot takes the datagram `data` in a new buffer. -/
theorem accept (h : TxValid pool slots) {i : Fin 4} (hold : (slots i).state = .empty)
    {data : List UInt8} (hpos : 0 < data.length) (hmax : data.length ≤ 1280) (id : UInt16) :
    ∃ ref pool', acquireDatagram pool = (.ok, pool', ⟨.ofRef ref, some ref, v3MaxDatagram⟩) ∧
      TxValid (pool'.setMemory (some ref) ((pool'.memory (some ref)).write 0 data))
        (Function.update slots i (.forDatagram ⟨.ofRef ref, some ref, v3MaxDatagram⟩
          (UInt16.ofNat data.length) id)) ∧
      (fun k => (Function.update slots i (.forDatagram ⟨.ofRef ref, some ref, v3MaxDatagram⟩
          (UInt16.ofNat data.length) id) k).outgoing
            (pool'.setMemory (some ref) ((pool'.memory (some ref)).write 0 data))) =
        Function.update (fun k => (slots k).outgoing pool) i (some ⟨false, id, data, 0⟩) := by
  have hnone : (slots i).held = none := by rw [TxSlot.held, if_pos hold]
  obtain ⟨ref, pool', hacquire, hstorage, hnew, hleases⟩ := h.leases.acquire hnone
  have hlen : (UInt16.ofNat data.length).toNat = data.length := by
    rw [UInt16.toNat_ofNat', Nat.mod_eq_of_lt (by omega)]
  refine ⟨ref, pool', hacquire, ⟨fun k hk => ?_, ?_⟩, ?_⟩
  · by_cases hki : k = i
    · subst hki
      rw [Function.update_self]
      refine ⟨ref, rfl, rfl, ?_, UInt16.le_iff_toNat_le.mpr (hlen.trans_le hmax), rfl⟩
      intro h0
      have hzero : data.length = 0 := by
        have hsize := hlen
        rw [show UInt16.ofNat data.length = 0 from h0] at hsize
        exact hsize.symm
      omega
    · rw [Function.update_of_ne hki] at hk ⊢
      exact h.slot k hk
  · rw [Slots.map_update slots TxSlot.held]
    exact hleases.setMemory _ _
  · funext k
    by_cases hki : k = i
    · subst hki
      rw [Function.update_self, Function.update_self, TxSlot.outgoing,
        if_neg (by simp [TxSlot.forDatagram])]
      simp only [TxSlot.forDatagram, DatagramPool.setMemory_memory_self, hlen,
        Buffer.write_zero_read]
      rfl
    · rw [Function.update_of_ne hki, Function.update_of_ne hki, TxSlot.outgoing, TxSlot.outgoing]
      split
      · rfl
      · next hstate =>
        obtain ⟨ref', hv⟩ := h.slot k hstate
        have hne : ref' ≠ ref := by
          rintro rfl
          exact hnew k (by rw [TxSlot.held, if_neg hstate, hv.data])
        rw [hv.data, DatagramPool.setMemory_memory_of_ne _ _ hne,
          DatagramPool.memory_congr hstorage]

end TxValid

namespace RxValid

variable {pool pool' : DatagramPool} {slots : Fin 4 → RxSlot}

theorem incoming_update (pool : DatagramPool) (slots : Fin 4 → RxSlot) (j : Fin 4) (slot : RxSlot) :
    (fun k => (Function.update slots j slot k).incoming pool) =
      Function.update (fun k => (slots k).incoming pool) j (slot.incoming pool) :=
  Slots.map_update slots (fun s => s.incoming pool) j slot

theorem incoming_congr (h : pool'.storage = pool.storage) (slots : Fin 4 → RxSlot) :
    (fun k => (slots k).incoming pool') = fun k => (slots k).incoming pool := by
  funext k
  simp only [RxSlot.incoming, DatagramPool.memory_congr h]

/-- The slot is cleared and its buffer released. -/
theorem clear (h : RxValid pool slots) {j : Fin 4} (hactive : (slots j).active) :
    (slots j).handle.isValid ∧
      RxValid (releaseDatagram pool (slots j).handle).2 (Function.update slots j {}) ∧
      (fun k => (Function.update slots j {} k).incoming
        (releaseDatagram pool (slots j).handle).2) =
        Function.update (fun k => (slots k).incoming pool) j none := by
  obtain ⟨ref, hv⟩ := h.slot j hactive
  have hheld : (slots j).held = some ref := by
    rw [RxSlot.held, if_pos hactive, hv.reassembly.output]
  obtain ⟨hstorage, hleases⟩ := h.leases.release hheld
  rw [hv.handle]
  refine ⟨DatagramHandle.ofRef_isValid ref, ⟨fun k hk => ?_, ?_⟩, ?_⟩
  · by_cases hkj : k = j
    · subst hkj
      rw [Function.update_self] at hk
      cases hk
    · rw [Function.update_of_ne hkj] at hk ⊢
      exact h.slot k hk
  · rw [Slots.map_update slots RxSlot.held]
    exact hleases
  · rw [incoming_update, incoming_congr hstorage]
    rfl

/-- A new state of the slot that holds the buffer `ref`, with new contents of the buffer; no other
slot sees the difference. -/
theorem store {j : Fin 4} {ref : BufferRef}
    (h : ∀ k ≠ j, (slots k).active → ∃ ref, (slots k).Valid ref)
    (hleases : Leases pool (Function.update (fun k => (slots k).held) j (some ref))) {slot : RxSlot}
    (hslot : slot.Valid ref) (hactive : slot.active) (memory : Buffer) :
    RxValid (pool.setMemory (some ref) memory) (Function.update slots j slot) ∧
      (fun k => (Function.update slots j slot k).incoming (pool.setMemory (some ref) memory)) =
        Function.update (fun k => (slots k).incoming pool) j
          (some ⟨slot.reassembly.datagramId, slot.reassembly.datagramLength,
            slot.reassembly.receivedBitmap, memory⟩) := by
  refine ⟨⟨fun k hk => ?_, ?_⟩, funext fun k => ?_⟩
  · by_cases hkj : k = j
    · subst hkj
      rw [Function.update_self]
      exact ⟨ref, hslot⟩
    · rw [Function.update_of_ne hkj] at hk ⊢
      exact h k hkj hk
  · have hheld : slot.held = some ref := by
      rw [RxSlot.held, if_pos hactive, hslot.reassembly.output]
    rw [Slots.map_update slots RxSlot.held, hheld]
    exact hleases.setMemory _ _
  · by_cases hkj : k = j
    · subst hkj
      rw [Function.update_self, Function.update_self, RxSlot.incoming, if_pos hactive,
        hslot.reassembly.output, DatagramPool.setMemory_memory_self]
    · rw [Function.update_of_ne hkj, Function.update_of_ne hkj, RxSlot.incoming, RxSlot.incoming]
      split
      · next hk =>
        obtain ⟨ref', hv⟩ := h k hkj hk
        have hne : ref' ≠ ref := by
          rintro rfl
          refine hkj (hleases.injective ?_ (Function.update_self ..))
          rw [Function.update_of_ne hkj, RxSlot.held, if_pos hk, hv.reassembly.output]
        rw [hv.reassembly.output, DatagramPool.setMemory_memory_of_ne _ _ hne]
      · rfl

/-- Whether a complete datagram waits for egress shows in no view. -/
theorem setWaiting (h : RxValid pool slots) (j : Fin 4) (waiting : Bool) :
    RxValid pool (Function.update slots j { slots j with completeWaitingEgress := waiting }) ∧
      (fun k => (Function.update slots j { slots j with completeWaitingEgress := waiting }
        k).incoming
        pool) = fun k => (slots k).incoming pool := by
  refine ⟨⟨fun k hk => ?_, ?_⟩, Slots.map_update_same (g := fun s => RxSlot.incoming pool s) rfl⟩
  · by_cases hkj : k = j
    · subst hkj
      rw [Function.update_self] at hk ⊢
      obtain ⟨ref, hv⟩ := h.slot k hk
      exact ⟨ref, hv.handle, hv.reassembly, hv.active⟩
    · rw [Function.update_of_ne hkj] at hk ⊢
      exact h.slot k hk
  · have hsame := Slots.map_update_same (f := slots) (g := RxSlot.held) (i := j)
      (a := { slots j with completeWaitingEgress := waiting }) rfl
    rw [hsame]
    exact h.leases

end RxValid

end FlrcTnc.Arq
