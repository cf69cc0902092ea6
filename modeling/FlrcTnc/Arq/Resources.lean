import FlrcTnc.Arq.Pool
import FlrcTnc.Framing.Exact
import Mathlib.Data.Fintype.Card

/-! What the pool and the duplicate window guarantee to the engine: leases never overlap and are not
refused while a slot is free, and the window holds no id that was not stored. -/

namespace FlrcTnc.Arq

open Framing

/-! ### Leases -/

/-- The test of a bit of the free bitmap. -/
theorem and_bufferBit_eq_zero (free : UInt8) (j : BufferRef) :
    free &&& bufferBit (UInt8.ofNat j) = 0 ↔ free.toNat.testBit j = false := by
  revert j
  revert free
  decide +kernel

theorem testBit_not_bufferBit (i j : BufferRef) :
    (~~~ bufferBit (UInt8.ofNat i)).toNat.testBit j = decide (i ≠ j) := by
  revert i j
  decide +kernel

theorem testBit_bufferBit (i j : BufferRef) :
    (bufferBit (UInt8.ofNat i)).toNat.testBit j = decide (i = j) := by
  revert i j
  decide +kernel

theorem bufferBit_clear (free : UInt8) (i j : BufferRef) :
    (free &&& ~~~ bufferBit (UInt8.ofNat i)) &&& bufferBit (UInt8.ofNat j) = 0 ↔
      i = j ∨ free &&& bufferBit (UInt8.ofNat j) = 0 := by
  rw [and_bufferBit_eq_zero, and_bufferBit_eq_zero, UInt8.toNat_and, Nat.testBit_and,
    testBit_not_bufferBit]
  by_cases h : i = j <;> simp [h]

theorem bufferBit_set (free : UInt8) (i j : BufferRef) :
    (free ||| bufferBit (UInt8.ofNat i)) &&& bufferBit (UInt8.ofNat j) = 0 ↔
      i ≠ j ∧ free &&& bufferBit (UInt8.ofNat j) = 0 := by
  rw [and_bufferBit_eq_zero, and_bufferBit_eq_zero, UInt8.toNat_or, Nat.testBit_or,
    testBit_bufferBit]
  by_cases h : i = j <;> simp [h]

def DatagramHandle.ofRef (ref : BufferRef) : DatagramHandle := ⟨UInt8.ofNat ref⟩

theorem DatagramHandle.ofRef_isValid (ref : BufferRef) : (ofRef ref).isValid := by
  revert ref
  decide

/-- `held i` is the buffer that slot `i` has leased: no two slots share one, and the free bitmap
knows exactly the leased ones. -/
structure Leases (pool : DatagramPool) (held : Fin 4 → Option BufferRef) : Prop where
  injective : ∀ {i j ref}, held i = some ref → held j = some ref → i = j
  taken : ∀ ref : BufferRef,
    pool.freeBitmap &&& bufferBit (UInt8.ofNat ref) = 0 ↔ ∃ i, held i = some ref

theorem Leases.initial {held : Fin 4 → Option BufferRef} (h : ∀ i, held i = none) :
    Leases {} held where
  injective hi := by rw [h _] at hi; cases hi
  taken ref := by
    simp only [h, reduceCtorEq, exists_false, iff_false]
    revert ref
    decide

/-- Four slots cannot hold eight buffers. -/
theorem exists_free (held : Fin 4 → Option BufferRef) :
    ∃ ref : BufferRef, ∀ i, held i ≠ some ref := by
  by_contra hall
  simp only [ne_eq, not_exists, not_forall, not_not] at hall
  choose slot hslot using hall
  have hinj : Function.Injective slot := fun r s hrs => by
    have hr := hslot r
    rw [hrs, hslot s] at hr
    exact (Option.some.inj hr).symm
  have hcard := Fintype.card_le_of_injective slot hinj
  simp at hcard

/-- `acquireDatagram` for a slot that holds nothing. -/
theorem Leases.acquire {pool : DatagramPool} {held : Fin 4 → Option BufferRef}
    (h : Leases pool held) {i : Fin 4} (hi : held i = none) :
    ∃ ref pool', acquireDatagram pool =
        (.ok, pool', ⟨.ofRef ref, some ref, v3MaxDatagram⟩) ∧
      pool'.storage = pool.storage ∧ (∀ j, held j ≠ some ref) ∧
      Leases pool' (Function.update held i (some ref)) := by
  rw [acquireDatagram]
  cases hfree : pool.freeBuffers with
  | nil =>
    obtain ⟨ref, href⟩ := exists_free held
    have hmem : ref ∈ pool.freeBuffers := by
      simp only [DatagramPool.freeBuffers, List.mem_filter, List.mem_finRange, true_and,
        decide_eq_true_eq]
      rw [ne_eq, h.taken]
      rintro ⟨j, hj⟩
      exact href j hj
    rw [hfree] at hmem
    cases hmem
  | cons ref rest =>
    have hmem : ref ∈ pool.freeBuffers := by rw [hfree]; exact List.mem_cons_self ..
    simp only [DatagramPool.freeBuffers, List.mem_filter, List.mem_finRange, true_and,
      decide_eq_true_eq] at hmem
    have hnot : ∀ j, held j ≠ some ref := fun j hj => hmem ((h.taken ref).mpr ⟨j, hj⟩)
    refine ⟨ref, _, rfl, rfl, hnot, ?_, ?_⟩
    · intro j k r hj hk
      rw [Function.update_apply] at hj hk
      split_ifs at hj hk with hji hki
      · rw [hji, hki]
      · cases hj; exact absurd hk (hnot k)
      · cases hk; exact absurd hj (hnot j)
      · exact h.injective hj hk
    · intro r
      rw [bufferBit_clear, h.taken]
      constructor
      · rintro (rfl | ⟨j, hj⟩)
        · exact ⟨i, Function.update_self ..⟩
        · refine ⟨j, ?_⟩
          rw [Function.update_of_ne, hj]
          rintro rfl
          rw [hi] at hj
          cases hj
      · rintro ⟨j, hj⟩
        rw [Function.update_apply] at hj
        split_ifs at hj with hji
        · left; exact Option.some.inj hj
        · right; exact ⟨j, hj⟩

theorem Leases.release {pool : DatagramPool} {held : Fin 4 → Option BufferRef}
    (h : Leases pool held) {i : Fin 4} {ref : BufferRef} (hi : held i = some ref) :
    (releaseDatagram pool (.ofRef ref)).2.storage = pool.storage ∧
      Leases (releaseDatagram pool (.ofRef ref)).2 (Function.update held i none) := by
  have hbit := (h.taken ref).mpr ⟨i, hi⟩
  rw [releaseDatagram, if_neg (by simpa using DatagramHandle.ofRef_isValid ref),
    if_neg (by simpa [DatagramHandle.ofRef] using hbit)]
  refine ⟨rfl, ?_, ?_⟩
  · intro j k r hj hk
    rw [Function.update_apply] at hj hk
    split_ifs at hj hk
    exact h.injective hj hk
  · intro r
    simp only [DatagramHandle.ofRef]
    rw [bufferBit_set, h.taken]
    constructor
    · rintro ⟨hne, j, hj⟩
      refine ⟨j, ?_⟩
      rw [Function.update_of_ne, hj]
      rintro rfl
      rw [hi] at hj
      exact hne (Option.some.inj hj)
    · rintro ⟨j, hj⟩
      rw [Function.update_apply] at hj
      split_ifs at hj with hji
      refine ⟨?_, j, hj⟩
      rintro rfl
      exact hji (h.injective hj hi)

/-- A write behind a pointer that no slot has leased, or that slot `i` has, moves no lease. -/
theorem Leases.setMemory {pool : DatagramPool} {held : Fin 4 → Option BufferRef}
    (h : Leases pool held) (ref : Option BufferRef) (memory : Buffer) :
    Leases (pool.setMemory ref memory) held := by
  cases ref with
  | none => exact h
  | some ref => exact ⟨h.injective, h.taken⟩

/-! ### Duplicate window -/

namespace DuplicateWindow

/-- The window has a valid entry for the id. -/
def Has (window : DuplicateWindow) (id : UInt16) : Prop :=
  ∃ entry ∈ window.entries, entry.isFor id

theorem find_isSome_iff {window : DuplicateWindow} {id : UInt16} :
    (duplicateWindowFind window id).isSome ↔ window.Has id := by
  simp [duplicateWindowFind, Has]

instance (window : DuplicateWindow) (id : UInt16) : Decidable (window.Has id) :=
  decidable_of_iff _ find_isSome_iff

theorem has_of_find {window : DuplicateWindow} {id : UInt16} {ack : DuplicateAckState}
    (h : duplicateWindowFind window id = some ack) : window.Has id :=
  find_isSome_iff.mp (by rw [h]; rfl)

theorem not_has_of_find {window : DuplicateWindow} {id : UInt16}
    (h : duplicateWindowFind window id = none) : ¬ window.Has id := by
  rw [← find_isSome_iff, h]
  simp

theorem not_has_empty (id : UInt16) : ¬ ({} : DuplicateWindow).Has id := by
  rintro ⟨entry, hmem, hfor⟩
  rw [List.eq_of_mem_replicate hmem] at hfor
  simp [DuplicateWindowEntry.isFor] at hfor

theorem has_of_prune {window : DuplicateWindow} {id : UInt16}
    (h : (duplicateWindowPrune window).Has id) : window.Has id := by
  rw [duplicateWindowPrune] at h
  split at h
  · exact h
  · obtain ⟨entry, hmem, hfor⟩ := h
    simp only [List.mem_map] at hmem
    obtain ⟨old, hold, rfl⟩ := hmem
    refine ⟨old, hold, ?_⟩
    rw [DuplicateWindowEntry.prune] at hfor
    split at hfor
    · simp [DuplicateWindowEntry.isFor] at hfor
    · exact hfor

theorem has_of_set {window : DuplicateWindow} {id : UInt16} {slot : Nat}
    {entry : DuplicateWindowEntry}
    (h : (window.setEntry slot entry).Has id) : entry.isFor id ∨ window.Has id := by
  obtain ⟨e, hmem, hfor⟩ := h
  rcases List.mem_or_eq_of_mem_set hmem with hmem | rfl
  · exact .inr ⟨e, hmem, hfor⟩
  · exact .inl hfor

/-- Storing an id adds no other. -/
theorem has_of_store {window : DuplicateWindow} {id stored : UInt16} {ack : DuplicateAckState}
    (h : (duplicateWindowStore window stored ack).Has id) : id = stored ∨ window.Has id := by
  have hadvance : (window.advance stored).entries = window.entries := by
    rw [advance]; split <;> rfl
  have hback (h : (window.advance stored).Has id) : window.Has id := by
    rwa [Has, hadvance] at h
  simp only [duplicateWindowStore] at h
  split at h
  · next slot hslot =>
    rcases has_of_set (has_of_prune h) with hentry | hold
    · left
      obtain ⟨hlt, hfor, _⟩ := List.findIdx?_eq_some_iff_getElem.mp hslot
      rw [List.getD_eq_getElem?_getD, List.getElem?_eq_getElem hlt] at hentry
      simp only [DuplicateWindowEntry.isFor, Option.getD_some, decide_eq_true_eq] at hfor hentry
      rw [← hentry.2, hfor.2]
    · exact .inr (hback hold)
  · rcases has_of_set (has_of_prune h) with hentry | hold
    · left
      simp only [DuplicateWindowEntry.isFor, decide_eq_true_eq] at hentry
      exact hentry.2.symm
    · exact .inr (hback (has_of_prune hold))

end DuplicateWindow

end FlrcTnc.Arq
