import FlrcTnc.Arq.Resources

/-! What the duplicate window keeps: the ids within 64 of the newest one. -/

namespace FlrcTnc.Arq

/-- The serial comparison, as a distance. -/
theorem serialWithinWindow_iff {newest candidate : UInt16} :
    serialWithinWindow newest candidate ↔ (newest - candidate).toNat < 64 := by
  have hdistance : (serialDistance newest candidate).toInt =
      (newest - candidate).toBitVec.toInt := rfl
  rw [serialWithinWindow, decide_eq_true_eq, ge_iff_le, Int16.le_iff_toInt_le, hdistance,
    BitVec.toInt_eq_toNat_cond]
  simp only [UInt16.toNat_toBitVec, duplicateWindowCapacity, Int16.toInt_zero]
  have := (newest - candidate).toNat_lt
  split <;> omega

namespace DuplicateWindow

variable {window : DuplicateWindow} {id i : UInt16}

/-- No id has two valid entries. -/
def Distinct (window : DuplicateWindow) : Prop :=
  ∀ (k l : Nat) (a b : DuplicateWindowEntry), window.entries[k]? = some a →
    window.entries[l]? = some b → a.valid → b.valid → a.datagramId = b.datagramId → k = l

theorem isFor_iff {entry : DuplicateWindowEntry} :
    entry.isFor id ↔ entry.valid ∧ entry.datagramId = id := by
  rw [DuplicateWindowEntry.isFor, decide_eq_true_eq]

theorem has_iff : window.Has id ↔ ∃ (k : Nat) (entry : DuplicateWindowEntry),
    window.entries[k]? = some entry ∧ entry.isFor id := by
  simp only [Has, List.mem_iff_getElem?]
  constructor
  · rintro ⟨entry, ⟨k, hk⟩, hfor⟩
    exact ⟨k, entry, hk, hfor⟩
  · rintro ⟨k, entry, hk, hfor⟩
    exact ⟨entry, ⟨k, hk⟩, hfor⟩

theorem Distinct.empty : Distinct {} := by
  intro k l a b ha _ hvalid
  rw [List.eq_of_mem_replicate (List.mem_of_getElem? ha)] at hvalid
  cases hvalid

@[simp] theorem advance_entries (window : DuplicateWindow) (id : UInt16) :
    (window.advance id).entries = window.entries := by
  rw [advance]; split <;> rfl

theorem Distinct.advance (h : window.Distinct) (id : UInt16) : (window.advance id).Distinct := by
  rwa [Distinct, advance_entries]

@[simp] theorem prune_newestId (window : DuplicateWindow) :
    (duplicateWindowPrune window).newestId = window.newestId := by
  rw [duplicateWindowPrune]; split <;> rfl

/-- An entry after pruning is the entry before, perhaps no longer valid. -/
theorem prune_getElem? {k : Nat} {e : DuplicateWindowEntry}
    (h : (duplicateWindowPrune window).entries[k]? = some e) :
    ∃ old, window.entries[k]? = some old ∧ e.datagramId = old.datagramId ∧
      (e.valid → old.valid) := by
  rw [duplicateWindowPrune] at h
  split at h
  · exact ⟨e, h, rfl, id⟩
  · simp only [List.getElem?_map, Option.map_eq_some_iff] at h
    obtain ⟨old, hold, rfl⟩ := h
    refine ⟨old, hold, ?_, ?_⟩
    · rw [DuplicateWindowEntry.prune]; split <;> rfl
    · rw [DuplicateWindowEntry.prune]
      split
      · exact fun h => by cases h
      · exact id

theorem Distinct.prune (h : window.Distinct) : (duplicateWindowPrune window).Distinct := by
  intro k l a b ha hb hva hvb hid
  obtain ⟨a', ha', hida, hva'⟩ := prune_getElem? ha
  obtain ⟨b', hb', hidb, hvb'⟩ := prune_getElem? hb
  exact h k l a' b' ha' hb' (hva' hva) (hvb' hvb) (by rw [← hida, ← hidb, hid])

/-- Pruning keeps what is within the window of the newest id. -/
theorem has_prune (h : window.Has i) (hwithin : serialWithinWindow window.newestId i) :
    (duplicateWindowPrune window).Has i := by
  obtain ⟨entry, hmem, hfor⟩ := h
  rw [duplicateWindowPrune]
  split
  · exact ⟨entry, hmem, hfor⟩
  · refine ⟨_, List.mem_map_of_mem hmem, ?_⟩
    rw [isFor_iff] at hfor
    rw [DuplicateWindowEntry.prune, if_neg (by rw [hfor.2, hwithin]; simp), isFor_iff]
    exact hfor

/-- After pruning, what is valid is within the window. -/
theorem within_of_prune {e : DuplicateWindowEntry} (hnewest : window.hasNewest)
    (hmem : e ∈ (duplicateWindowPrune window).entries) (hvalid : e.valid) :
    serialWithinWindow window.newestId e.datagramId := by
  rw [duplicateWindowPrune, if_neg (by rw [hnewest]; simp)] at hmem
  obtain ⟨old, _, rfl⟩ := List.mem_map.mp hmem
  rw [DuplicateWindowEntry.prune] at hvalid ⊢
  split at hvalid
  · cases hvalid
  · next hkeep =>
    rw [if_neg hkeep]
    by_contra hwithin
    exact hkeep ⟨hvalid, hwithin⟩

theorem hasNewest_advance : (window.advance id).hasNewest := by
  rw [advance]
  split
  · rfl
  · next h =>
    rw [not_or, not_not] at h
    exact h.1

/-- Setting an entry of an id that is nowhere else keeps the entries distinct. -/
theorem Distinct.setEntry (h : window.Distinct) {slot : Nat} {entry : DuplicateWindowEntry}
    (hnew : ∀ k e, window.entries[k]? = some e → e.isFor entry.datagramId → k = slot) :
    (window.setEntry slot entry).Distinct := by
  intro k l a b ha hb hva hvb hid
  rw [DuplicateWindow.setEntry, List.getElem?_set] at ha hb
  split at ha
  · next hk =>
    subst hk
    split at ha <;> cases ha
    split at hb
    · assumption
    · exact (hnew l b hb (isFor_iff.mpr ⟨hvb, hid.symm⟩)).symm
  · split at hb
    · next hl =>
      subst hl
      split at hb <;> cases hb
      exact hnew k a ha (isFor_iff.mpr ⟨hva, hid⟩)
    · exact h k l a b ha hb hva hvb hid

/-- A full window of distinct ids, all within 64 of the newest one, has every such id. -/
theorem has_of_full (h : window.Distinct) (hvalid : ∀ e ∈ window.entries, e.valid)
    (hwithin : ∀ e ∈ window.entries, serialWithinWindow window.newestId e.datagramId)
    (hid : serialWithinWindow window.newestId id) : window.Has id := by
  have hget (k : Fin 64) : k.1 < window.entries.length := by
    rw [window.size]
    exact k.2
  have hmem (k : Fin 64) : window.entries.get ⟨k.1, hget k⟩ ∈ window.entries := List.get_mem ..
  let age (k : Fin 64) : Fin 64 :=
    ⟨(window.newestId - (window.entries.get ⟨k.1, hget k⟩).datagramId).toNat,
      serialWithinWindow_iff.mp (hwithin _ (hmem k))⟩
  have hinjective : Function.Injective age := by
    intro k l hkl
    have hsub := UInt16.toNat_inj.mp (Fin.mk.inj hkl)
    exact Fin.ext (h k l _ _ (List.getElem?_eq_getElem (hget k)) (List.getElem?_eq_getElem (hget l))
      (hvalid _ (hmem k)) (hvalid _ (hmem l)) ((UInt16.sub_right_inj _).mp hsub))
  obtain ⟨k, hk⟩ := Finite.injective_iff_surjective.mp hinjective
    ⟨(window.newestId - id).toNat, serialWithinWindow_iff.mp hid⟩
  have hsub := UInt16.toNat_inj.mp (Fin.mk.inj hk)
  exact ⟨_, hmem k, isFor_iff.mpr ⟨hvalid _ (hmem k), (UInt16.sub_right_inj _).mp hsub⟩⟩

/-! ### Storing -/

theorem oldestSlot_lt (window : DuplicateWindow) : oldestSlot window < duplicateWindowCapacity := by
  rw [oldestSlot]
  refine List.foldlRecOn (motive := fun found : Nat × UInt16 => found.1 < duplicateWindowCapacity)
    _ _ (Nat.zero_lt_succ _) fun found hfound k hk => ?_
  dsimp only
  split
  · exact List.mem_range.mp hk
  · exact hfound

theorem storeSlot_lt (window : DuplicateWindow) : storeSlot window < window.entries.length := by
  rw [storeSlot]
  split
  · next slot hslot => exact (List.findIdx?_eq_some_iff_getElem.mp hslot).1
  · rw [window.size]
    exact oldestSlot_lt window

/-- The entry that a new one replaces. -/
def replaced (window : DuplicateWindow) (id : UInt16) : DuplicateWindowEntry :=
  let window := duplicateWindowPrune (window.advance id)
  window.entries.getD (storeSlot window) {}

/-- When `id` is stored, `i` is within the window of the newest id, and makes no room for an id that
is not. -/
def Retains (window : DuplicateWindow) (id i : UInt16) : Prop :=
  serialWithinWindow (window.advance id).newestId i ∧
    (serialWithinWindow (window.advance id).newestId id ∨ ¬ (window.replaced id).isFor i)

instance (window : DuplicateWindow) (id i : UInt16) : Decidable (window.Retains id i) :=
  inferInstanceAs (Decidable (_ ∧ _))

theorem has_setEntry_of_ne {slot : Nat} {entry : DuplicateWindowEntry} (h : window.Has i)
    (hne : ¬ (window.entries.getD slot {}).isFor i) : (window.setEntry slot entry).Has i := by
  obtain ⟨k, e, hk, hfor⟩ := has_iff.mp h
  refine has_iff.mpr ⟨k, e, ?_, hfor⟩
  rw [setEntry, List.getElem?_set, if_neg ?_]
  · exact hk
  · rintro rfl
    rw [List.getD_eq_getElem?_getD, hk] at hne
    exact hne hfor

theorem has_setEntry_self {slot : Nat} {entry : DuplicateWindowEntry}
    (hslot : slot < window.entries.length) (hfor : entry.isFor i) :
    (window.setEntry slot entry).Has i :=
  has_iff.mpr ⟨slot, entry, by rw [setEntry, List.getElem?_set_self hslot], hfor⟩

/-- The replaced entry is valid only when the stored id is not within the window. -/
theorem Distinct.replaced_invalid (h : window.Distinct) (hnew : ¬ window.Has id)
    (hid : serialWithinWindow (window.advance id).newestId id) : ¬ (window.replaced id).valid := by
  intro hvalid
  rw [replaced] at hvalid
  rw [storeSlot] at hvalid
  split at hvalid
  · next slot hslot =>
    obtain ⟨hlt, hinvalid, _⟩ := List.findIdx?_eq_some_iff_getElem.mp hslot
    rw [List.getD_eq_getElem?_getD, List.getElem?_eq_getElem hlt, Option.getD_some] at hvalid
    rw [hvalid] at hinvalid
    cases hinvalid
  · next hall =>
    -- the pruned window is full, so it has the id already
    have hvalids : ∀ e ∈ (duplicateWindowPrune (window.advance id)).entries, e.valid := by
      simpa using hall
    have hhas := has_of_full (h.advance id).prune hvalids
      (fun e hmem => by
        rw [prune_newestId]
        exact within_of_prune hasNewest_advance hmem (hvalids e hmem))
      (by rwa [prune_newestId])
    have hadvanced := has_of_prune hhas
    rw [Has, advance_entries] at hadvanced
    exact hnew hadvanced

/-- What `Retains` says is what the window has after an id is stored. -/
theorem Distinct.has_store (h : window.Distinct) {ack : DuplicateAckState}
    (hi : i = id ∨ window.Has i) (hretains : window.Retains id i) :
    (duplicateWindowStore window id ack).Has i := by
  obtain ⟨hwithin, hroom⟩ := hretains
  have hadvanced (h : window.Has i) : (window.advance id).Has i := by
    rwa [Has, advance_entries]
  simp only [duplicateWindowStore]
  split
  · next slot hslot =>
    obtain ⟨hlt, hfor, _⟩ := List.findIdx?_eq_some_iff_getElem.mp hslot
    refine has_prune ?_ hwithin
    have hentry : (window.advance id).entries.getD slot {} = (window.advance id).entries[slot] := by
      rw [List.getD_eq_getElem?_getD, List.getElem?_eq_getElem hlt, Option.getD_some]
    by_cases heq : i = id
    · subst heq
      refine has_setEntry_self hlt ?_
      rw [hentry]
      exact isFor_iff.mpr (isFor_iff.mp hfor)
    · refine has_setEntry_of_ne (hadvanced (hi.resolve_left heq)) fun hsame => heq ?_
      rw [hentry] at hsame
      exact (isFor_iff.mp hsame).2.symm.trans (isFor_iff.mp hfor).2
  · next hnone =>
    have hnew : ¬ window.Has id := by
      rintro ⟨e, hmem, hfor⟩
      rw [List.findIdx?_eq_none_iff, advance_entries] at hnone
      simp [hnone e hmem] at hfor
    refine has_prune ?_ ?_
    · by_cases heq : i = id
      · exact has_setEntry_self (storeSlot_lt _) (isFor_iff.mpr ⟨rfl, heq.symm⟩)
      · refine has_setEntry_of_ne (has_prune (hadvanced (hi.resolve_left heq)) hwithin)
          fun hsame => ?_
        rcases hroom with hid | hother
        · exact h.replaced_invalid hnew hid (isFor_iff.mp hsame).1
        · exact hother hsame
    · change serialWithinWindow (duplicateWindowPrune (window.advance id)).newestId i
      rwa [prune_newestId]

/-- Storing keeps the entries distinct. -/
theorem Distinct.store (h : window.Distinct) (ack : DuplicateAckState) :
    (duplicateWindowStore window id ack).Distinct := by
  simp only [duplicateWindowStore]
  split
  · next slot hslot =>
    obtain ⟨hlt, hfor, _⟩ := List.findIdx?_eq_some_iff_getElem.mp hslot
    refine ((h.advance id).setEntry fun k e hk hsame => ?_).prune
    rw [List.getD_eq_getElem?_getD, List.getElem?_eq_getElem hlt, Option.getD_some] at hsame
    exact h.advance id k slot e _ hk (List.getElem?_eq_getElem hlt) (isFor_iff.mp hsame).1
      (isFor_iff.mp hfor).1 (isFor_iff.mp hsame).2
  · next hnone =>
    refine ((h.advance id).prune.setEntry fun k e hk hsame => ?_).prune
    obtain ⟨old, hold, hid, hvalid⟩ := prune_getElem? hk
    rw [List.findIdx?_eq_none_iff] at hnone
    have hother := hnone old (List.mem_of_getElem? hold)
    rw [isFor_iff.mpr ⟨hvalid (isFor_iff.mp hsame).1, hid ▸ (isFor_iff.mp hsame).2⟩] at hother
    cases hother

/-! ### Failures -/

/-- The window remembers no failures. -/
def Plain (window : DuplicateWindow) : Prop := ∀ e ∈ window.entries, e.ack.failure = .none

theorem Plain.empty : Plain {} := fun e he => by rw [List.eq_of_mem_replicate he]

theorem Plain.prune (h : window.Plain) : (duplicateWindowPrune window).Plain := by
  rw [duplicateWindowPrune]
  split
  · exact h
  · intro e he
    obtain ⟨old, hold, rfl⟩ := List.mem_map.mp he
    rw [← h old hold, DuplicateWindowEntry.prune]
    split <;> rfl

theorem Plain.setEntry (h : window.Plain) {slot : Nat} {entry : DuplicateWindowEntry}
    (hentry : entry.ack.failure = .none) : (window.setEntry slot entry).Plain := by
  intro e he
  rcases List.mem_or_eq_of_mem_set he with hold | rfl
  · exact h e hold
  · exact hentry

theorem Plain.store (h : window.Plain) {ack : DuplicateAckState} (hack : ack.failure = .none) :
    (duplicateWindowStore window id ack).Plain := by
  have hadvance : (window.advance id).Plain := by rwa [Plain, advance_entries]
  simp only [duplicateWindowStore]
  split
  · exact (hadvance.setEntry hack).prune
  · exact (hadvance.prune.setEntry hack).prune

theorem Plain.find (h : window.Plain) {stored : DuplicateAckState}
    (hstored : duplicateWindowFind window id = some stored) : stored.failure = .none := by
  obtain ⟨entry, hfind, rfl⟩ := Option.map_eq_some_iff.mp hstored
  exact h entry (List.mem_of_find?_eq_some hfind)

end DuplicateWindow

end FlrcTnc.Arq
