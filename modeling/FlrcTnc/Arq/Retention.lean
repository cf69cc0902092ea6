import FlrcTnc.Arq.Window

/-! Which ids the duplicate window still finds after any sequence of stores. -/

namespace FlrcTnc.Arq

namespace DuplicateWindow

variable {window : DuplicateWindow} {id i : UInt16} {ack a : DuplicateAckState}

/-! ### What the window holds -/

/-- A valid entry of the window holds `ack` for `id`. -/
def Holds (window : DuplicateWindow) (id : UInt16) (ack : DuplicateAckState) : Prop :=
  ∃ (k : Nat) (entry : DuplicateWindowEntry),
    window.entries[k]? = some entry ∧ entry.isFor id ∧ entry.ack = ack

theorem Distinct.find_iff (h : window.Distinct) :
    duplicateWindowFind window id = some ack ↔ window.Holds id ack := by
  unfold duplicateWindowFind
  rw [Option.map_eq_some_iff]
  constructor
  · rintro ⟨entry, hfind, hack⟩
    obtain ⟨k, hk⟩ := List.mem_iff_getElem?.mp (List.mem_of_find?_eq_some hfind)
    exact ⟨k, entry, hk, by simpa using List.find?_some hfind, hack⟩
  · rintro ⟨k, entry, hk, hfor, hack⟩
    obtain ⟨other, hother⟩ :
        ∃ other, window.entries.find? (fun entry => entry.isFor id) = some other :=
      Option.isSome_iff_exists.mp
        (List.find?_isSome.mpr ⟨entry, List.mem_of_getElem? hk, by simpa using hfor⟩)
    obtain ⟨l, hl⟩ := List.mem_iff_getElem?.mp (List.mem_of_find?_eq_some hother)
    have hotherFor : other.valid ∧ other.datagramId = id :=
      isFor_iff.mp (by simpa using List.find?_some hother)
    have hentryFor := isFor_iff.mp hfor
    have hkl := h k l entry other hk hl hentryFor.1 hotherFor.1
      (hentryFor.2.trans hotherFor.2.symm)
    subst hkl
    rw [hk] at hl
    cases hl
    exact ⟨entry, hother, hack⟩

theorem holds_advance : (window.advance id).Holds i a ↔ window.Holds i a := by
  unfold Holds
  rw [advance_entries]

/-- Pruning keeps exactly what is within the window of the newest id. -/
theorem holds_prune (hnewest : window.hasNewest) : (duplicateWindowPrune window).Holds i a ↔
    window.Holds i a ∧ serialWithinWindow window.newestId i := by
  have hentries : (duplicateWindowPrune window).entries =
      window.entries.map (·.prune window.newestId) := by
    rw [duplicateWindowPrune, if_neg (by rw [hnewest]; simp)]
  unfold Holds
  rw [hentries]
  simp only [List.getElem?_map, Option.map_eq_some_iff]
  constructor
  · rintro ⟨k, _, ⟨old, hk, rfl⟩, hfor, hack⟩
    unfold DuplicateWindowEntry.prune at hfor hack
    split at hfor
    · simp [isFor_iff] at hfor
    · next hkeep =>
      rw [if_neg hkeep] at hack
      refine ⟨⟨k, old, hk, hfor, hack⟩, ?_⟩
      by_contra hout
      rw [isFor_iff] at hfor
      exact hkeep ⟨hfor.1, by rwa [hfor.2]⟩
  · rintro ⟨⟨k, old, hk, hfor, hack⟩, hwithin⟩
    have hsame : old.prune window.newestId = old := by
      unfold DuplicateWindowEntry.prune
      rw [if_neg (by rw [(isFor_iff.mp hfor).2, hwithin]; simp)]
    exact ⟨k, _, ⟨old, hk, rfl⟩, by rwa [hsame], by rwa [hsame]⟩

/-- Writing an entry for `id` over one that is invalid, or already for `id`, changes what is held
for `id` only. -/
theorem holds_setEntry {slot : Nat} {old : DuplicateWindowEntry}
    (hslot : window.entries[slot]? = some old) (hold : old.valid → old.datagramId = id)
    (hnew : ∀ k e, window.entries[k]? = some e → e.isFor id → k = slot) :
    (window.setEntry slot { datagramId := id, ack, valid := true }).Holds i a ↔
      if i = id then a = ack else window.Holds i a := by
  have hlt : slot < window.entries.length := (List.getElem?_eq_some_iff.mp hslot).1
  by_cases hid : i = id
  · rw [if_pos hid]
    subst hid
    constructor
    · rintro ⟨k, entry, hk, hfor, hack⟩
      rw [setEntry, List.getElem?_set] at hk
      split at hk
      · cases hk
        exact hack.symm
      · next hne => exact absurd (hnew k entry hk hfor).symm hne
    · rintro rfl
      exact ⟨slot, _, by rw [setEntry, List.getElem?_set_self hlt], isFor_iff.mpr ⟨rfl, rfl⟩, rfl⟩
  · rw [if_neg hid]
    constructor
    · rintro ⟨k, entry, hk, hfor, hack⟩
      rw [setEntry, List.getElem?_set] at hk
      split at hk
      · cases hk
        exact absurd (isFor_iff.mp hfor).2.symm hid
      · exact ⟨k, entry, hk, hfor, hack⟩
    · rintro ⟨k, entry, hk, hfor, hack⟩
      refine ⟨k, entry, ?_, hfor, hack⟩
      rw [setEntry, List.getElem?_set, if_neg, hk]
      rintro rfl
      rw [hslot] at hk
      cases hk
      exact hid ((isFor_iff.mp hfor).2.symm.trans (hold (isFor_iff.mp hfor).1))

/-! ### One store -/

/-- What every store keeps: no id twice, nothing valid out of the window, a count that is right. -/
structure Sound (window : DuplicateWindow) : Prop where
  distinct : window.Distinct
  within : ∀ e ∈ window.entries, e.valid →
    window.hasNewest ∧ serialWithinWindow window.newestId e.datagramId
  count : window.count = UInt8.ofNat (window.entries.countP (·.valid))

/-- A full window is asked to store an id that is behind it. -/
def Crowds (window : DuplicateWindow) (id : UInt16) : Prop :=
  window.count.toNat = duplicateWindowCapacity ∧ ¬ serialAfter id window.newestId ∧
    ¬ serialWithinWindow window.newestId id

instance (window : DuplicateWindow) (id : UInt16) : Decidable (window.Crowds id) :=
  inferInstanceAs (Decidable (_ ∧ _ ∧ _))

theorem Sound.empty : Sound {} := by
  refine ⟨Distinct.empty, ?_, by decide⟩
  intro e he hvalid
  rw [List.eq_of_mem_replicate he] at hvalid
  cases hvalid

theorem sound_prune (h : window.Distinct) (hnewest : window.hasNewest) :
    (duplicateWindowPrune window).Sound := by
  refine ⟨h.prune, fun e he hvalid => ?_, ?_⟩
  · rw [prune_newestId]
    refine ⟨?_, within_of_prune hnewest he hvalid⟩
    unfold duplicateWindowPrune
    rwa [if_neg (by rw [hnewest]; simp)]
  · unfold duplicateWindowPrune
    rw [if_neg (by rw [hnewest]; simp)]

/-- Pruning does nothing to a window with nothing out of it. -/
theorem prune_entries (h : ∀ e ∈ window.entries, serialWithinWindow window.newestId e.datagramId) :
    (duplicateWindowPrune window).entries = window.entries := by
  unfold duplicateWindowPrune
  split
  · rfl
  · refine (List.map_congr_left fun e he => ?_).trans (List.map_id _)
    rw [DuplicateWindowEntry.prune, if_neg (by rw [h e he]; simp), id]

/-- A pruned window that is full was full before. -/
theorem valid_of_prune (h : ∀ e ∈ (duplicateWindowPrune window).entries, e.valid) :
    ∀ e ∈ window.entries, e.valid := by
  intro e he
  obtain ⟨k, hk⟩ := List.mem_iff_getElem?.mp he
  have hlt : k < (duplicateWindowPrune window).entries.length := by
    rw [size, ← window.size]
    exact (List.getElem?_eq_some_iff.mp hk).1
  obtain ⟨old, hold, _, hvalid⟩ := prune_getElem? (List.getElem?_eq_getElem hlt)
  rw [hk] at hold
  cases hold
  exact hvalid (h _ (List.getElem_mem hlt))

/-- A new entry takes the place of a valid one only in a full window. -/
theorem valid_of_storeSlot {old : DuplicateWindowEntry}
    (hold : window.entries[storeSlot window]? = some old) (hvalid : old.valid) :
    ∀ e ∈ window.entries, e.valid := by
  by_contra hall
  obtain ⟨slot, hslot⟩ :
      ∃ slot, window.entries.findIdx? (fun entry => ¬ entry.valid) = some slot := by
    rw [← Option.isSome_iff_exists, List.findIdx?_isSome]
    simpa using hall
  obtain ⟨hlt, hinvalid, _⟩ := List.findIdx?_eq_some_iff_getElem.mp hslot
  simp only [storeSlot, hslot, List.getElem?_eq_getElem hlt, Option.some.injEq] at hold
  simp [hold, hvalid] at hinvalid

/-- A store writes one entry, over `old`, into the window `before`, and prunes. -/
structure Writes (window : DuplicateWindow) (id : UInt16) (before : DuplicateWindow) (slot : Nat)
    (old : DuplicateWindowEntry) : Prop where
  newest : before.newestId = (window.advance id).newestId
  hasNewest : before.hasNewest
  distinct : before.Distinct
  holds : ∀ j b, serialWithinWindow before.newestId j → (before.Holds j b ↔ window.Holds j b)
  get : before.entries[slot]? = some old
  only : ∀ k e, before.entries[k]? = some e → e.isFor id → k = slot
  room : old.valid → old.datagramId = id ∨ (∀ e ∈ window.entries, e.valid) ∧
    ∀ e ∈ before.entries, e.valid ∧ serialWithinWindow before.newestId e.datagramId
  mem : (∀ e ∈ window.entries, serialWithinWindow before.newestId e.datagramId) →
    old ∈ window.entries

theorem Distinct.store_eq (h : window.Distinct) (id : UInt16) (ack : DuplicateAckState) :
    ∃ before slot old, window.Writes id before slot old ∧ duplicateWindowStore window id ack =
      duplicateWindowPrune (before.setEntry slot { datagramId := id, ack, valid := true }) := by
  unfold duplicateWindowStore
  dsimp only
  split
  · next slot hslot =>
    obtain ⟨hlt, hfor, _⟩ := List.findIdx?_eq_some_iff_getElem.mp hslot
    have hget := List.getElem?_eq_getElem hlt
    rw [isFor_iff] at hfor
    refine ⟨window.advance id, slot, (window.advance id).entries[slot], ?_, ?_⟩
    · exact {
        newest := rfl
        hasNewest := hasNewest_advance
        distinct := h.advance id
        holds := fun j b _ => holds_advance
        get := hget
        only := fun k e hk hsame => h.advance id k slot e _ hk hget (isFor_iff.mp hsame).1 hfor.1
          ((isFor_iff.mp hsame).2.trans hfor.2.symm)
        room := fun _ => .inl hfor.2
        mem := fun _ => advance_entries window id ▸ List.getElem_mem hlt }
    · rw [List.getD_eq_getElem?_getD, hget, Option.getD_some]
      simp only [hfor.1, hfor.2]
  · next hnone =>
    rw [List.findIdx?_eq_none_iff] at hnone
    obtain ⟨old, hget⟩ : ∃ old, (duplicateWindowPrune (window.advance id)).entries[storeSlot
        (duplicateWindowPrune (window.advance id))]? = some old :=
      ⟨_, List.getElem?_eq_getElem (storeSlot_lt _)⟩
    refine ⟨duplicateWindowPrune (window.advance id), _, old, ?_, rfl⟩
    refine ⟨prune_newestId _, ?_, (h.advance id).prune, ?_, hget, ?_, ?_, ?_⟩
    · rw [duplicateWindowPrune, if_neg (by rw [hasNewest_advance]; simp)]
      exact hasNewest_advance
    · intro j b hwithin
      rw [prune_newestId] at hwithin
      rw [holds_prune hasNewest_advance, holds_advance, and_iff_left hwithin]
    · intro k e hk hsame
      obtain ⟨old, hold, hid, hvalid⟩ := prune_getElem? hk
      rw [isFor_iff] at hsame
      have hother := hnone old (List.mem_of_getElem? hold)
      rw [isFor_iff.mpr ⟨hvalid hsame.1, hid ▸ hsame.2⟩] at hother
      cases hother
    · intro hvalid
      have hvalids := valid_of_storeSlot hget hvalid
      refine .inr ⟨?_, fun e he => ⟨hvalids e he, ?_⟩⟩
      · rw [← advance_entries window id]
        exact valid_of_prune hvalids
      · rw [prune_newestId]
        exact within_of_prune hasNewest_advance he (hvalids e he)
    · intro hall
      refine List.mem_of_getElem? (i := storeSlot (duplicateWindowPrune (window.advance id))) ?_
      rw [← hget, prune_entries, advance_entries]
      rwa [advance_entries, ← prune_newestId]

theorem Sound.store (h : window.Sound) : (duplicateWindowStore window id ack).Sound := by
  obtain ⟨before, slot, old, hwrites, heq⟩ := h.distinct.store_eq id ack
  rw [heq]
  exact sound_prune (hwrites.distinct.setEntry hwrites.only) hwrites.hasNewest

/-- The newest id is within the window of itself. -/
theorem within_self (id : UInt16) : serialWithinWindow id id := by
  rw [serialWithinWindow_iff, UInt16.sub_self]
  decide

/-- What a full window gives up to a store that is not behind it is what the id itself held. -/
theorem Sound.room (h : window.Sound) (hroom : ¬ window.Crowds id) {before : DuplicateWindow}
    {slot : Nat} {old : DuplicateWindowEntry} (hwrites : window.Writes id before slot old) :
    old.valid → old.datagramId = id := by
  intro hvalid
  rcases hwrites.room hvalid with hid | ⟨hvalids, hfull⟩
  · exact hid
  · by_cases hwithin : serialWithinWindow before.newestId id
    · obtain ⟨e, hmem, hfor⟩ := has_of_full hwrites.distinct (fun e he => (hfull e he).1)
        (fun e he => (hfull e he).2) hwithin
      obtain ⟨k, hk⟩ := List.mem_iff_getElem?.mp hmem
      have hslot := hwrites.only k e hk hfor
      rw [hslot, hwrites.get] at hk
      cases hk
      exact (isFor_iff.mp hfor).2
    · refine absurd ⟨?_, ?_, ?_⟩ hroom
      · rw [h.count, List.countP_eq_length.mpr hvalids, window.size]
        rfl
      · intro hafter
        rw [hwrites.newest, advance, if_pos (.inr hafter)] at hwithin
        exact hwithin (within_self id)
      · intro hid
        rw [hwrites.newest, advance] at hwithin
        split at hwithin
        · exact hwithin (within_self id)
        · exact hwithin hid

/-- What is found after a store that does not crowd. -/
theorem Sound.find_store (h : window.Sound) (hroom : ¬ window.Crowds id) :
    duplicateWindowFind (duplicateWindowStore window id ack) i = some a ↔
      serialWithinWindow (window.advance id).newestId i ∧
        if i = id then a = ack else duplicateWindowFind window i = some a := by
  rw [h.store.distinct.find_iff, h.distinct.find_iff]
  obtain ⟨before, slot, old, hwrites, heq⟩ := h.distinct.store_eq id ack
  have hnewest : (before.setEntry slot { datagramId := id, ack, valid := true }).newestId =
      before.newestId := rfl
  rw [heq, holds_prune (by exact hwrites.hasNewest), hnewest, ← hwrites.newest,
    holds_setEntry hwrites.get (h.room hroom hwrites) hwrites.only, and_comm]
  refine and_congr_right fun hwithin => ?_
  rw [hwrites.holds i a hwithin]

/-- A store that crowds loses an id that is within the window. -/
theorem Sound.lost_of_crowds (h : window.Sound) (hcrowds : window.Crowds id)
    (ack : DuplicateAckState) :
    ∃ j b, duplicateWindowFind window j = some b ∧ j ≠ id ∧
      serialWithinWindow (window.advance id).newestId j ∧
      duplicateWindowFind (duplicateWindowStore window id ack) j = none := by
  obtain ⟨hcount, hafter, hbehind⟩ := hcrowds
  have hvalids : ∀ e ∈ window.entries, e.valid := by
    have hle := List.countP_le_length (p := fun e : DuplicateWindowEntry => e.valid)
      (l := window.entries)
    rw [h.count, UInt8.toNat_ofNat', duplicateWindowCapacity] at hcount
    rw [window.size, duplicateWindowCapacity] at hle
    have hfull : window.entries.countP (fun e => e.valid) = 64 := by omega
    exact List.countP_eq_length.mp (hfull.trans window.size.symm)
  have hnewest : (window.advance id).newestId = window.newestId := by
    have hfirst : 0 < window.entries.length := by rw [window.size]; decide
    have := (h.within _ (List.getElem_mem hfirst) (hvalids _ (List.getElem_mem hfirst))).1
    rw [advance, if_neg (by rw [not_or, not_not]; exact ⟨this, hafter⟩)]
  obtain ⟨before, slot, old, hwrites, heq⟩ := h.distinct.store_eq id ack
  have hsame := hwrites.newest.trans hnewest
  have hmem : old ∈ window.entries := by
    refine hwrites.mem fun e he => ?_
    rw [hsame]
    exact (h.within e he (hvalids e he)).2
  have hvalid := hvalids old hmem
  have hwithin := (h.within old hmem hvalid).2
  have hne : old.datagramId ≠ id := by
    intro hid
    rw [hid] at hwithin
    exact hbehind hwithin
  refine ⟨old.datagramId, old.ack, ?_, hne, by rwa [hnewest], ?_⟩
  · obtain ⟨k, hk⟩ := List.mem_iff_getElem?.mp hmem
    exact h.distinct.find_iff.mpr ⟨k, old, hk, isFor_iff.mpr ⟨hvalid, rfl⟩, rfl⟩
  · rw [Option.eq_none_iff_forall_ne_some]
    intro b hfind
    rw [h.store.distinct.find_iff, heq, holds_prune (by exact hwrites.hasNewest)] at hfind
    obtain ⟨k, e, hk, hfor, _⟩ := hfind.1
    rw [isFor_iff] at hfor
    rw [setEntry, List.getElem?_set] at hk
    -- the slot of `old` now has the new id, and no other slot had the old one
    split at hk
    · split at hk <;> cases hk
      exact hne hfor.2.symm
    · next hother =>
      exact hother (hwrites.distinct slot k old e hwrites.get hk hvalid hfor.1 hfor.2.symm)

/-! ### Sequences of stores -/

/-- The window after a sequence of stores, from a reset one. -/
def afterStores (stores : List (UInt16 × DuplicateAckState)) : DuplicateWindow :=
  stores.foldl (fun window store => duplicateWindowStore window store.1 store.2) {}

@[simp] theorem afterStores_append_singleton (stores : List (UInt16 × DuplicateAckState))
    (store : UInt16 × DuplicateAckState) : afterStores (stores ++ [store]) =
      duplicateWindowStore (afterStores stores) store.1 store.2 := by
  unfold afterStores
  rw [List.foldl_append, List.foldl_cons, List.foldl_nil]

theorem afterStores_sound (stores : List (UInt16 × DuplicateAckState)) :
    (afterStores stores).Sound := by
  induction stores using List.reverseRecOn with
  | nil => exact Sound.empty
  | append_singleton stores store ih =>
    rw [afterStores_append_singleton]
    exact ih.store

/-- The most recent store of `id` stored `ack`, and `id` has been within the window of the newest id
since then. -/
def RecentlyStored (stores : List (UInt16 × DuplicateAckState)) (id : UInt16)
    (ack : DuplicateAckState) : Prop :=
  ∃ before later, stores = before ++ (id, ack) :: later ∧ (∀ store ∈ later, store.1 ≠ id) ∧
    ∀ since, since <+: later →
      serialWithinWindow (afterStores (before ++ (id, ack) :: since)).newestId id

theorem store_newestId (window : DuplicateWindow) (id : UInt16) (ack : DuplicateAckState) :
    (duplicateWindowStore window id ack).newestId = (window.advance id).newestId := by
  unfold duplicateWindowStore
  dsimp only
  split
  · rw [prune_newestId]
    rfl
  · rw [prune_newestId]
    exact prune_newestId _

theorem recentlyStored_nil : ¬ RecentlyStored [] id ack := by
  rintro ⟨before, later, h, _⟩
  simp at h

theorem recentlyStored_append_singleton {stores : List (UInt16 × DuplicateAckState)}
    {store : UInt16 × DuplicateAckState} : RecentlyStored (stores ++ [store]) id ack ↔
      serialWithinWindow ((afterStores stores).advance store.1).newestId id ∧
        if id = store.1 then ack = store.2 else RecentlyStored stores id ack := by
  rw [← store_newestId _ _ store.2, ← afterStores_append_singleton]
  constructor
  · rintro ⟨before, later, heq, hlater, hsince⟩
    have hwithin := hsince later (List.prefix_refl later)
    rw [← heq] at hwithin
    refine ⟨hwithin, ?_⟩
    induction later using List.reverseRecOn with
    | nil =>
      obtain ⟨_, h⟩ := List.append_inj' heq rfl
      cases h
      rw [if_pos rfl]
    | append_singleton later last _ =>
      rw [← List.cons_append, ← List.append_assoc] at heq
      obtain ⟨rfl, h⟩ := List.append_inj' heq rfl
      cases h
      rw [if_neg (hlater store (by simp)).symm]
      exact ⟨before, later, rfl, fun s hs => hlater s (List.mem_append_left _ hs),
        fun since hpast => hsince since (hpast.trans (List.prefix_append _ _))⟩
  · rintro ⟨hwithin, hrecent⟩
    split at hrecent
    · next hid =>
      subst hid hrecent
      refine ⟨stores, [], rfl, by simp, fun since hpast => ?_⟩
      rw [List.prefix_nil.mp hpast]
      exact hwithin
    · next hid =>
      obtain ⟨before, later, rfl, hlater, hsince⟩ := hrecent
      refine ⟨before, later ++ [store], by simp, ?_, fun since hpast => ?_⟩
      · intro s hs
        rcases List.mem_append.mp hs with hs | hs
        · exact hlater s hs
        · rw [List.mem_singleton.mp hs]
          exact Ne.symm hid
      · rcases List.prefix_concat_iff.mp hpast with rfl | hpast
        · simpa using hwithin
        · exact hsince since hpast

/-- What is found is what was stored recently, no id has two valid entries, and the count is
right. -/
structure KeepsRecent (stores : List (UInt16 × DuplicateAckState)) : Prop where
  found : ∀ id ack, duplicateWindowFind (afterStores stores) id = some ack ↔
    RecentlyStored stores id ack
  distinct : (afterStores stores).Distinct
  count : (afterStores stores).count.toNat = (afterStores stores).entries.countP (·.valid)

theorem keepsRecent_nil : KeepsRecent [] where
  found id ack := by
    refine ⟨fun hfind => ?_, fun h => absurd h recentlyStored_nil⟩
    replace hfind := Sound.empty.distinct.find_iff.mp hfind
    obtain ⟨k, entry, hk, hfor, _⟩ := hfind
    rw [List.eq_of_mem_replicate (List.mem_of_getElem? hk)] at hfor
    simp [isFor_iff] at hfor
  distinct := Distinct.empty
  count := by decide

/-- The window keeps what it should over a whole sequence of stores exactly when no store crowds it:
when no store of an id behind the window meets a full window. -/
theorem keepsRecent_iff_not_crowds (stores : List (UInt16 × DuplicateAckState)) :
    (∀ before, before <+: stores → KeepsRecent before) ↔
      ∀ before store, before ++ [store] <+: stores → ¬ (afterStores before).Crowds store.1 := by
  constructor
  · intro hkeeps before store hpast hcrowds
    obtain ⟨id, ack, hfind, hne, hwithin, hlost⟩ :=
      (afterStores_sound before).lost_of_crowds hcrowds store.2
    have hbefore := hkeeps before ((List.prefix_append _ _).trans hpast)
    have hafter := (hkeeps (before ++ [store]) hpast).found id ack
    rw [recentlyStored_append_singleton, if_neg hne, ← hbefore.found,
      afterStores_append_singleton, hlost] at hafter
    cases hafter.mpr ⟨hwithin, hfind⟩
  · intro hroom before hpast
    induction before using List.reverseRecOn with
    | nil => exact keepsRecent_nil
    | append_singleton before store ih =>
      have hsound := afterStores_sound (before ++ [store])
      refine ⟨fun id ack => ?_, hsound.distinct, ?_⟩
      · rw [afterStores_append_singleton, recentlyStored_append_singleton,
          (afterStores_sound before).find_store (hroom before store hpast),
          (ih ((List.prefix_append _ _).trans hpast)).found]
      · rw [hsound.count, UInt8.toNat_ofNat', Nat.mod_eq_of_lt]
        refine Nat.lt_of_le_of_lt (List.countP_le_length) ?_
        rw [size]
        decide

/-- Sixty-four ids in order, and then one that is behind all of them. -/
def crowdingStores : List (UInt16 × DuplicateAckState) :=
  (List.range 64).map (fun k => (UInt16.ofNat k, DuplicateAckState.mk 1 4 .none)) ++
    [(60000, DuplicateAckState.mk 1 4 .none)]

set_option maxRecDepth 100000 in
/-- The last store evicts id 0, is itself pruned, and neither is found. -/
theorem not_keepsRecent_crowdingStores : ¬ KeepsRecent crowdingStores := by
  intro hkeeps
  have hlost : duplicateWindowFind (afterStores crowdingStores) 0 = none := by decide +kernel
  have hstored : RecentlyStored crowdingStores 0 (DuplicateAckState.mk 1 4 .none) := by
    refine ⟨[], crowdingStores.tail, by decide +kernel, by decide +kernel, ?_⟩
    simp only [← List.mem_inits]
    decide +kernel
  rw [← hkeeps.found, hlost] at hstored
  cases hstored

end DuplicateWindow

end FlrcTnc.Arq
