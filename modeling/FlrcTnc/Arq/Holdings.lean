import FlrcTnc.Arq.Ledger

/-! What the slots hold: each its own buffer of the pool, with the datagram that was put there, and
no datagram that was delivered before. -/

namespace FlrcTnc.Arq

open Framing

/-! ### Accepted datagrams -/

def Event.acceptedInto (i : Fin 4) : Event → Option (UInt16 × List UInt8)
  | .accepted slot datagramId data => if slot = i then some (datagramId, data) else none
  | _ => none

/-- The last datagram that was accepted into slot `i`, with its id. -/
def lastAccepted (i : Fin 4) (trace : List Event) : Option (UInt16 × List UInt8) :=
  trace.reverse.findSome? (Event.acceptedInto i)

theorem lastAccepted_append (i : Fin 4) (past evs : List Event) :
    lastAccepted i (past ++ evs) = (lastAccepted i evs).or (lastAccepted i past) := by
  unfold lastAccepted
  rw [List.reverse_append, List.findSome?_append]

theorem lastAccepted_silent {i : Fin 4} {past evs : List Event}
    (h : ∀ ev ∈ evs, ev.acceptedInto i = none) :
      lastAccepted i (past ++ evs) = lastAccepted i past := by
  have hnone : lastAccepted i evs = none :=
    List.findSome?_eq_none_iff.mpr fun ev hev => h ev (List.mem_reverse.mp hev)
  rw [lastAccepted_append, hnone, Option.none_or]

namespace Sender

variable {s s' : Sender} {past evs : List Event}

/-- Every datagram is the one that was accepted last into its slot. -/
def Remembers (past : List Event) (s : Sender) : Prop :=
  ∀ i t, s.slots i = some t → lastAccepted i past = some (t.id, t.data)

theorem Remembers.silent (h : s.Remembers past) (hevs : ∀ i, ∀ ev ∈ evs, ev.acceptedInto i = none) :
    s.Remembers (past ++ evs) := by
  intro i t ht
  rw [lastAccepted_silent (hevs i)]
  exact h i t ht

/-- A slot is cleared, or its datagram stays the same. -/
theorem Remembers.setSlot (h : s.Remembers past) {i : Fin 4} {t : Outgoing} {u : Option Outgoing}
    (ht : s.slots i = some t) (hsame : ∀ v, u = some v → v.id = t.id ∧ v.data = t.data) :
    (s.setSlot i u).Remembers past := by
  intro k v hv
  rcases setSlot_eq_some_iff.mp hv with ⟨rfl, hu⟩ | ⟨_, hold⟩
  · obtain ⟨hid, hdata⟩ := hsame v hu
    rw [hid, hdata]
    exact h k t ht
  · exact h k v hold

theorem Remembers.act (h : s.Remembers past) (hact : s.Act evs s') :
    s'.Remembers (past ++ evs) := by
  cases hact with
  | accept i data hpos hmax hempty hfirst =>
    intro k t ht
    rw [lastAccepted_append]
    rcases setSlot_eq_some_iff.mp ht with ⟨rfl, hnew⟩ | ⟨hne, hold⟩
    · cases hnew
      simp [lastAccepted, Event.acceptedInto]
    · have hother : lastAccepted k [.accepted i s.nextId data] = none := by
        simp [lastAccepted, Event.acceptedInto, Ne.symm hne]
      rw [hother, Option.none_or]
      exact h k t hold
  | openSlot i t ht =>
    refine (h.setSlot ht fun v hv => ?_).silent fun k => List.forall_mem_singleton.mpr rfl
    cases hv
    exact ⟨rfl, rfl⟩
  | send => exact h.silent fun k => List.forall_mem_singleton.mpr rfl
  | fail i t ht =>
    refine (h.setSlot ht.1 fun v hv => ?_).silent fun k => List.forall_mem_singleton.mpr rfl
    cases hv

theorem Remembers.receive {ack : AckFrame} (h : s.Remembers past)
    (hreceive : s.Receive ack evs s') :
    s'.Remembers (past ++ evs) := by
  cases hreceive with
  | ignore => exact h.silent fun k ev hev => by cases hev
  | withdraw i t ht | add i t ht =>
    refine (h.setSlot ht.1 fun v hv => ?_).silent fun k ev hev => by cases hev
    cases hv
    exact ⟨rfl, rfl⟩
  | complete i t ht =>
    refine (h.setSlot ht.1 fun v hv => ?_).silent fun k => List.forall_mem_singleton.mpr rfl
    cases hv

/-- What the receiver does is no acceptance. -/
theorem Remembers.ofReceiver (h : s.Remembers past) (hevs : ∀ ev ∈ evs, ev.OfReceiver) :
    s.Remembers (past ++ evs) := by
  refine h.silent fun i ev hev => ?_
  have hreceiver := hevs ev hev
  cases ev with
  | accepted => exact hreceiver.elim
  | sent | delivered | opened | failed | completed | ackQueued => rfl

end Sender

namespace Receiver

variable {s s' : Receiver} {evs : List Event}

/-- No datagram that arrives stands in the duplicate window. -/
def Unseen (s : Receiver) : Prop := ∀ j r, s.slots j = some r → ¬ s.window.Has r.id

/-- The delivered datagram enters the window and leaves its slot. -/
theorem Unseen.finish (h : s.Unseen) (hinv : s.Inv) {j : Fin 4} {r : Incoming}
    (hr : s.slots j = some r) (stored credits : UInt8) : (s.finish j r stored credits).Unseen := by
  intro k q hq hhas
  obtain ⟨hne, hold⟩ := Slots.of_update_none hq
  rcases DuplicateWindow.has_of_store hhas with hid | hold'
  · exact hne (hinv.distinct hold hr hid)
  · exact h k q hold hold'

theorem Unseen.act (h : s.Unseen) (hinv : s.Inv) (hact : s.Act evs s') : s'.Unseen := by
  cases hact with
  | refuse | sendAck => exact h
  | deliver j r hr hcomplete stored credits => exact h.finish hinv hr stored credits

theorem Unseen.receive {header : DataHeader} {payload : List UInt8} (h : s.Unseen) (hinv : s.Inv)
    (hvalid : validateDataHeader header) (hreceive : Receive header payload s evs s') :
      s'.Unseen := by
  cases hreceive with
  | duplicate | noSlot | mismatch => exact h
  | taken j r hnew htakes hsettle =>
    have htaken : (s.setSlot j (some r)).Unseen := by
      intro k q hq
      rcases setSlot_eq_some_iff.mp hq with ⟨rfl, hr⟩ | ⟨_, hold⟩
      · cases hr
        rw [htakes.id_eq]
        exact hnew
      · exact h k q hold
    cases hsettle with
    | partly | roundEnd | block => exact htaken
    | deliver hcomplete stored credits =>
      exact htaken.finish (hinv.takes htakes hvalid) (Function.update_self ..) stored credits

end Receiver

/-- What the slots of the two halves hold. -/
structure Party.Holds (past : List Event) (p : Party) : Prop where
  inv : p.Inv
  remembers : p.sender.Remembers past
  unseen : p.receiver.Unseen

theorem Party.Holds.act {past evs : List Event} {p q : Party} (h : Holds past p)
    (hact : Act p evs q) :
    Holds (past ++ evs) q := by
  refine ⟨h.inv.act hact, ?_, ?_⟩
  · cases hact with
    | sender r hact => exact h.remembers.act hact
    | receiver s hact => exact h.remembers.ofReceiver hact.ofReceiver
  · cases hact with
    | sender r hact => exact h.unseen
    | receiver s hact => exact h.unseen.act h.inv.2 hact

theorem Party.Holds.receive {past evs : List Event} {p q : Party} {packet : Packet}
    (h : Holds past p)
    (hreceive : Receive packet p evs q) : Holds (past ++ evs) q := by
  refine ⟨h.inv.receive hreceive, ?_, ?_⟩
  · cases hreceive with
    | ignore => rw [List.append_nil]; exact h.remembers
    | data s hpacket hreceive => exact h.remembers.ofReceiver hreceive.ofReceiver
    | ack r hpacket hreceive => exact h.remembers.receive hreceive
  · cases hreceive with
    | ignore | ack => exact h.unseen
    | data s hpacket hreceive =>
      exact h.unseen.receive h.inv.2 (parseDataPacket_sound hpacket).1
        hreceive

theorem ArqEngine.run_holds (config : ArqConfig) (calls : List (ArqCallbacks × Call)) :
    Party.Holds ((reset config).trace calls) ((reset config).after calls).party :=
  run_invariant (a := []) (fun h hact => h.act hact) (fun h hreceive => h.receive hreceive)
    (reset_valid config) ⟨⟨.empty, .empty⟩, fun i t ht => (by cases ht),
      fun j r hr => (by cases hr)⟩ calls

/-! ### Slots and their pool -/

/-- The handles of the slots that are taken are valid, all different and exactly the allocated ones;
the pool counts them, and no release went wrong. -/
structure HandlesMatch (pool : DatagramPool) (taken : Fin 4 → Bool)
    (handle : Fin 4 → DatagramHandle) :
    Prop where
  valid : ∀ i, taken i → (handle i).isValid
  distinct : ∀ i k, taken i → taken k → handle i = handle k → i = k
  allocated : ∀ h, poolIsAllocated pool h ↔ ∃ i, taken i ∧ handle i = h
  used : pool.usedCount.toNat = (List.finRange 4).countP taken
  releases : pool.invalidReleases = 0

theorem DatagramHandle.ofRef_injective {ref ref' : BufferRef} (h : ofRef ref = ofRef ref') :
    ref = ref' := by
  revert ref ref'
  decide

theorem DatagramHandle.exists_ref {handle : DatagramHandle} (h : handle.isValid) :
    ∃ ref, handle = ofRef ref := by
  have hlt : handle.index.toNat < 8 := by
    have hindex : handle.index < 8 := of_decide_eq_true h
    exact UInt8.lt_iff_toNat_lt.mp hindex
  exact ⟨⟨handle.index.toNat, hlt⟩, congrArg mk UInt8.ofNat_toNat.symm⟩

/-- Slots that hold the buffers of their handles. -/
theorem Leases.handlesMatch {pool : DatagramPool} {held : Fin 4 → Option BufferRef}
    {taken : Fin 4 → Bool} {handle : Fin 4 → DatagramHandle} (h : Leases pool held)
    (htaken : ∀ i, taken i → ∃ ref, held i = some ref ∧ handle i = .ofRef ref)
    (hfree : ∀ i, ¬ taken i → held i = none)
    (hused : pool.usedCount.toNat = (List.finRange 4).countP taken)
    (hreleases : pool.invalidReleases = 0) : HandlesMatch pool taken handle where
  valid i hi := by
    obtain ⟨ref, _, hhandle⟩ := htaken i hi
    rw [hhandle]
    exact DatagramHandle.ofRef_isValid ref
  distinct i k hi hk hsame := by
    obtain ⟨ref, hheld, hhandle⟩ := htaken i hi
    obtain ⟨ref', hheld', hhandle'⟩ := htaken k hk
    rw [hhandle, hhandle'] at hsame
    rw [← DatagramHandle.ofRef_injective hsame] at hheld'
    exact h.injective hheld hheld'
  allocated handle' := by
    have hbit (ref : BufferRef) : poolIsAllocated pool (.ofRef ref) ↔ ∃ i, held i = some ref := by
      rw [← h.taken ref, poolIsAllocated, decide_eq_true_eq]
      exact and_iff_right (DatagramHandle.ofRef_isValid ref)
    constructor
    · intro hallocated
      obtain ⟨ref, rfl⟩ : ∃ ref, handle' = .ofRef ref := by
        refine DatagramHandle.exists_ref ?_
        rw [poolIsAllocated, decide_eq_true_eq] at hallocated
        exact hallocated.1
      obtain ⟨i, hi⟩ := (hbit ref).mp hallocated
      have htrue : taken i := by
        by_contra hnot
        rw [hfree i hnot] at hi
        cases hi
      obtain ⟨ref', hheld, hhandle⟩ := htaken i htrue
      rw [hi] at hheld
      cases hheld
      exact ⟨i, htrue, hhandle⟩
    · rintro ⟨i, hi, rfl⟩
      obtain ⟨ref, hheld, hhandle⟩ := htaken i hi
      rw [hhandle]
      exact (hbit ref).mpr ⟨i, hheld⟩
  used := hused
  releases := hreleases

theorem TxValid.handlesMatch {pool : DatagramPool} {slots : Fin 4 → TxSlot} (h : TxValid pool slots)
    (hused : pool.usedCount.toNat = Slots.count TxSlot.live slots)
    (hreleases : pool.invalidReleases = 0) :
    HandlesMatch pool (fun i => (slots i).live) fun i => (slots i).handle := by
  refine h.leases.handlesMatch (fun i hi => ?_) (fun i hi => ?_) hused hreleases
  · have hlive : (slots i).state ≠ .empty := by simpa [TxSlot.live] using hi
    obtain ⟨ref, hv⟩ := h.slot i hlive
    exact ⟨ref, (if_neg hlive).trans hv.data, hv.handle⟩
  · have hempty : (slots i).state = .empty := by simpa [TxSlot.live] using hi
    exact if_pos hempty

theorem RxValid.handlesMatch {pool : DatagramPool} {slots : Fin 4 → RxSlot} (h : RxValid pool slots)
    (hused : pool.usedCount.toNat = Slots.count RxSlot.active slots)
    (hreleases : pool.invalidReleases = 0) :
    HandlesMatch pool (fun j => (slots j).active) fun j => (slots j).handle := by
  refine h.leases.handlesMatch (fun j hj => ?_) (fun j hj => if_neg hj) hused hreleases
  obtain ⟨ref, hv⟩ := h.slot j hj
  exact ⟨ref, (if_pos hj).trans hv.reassembly.output, hv.handle⟩

/-- In every state that the engine reaches, slots and pools agree, live transmit slots hold the
datagram that was accepted, receive slots arrive one datagram each that was not delivered before,
and a datagram that fits is accepted while a slot is empty. -/
theorem slots_and_pools (config : ArqConfig) (calls : List (ArqCallbacks × Call)) :
    let start := ArqEngine.reset config
    let e := start.after calls
    HandlesMatch e.txPool (fun i => (e.txSlots i).live) (fun i => (e.txSlots i).handle) ∧
      HandlesMatch e.rxPool (fun j => (e.rxSlots j).active) (fun j => (e.rxSlots j).handle) ∧
      (∀ i, (e.txSlots i).live → ∃ ref data, (e.txSlots i).handle = .ofRef ref ∧
        (e.txSlots i).data = some ref ∧
        lastAccepted i (start.trace calls) = some ((e.txSlots i).datagramId, data) ∧
        (e.txPool.storage ref).read 0 (e.txSlots i).len.toNat = data) ∧
      (∀ j, (e.rxSlots j).active → (e.rxSlots j).reassembly.active) ∧
      (∀ j k, (e.rxSlots j).active → (e.rxSlots k).active →
        (e.rxSlots j).reassembly.datagramId = (e.rxSlots k).reassembly.datagramId → j = k) ∧
      (∀ j, (e.rxSlots j).active →
        duplicateWindowFind e.duplicateWindow (e.rxSlots j).reassembly.datagramId = none) ∧
      (∀ data : List UInt8, 0 < data.length → data.length ≤ 1280 →
        (List.finRange 4).countP (fun i => (e.txSlots i).live) < 4 →
          (Exec.onTxDatagram { e with } (some data)).1 = .ok) ∧
      ∀ data, (Exec.onTxDatagram { e with } data).1 ≠ .allocationFailed := by
  intro start e
  have hvalid : e.Valid := ArqEngine.after_valid (ArqEngine.reset_valid config) calls
  obtain ⟨haccounts, _⟩ := ArqEngine.after_accounts (ArqEngine.reset_valid config)
    (ArqEngine.reset_accounts config) calls
  have hholds : Party.Holds (start.trace calls) e.party := ArqEngine.run_holds config calls
  refine ⟨hvalid.1.handlesMatch haccounts.txUsed haccounts.txReleases,
    hvalid.2.handlesMatch haccounts.rxUsed haccounts.rxReleases, ?_, ?_, ?_, ?_, ?_, ?_⟩
  · intro i hi
    have hlive : (e.txSlots i).state ≠ .empty := by simpa [TxSlot.live] using hi
    obtain ⟨ref, hv⟩ := hvalid.1.slot i hlive
    have hslot : e.sender.slots i = _ := if_neg hlive
    have hlast := hholds.remembers i _ hslot
    rw [hv.data] at hlast
    exact ⟨ref, _, hv.handle, hv.data, hlast, rfl⟩
  · intro j hj
    obtain ⟨ref, hv⟩ := hvalid.2.slot j hj
    exact hv.active
  · intro j k hj hk hid
    exact hholds.inv.2.distinct (Exec.receiver_slot (e := { e with }) hj)
      (Exec.receiver_slot (e := { e with }) hk) hid
  · intro j hj
    have hunseen := hholds.unseen j _ (Exec.receiver_slot (e := { e with }) hj)
    rw [← DuplicateWindow.find_isSome_iff, Option.not_isSome_iff_eq_none] at hunseen
    exact hunseen
  · intro data hpos hmax hroom
    rcases Exec.onTxDatagram_accepts (e := { e with }) (some data) hvalid with
      ⟨hok, _⟩ | ⟨_, _, hfull⟩
    · exact hok
    · obtain ⟨_, hnone⟩ := hfull data rfl hpos hmax
      have hall : (List.finRange 4).countP (fun i => (e.txSlots i).live) =
        (List.finRange 4).length := by
        refine List.countP_eq_length.mpr fun i _ => ?_
        simpa [TxSlot.live] using hnone i
      rw [hall, List.length_finRange] at hroom
      exact absurd hroom (Nat.lt_irrefl 4)
  · intro data hfailed
    rcases Exec.onTxDatagram_accepts (e := { e with }) data hvalid with ⟨hok, _⟩ | ⟨hrejected, _⟩
    · rw [hfailed] at hok
      cases hok
    · rw [hfailed] at hrejected
      simp at hrejected

end FlrcTnc.Arq
