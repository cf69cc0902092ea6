import FlrcTnc.Arq.Run
import FlrcTnc.Lib.Filled

/-! The queue of pending ACKs: the array `pending_acks_` behind the list of the engine, and what
holds of the queue in every run. -/

namespace FlrcTnc.Arq

open Framing

/-! ### The array -/

/-- `PendingAck`. -/
structure AckEntry where
  valid : Bool := false
  ack : AckFrame := ⟨0, 0, 0, .none⟩
  readyDeadline : UInt32 := 0

def AckEntry.pending (entry : AckEntry) : Option PendingAck :=
  if entry.valid then some ⟨entry.ack, entry.readyDeadline⟩ else none

/-- `pending_acks_` and `pending_ack_count_`. -/
structure AckArray where
  entries : Nat → AckEntry := fun _ => {}
  count : UInt8 := 0

namespace AckArray

/-- The loop of `enqueueAck`: the entry with an ACK of the datagram. -/
def find (array : AckArray) (datagramId : UInt16) : Option Nat :=
  (List.range array.count.toNat).find? fun i =>
    (array.entries i).valid ∧ (array.entries i).ack.datagramId = datagramId

/-- `enqueueAck` on the array. -/
def enqueueAck (array : AckArray) (ack : AckFrame) (readyDeadline : UInt32) : Bool × AckArray :=
  match array.find ack.datagramId with
  | some i => (true, { array with
      entries := Function.update array.entries i { array.entries i with ack, readyDeadline } })
  | none =>
    if array.count.toNat ≥ arqPendingAckCapacity then (false, array)
    else (true, {
      entries := Function.update array.entries array.count.toNat ⟨true, ack, readyDeadline⟩
      count := array.count + 1 })

/-- The end of `sendPendingAck`: the first entry is taken out. -/
def removeFirst (array : AckArray) : AckArray :=
  let entries := Filled.moveUp array.entries (array.count.toNat - 1)
  let count := array.count - 1
  { entries := Function.update entries count.toNat { entries count.toNat with valid := false }
    count }

/-- What the array comes to in the course of the calls. -/
inductive Reached : AckArray → Prop
  | reset : Reached {}
  | enqueueAck {array : AckArray} (h : Reached array) (ack : AckFrame) (readyDeadline : UInt32) :
      Reached (array.enqueueAck ack readyDeadline).2
  | removeFirst {array : AckArray} (h : Reached array) (hcount : array.count ≠ 0) :
      Reached array.removeFirst

/-- The array holds the queue: its first entries are valid, as many as it counts, and no others. -/
structure Holds (array : AckArray) (pending : List PendingAck) : Prop where
  count : array.count.toNat = pending.length
  entries : Filled.Holds (fun k => (array.entries k).pending) pending

end AckArray

/-- `enqueueAck` on the list. -/
def enqueuePending (pending : List PendingAck) (ack : AckFrame) (readyDeadline : UInt32) :
    List PendingAck :=
  match pending.findIdx? fun p => p.ack.datagramId = ack.datagramId with
  | some i => pending.set i ⟨ack, readyDeadline⟩
  | none =>
    if pending.length ≥ arqPendingAckCapacity then pending else pending ++ [⟨ack, readyDeadline⟩]

theorem map_enqueuePending (pending : List PendingAck) (ack : AckFrame) (readyDeadline : UInt32) :
    (enqueuePending pending ack readyDeadline).map (·.ack) = enqueue (pending.map (·.ack)) ack := by
  have hfind : ((pending.map (·.ack)).findIdx? fun a => a.datagramId = ack.datagramId) =
      pending.findIdx? fun p => p.ack.datagramId = ack.datagramId := by
    rw [List.findIdx?_map]
    rfl
  rw [enqueuePending, enqueue, hfind, List.length_map]
  cases pending.findIdx? fun p => p.ack.datagramId = ack.datagramId with
  | some i => exact List.map_set
  | none =>
    dsimp only
    split
    · rfl
    · exact List.map_append

theorem Exec.enqueueAck_entries (e : Exec) (ack : AckFrame) (readyDeadline : UInt32)
    (source : AckSource) : (e.enqueueAck ack readyDeadline source).2.pendingAcks.entries =
      enqueuePending e.pendingAcks.entries ack readyDeadline := by
  unfold Exec.enqueueAck enqueuePending
  dsimp only
  cases e.pendingAcks.entries.findIdx? fun p => p.ack.datagramId = ack.datagramId with
  | some i => rfl
  | none =>
    dsimp only
    split <;> rfl

theorem AckEntry.eq_of_pending {entry : AckEntry} {p : PendingAck} (h : entry.pending = some p) :
    entry.valid ∧ entry.ack = p.ack := by
  unfold AckEntry.pending at h
  split at h
  · next hvalid =>
    cases h
    exact ⟨hvalid, rfl⟩
  · cases h

theorem AckEntry.isSome_pending (entry : AckEntry) : entry.pending.isSome ↔ entry.valid := by
  unfold AckEntry.pending
  split <;> simp [*]

namespace AckArray

variable {array : AckArray} {pending : List PendingAck}

/-- The valid entries are those that are counted. -/
theorem Holds.valid_iff (h : array.Holds pending) (k : Nat) :
    (array.entries k).valid ↔ k < array.count.toNat := by
  rw [h.count, ← h.entries.isSome_iff]
  exact (AckEntry.isSome_pending _).symm

theorem Holds.count_ne_zero {first : PendingAck} {rest : List PendingAck}
    (h : array.Holds (first :: rest)) : array.count ≠ 0 := by
  intro hzero
  have hcount := h.count
  rw [hzero] at hcount
  simp at hcount

theorem Holds.find (h : array.Holds pending) (datagramId : UInt16) :
    array.find datagramId = pending.findIdx? fun p => p.ack.datagramId = datagramId := by
  rw [AckArray.find, h.count]
  refine h.entries.find fun k p hp => ?_
  obtain ⟨hvalid, hack⟩ := AckEntry.eq_of_pending hp
  simp [hvalid, hack]

/-- The array and the list take an ACK alike. -/
theorem Holds.enqueueAck (h : array.Holds pending) (ack : AckFrame) (readyDeadline : UInt32) :
    (array.enqueueAck ack readyDeadline).2.Holds (enqueuePending pending ack readyDeadline) := by
  rw [AckArray.enqueueAck, enqueuePending, h.find, h.count]
  cases hfind : pending.findIdx? fun p => p.ack.datagramId = ack.datagramId with
  | some i =>
    obtain ⟨hi, _⟩ := List.findIdx?_eq_some_iff_getElem.mp hfind
    have hvalid : (array.entries i).valid := (h.valid_iff i).mpr (h.count ▸ hi)
    refine ⟨h.count.trans (List.length_set ..).symm, ?_⟩
    have hset := h.entries.set hi ⟨ack, readyDeadline⟩
    dsimp only
    rw [Slots.map_update array.entries AckEntry.pending i,
      show AckEntry.pending { array.entries i with ack, readyDeadline } = some ⟨ack, readyDeadline⟩
        from if_pos hvalid]
    exact hset
  | none =>
    dsimp only
    split
    · exact h
    · next hroom =>
      rw [Nat.not_le] at hroom
      refine ⟨?_, ?_⟩
      · rw [List.length_append, List.length_singleton, UInt8.toNat_add, h.count, UInt8.toNat_one]
        unfold arqPendingAckCapacity at hroom
        omega
      · dsimp only
        rw [Slots.map_update array.entries AckEntry.pending pending.length,
          show AckEntry.pending ⟨true, ack, readyDeadline⟩ = some ⟨ack, readyDeadline⟩ from rfl]
        exact h.entries.push _

/-- The array and the list lose their first ACK alike. -/
theorem Holds.removeFirst {first : PendingAck} {rest : List PendingAck}
    (h : array.Holds (first :: rest)) : array.removeFirst.Holds rest := by
  have hcount : array.count.toNat = rest.length + 1 := h.count
  have hpred : (array.count - 1).toNat = rest.length := by
    rw [UInt8.toNat_sub_of_le, hcount, UInt8.toNat_one, Nat.add_sub_cancel]
    rw [UInt8.le_iff_toNat_le, hcount, UInt8.toNat_one]
    exact Nat.succ_le_succ (Nat.zero_le _)
  refine ⟨hpred, ?_⟩
  have htail := h.entries.tail
  unfold AckArray.removeFirst
  dsimp only
  rw [hpred, hcount, Nat.add_sub_cancel,
    Slots.map_update (Filled.moveUp array.entries rest.length) AckEntry.pending rest.length]
  have hmove (n k : Nat) : (Filled.moveUp array.entries n k).pending =
      Filled.moveUp (fun k => (array.entries k).pending) n k := by
    rw [Filled.moveUp_apply, Filled.moveUp_apply]
    split <;> rfl
  simp only [hmove]
  exact htail

end AckArray

/-! ### The queue in every run -/

/-- What `enqueueAck` and the sending of the first ACK keep, every run keeps. -/
theorem Party.pending_receive {P : List AckFrame → Prop}
    (henqueue : ∀ pending ack, P pending → P (enqueue pending ack)) {p q : Party} {packet : Packet}
    {evs : List Event} (h : Party.Receive packet p evs q) (hp : P p.receiver.pending) :
    P q.receiver.pending := by
  cases h with
  | ignore | ack => exact hp
  | data s hpacket hreceive =>
    cases hreceive with
    | duplicate | noSlot | mismatch => exact henqueue _ _ hp
    | taken j r hnew htakes hsettle =>
      cases hsettle with
      | partly => exact hp
      | roundEnd | block | deliver => exact henqueue _ _ hp

theorem Party.pending_act {P : List AckFrame → Prop}
    (henqueue : ∀ pending ack, P pending → P (enqueue pending ack))
    (hremove : ∀ ack rest, P (ack :: rest) → P rest) {p q : Party} {evs : List Event}
    (h : Party.Act p evs q) (hp : P p.receiver.pending) : P q.receiver.pending := by
  cases h with
  | sender => exact hp
  | receiver s hact =>
    cases hact with
    | refuse => exact hp
    | deliver => exact henqueue _ _ hp
    | sendAck ack rest hpending packet hpacket ok =>
      cases ok with
      | false => exact hp
      | true =>
        rw [hpending] at hp
        exact hremove ack rest hp

theorem ArqEngine.run_pending {P : List AckFrame → Prop} (hempty : P [])
    (henqueue : ∀ pending ack, P pending → P (enqueue pending ack))
    (hremove : ∀ ack rest, P (ack :: rest) → P rest) (config : ArqConfig)
    (calls : List (ArqCallbacks × Call)) : P ((reset config).after calls).pendingAcks.frames :=
  run_invariant (P := fun _ p => P p.receiver.pending) (a := [])
    (fun hp hact => Party.pending_act henqueue hremove hact hp)
    (fun hp hreceive => Party.pending_receive henqueue hreceive hp) (reset_valid config) hempty
    calls

/-- An ACK takes the place of the one of its datagram. -/
theorem enqueue_distinct {pending : List AckFrame} (h : (pending.map (·.datagramId)).Nodup)
    (ack : AckFrame) : ((enqueue pending ack).map (·.datagramId)).Nodup := by
  rw [enqueue]
  split
  · next i hfind =>
    obtain ⟨hi, hid, _⟩ := List.findIdx?_eq_some_iff_getElem.mp hfind
    have hsame : (pending.set i ack).map (·.datagramId) = pending.map (·.datagramId) := by
      refine List.ext_getElem (by simp) fun k _ hk => ?_
      rw [List.getElem_map, List.getElem_map, List.getElem_set]
      split
      · next heq =>
        subst heq
        exact (of_decide_eq_true hid).symm
      · rfl
    rwa [hsame]
  · next hnone =>
    split
    · exact h
    rw [List.map_append, List.nodup_append]
    refine ⟨h, List.nodup_singleton _, fun id hid id' hid' => ?_⟩
    rw [List.findIdx?_eq_none_iff] at hnone
    obtain ⟨a, ha, rfl⟩ := List.mem_map.mp hid
    rw [List.map_singleton, List.mem_singleton] at hid'
    rw [hid']
    exact of_decide_eq_false (hnone a ha)

/-- The queue of an engine: at most sixteen ACKs of different datagrams, in the first entries of an
array that is kept as the source does. -/
structure ArqEngine.QueueInOrder (e : ArqEngine) : Prop where
  length : e.pendingAcks.frames.length ≤ 16
  distinct : (e.pendingAcks.frames.map (·.datagramId)).Nodup
  array : ∃ array : AckArray, array.Reached ∧ array.count.toNat = e.pendingAcks.frames.length ∧
    (∀ k, (array.entries k).valid ↔ k < array.count.toNat) ∧
    ∀ k ack, e.pendingAcks.frames[k]? = some ack → (array.entries k).ack = ack

theorem ArqEngine.after_queueInOrder (config : ArqConfig) (calls : List (ArqCallbacks × Call)) :
    ((reset config).after calls).QueueInOrder where
  length := by
    rw [PendingAcks.frames, List.length_map]
    exact ((reset config).after calls).pendingAcks.fits
  distinct := by
    refine run_pending (P := fun pending => (pending.map (·.datagramId)).Nodup) .nil
      (fun _ ack h => enqueue_distinct h ack) (fun ack rest h => ?_) config calls
    rw [List.map_cons, List.nodup_cons] at h
    exact h.2
  array := by
    obtain ⟨array, pending, hreached, hholds, hframes⟩ := run_pending
      (P := fun frames => ∃ (array : AckArray) (pending : List PendingAck), array.Reached ∧
        array.Holds pending ∧ pending.map (·.ack) = frames)
      ⟨{}, [], .reset, ⟨rfl, fun k => rfl⟩, rfl⟩
      (by
        rintro frames ack ⟨array, pending, hreached, hholds, rfl⟩
        exact ⟨_, _, hreached.enqueueAck ack 0, hholds.enqueueAck ack 0,
          map_enqueuePending pending ack 0⟩)
      (by
        rintro ack rest ⟨array, pending, hreached, hholds, hframes⟩
        obtain ⟨first, pending, rfl, rfl, rfl⟩ := List.map_eq_cons_iff.mp hframes
        exact ⟨_, _, hreached.removeFirst hholds.count_ne_zero, hholds.removeFirst, rfl⟩)
      config calls
    refine ⟨array, hreached, ?_, hholds.valid_iff, fun k ack hk => ?_⟩
    · rw [← hframes, List.length_map]
      exact hholds.count
    · rw [← hframes, List.getElem?_map, Option.map_eq_some_iff] at hk
      obtain ⟨p, hp, rfl⟩ := hk
      exact (AckEntry.eq_of_pending ((hholds.entries k).trans hp)).2

end FlrcTnc.Arq
