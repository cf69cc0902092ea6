import FlrcTnc.Arq.Moves
import FlrcTnc.Arq.Window
import FlrcTnc.Framing.Shift
import FlrcTnc.Lib.Matching

/-! Two engines, the second ahead of the first by `k` in time and by `j` in datagram ids.  What they
hold is the same but for the shift; the ids of entries that are not valid, and deadlines that are
not in force, do not matter. -/

namespace FlrcTnc.Arq

open Framing

theorem isBefore_shift (k now deadline : UInt32) :
    isBefore (now + k) (deadline + k) = isBefore now deadline := by
  rw [isBefore, isBefore, show now + k - (deadline + k) = now - deadline by grind]

theorem serialDistance_shift (j newer older : UInt16) :
    serialDistance (newer + j) (older + j) = serialDistance newer older := by
  rw [serialDistance, serialDistance, show newer + j - (older + j) = newer - older by grind]

theorem add_right_comm_shift (now timeout k : UInt32) :
    now + k + timeout = now + timeout + k := by grind

/-! ### The duplicate window -/

structure DuplicateWindowEntry.Shifted (j : UInt16) (entry entry' : DuplicateWindowEntry) :
    Prop where
  valid : entry'.valid = entry.valid
  ack : entry'.ack = entry.ack
  id : entry.valid → entry'.datagramId = entry.datagramId + j

structure DuplicateWindow.Shifted (j : UInt16) (window window' : DuplicateWindow) : Prop where
  entries : List.Forall₂ (DuplicateWindowEntry.Shifted j) window.entries window'.entries
  hasNewest : window'.hasNewest = window.hasNewest
  newest : window.hasNewest → window'.newestId = window.newestId + j
  count : window'.count = window.count

section Window

variable {j : UInt16} {window window' : DuplicateWindow} {entry entry' : DuplicateWindowEntry}

theorem DuplicateWindowEntry.Shifted.empty : Shifted j {} {} := ⟨rfl, rfl, fun h => by cases h⟩

theorem DuplicateWindowEntry.Shifted.isFor (h : entry.Shifted j entry') (id : UInt16) :
    entry'.isFor (id + j) = entry.isFor id := by
  unfold DuplicateWindowEntry.isFor
  rw [h.valid]
  by_cases hvalid : entry.valid
  · rw [h.id hvalid]
    simp [hvalid]
  · simp [hvalid]

theorem DuplicateWindowEntry.Shifted.prune (h : entry.Shifted j entry') (newest : UInt16) :
    (entry.prune newest).Shifted j (entry'.prune (newest + j)) := by
  have hold : entry'.valid ∧ ¬ serialWithinWindow (newest + j) entry'.datagramId ↔
      entry.valid ∧ ¬ serialWithinWindow newest entry.datagramId := by
    rw [h.valid]
    refine and_congr_right fun hvalid => ?_
    unfold serialWithinWindow
    rw [h.id hvalid, serialDistance_shift]
  unfold DuplicateWindowEntry.prune
  by_cases hpruned : entry.valid ∧ ¬ serialWithinWindow newest entry.datagramId
  · rw [if_pos hpruned, if_pos (hold.mpr hpruned)]
    exact ⟨rfl, h.ack, fun hvalid => by cases hvalid⟩
  · rw [if_neg hpruned, if_neg (fun hpruned' => hpruned (hold.mp hpruned'))]
    exact h

namespace DuplicateWindow.Shifted

theorem empty : Shifted j {} {} where
  entries := List.forall₂_same.mpr fun entry hentry => by
    rw [List.eq_of_mem_replicate hentry]
    exact .empty
  hasNewest := rfl
  newest h := by cases h
  count := rfl

theorem find (h : window.Shifted j window') (id : UInt16) :
    duplicateWindowFind window' (id + j) = duplicateWindowFind window id :=
  Matching.find?_map_eq h.entries (fun _ _ hentry => hentry.isFor id) fun _ _ hentry => hentry.ack

theorem advance (h : window.Shifted j window') (id : UInt16) :
    (window.advance id).Shifted j (window'.advance (id + j)) := by
  have hadvance : (¬ window'.hasNewest ∨ serialAfter (id + j) window'.newestId) ↔
      (¬ window.hasNewest ∨ serialAfter id window.newestId) := by
    rw [h.hasNewest]
    by_cases hnewest : window.hasNewest
    · unfold serialAfter
      rw [h.newest hnewest, serialDistance_shift]
    · simp [hnewest]
  unfold DuplicateWindow.advance
  by_cases hcond : ¬ window.hasNewest ∨ serialAfter id window.newestId
  · rw [if_pos hcond, if_pos (hadvance.mpr hcond)]
    exact ⟨h.entries, rfl, fun _ => rfl, h.count⟩
  · rw [if_neg hcond, if_neg (fun hcond' => hcond (hadvance.mp hcond'))]
    exact h

theorem prune (h : window.Shifted j window') :
    (duplicateWindowPrune window).Shifted j (duplicateWindowPrune window') := by
  unfold duplicateWindowPrune
  by_cases hnewest : window.hasNewest
  · rw [if_neg (not_not.mpr hnewest), if_neg (by rw [h.hasNewest]; exact not_not.mpr hnewest)]
    have hentries : List.Forall₂ (DuplicateWindowEntry.Shifted j)
        (window.entries.map (·.prune window.newestId))
          (window'.entries.map (·.prune window'.newestId)) := by
      rw [List.forall₂_map_left_iff, List.forall₂_map_right_iff, h.newest hnewest]
      exact h.entries.imp fun _ _ hentry => hentry.prune window.newestId
    refine ⟨hentries, h.hasNewest, h.newest, ?_⟩
    exact congrArg UInt8.ofNat (Matching.countP_eq hentries fun _ _ hentry => hentry.valid)
  · rw [if_pos hnewest, if_pos (by rw [h.hasNewest]; exact hnewest)]
    exact h

theorem hasNewest_prune (window : DuplicateWindow) :
    (duplicateWindowPrune window).hasNewest = window.hasNewest := by
  unfold duplicateWindowPrune
  split <;> rfl

theorem setEntry (h : window.Shifted j window') (hentry : entry.Shifted j entry') (slot : Nat) :
    (window.setEntry slot entry).Shifted j (window'.setEntry slot entry') :=
  ⟨Matching.set h.entries hentry slot, h.hasNewest, h.newest, h.count⟩

/-- Ages are differences of ids. -/
theorem oldestSlot (h : window.Shifted j window') (hnewest : window.hasNewest)
    (hfull : ∀ entry ∈ window.entries, entry.valid) : oldestSlot window' = oldestSlot window := by
  unfold Arq.oldestSlot
  refine congrArg Prod.fst (List.foldl_ext _ _ _ fun found i hi => ?_)
  have hentry := Matching.getD h.entries .empty i
  have hlt : i < window.entries.length := by
    rw [window.size]
    exact List.mem_range.mp hi
  have hvalid : (window.entries.getD i {}).valid := by
    rw [List.getD_eq_getElem?_getD, List.getElem?_eq_getElem hlt]
    exact hfull _ (List.getElem_mem hlt)
  dsimp only
  rw [h.newest hnewest, hentry.id hvalid, serialDistance_shift]

theorem storeSlot (h : window.Shifted j window') (hnewest : window.hasNewest) :
    storeSlot window' = storeSlot window := by
  unfold Arq.storeSlot
  rw [Matching.findIdx?_eq h.entries fun _ _ hentry => by rw [hentry.valid]]
  split
  · rfl
  · next hnone =>
    refine h.oldestSlot hnewest fun entry hentry => ?_
    have hvalid := List.findIdx?_eq_none_iff.mp hnone entry hentry
    simpa using hvalid

theorem store (h : window.Shifted j window') (id : UInt16) (ack : DuplicateAckState) :
    (duplicateWindowStore window id ack).Shifted j (duplicateWindowStore window' (id + j) ack) := by
  have hadvance := h.advance id
  unfold duplicateWindowStore
  dsimp only
  rw [Matching.findIdx?_eq hadvance.entries fun _ _ hentry => hentry.isFor id]
  split
  · next slot _ =>
    have hold := Matching.getD hadvance.entries .empty slot
    refine (hadvance.setEntry ?_ slot).prune
    exact ⟨hold.valid, rfl, hold.id⟩
  · have hpruned := hadvance.prune
    have hnewest : (duplicateWindowPrune (window.advance id)).hasNewest := by
      rw [hasNewest_prune]
      exact hasNewest_advance
    rw [hpruned.storeSlot hnewest]
    refine (hpruned.setEntry ?_ _).prune
    exact ⟨rfl, rfl, fun _ => rfl⟩

end DuplicateWindow.Shifted

end Window

/-! ### The engine -/

def ArqConfig.shift (j : UInt16) (config : ArqConfig) : ArqConfig :=
  { config with initialDatagramId := config.initialDatagramId + j }

/-- A packet with a shifted id gets the answer that the packet got. -/
def ArqCallbacks.shift (j : UInt16) (cb : ArqCallbacks) : ArqCallbacks :=
  { cb with sendPacket := cb.sendPacket.map fun send n packet => send n (packet.shiftId (-j)) }

def Event.shift (j : UInt16) : Event → Event
  | .sent packet ok => .sent (packet.shiftId j) ok
  | .delivered datagramId data ok => .delivered (datagramId + j) data ok
  | .accepted slot datagramId data => .accepted slot (datagramId + j) data
  | .opened slot => .opened slot
  | .failed slot => .failed slot
  | .completed slot => .completed slot
  | .ackQueued ack source => .ackQueued (ack.shiftId j) source

/-- The slot has an id while it holds a datagram, and a deadline while that is open. -/
def TxSlot.shift (k : UInt32) (j : UInt16) (slot : TxSlot) : TxSlot :=
  { slot with
    datagramId := if slot.state = .empty then slot.datagramId else slot.datagramId + j
    retryDeadline := if slot.state = .open then slot.retryDeadline + k else slot.retryDeadline }

def RxSlot.shift (j : UInt16) (slot : RxSlot) : RxSlot :=
  { slot with reassembly := slot.reassembly.shiftId j }

def PendingAck.shift (k : UInt32) (j : UInt16) (pending : PendingAck) : PendingAck where
  ack := pending.ack.shiftId j
  readyDeadline := pending.readyDeadline + k

section Slots

variable {k : UInt32} {j : UInt16}

@[simp] theorem TxSlot.shift_state (slot : TxSlot) : (slot.shift k j).state = slot.state := rfl

@[simp] theorem TxSlot.shift_handle (slot : TxSlot) : (slot.shift k j).handle = slot.handle := rfl

@[simp] theorem TxSlot.shift_fragmentCount (slot : TxSlot) :
    (slot.shift k j).fragmentCount = slot.fragmentCount := rfl

@[simp] theorem TxSlot.shift_ackedBitmap (slot : TxSlot) :
    (slot.shift k j).ackedBitmap = slot.ackedBitmap := rfl

@[simp] theorem TxSlot.shift_roundBitmap (slot : TxSlot) :
    (slot.shift k j).roundBitmap = slot.roundBitmap := rfl

@[simp] theorem TxSlot.shift_nextFragment (slot : TxSlot) :
    (slot.shift k j).nextFragment = slot.nextFragment := rfl

@[simp] theorem TxSlot.shift_attempts (slot : TxSlot) :
    (slot.shift k j).attempts = slot.attempts := rfl

theorem TxSlot.shift_datagramId {slot : TxSlot} (hlive : slot.state ≠ .empty) :
    (slot.shift k j).datagramId = slot.datagramId + j := if_neg hlive

theorem TxSlot.shift_retryDeadline {slot : TxSlot} (hopen : slot.state = .open) :
    (slot.shift k j).retryDeadline = slot.retryDeadline + k := if_pos hopen

theorem TxSlot.skipToNext_shift (slot : TxSlot) :
    (slot.shift k j).skipToNext = slot.skipToNext.shift k j := rfl

theorem TxSlot.beginRound_shift (slot : TxSlot) :
    (slot.shift k j).beginRound = slot.beginRound.shift k j := rfl

theorem TxSlot.fragmentSent_shift {slot : TxSlot} (hopen : slot.state = .open) (deadline : UInt32) :
    (slot.shift k j).fragmentSent (deadline + k) = (slot.fragmentSent deadline).shift k j := by
  simp only [shift, fragmentSent, hopen, if_true, ite_add]

@[simp] theorem RxSlot.shift_active (slot : RxSlot) : (slot.shift j).active = slot.active := rfl

@[simp] theorem RxSlot.shift_waiting (slot : RxSlot) :
    (slot.shift j).completeWaitingEgress = slot.completeWaitingEgress := rfl

@[simp] theorem RxSlot.shift_handle (slot : RxSlot) : (slot.shift j).handle = slot.handle := rfl

@[simp] theorem RxSlot.shift_fragmentCount (slot : RxSlot) :
    (slot.shift j).reassembly.fragmentCount = slot.reassembly.fragmentCount := rfl

@[simp] theorem RxSlot.shift_datagramLength (slot : RxSlot) :
    (slot.shift j).reassembly.datagramLength = slot.reassembly.datagramLength := rfl

@[simp] theorem RxSlot.shift_output (slot : RxSlot) :
    (slot.shift j).reassembly.output = slot.reassembly.output := rfl

theorem RxSlot.shift_datagramId {slot : RxSlot} (hactive : slot.reassembly.active) :
    (slot.shift j).reassembly.datagramId = slot.reassembly.datagramId + j := if_pos hactive

theorem RxSlot.activate_shift (slot : RxSlot) (lease : DatagramLease) :
    (slot.shift j).activate lease = (slot.activate lease).shift j := rfl

theorem RxSlot.isComplete_shift (slot : RxSlot) :
    reassemblyIsComplete (slot.shift j).reassembly = reassemblyIsComplete slot.reassembly := rfl

end Slots

structure ArqEngine.Shifted (k : UInt32) (j : UInt16) (e e' : ArqEngine) : Prop where
  config : e'.config = e.config.shift j
  counters : e'.counters = e.counters
  txPool : e'.txPool = e.txPool
  rxPool : e'.rxPool = e.rxPool
  window : e.duplicateWindow.Shifted j e'.duplicateWindow
  txSlots : ∀ i, e'.txSlots i = (e.txSlots i).shift k j
  rxSlots : ∀ i, e'.rxSlots i = (e.rxSlots i).shift j
  pendingAcks : e'.pendingAcks.entries = e.pendingAcks.entries.map (·.shift k j)
  remoteCredits : e'.remoteCredits = e.remoteCredits
  nextDatagramId : e'.nextDatagramId = e.nextDatagramId + j
  armed : e'.creditProbeArmed = e.creditProbeArmed
  probe : e.creditProbeArmed → e'.creditProbeDeadline = e.creditProbeDeadline + k

namespace ArqEngine.Shifted

variable {k : UInt32} {j : UInt16} {e e' : ArqEngine} (h : e.Shifted k j e')

include h

theorem state_eq (state : TxState) : (fun i => decide ((e'.txSlots i).state = state)) =
    fun i => decide ((e.txSlots i).state = state) := by
  funext i
  rw [h.txSlots i, TxSlot.shift_state]

theorem find_state (state : TxState) :
    ((List.finRange 4).find? fun i => (e'.txSlots i).state = state) =
      (List.finRange 4).find? fun i => (e.txSlots i).state = state := by
  rw [h.state_eq]

theorem txCount (state : TxState) : e'.txCount state = e.txCount state := by
  unfold ArqEngine.txCount
  rw [h.state_eq]

theorem txQueuedCount : e'.txQueuedCount = e.txQueuedCount := h.txCount .queued

theorem txActiveCount : e'.txActiveCount = e.txActiveCount := h.txCount .open

theorem ackDeadline (now : UInt32) :
    now + k + e'.config.ackTurnaroundCycles = now + e.config.ackTurnaroundCycles + k := by
  rw [h.config]
  exact add_right_comm_shift now _ k

theorem retryDeadline (now : UInt32) :
    now + k + e'.config.retryTimeoutCycles = now + e.config.retryTimeoutCycles + k := by
  rw [h.config]
  exact add_right_comm_shift now _ k

theorem stallDeadline (now : UInt32) :
    now + k + e'.config.creditStallTimeoutCycles = now + e.config.creditStallTimeoutCycles + k := by
  rw [h.config]
  exact add_right_comm_shift now _ k

theorem maxAttempts : e'.config.maxAttempts = e.config.maxAttempts := by
  rw [h.config]
  rfl

end ArqEngine.Shifted

/-- The same within a call. -/
structure Exec.Shifted (k : UInt32) (j : UInt16) (e e' : Exec) : Prop extends
    ArqEngine.Shifted k j e.toArqEngine e'.toArqEngine where
  calls : e'.calls = e.calls
  events : e'.events = e.events.map (·.shift j)

/-- A function of the engine answers alike and leaves the engines shifted. -/
structure Exec.Agree {α : Type} (k : UInt32) (j : UInt16) (r r' : α × Exec) : Prop where
  answer : r'.1 = r.1
  shifted : r.2.Shifted k j r'.2

theorem Exec.agree_mk_iff {α : Type} {k : UInt32} {j : UInt16} {a a' : α} {e e' : Exec} :
    Agree k j (a, e) (a', e') ↔ a' = a ∧ e.Shifted k j e' :=
  ⟨fun h => ⟨h.answer, h.shifted⟩, fun h => ⟨h.1, h.2⟩⟩

theorem Exec.Agree.eq_mk {α : Type} {k : UInt32} {j : UInt16} {r r' : α × Exec}
    (h : Agree k j r r') :
    ∃ a e e', r = (a, e) ∧ r' = (a, e') ∧ e.Shifted k j e' :=
  ⟨r.1, r.2, r'.2, rfl, Prod.ext h.answer rfl, h.shifted⟩

theorem ArqEngine.reset_shifted (k : UInt32) (j : UInt16) (config : ArqConfig) :
    (reset config).Shifted k j (reset (config.shift j)) :=
  ⟨rfl, rfl, rfl, rfl, .empty, fun _ => rfl, fun _ => rfl, rfl, rfl, rfl, rfl, fun h => by cases h⟩

namespace Exec.Shifted

variable {k : UInt32} {j : UInt16} {e e' : Exec} (h : e.Shifted k j e')

include h

theorem count (f : ArqCounters → ArqCounters) : (e.count f).Shifted k j (e'.count f) :=
  { h with counters := congrArg f h.counters }

theorem called : e.called.Shifted k j e'.called := { h with calls := congrArg (· + 1) h.calls }

theorem emit (event : Event) {event' : Event} (hevent : event' = event.shift j) :
    (e.emit event).Shifted k j (e'.emit event') := by
  have hevents : (e'.emit event').events = (e.emit event).events.map (·.shift j) := by
    unfold Exec.emit
    rw [hevent, h.events, List.map_append]
    rfl
  exact { h with events := hevents }

theorem setTx (i : Fin 4) (slot : TxSlot) {slot' : TxSlot} (hslot : slot' = slot.shift k j) :
    (e.setTx i slot).Shifted k j (e'.setTx i slot') := by
  have hslots : (e'.setTx i slot').txSlots = fun l => ((e.setTx i slot).txSlots l).shift k j := by
    unfold Exec.setTx
    rw [hslot, show e'.txSlots = _ from funext h.txSlots]
    exact (Slots.map_update e.txSlots (TxSlot.shift k j) i slot).symm
  exact { h with txSlots := congrFun hslots }

theorem setRx (i : Fin 4) (slot : RxSlot) {slot' : RxSlot} (hslot : slot' = slot.shift j) :
    (e.setRx i slot).Shifted k j (e'.setRx i slot') := by
  have hslots : (e'.setRx i slot').rxSlots = fun l => ((e.setRx i slot).rxSlots l).shift j := by
    unfold Exec.setRx
    rw [hslot, show e'.rxSlots = _ from funext h.rxSlots]
    exact (Slots.map_update e.rxSlots (RxSlot.shift j) i slot).symm
  exact { h with rxSlots := congrFun hslots }

theorem setTxPool (pool : DatagramPool) :
    ({ e with txPool := pool } : Exec).Shifted k j { e' with txPool := pool } :=
  { h with txPool := rfl }

theorem setRxPool (pool : DatagramPool) :
    ({ e with rxPool := pool } : Exec).Shifted k j { e' with rxPool := pool } :=
  { h with rxPool := rfl }

theorem setWindow {window window' : DuplicateWindow} (hwindow : window.Shifted j window') :
    ({ e with duplicateWindow := window } : Exec).Shifted k j
      { e' with duplicateWindow := window' } :=
  { h with window := hwindow }

end Exec.Shifted

end FlrcTnc.Arq
