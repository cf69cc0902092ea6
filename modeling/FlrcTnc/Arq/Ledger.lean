import FlrcTnc.Arq.Moves

/-! The accounts of the engine: what the pools count is what the slots hold, and every datagram that
went in is counted once when it leaves. -/

namespace FlrcTnc.Arq

open Framing

/-! ### Tallies -/

def Event.isAccepted : Event → Bool
  | .accepted .. => true
  | _ => false

def Event.isFailed : Event → Bool
  | .failed _ => true
  | _ => false

def Event.isCompleted : Event → Bool
  | .completed _ => true
  | _ => false

/-- A call of `deliver_datagram` that returned true. -/
def Event.isDelivered : Event → Bool
  | .delivered _ _ true => true
  | _ => false

/-- `QUEUED` or `OPEN`. -/
def TxSlot.live (slot : TxSlot) : Bool := slot.state ≠ .empty

/-- The number of datagrams in transmit slots. -/
def Books.liveCount (books : Books) : Nat := Slots.count TxSlot.live books.txSlots

/-- The number of datagrams in receive slots. -/
def Books.activeCount (books : Books) : Nat := Slots.count RxSlot.active books.rxSlots

/-- From `b` to `b'` the events `evs` are counted: `m` datagrams have come in for sending and `n`
for receiving, and what has left was counted. -/
structure Tally (m n : Nat) (b b' : Books) (evs : List Event) : Prop where
  accepted : evs.countP Event.isAccepted = m
  completed : b'.txCompleted = b.txCompleted + .ofNat (evs.countP Event.isCompleted)
  failed : b'.retryExhaustion = b.retryExhaustion + .ofNat (evs.countP Event.isFailed)
  delivered : b'.delivered = b.delivered + .ofNat (evs.countP Event.isDelivered)
  live : b'.liveCount + evs.countP Event.isCompleted + evs.countP Event.isFailed =
    b.liveCount + m
  active : b'.activeCount + evs.countP Event.isDelivered = b.activeCount + n

namespace Tally

variable {m n m' n' : Nat} {b b' b'' : Books} {evs evs' : List Event}

theorem append (h : Tally m n b b' evs) (h' : Tally m' n' b' b'' evs') :
    Tally (m + m') (n + n') b b'' (evs ++ evs') where
  accepted := by rw [List.countP_append, h.accepted, h'.accepted]
  completed := by
    rw [List.countP_append, h'.completed, h.completed, UInt32.ofNat_add, UInt32.add_assoc]
  failed := by rw [List.countP_append, h'.failed, h.failed, UInt32.ofNat_add, UInt32.add_assoc]
  delivered := by
    rw [List.countP_append, h'.delivered, h.delivered, UInt32.ofNat_add, UInt32.add_assoc]
  live := by
    have hlive := h.live
    have hlive' := h'.live
    rw [List.countP_append, List.countP_append]
    omega
  active := by
    have hactive := h.active
    have hactive' := h'.active
    rw [List.countP_append]
    omega

theorem countP_silent {P : Event → Bool} (hP : ∀ ev, P ev → ev.Counted)
    (h : ∀ ev ∈ evs, ¬ ev.Counted) : evs.countP P = 0 :=
  List.countP_eq_zero.mpr fun ev hev htrue => h ev hev (hP ev htrue)

/-- Nothing was counted. -/
theorem of_silent (hcompleted : b'.txCompleted = b.txCompleted)
    (hfailed : b'.retryExhaustion = b.retryExhaustion) (hdelivered : b'.delivered = b.delivered)
    (hlive : b'.liveCount = b.liveCount) (hactive : b'.activeCount = b.activeCount)
    (h : ∀ ev ∈ evs, ¬ ev.Counted) : Tally 0 0 b b' evs := by
  have haccepted : evs.countP Event.isAccepted = 0 :=
    countP_silent (fun ev hev => by cases ev <;> trivial) h
  have hfailedEvents : evs.countP Event.isFailed = 0 :=
    countP_silent (fun ev hev => by cases ev <;> trivial) h
  have hcompletedEvents : evs.countP Event.isCompleted = 0 :=
    countP_silent (fun ev hev => by cases ev <;> trivial) h
  have hdeliveredEvents : evs.countP Event.isDelivered = 0 := by
    refine countP_silent (fun ev hev => ?_) h
    cases ev with
    | delivered id data ok =>
      cases ok with
      | true => trivial
      | false => cases hev
    | _ => cases hev
  refine ⟨haccepted, ?_, ?_, ?_, ?_, ?_⟩
  · rw [hcompletedEvents, hcompleted]
    exact (UInt32.add_zero _).symm
  · rw [hfailedEvents, hfailed]
    exact (UInt32.add_zero _).symm
  · rw [hdeliveredEvents, hdelivered]
    exact (UInt32.add_zero _).symm
  · rw [hcompletedEvents, hfailedEvents, hlive]
  · rw [hdeliveredEvents, hactive]

end Tally

/-! ### Accounts -/

/-- Only a complete datagram waits for egress. -/
def RxSlot.WaitsComplete (slot : RxSlot) : Prop :=
  slot.completeWaitingEgress → slot.active ∧ reassemblyIsComplete slot.reassembly

/-- The pools count the slots, no buffer was released twice, and what is armed or waits has a
reason. -/
structure ArqEngine.Accounts (e : ArqEngine) : Prop where
  txUsed : e.txPool.usedCount.toNat = e.books.liveCount
  rxUsed : e.rxPool.usedCount.toNat = e.books.activeCount
  txReleases : e.txPool.invalidReleases = 0
  rxReleases : e.rxPool.invalidReleases = 0
  armed : e.creditProbeArmed →
    (∃ i, (e.txSlots i).state = .queued) ∧ ∀ i, (e.txSlots i).state ≠ .open
  waiting : ∀ j, (e.rxSlots j).WaitsComplete

theorem acquireDatagram_counts {pool pool' : DatagramPool} {lease : DatagramLease}
    (h : acquireDatagram pool = (.ok, pool', lease)) :
    pool'.usedCount = pool.usedCount + 1 ∧ pool'.invalidReleases = pool.invalidReleases := by
  rw [acquireDatagram] at h
  split at h
  · cases h
    exact ⟨rfl, rfl⟩
  · cases h

theorem Leases.release_counts {pool : DatagramPool} {held : Fin 4 → Option BufferRef}
    (h : Leases pool held) {i : Fin 4} {ref : BufferRef} (hi : held i = some ref) :
    (releaseDatagram pool (.ofRef ref)).2.usedCount =
        (if pool.usedCount > 0 then pool.usedCount - 1 else pool.usedCount) ∧
      (releaseDatagram pool (.ofRef ref)).2.invalidReleases = pool.invalidReleases := by
  have hbit := (h.taken ref).mpr ⟨i, hi⟩
  rw [releaseDatagram, if_neg (by simpa using DatagramHandle.ofRef_isValid ref),
    if_neg (by simpa [DatagramHandle.ofRef] using hbit)]
  exact ⟨rfl, rfl⟩

/-- One buffer less, of those that are counted. -/
theorem usedCount_pred {used : UInt8} {n : Nat} (h : used.toNat = n + 1) :
    (if used > 0 then used - 1 else used).toNat = n := by
  have hpos : used > 0 := UInt8.lt_iff_toNat_lt.mpr (by rw [h]; exact Nat.succ_pos n)
  have hone : (1 : UInt8) ≤ used := UInt8.le_iff_toNat_le.mpr
    (by rw [h]; exact Nat.succ_le_succ (Nat.zero_le n))
  rw [if_pos hpos, UInt8.toNat_sub_of_le _ _ hone, h]
  rfl

namespace Exec

variable {e e' e'' : Exec}

/-- One datagram less. -/
theorem liveCount_clear {i : Fin 4} (hlive : (e.txSlots i).state ≠ .empty) :
    (e.books.clear i).liveCount + 1 = e.books.liveCount := by
  have hcount := Slots.count_update TxSlot.live e.txSlots i {}
  have hold : (e.txSlots i).live = true := by simpa [TxSlot.live] using hlive
  rw [hold] at hcount
  exact hcount

theorem activeCount_deliver {j : Fin 4} (hactive : (e.rxSlots j).active) :
    (e.books.deliver j).activeCount + 1 = e.books.activeCount := by
  have hcount := Slots.count_update RxSlot.active e.rxSlots j {}
  rw [hactive] at hcount
  exact hcount

theorem clear_accounts {i : Fin 4} (h : e.Valid) (ha : e.Accounts)
    (hlive : (e.txSlots i).state ≠ .empty) :
    (e.books.clear i).txPool.usedCount.toNat = (e.books.clear i).liveCount ∧
      (e.books.clear i).txPool.invalidReleases = 0 := by
  obtain ⟨ref, hv⟩ := h.1.slot i hlive
  have hheld : (e.txSlots i).held = some ref := by rw [TxSlot.held, if_neg hlive, hv.data]
  obtain ⟨hused, hreleases⟩ := h.1.leases.release_counts hheld
  rw [← hv.handle] at hused hreleases
  exact ⟨(congrArg UInt8.toNat hused).trans (usedCount_pred
    (ha.txUsed.trans (liveCount_clear hlive).symm)),
    hreleases.trans ha.txReleases⟩

theorem deliver_accounts {j : Fin 4} (h : e.Valid) (ha : e.Accounts)
    (hactive : (e.rxSlots j).active) :
    (e.books.deliver j).rxPool.usedCount.toNat = (e.books.deliver j).activeCount ∧
      (e.books.deliver j).rxPool.invalidReleases = 0 := by
  obtain ⟨ref, hv⟩ := h.2.slot j hactive
  have hheld : (e.rxSlots j).held = some ref := by
    rw [RxSlot.held, if_pos hactive, hv.reassembly.output]
  obtain ⟨hused, hreleases⟩ := h.2.leases.release_counts hheld
  rw [← hv.handle] at hused hreleases
  exact ⟨(congrArg UInt8.toNat hused).trans
      (usedCount_pred (ha.rxUsed.trans (activeCount_deliver hactive).symm)),
    hreleases.trans ha.rxReleases⟩

/-- Accounts that rest on the books and on the credit probe alone. -/
theorem accounts_of_books {books : Books} (h : e'.books = books)
    (htx : books.txPool.usedCount.toNat = books.liveCount)
    (hrx : books.rxPool.usedCount.toNat = books.activeCount)
    (htxReleases : books.txPool.invalidReleases = 0)
    (hrxReleases : books.rxPool.invalidReleases = 0)
    (harmed : e'.creditProbeArmed →
      (∃ i, (books.txSlots i).state = .queued) ∧ ∀ i, (books.txSlots i).state ≠ .open)
    (hwaiting : ∀ j, (books.rxSlots j).WaitsComplete) : e'.Accounts := by
  subst h
  exact ⟨htx, hrx, htxReleases, hrxReleases, harmed, hwaiting⟩

/-- A transmit slot in the same state counts the same. -/
theorem liveCount_setTx {i : Fin 4} {slot : TxSlot} (h : slot.live = (e.txSlots i).live) :
    (e.setTx i slot).books.liveCount = e.books.liveCount := by
  have hcount := Slots.count_update TxSlot.live e.txSlots i slot
  rw [h] at hcount
  exact Nat.add_right_cancel hcount

theorem activeCount_setRx {j : Fin 4} {slot : RxSlot} (h : slot.active = (e.rxSlots j).active) :
    (e.setRx j slot).books.activeCount = e.books.activeCount := by
  have hcount := Slots.count_update RxSlot.active e.rxSlots j slot
  rw [h] at hcount
  exact Nat.add_right_cancel hcount

/-- Every slot of an updated table is the new one or an old one. -/
theorem update_cases {α : Type} {f : Fin 4 → α} {i : Fin 4} {a : α} {P : α → Prop} (hnew : P a)
    (hold : ∀ k, k ≠ i → P (f k)) (k : Fin 4) : P (Function.update f i a k) := by
  by_cases hk : k = i
  · subst hk
    rw [Function.update_self]
    exact hnew
  · rw [Function.update_of_ne hk]
    exact hold k hk

theorem clearTxSlot_books {i : Fin 4} (h : e.Valid) (hlive : (e.txSlots i).state ≠ .empty) :
    (e.clearTxSlot i).books = e.books.clear i := by
  rw [clearTxSlot_of_live h hlive]
  rfl

theorem clearTxSlot_armed (e : Exec) (i : Fin 4) :
    (e.clearTxSlot i).creditProbeArmed = e.creditProbeArmed := by
  rw [clearTxSlot]
  split <;> rfl

theorem failTxSlot_books {i : Fin 4} (h : e.Valid) (hlive : (e.txSlots i).state ≠ .empty) :
    (e.failTxSlot i).books =
      { e.books.clear i with retryExhaustion := e.counters.retryExhaustion + 1 } :=
  clearTxSlot_books (e := e.count fun c => { c with retryExhaustion := c.retryExhaustion + 1 }) h
    hlive

theorem completeTxSlot_books {i : Fin 4} (h : e.Valid) (hlive : (e.txSlots i).state ≠ .empty) :
    (e.completeTxSlot i).books =
      { e.books.clear i with txCompleted := e.counters.txCompleted + 1 } :=
  clearTxSlot_books (e := e.count fun c => { c with txCompleted := c.txCompleted + 1 }) h hlive

/-- An open slot is cleared, whatever else is counted. -/
theorem accounts_of_clear {i : Fin 4} {completed failed : UInt32} (hv : e.Valid) (ha : e.Accounts)
    (hopen : (e.txSlots i).state = .open)
    (hbooks : e'.books =
      { e.books.clear i with txCompleted := completed, retryExhaustion := failed })
    (harmed : e'.creditProbeArmed = e.creditProbeArmed) : e'.Accounts := by
  have hlive : (e.txSlots i).state ≠ .empty := by rw [hopen]; decide
  obtain ⟨hused, hreleases⟩ := clear_accounts hv ha hlive
  refine accounts_of_books hbooks hused ha.rxUsed hreleases ha.rxReleases (fun h => ?_) ha.waiting
  rw [harmed] at h
  exact absurd hopen ((ha.armed h).2 i)

theorem Move.accounts (h : Move e e') (hv : e.Valid) (ha : e.Accounts) : e'.Accounts := by
  cases h with
  | quiet h =>
    exact accounts_of_books h.books ha.txUsed ha.rxUsed ha.txReleases ha.rxReleases
      (fun harmed => ha.armed (h.armed harmed)) ha.waiting
  | pace i slot hlive hstate =>
    have hcount : (e.setTx i slot).books.liveCount = e.books.liveCount :=
      liveCount_setTx (by rw [TxSlot.live, TxSlot.live, hstate])
    refine ⟨ha.txUsed.trans hcount.symm, ha.rxUsed, ha.txReleases, ha.rxReleases, fun harmed => ?_,
      ha.waiting⟩
    have hsame (k : Fin 4) : ((e.setTx i slot).txSlots k).state = (e.txSlots k).state := by
      refine congrFun (Slots.map_update_same (g := TxSlot.state) hstate) k
    obtain ⟨⟨k, hk⟩, hnone⟩ := ha.armed harmed
    exact ⟨⟨k, (hsame k).trans hk⟩, fun k => hsame k ▸ hnone k⟩
  | arm deadline i hqueued hnone =>
    exact ⟨ha.txUsed, ha.rxUsed, ha.txReleases, ha.rxReleases, fun _ => ⟨⟨i, hqueued⟩, hnone⟩,
      ha.waiting⟩
  | openSlot i now hqueued hdisarmed =>
    refine ⟨?_, ha.rxUsed, ha.txReleases, ha.rxReleases, fun harmed => ?_, ha.waiting⟩
    · refine ha.txUsed.trans (liveCount_setTx ?_).symm
      rw [TxSlot.live, TxSlot.live, hqueued]
      rfl
    · rw [show (e.openSlot i now).creditProbeArmed = e.creditProbeArmed from rfl,
        hdisarmed] at harmed
      cases harmed
  | fail i hopen =>
    exact accounts_of_clear hv ha hopen (failTxSlot_books hv (by rw [hopen]; decide))
      (clearTxSlot_armed _ i)
  | complete i hopen =>
    exact accounts_of_clear hv ha hopen (completeTxSlot_books hv (by rw [hopen]; decide))
      (clearTxSlot_armed _ i)
  | store j ref reassembly memory hactive houtput hvalid hdone =>
    have hslot : ({ e.rxSlots j with reassembly } : RxSlot).active = (e.rxSlots j).active := rfl
    have hcount := Slots.count_update RxSlot.active e.rxSlots j { e.rxSlots j with reassembly }
    rw [hslot] at hcount
    have hpool : (e.rxPool.setMemory (e.rxSlots j).reassembly.output memory).usedCount =
          e.rxPool.usedCount ∧
        (e.rxPool.setMemory (e.rxSlots j).reassembly.output memory).invalidReleases =
          e.rxPool.invalidReleases := by
      rw [houtput]
      exact ⟨rfl, rfl⟩
    refine ⟨ha.txUsed, ?_, ha.txReleases, ?_, ha.armed, ?_⟩
    · exact (congrArg UInt8.toNat hpool.1).trans
        (ha.rxUsed.trans (Nat.add_right_cancel hcount).symm)
    · exact hpool.2.trans ha.rxReleases
    · refine update_cases (P := RxSlot.WaitsComplete) (fun hwaiting => ?_) fun k _ => ha.waiting k
      exact ⟨hactive, hdone (ha.waiting j hwaiting).2⟩
  | wait j hactive hcomplete =>
    have hcount : (e.waitForEgress j).books.activeCount = e.books.activeCount :=
      activeCount_setRx (e := e) (j := j) rfl
    refine ⟨ha.txUsed, ha.rxUsed.trans hcount.symm, ha.txReleases, ha.rxReleases, ha.armed, ?_⟩
    exact update_cases (P := RxSlot.WaitsComplete) (fun _ => ⟨hactive, hcomplete⟩)
      fun k _ => ha.waiting k
  | deliver j hactive hbooks harmed =>
    obtain ⟨hused, hreleases⟩ := deliver_accounts hv ha hactive
    refine accounts_of_books hbooks ha.txUsed hused ha.txReleases hreleases
      (fun h => ha.armed (harmed h)) ?_
    exact update_cases (P := RxSlot.WaitsComplete) (fun hwaiting => by cases hwaiting)
      fun k _ => ha.waiting k

/-! ### What moves count -/

/-- The events from `e` to `e'`, and what they count. -/
def Tallied (m n : Nat) (e e' : Exec) : Prop :=
  ∃ evs, e'.events = e.events ++ evs ∧ Tally m n e.books e'.books evs

theorem Tallied.append {m n m' n' : Nat} (h : Tallied m n e e') (h' : Tallied m' n' e' e'') :
    Tallied (m + m') (n + n') e e'' := by
  obtain ⟨evs, hevents, htally⟩ := h
  obtain ⟨evs', hevents', htally'⟩ := h'
  exact ⟨evs ++ evs', by rw [hevents', hevents, List.append_assoc], htally.append htally'⟩

/-- Nothing was counted and nothing shows in the trace. -/
theorem Tallied.of_counters (hevents : e'.events = e.events) (hcounters : e'.counters = e.counters)
    (hlive : e'.books.liveCount = e.books.liveCount)
    (hactive : e'.books.activeCount = e.books.activeCount) : Tallied 0 0 e e' := by
  refine ⟨[], by rw [hevents, List.append_nil], .of_silent ?_ ?_ ?_ hlive hactive (by simp)⟩
  · exact congrArg ArqCounters.txCompleted hcounters
  · exact congrArg ArqCounters.retryExhaustion hcounters
  · exact congrArg ArqCounters.delivered hcounters

theorem clearTxSlot_events (e : Exec) (i : Fin 4) : (e.clearTxSlot i).events = e.events := by
  rw [clearTxSlot]
  split <;> rfl

theorem Move.tallied (h : Move e e') (hv : e.Valid) : Tallied 0 0 e e' := by
  cases h with
  | quiet h =>
    obtain ⟨evs, hevents, hcounted⟩ := h.events
    refine ⟨evs, hevents, ?_⟩
    rw [h.books]
    exact .of_silent rfl rfl rfl rfl rfl hcounted
  | pace i slot hlive hstate =>
    exact .of_counters rfl rfl (liveCount_setTx (by rw [TxSlot.live, TxSlot.live, hstate])) rfl
  | arm => exact .of_counters rfl rfl rfl rfl
  | openSlot i now hqueued =>
    refine ⟨[.opened i], rfl, .of_silent rfl rfl rfl (liveCount_setTx ?_) rfl ?_⟩
    · rw [TxSlot.live, TxSlot.live, hqueued]
      rfl
    · exact List.forall_mem_singleton.mpr id
  | fail i hopen =>
    have hlive : (e.txSlots i).state ≠ .empty := by rw [hopen]; decide
    have hevents : (e.failTxSlot i).events = e.events ++ [.failed i] := by
      rw [failTxSlot, emit, clearTxSlot_events]
      rfl
    refine ⟨[.failed i], hevents, ?_⟩
    rw [failTxSlot_books hv hlive]
    exact ⟨rfl, (UInt32.add_zero _).symm, rfl, (UInt32.add_zero _).symm, liveCount_clear hlive, rfl⟩
  | complete i hopen =>
    have hlive : (e.txSlots i).state ≠ .empty := by rw [hopen]; decide
    have hevents : (e.completeTxSlot i).events = e.events ++ [.completed i] := by
      rw [completeTxSlot, emit, clearTxSlot_events]
      rfl
    refine ⟨[.completed i], hevents, ?_⟩
    rw [completeTxSlot_books hv hlive]
    exact ⟨rfl, rfl, (UInt32.add_zero _).symm, (UInt32.add_zero _).symm, liveCount_clear hlive, rfl⟩
  | store j ref reassembly memory =>
    have hslot : ({ e.rxSlots j with reassembly } : RxSlot).active = (e.rxSlots j).active := rfl
    exact .of_counters rfl rfl rfl (activeCount_setRx hslot)
  | wait j => exact .of_counters rfl rfl rfl (activeCount_setRx (e := e) (j := j) rfl)
  | deliver j hactive hbooks harmed hevents =>
    obtain ⟨id, data, evs, hevents, hcounted⟩ := hevents
    have hdelivered : Tally 0 0 e.books (e.books.deliver j) [.delivered id data true] :=
      ⟨rfl, (UInt32.add_zero _).symm, (UInt32.add_zero _).symm, rfl, rfl,
        activeCount_deliver hactive⟩
    refine ⟨_, hevents, ?_⟩
    rw [hbooks]
    exact hdelivered.append (.of_silent rfl rfl rfl rfl rfl hcounted)

/-- What a chain of moves leaves of the accounts, and what it counts. -/
theorem Moves.accounts (h : Moves e e') (hv : e.Valid) (ha : e.Accounts) :
    e'.Accounts ∧ Tallied 0 0 e e' := by
  induction h with
  | refl => exact ⟨ha, .of_counters rfl rfl rfl rfl⟩
  | tail hmoves hmove ih =>
    have hvalid := Moves.valid hmoves hv
    exact ⟨hmove.accounts hvalid ih.1, ih.2.append (hmove.tallied hvalid)⟩

/-! ### Datagrams that come in -/

/-- One buffer more, of those that are counted. -/
theorem usedCount_succ {used : UInt8} {n : Nat} (h : used.toNat = n) (hn : n < 4) :
    (used + 1).toNat = n + 1 := by
  rw [UInt8.toNat_add, h]
  exact Nat.mod_eq_of_lt (by simp; omega)

theorem Activates.accounts {j : Fin 4} (h : Activates e e' j) (ha : e.Accounts) :
    e'.Accounts ∧ Tallied 0 1 e e' := by
  obtain ⟨pool, ref, lease, slot, memory, hacquire, hactive, hwaiting, hbooks⟩ := h.books
  obtain ⟨hused, hreleases⟩ := acquireDatagram_counts hacquire
  have hcount := Slots.count_update RxSlot.active e.rxSlots j slot
  rw [hactive, eq_false_of_ne_true h.free] at hcount
  have hone : e'.books.activeCount = e.books.activeCount + 1 := by rw [hbooks]; exact hcount
  have hroom : e.books.activeCount + 1 ≤ 4 := by
    rw [← hone]
    exact Slots.count_le RxSlot.active e'.books.rxSlots
  refine ⟨accounts_of_books hbooks ha.txUsed ?_ ha.txReleases ?_
    (fun harmed => ha.armed (h.armed harmed)) ?_,
    [], ?_, ?_⟩
  · rw [hbooks] at hone
    rw [hone, ← usedCount_succ ha.rxUsed hroom]
    exact congrArg UInt8.toNat hused
  · exact hreleases.trans ha.rxReleases
  · refine update_cases (P := RxSlot.WaitsComplete) (fun htrue => ?_) fun k _ => ha.waiting k
    rw [hwaiting] at htrue
    cases htrue
  · rw [h.events, List.append_nil]
  · refine ⟨rfl, ?_, ?_, ?_, ?_, hone⟩
    all_goals rw [hbooks]
    · exact (UInt32.add_zero _).symm
    · exact (UInt32.add_zero _).symm
    · exact (UInt32.add_zero _).symm
    · rfl

/-- An empty transmit slot takes a datagram. -/
structure Accepts (e e' : Exec) (i : Fin 4) (data : List UInt8) : Prop where
  empty : (e.txSlots i).state = .empty
  valid : e'.Valid
  books : ∃ pool ref lease slot memory, acquireDatagram e.txPool = (.ok, pool, lease) ∧
    slot.state = .queued ∧ e'.books = { e.books with
      txPool := pool.setMemory (some ref) memory
      txSlots := Function.update e.txSlots i slot }
  armed : e'.creditProbeArmed = e.creditProbeArmed
  events : e'.events = e.events ++ [.accepted i e.nextDatagramId data]

theorem Accepts.accounts {i : Fin 4} {data : List UInt8} (h : Accepts e e' i data)
    (ha : e.Accounts) :
    e'.Accounts ∧ Tallied 1 0 e e' := by
  obtain ⟨pool, ref, lease, slot, memory, hacquire, hqueued, hbooks⟩ := h.books
  obtain ⟨hused, hreleases⟩ := acquireDatagram_counts hacquire
  have hcount := Slots.count_update TxSlot.live e.txSlots i slot
  have hold : (e.txSlots i).live = false := by simp [TxSlot.live, h.empty]
  have hnew : slot.live = true := by simp [TxSlot.live, hqueued]
  rw [hold, hnew] at hcount
  have hone : e'.books.liveCount = e.books.liveCount + 1 := by rw [hbooks]; exact hcount
  have hroom : e.books.liveCount + 1 ≤ 4 := by
    rw [← hone]
    exact Slots.count_le TxSlot.live e'.books.txSlots
  refine ⟨accounts_of_books hbooks ?_ ha.rxUsed ?_ ha.rxReleases ?_ ha.waiting,
    [.accepted i e.nextDatagramId data], h.events, ?_⟩
  · rw [hbooks] at hone
    rw [hone, ← usedCount_succ ha.txUsed hroom]
    exact congrArg UInt8.toNat hused
  · exact hreleases.trans ha.txReleases
  · intro harmed
    rw [h.armed] at harmed
    obtain ⟨_, hnone⟩ := ha.armed harmed
    refine ⟨⟨i, (congrArg TxSlot.state (Function.update_self ..)).trans hqueued⟩, ?_⟩
    refine update_cases (P := fun s : TxSlot => s.state ≠ .open) ?_ fun k _ => hnone k
    rw [hqueued]
    decide
  · refine ⟨rfl, ?_, ?_, ?_, hone, ?_⟩
    all_goals rw [hbooks]
    · exact (UInt32.add_zero _).symm
    · exact (UInt32.add_zero _).symm
    · exact (UInt32.add_zero _).symm
    · rfl

/-- A datagram from above goes into an empty slot, or is rejected without an allocation failure. -/
theorem onTxDatagram_accepts (data : Option (List UInt8)) (h : e.Valid) :
    ((e.onTxDatagram data).1 = .ok ∧
        ∃ i bytes, data = some bytes ∧ Accepts e (e.onTxDatagram data).2 i bytes) ∨
      ((e.onTxDatagram data).1 ∈ [.badArgument, .badLength, .noTxSlot] ∧
        Moves e (e.onTxDatagram data).2 ∧
        (∀ bytes, data = some bytes → 0 < bytes.length → bytes.length ≤ 1280 →
          (e.onTxDatagram data).1 = .noTxSlot ∧ ∀ i, (e.txSlots i).state ≠ .empty)) := by
  cases data with
  | none =>
    refine .inr ⟨?_, Moves.of_books rfl (fun harmed => harmed) rfl,
      fun bytes hnone => by cases hnone⟩
    exact List.mem_cons_self ..
  | some bytes =>
    simp only [onTxDatagram]
    split
    · next hbad =>
      refine .inr ⟨by simp, Moves.of_books rfl (fun harmed => harmed) rfl, ?_⟩
      intro bytes hbytes hpos hmax
      cases hbytes
      rcases hbad with hzero | hlong
      · omega
      · exact absurd hmax (Nat.not_le.mpr hlong)
    next hgood =>
    rw [not_or] at hgood
    cases hfind : (List.finRange 4).find? fun i => (e.txSlots i).state = .empty with
    | none =>
      refine .inr ⟨by simp, Moves.of_books rfl (fun harmed => harmed) rfl, fun _ _ _ _ => ⟨rfl, ?_⟩⟩
      intro i hempty
      have hnot := List.find?_eq_none.mp hfind i (List.mem_finRange i)
      exact hnot (by simpa using hempty)
    | some i =>
      have hempty : (e.txSlots i).state = .empty := by simpa using (find_finRange_eq_some hfind).1
      obtain ⟨ref, pool, hacquire, hvalid, _⟩ := h.1.accept hempty (Nat.pos_of_ne_zero hgood.1)
        (Nat.not_lt.mp hgood.2) e.nextDatagramId
      refine .inl ?_
      simp only [hacquire]
      refine ⟨trivial, i, bytes, rfl, hempty, ⟨hvalid, h.2⟩, ?_, rfl, rfl⟩
      exact ⟨pool, ref, _, _, _, hacquire, rfl, rfl⟩

end Exec

/-! ### Runs -/

namespace ArqEngine

/-- The call is an `onTxDatagram` that returns `OK`. -/
def accepts (e : ArqEngine) : Call → Bool
  | .onTxDatagram data => (Exec.onTxDatagram { e with } data).1 = .ok
  | _ => false

/-- The number of calls of which `P` holds, in the engine before the call. -/
def countCalls (P : ArqEngine → Call → Bool) (e : ArqEngine) : List (ArqCallbacks × Call) → Nat
  | [] => 0
  | (cb, call) :: calls => (P e call).toNat + (e.run cb call).toArqEngine.countCalls P calls

theorem reset_accounts (config : ArqConfig) : (reset config).Accounts :=
  ⟨rfl, rfl, rfl, rfl, fun h => (by cases h), fun j h => (by cases h)⟩

/-- One call. -/
theorem run_accounts {e : ArqEngine} (h : e.Valid) (ha : e.Accounts) (cb : ArqCallbacks)
    (call : Call) :
    (e.run cb call).Accounts ∧ Tally (e.accepts call).toNat (e.allocates call).toNat e.books
      (e.run cb call).books (e.run cb call).events := by
  have hcalls : (e.run cb call).Accounts ∧ Exec.Tallied (e.accepts call).toNat
      (e.allocates call).toNat { e with } (e.run cb call) := by
    cases call with
    | onTxDatagram data =>
      rcases Exec.onTxDatagram_accepts (e := { e with }) data h with
        ⟨hok, i, bytes, _, haccepts⟩ | ⟨hno, hmoves, _⟩
      · rw [accepts, hok]
        exact haccepts.accounts ha
      · have hnot : ((Exec.onTxDatagram { e with } data).1 = .ok) = False := by
          refine eq_false fun hok => ?_
          rw [hok] at hno
          simp at hno
        rw [accepts]
        simp only [hnot]
        exact Exec.Moves.accounts hmoves h ha
    | onRxPacket packet now =>
      have hmoves := Exec.onRxPacket_moves cb packet now h
      split at hmoves
      · next hallocates =>
        obtain ⟨e₁, j, hactivates, hmoves⟩ := hmoves
        obtain ⟨hfirst, htallied⟩ := hactivates.accounts ha
        obtain ⟨haccounts, hrest⟩ := Exec.Moves.accounts hmoves hactivates.valid hfirst
        rw [hallocates]
        exact ⟨haccounts, htallied.append hrest⟩
      · next hallocates =>
        rw [eq_false_of_ne_true hallocates]
        exact Exec.Moves.accounts hmoves h ha
    | onTick now => exact Exec.Moves.accounts (Exec.onTick_moves (e := { e with }) cb now h) h ha
    | flushPendingAck now =>
      exact Exec.Moves.accounts (Exec.sendPendingAck_quiet cb { e with } now).moves h ha
  obtain ⟨haccounts, evs, hevents, htally⟩ := hcalls
  rw [List.nil_append] at hevents
  exact ⟨haccounts, by rw [hevents]; exact htally⟩

/-- Any calls. -/
theorem after_accounts {e : ArqEngine} (h : e.Valid) (ha : e.Accounts)
    (calls : List (ArqCallbacks × Call)) :
    (e.after calls).Accounts ∧ Tally (e.countCalls accepts calls)
      (e.countCalls allocates calls) e.books
      (e.after calls).books (e.trace calls) := by
  induction calls generalizing e with
  | nil => exact ⟨ha, .of_silent rfl rfl rfl rfl rfl (by simp [trace])⟩
  | cons step calls ih =>
    obtain ⟨hfirst, htally⟩ := run_accounts h ha step.1 step.2
    obtain ⟨haccounts, hrest⟩ := ih (run_spec h step.1 step.2).1 hfirst
    exact ⟨haccounts, htally.append hrest⟩

end ArqEngine

/-- Since its reset the engine has lost no datagram and counted none twice: what `onTxDatagram` took
is completed, given up or in a slot, and what got a receive slot is delivered or still there. -/
theorem datagrams_conserved (config : ArqConfig) (calls : List (ArqCallbacks × Call)) :
    let start := ArqEngine.reset config
    let e := start.after calls
    UInt32.ofNat (start.countCalls ArqEngine.accepts calls) =
        e.counters.txCompleted + e.counters.retryExhaustion +
          UInt32.ofNat ((List.finRange 4).countP fun i => (e.txSlots i).state ≠ .empty) ∧
      (∀ i k, (e.txSlots i).state = .open → (e.txSlots k).state = .open → i = k) ∧
      UInt32.ofNat (start.countCalls ArqEngine.allocates calls) =
        e.counters.delivered +
          UInt32.ofNat ((List.finRange 4).countP fun j => (e.rxSlots j).active) ∧
      e.counters.delivered = UInt32.ofNat ((start.trace calls).countP Event.isDelivered) ∧
      e.counters.txCompleted = UInt32.ofNat ((start.trace calls).countP Event.isCompleted) ∧
      e.counters.retryExhaustion = UInt32.ofNat ((start.trace calls).countP Event.isFailed) ∧
      start.countCalls ArqEngine.accepts calls = (start.trace calls).countP Event.isAccepted := by
  intro start e
  obtain ⟨_, htally⟩ := ArqEngine.after_accounts (ArqEngine.reset_valid config)
    (ArqEngine.reset_accounts config) calls
  have hcompleted : e.counters.txCompleted =
      UInt32.ofNat ((start.trace calls).countP Event.isCompleted) :=
    htally.completed.trans (UInt32.zero_add _)
  have hfailed : e.counters.retryExhaustion =
      UInt32.ofNat ((start.trace calls).countP Event.isFailed) :=
    htally.failed.trans (UInt32.zero_add _)
  have hdelivered : e.counters.delivered =
      UInt32.ofNat ((start.trace calls).countP Event.isDelivered) :=
    htally.delivered.trans (UInt32.zero_add _)
  have hlive : start.countCalls ArqEngine.accepts calls =
      (start.trace calls).countP Event.isCompleted +
      (start.trace calls).countP Event.isFailed + e.books.liveCount := by
    have hcount : e.books.liveCount + (start.trace calls).countP Event.isCompleted +
        (start.trace calls).countP Event.isFailed = 0 + start.countCalls ArqEngine.accepts calls :=
      htally.live
    omega
  have hactive : start.countCalls ArqEngine.allocates calls =
      (start.trace calls).countP Event.isDelivered + e.books.activeCount := by
    have hcount : e.books.activeCount + (start.trace calls).countP Event.isDelivered =
        0 + start.countCalls ArqEngine.allocates calls := htally.active
    omega
  refine ⟨?_, ?_, ?_, hdelivered, hcompleted, hfailed, htally.accepted.symm⟩
  · rw [hlive, UInt32.ofNat_add, UInt32.ofNat_add, hcompleted, hfailed]
    rfl
  · intro i k hi hk
    have hone := (ArqEngine.run_inv config calls).1
    exact hone.one_open (Exec.sender_open (e := { e with }) hi)
      (Exec.sender_open (e := { e with }) hk)
  · rw [hactive, UInt32.ofNat_add, hdelivered]
    rfl

end FlrcTnc.Arq
