import FlrcTnc.Arq.Run
import Mathlib.Logic.Relation

/-! The smallest changes of an engine.  Every call is a chain of them, so what each of them keeps
holds in every state that the engine reaches: the books of the pools, of the slots and of the
counters. -/

namespace FlrcTnc.Arq

open Framing Mask

/-- What the accounts of an engine rest on: the pools, the slots and the counters of the datagrams
that have left. -/
structure Books where
  txPool : DatagramPool
  rxPool : DatagramPool
  txSlots : Fin 4 → TxSlot
  rxSlots : Fin 4 → RxSlot
  txCompleted : UInt32
  retryExhaustion : UInt32
  delivered : UInt32

def ArqEngine.books (e : ArqEngine) : Books :=
  ⟨e.txPool, e.rxPool, e.txSlots, e.rxSlots, e.counters.txCompleted, e.counters.retryExhaustion,
    e.counters.delivered⟩

/-- Transmit slot `i` is cleared. -/
def Books.clear (books : Books) (i : Fin 4) : Books :=
  { books with
    txPool := (releaseDatagram books.txPool (books.txSlots i).handle).2
    txSlots := Function.update books.txSlots i {} }

/-- The datagram of receive slot `j` is delivered. -/
def Books.deliver (books : Books) (j : Fin 4) : Books :=
  { books with
    rxPool := (releaseDatagram books.rxPool (books.rxSlots j).handle).2
    rxSlots := Function.update books.rxSlots j {}
    delivered := books.delivered + 1 }

/-- The events by which a datagram enters or leaves the engine. -/
def Event.Counted : Event → Prop
  | .accepted .. | .failed _ | .completed _ | .delivered _ _ true => True
  | _ => False

namespace Exec

/-- Nothing that the books tell, and no probe is armed. -/
structure Quiet (e e' : Exec) : Prop where
  books : e'.books = e.books
  armed : e'.creditProbeArmed → e.creditProbeArmed
  events : ∃ evs, e'.events = e.events ++ evs ∧ ∀ ev ∈ evs, ¬ ev.Counted

inductive Move : Exec → Exec → Prop
  | quiet {e e' : Exec} (h : Quiet e e') : Move e e'
  /-- The bits, rounds and deadlines of a datagram change. -/
  | pace (e : Exec) (i : Fin 4) (slot : TxSlot) (hlive : (e.txSlots i).state ≠ .empty)
      (hstate : slot.state = (e.txSlots i).state) (hdata : slot.data = (e.txSlots i).data)
      (hhandle : slot.handle = (e.txSlots i).handle) (hlen : slot.len = (e.txSlots i).len)
      (hcount : slot.fragmentCount = (e.txSlots i).fragmentCount) : Move e (e.setTx i slot)
  /-- The credit probe is armed while a datagram waits and none is open. -/
  | arm (e : Exec) (deadline : UInt32) (i : Fin 4) (hqueued : (e.txSlots i).state = .queued)
      (hnone : ∀ k, (e.txSlots k).state ≠ .open) :
      Move e { e with creditProbeArmed := true, creditProbeDeadline := deadline }
  | openSlot (e : Exec) (i : Fin 4) (now : UInt32) (hqueued : (e.txSlots i).state = .queued)
      (hdisarmed : e.creditProbeArmed = false) : Move e (e.openSlot i now)
  | fail (e : Exec) (i : Fin 4) (hopen : (e.txSlots i).state = .open) : Move e (e.failTxSlot i)
  | complete (e : Exec) (i : Fin 4) (hopen : (e.txSlots i).state = .open) :
      Move e (e.completeTxSlot i)
  /-- A reassembly takes a fragment. -/
  | store (e : Exec) (j : Fin 4) (ref : BufferRef) (reassembly : ReassemblyV3) (memory : Buffer)
      (hactive : (e.rxSlots j).active) (houtput : (e.rxSlots j).reassembly.output = some ref)
      (hvalid : RxSlot.Valid { e.rxSlots j with reassembly } ref)
      (hdone : reassemblyIsComplete (e.rxSlots j).reassembly → reassemblyIsComplete reassembly) :
      Move e (e.storeReassembly j reassembly memory)
  | wait (e : Exec) (j : Fin 4) (hactive : (e.rxSlots j).active)
      (hcomplete : reassemblyIsComplete (e.rxSlots j).reassembly) : Move e (e.waitForEgress j)
  /-- A datagram is delivered, counted and its slot released. -/
  | deliver {e e' : Exec} (j : Fin 4) (hactive : (e.rxSlots j).active)
      (hbooks : e'.books = e.books.deliver j)
      (harmed : e'.creditProbeArmed → e.creditProbeArmed)
      (hevents : ∃ id data evs, e'.events = e.events ++ .delivered id data true :: evs ∧
        ∀ ev ∈ evs, ¬ ev.Counted) : Move e e'

abbrev Moves : Exec → Exec → Prop := Relation.ReflTransGen Move

variable {e e' e'' : Exec}

theorem Quiet.refl (e : Exec) : Quiet e e :=
  ⟨rfl, id, [], (List.append_nil _).symm, fun ev hev => by cases hev⟩

theorem Quiet.trans (h : Quiet e e') (h' : Quiet e' e'') : Quiet e e'' := by
  obtain ⟨evs, hevs, hcounted⟩ := h.events
  obtain ⟨evs', hevs', hcounted'⟩ := h'.events
  refine ⟨h'.books.trans h.books, fun harmed => h.armed (h'.armed harmed), evs ++ evs', ?_, ?_⟩
  · rw [hevs', hevs, List.append_assoc]
  · intro ev hev
    rcases List.mem_append.mp hev with hev | hev
    · exact hcounted ev hev
    · exact hcounted' ev hev

/-- A change of fields that no account rests on. -/
theorem Quiet.of_books (hbooks : e'.books = e.books)
    (harmed : e'.creditProbeArmed → e.creditProbeArmed)
    (hevents : e'.events = e.events) : Quiet e e' :=
  ⟨hbooks, harmed, [], by rw [hevents, List.append_nil], fun ev hev => by cases hev⟩

/-- A change with one event that is not counted. -/
theorem Quiet.of_event {ev : Event} (hbooks : e'.books = e.books)
    (harmed : e'.creditProbeArmed → e.creditProbeArmed) (hevents : e'.events = e.events ++ [ev])
    (hcounted : ¬ ev.Counted) : Quiet e e' := by
  refine ⟨hbooks, harmed, [ev], hevents, ?_⟩
  intro ev' hev
  rw [List.mem_singleton.mp hev]
  exact hcounted

theorem Quiet.moves (h : Quiet e e') : Moves e e' := .single (.quiet h)

theorem Moves.of_books (hbooks : e'.books = e.books)
    (harmed : e'.creditProbeArmed → e.creditProbeArmed) (hevents : e'.events = e.events) :
    Moves e e' := (Quiet.of_books hbooks harmed hevents).moves

theorem Quiet.slot_eq (h : Quiet e e') : e'.rxSlots = e.rxSlots := congrArg Books.rxSlots h.books

theorem Quiet.tx_eq (h : Quiet e e') : e'.txSlots = e.txSlots := congrArg Books.txSlots h.books

@[simp] theorem setTx_self (e : Exec) (i : Fin 4) (slot : TxSlot) :
    (e.setTx i slot).txSlots i = slot :=
  Function.update_self ..

@[simp] theorem setRx_self (e : Exec) (j : Fin 4) (slot : RxSlot) :
    (e.setRx j slot).rxSlots j = slot :=
  Function.update_self ..

/-! ### Engines in order -/

theorem valid_of_books {books : Books} (h : e'.books = books)
    (htx : TxValid books.txPool books.txSlots)
    (hrx : RxValid books.rxPool books.rxSlots) : e'.Valid := by
  subst h
  exact ⟨htx, hrx⟩

theorem clearTxSlot_of_live {i : Fin 4} (h : e.Valid) (hlive : (e.txSlots i).state ≠ .empty) :
    e.clearTxSlot i = { e with txPool := (releaseDatagram e.txPool (e.txSlots i).handle).2 }.setTx i
      {} := by
  obtain ⟨hhandle, _⟩ := h.1.clear hlive
  rw [clearTxSlot, if_pos hhandle]

theorem releaseRxSlot_of_active {j : Fin 4} (h : e.Valid) (hactive : (e.rxSlots j).active) :
    e.releaseRxSlot j =
      { e with rxPool := (releaseDatagram e.rxPool (e.rxSlots j).handle).2 }.setRx j {} := by
  obtain ⟨hhandle, _⟩ := h.2.clear hactive
  rw [releaseRxSlot, if_pos hhandle]

theorem Move.valid (h : Move e e') (hv : e.Valid) : e'.Valid := by
  cases h with
  | quiet h => exact valid_of_books h.books hv.1 hv.2
  | pace i slot hlive hstate hdata hhandle hlen hcount =>
    exact ⟨hv.1.update hlive (by rw [hstate]; exact hlive) hdata hhandle hlen hcount, hv.2⟩
  | arm => exact hv
  | openSlot i now hqueued =>
    exact ⟨hv.1.update (by rw [hqueued]; decide) (show TxState.open ≠ .empty by decide) rfl
      rfl rfl rfl,
      hv.2⟩
  | fail i hopen =>
    obtain ⟨_, hvalid, _⟩ := clearTxSlot_eq (e := e.count fun c =>
      { c with retryExhaustion := c.retryExhaustion + 1 }) (i := i) hv
        (by rw [count, hopen]; decide)
    exact hvalid
  | complete i hopen =>
    obtain ⟨_, hvalid, _⟩ := clearTxSlot_eq (e := e.count fun c =>
      { c with txCompleted := c.txCompleted + 1 }) hv (i := i) (by rw [count, hopen]; decide)
    exact hvalid
  | store j ref reassembly memory hactive houtput hvalid =>
    have hheld : (e.rxSlots j).held = some ref := by rw [RxSlot.held, if_pos hactive, houtput]
    have hleases : Leases e.rxPool (Function.update (fun k => (e.rxSlots k).held) j
      (some ref)) := by
      rw [← hheld, Function.update_eq_self]
      exact hv.2.leases
    obtain ⟨hrx, _⟩ := RxValid.store (fun k _ => hv.2.slot k) hleases hvalid hactive memory
    rw [← houtput] at hrx
    exact ⟨hv.1, hrx⟩
  | wait j hactive => exact ⟨hv.1, (hv.2.setWaiting j true).1⟩
  | deliver j hactive hbooks =>
    exact valid_of_books hbooks hv.1 (hv.2.clear hactive).2.1

theorem Moves.valid (h : Moves e e') (hv : e.Valid) : e'.Valid := by
  induction h with
  | refl => exact hv
  | tail _ hmove ih => exact hmove.valid ih

/-! ### Callbacks and ACKs -/

theorem egressCapacity_quiet (cb : ArqCallbacks) (e : Exec) (default : UInt8) :
    Quiet e (e.egressCapacity cb default).2 := by
  obtain ⟨n, hn⟩ := egressCapacity_snd cb e default
  rw [hn]
  exact .of_books rfl id rfl

theorem currentCredits_quiet (cb : ArqCallbacks) (e : Exec) : Quiet e (e.currentCredits cb).2 :=
  egressCapacity_quiet cb e _

theorem enqueueAck_quiet (e : Exec) (ack : AckFrame) (deadline : UInt32) (source : AckSource) :
    Quiet e (e.enqueueAck ack deadline source).2 := by
  rw [enqueueAck]
  dsimp only
  split
  · exact .of_event rfl id rfl id
  · split
    · exact .of_books rfl id rfl
    · exact .of_event rfl id rfl id

theorem sendPendingAck_quiet (cb : ArqCallbacks) (e : Exec) (now : UInt32) :
    Quiet e (e.sendPendingAck cb now).2 := by
  rw [sendPendingAck]
  split
  · split
    · exact .refl e
    · split
      · exact .of_books rfl id rfl
      · dsimp only
        split
        · exact .of_event rfl id rfl id
        · exact .of_event rfl id rfl id
  · exact .refl e

theorem queueRxAck_quiet (cb : ArqCallbacks) (e : Exec) (j : Fin 4) (failure : FailureStatus)
    (now : UInt32) : Quiet e (e.queueRxAck cb j failure now) := by
  rw [queueRxAck]
  dsimp only
  split
  · exact enqueueAck_quiet _ _ _ _
  · exact (currentCredits_quiet cb e).trans (enqueueAck_quiet _ _ _ _)

theorem queueFailureAck_quiet (cb : ArqCallbacks) (e : Exec) (datagramId bitmap : UInt16)
    (failure : FailureStatus) (now : UInt32) (source : AckSource) :
    Quiet e (e.queueFailureAck cb datagramId bitmap failure now source) :=
  (currentCredits_quiet cb e).trans (enqueueAck_quiet _ _ _ _)

/-! ### Sending -/

theorem sendDataFragment_quiet (cb : ArqCallbacks) (e : Exec) (i : Fin 4) (k : UInt8) :
    Quiet e (e.sendDataFragment cb i k).2 := by
  rw [sendDataFragment]
  split
  · exact .refl e
  · dsimp only
    split
    · exact .of_books rfl id rfl
    · split
      · exact .of_books rfl id rfl
      · split
        · exact .of_books rfl id rfl
        · exact .of_event rfl id rfl id

/-- A change of the pace of an open slot. -/
theorem Move.of_sameDatagram {i : Fin 4} {slot : TxSlot} (hopen : (e.txSlots i).state = .open)
    (h : (e.txSlots i).SameDatagram slot) : Move e (e.setTx i slot) :=
  .pace e i slot (by rw [hopen]; decide) h.state h.data h.handle h.len h.fragmentCount

/-- A fragment is sent from an open slot whose pace was changed before. -/
theorem fragmentSent_moves (cb : ArqCallbacks) {i : Fin 4} {slot : TxSlot} {ok : Bool}
    (deadline : UInt32) (hopen : (e.txSlots i).state = .open)
    (hsame : (e.txSlots i).SameDatagram slot)
    (hsend : (e.setTx i slot).sendDataFragment cb i slot.nextFragment = (ok, e')) :
    Moves e e' ∧ Moves e (e'.setTx i (slot.fragmentSent deadline)) := by
  have hquiet := sendDataFragment_quiet cb (e.setTx i slot) i slot.nextFragment
  rw [hsend] at hquiet
  have hslot : e'.txSlots i = slot := by
    rw [hquiet.tx_eq, setTx_self]
  have hmoves : Moves e e' := .trans (.single (.of_sameDatagram hopen hsame)) hquiet.moves
  refine ⟨hmoves, hmoves.tail (.of_sameDatagram ?_ ?_)⟩
  · rw [hslot, hsame.state, hopen]
  · rw [hslot]
    exact fragmentSent_sameDatagram _ _

theorem trySendOpenDataFrom_moves (cb : ArqCallbacks) (now : UInt32) (slots : List (Fin 4))
    (e : Exec) :
    Moves e (trySendOpenDataFrom cb now slots e).2 := by
  induction slots generalizing e with
  | nil => exact .refl
  | cons i rest ih =>
    rw [trySendOpenDataFrom]
    split
    · exact ih e
    next hskip =>
    simp only [not_or, not_not] at hskip
    obtain ⟨hopen, _⟩ := hskip
    dsimp only
    split
    · refine .trans (.single (.of_sameDatagram hopen ?_)) (ih _)
      exact ⟨rfl, rfl, rfl, rfl, rfl, rfl, rfl⟩
    · split
      · next e' hsend =>
        exact (fragmentSent_moves cb _ hopen (skipToNext_sameDatagram _) hsend).2
      · next e' hsend =>
        exact (fragmentSent_moves cb 0 hopen (skipToNext_sameDatagram _) hsend).1.trans (ih e')

theorem trySendRetransmitFrom_moves (cb : ArqCallbacks) (now : UInt32) (slots : List (Fin 4))
    (e : Exec) : Moves e (trySendRetransmitFrom cb now slots e).2 := by
  induction slots generalizing e with
  | nil => exact .refl
  | cons i rest ih =>
    rw [trySendRetransmitFrom]
    dsimp only
    split
    · exact ih e
    next hskip =>
    simp only [not_or, not_not] at hskip
    obtain ⟨hopen, _⟩ := hskip
    split
    · exact ih e
    split
    · exact ih e
    split
    · exact .single (.fail e i hopen)
    split
    · split
      · next e' hsend =>
        exact (fragmentSent_moves cb _ hopen (beginRound_sameDatagram _) hsend).2
      · next e' hsend =>
        exact (fragmentSent_moves cb 0 hopen (beginRound_sameDatagram _) hsend).1.trans (ih e')
    · exact .trans (.single (.of_sameDatagram hopen (beginRound_sameDatagram _))) (ih _)

theorem txCount_eq_zero_iff {state : TxState} :
    e.txCount state = 0 ↔ ∀ i, (e.txSlots i).state ≠ state := by
  constructor
  · exact fun h i hi => txCount_ne_zero hi h
  · intro h
    have hzero : ((List.finRange 4).countP fun k => (e.txSlots k).state = state) = 0 :=
      List.countP_eq_zero.mpr fun i _ => by simpa using h i
    rw [ArqEngine.txCount, hzero]
    rfl

theorem creditProbe_moves (now : UInt32) (hnone : ∀ k, (e.txSlots k).state ≠ .open) :
    Moves e (e.creditProbe now).2 := by
  rw [creditProbe]
  split
  · exact .refl
  split
  · exact .of_books rfl (by simp) rfl
  next hqueued =>
  split
  · have hexists : ∃ i, (e.txSlots i).state = .queued := by
      by_contra hnot
      exact hqueued (txCount_eq_zero_iff.mpr (not_exists.mp hnot))
    obtain ⟨i, hi⟩ := hexists
    exact .single (.arm e _ i hi hnone)
  · split
    · exact .refl
    · exact .of_books rfl id rfl

theorem tryOpenQueued_moves (cb : ArqCallbacks) (now : UInt32) (e : Exec) :
    Moves e (e.tryOpenQueued cb now).2 := by
  rw [tryOpenQueued]
  split
  · exact .refl
  next hactive =>
  rw [not_not] at hactive
  have hprobe := creditProbe_moves now (txCount_eq_zero_iff.mp hactive)
  split
  · next e' heq =>
    rw [heq] at hprobe
    exact hprobe
  next e' heq =>
  rw [heq] at hprobe
  have hdisarm : Moves e { e' with creditProbeArmed := false } :=
    hprobe.trans (Moves.of_books rfl (by simp) rfl)
  dsimp only
  split
  · exact hdisarm
  · next i hfind =>
    have hqueued := (find_finRange_eq_some hfind).1
    rw [decide_eq_true_eq] at hqueued
    refine .trans (hdisarm.tail (.openSlot _ i now hqueued rfl)) ?_
    exact trySendOpenDataFrom_moves cb now _ _

theorem handleAck_moves (ack : AckFrame) (now : UInt32) (e : Exec) :
    Moves e (e.handleAck ack now) := by
  rw [handleAck]
  dsimp only
  have hcredits : Moves e { e with remoteCredits := clampCredits ack.receiverCredits } :=
    .of_books rfl id rfl
  split
  · exact hcredits
  next i hfind =>
  have hhit := (find_finRange_eq_some hfind).1
  rw [decide_eq_true_eq] at hhit
  obtain ⟨hopen, _⟩ := hhit
  have hlive : (e.txSlots i).state ≠ .empty := by rw [hopen]; decide
  split
  · exact hcredits.tail (.pace _ i _ hlive rfl rfl rfl rfl rfl)
  have hacked := hcredits.tail (.pace _ i { e.txSlots i with
    ackedBitmap := (e.txSlots i).ackedBitmap ||| ack.fragmentBitmap } hlive rfl rfl rfl rfl rfl)
  split
  · refine hacked.tail (.complete _ i ?_)
    rw [setTx_self]
    exact hopen
  · exact hacked

/-! ### Receiving -/

theorem finishRxSlot_books (cb : ArqCallbacks) {j : Fin 4} (now : UInt32) (h : e.Valid)
    (hactive : (e.rxSlots j).active) :
    (e.finishRxSlot cb j now).books = e.books.deliver j ∧
    ((e.finishRxSlot cb j now).creditProbeArmed → e.creditProbeArmed) ∧
    ∃ evs, (e.finishRxSlot cb j now).events = e.events ++ evs ∧ ∀ ev ∈ evs, ¬ ev.Counted := by
  -- the engine before `++delivered`
  obtain ⟨e', hquiet, heq⟩ : ∃ e', Quiet e e' ∧ e.finishRxSlot cb j now =
      (e'.count fun c => { c with delivered := c.delivered + 1 }).releaseRxSlot j := by
    refine ⟨_, ?_, rfl⟩
    refine .trans ?_ (enqueueAck_quiet _ _ _ _)
    refine .trans ?_ (currentCredits_quiet cb _)
    refine (currentCredits_quiet cb e).trans ?_
    exact .of_books rfl id rfl
  have hvalid : e'.Valid := valid_of_books hquiet.books h.1 h.2
  have hrelease := releaseRxSlot_of_active (j := j)
    (e := e'.count fun c => { c with delivered := c.delivered + 1 }) hvalid
    (by rw [count, hquiet.slot_eq]; exact hactive)
  rw [heq, hrelease]
  exact ⟨congrArg (·.deliver j) hquiet.books, hquiet.armed, hquiet.events⟩

/-- A slot is delivered and released, or nothing is counted. -/
theorem tryCompleteRxSlot_move (cb : ArqCallbacks) {j : Fin 4} (now : UInt32) (h : e.Valid)
    (hactive : (e.rxSlots j).active) :
    Move e (e.tryCompleteRxSlot cb j now).2 ∧
      ((e.tryCompleteRxSlot cb j now).1 = false → Quiet e (e.tryCompleteRxSlot cb j now).2) := by
  rw [tryCompleteRxSlot]
  dsimp only
  split
  · exact ⟨.quiet (.refl e), fun _ => .refl e⟩
  obtain ⟨n, hn⟩ := egressCapacity_snd cb e 1
  cases hegress : e.egressCapacity cb 1 with
  | mk egress e₁ =>
    rw [hegress] at hn
    subst hn
    have hcalled : Quiet e { e with calls := n } := .of_books rfl id rfl
    cases cb.deliverDatagram with
    | none => exact ⟨.quiet hcalled, fun _ => hcalled⟩
    | some deliver =>
      dsimp only
      split
      · exact ⟨.quiet hcalled, fun _ => hcalled⟩
      generalize (e.rxPool.memory (e.rxSlots j).reassembly.output).read 0
        (e.rxSlots j).reassembly.datagramLength.toNat = data
      generalize (e.rxSlots j).reassembly.datagramId = id
      cases deliver n data with
      | false =>
        rw [if_pos (by simp)]
        have hrefused : Quiet e (emit (called { e with calls := n }) (.delivered id data false)) :=
          .of_event rfl (fun harmed => harmed) rfl not_false
        exact ⟨.quiet hrefused, fun _ => hrefused⟩
      | true =>
        rw [if_neg (by simp)]
        obtain ⟨hbooks, harmed, evs, hevents, hcounted⟩ := finishRxSlot_books cb (j := j) now
          (e := emit (called { e with calls := n }) (.delivered id data true)) h hactive
        refine ⟨.deliver j hactive hbooks harmed ⟨id, data, evs, ?_, hcounted⟩,
          fun hfalse => by cases hfalse⟩
        rw [hevents]
        exact List.append_assoc ..

theorem tryCompleteRxSlotsFrom_moves (cb : ArqCallbacks) (now : UInt32) (slots : List (Fin 4))
    (h : e.Valid) : Moves e (tryCompleteRxSlotsFrom cb now slots e).2 := by
  induction slots generalizing e with
  | nil => exact .refl
  | cons j rest ih =>
    rw [tryCompleteRxSlotsFrom]
    split
    · next hwaiting =>
      obtain ⟨hmove, hquiet⟩ := tryCompleteRxSlot_move cb now h hwaiting.1
      split
      · next e' heq =>
        rw [heq] at hmove
        exact .single hmove
      · next e' heq =>
        rw [heq] at hmove
        exact (Relation.ReflTransGen.single hmove).trans (ih (hmove.valid h))
    · exact ih h

theorem acknowledgeData_moves (cb : ArqCallbacks) {j : Fin 4} (header : DataHeader) (now : UInt32)
    (h : e.Valid) (hactive : (e.rxSlots j).active) :
      Moves e (e.acknowledgeData cb j header now) := by
  rw [acknowledgeData]
  split
  · next hcomplete =>
    obtain ⟨hmove, hquiet⟩ := tryCompleteRxSlot_move cb now h hactive
    split
    · next e' heq =>
      rw [heq] at hmove
      exact .single hmove
    · next e' heq =>
      rw [heq] at hquiet
      have hquiet := hquiet rfl
      have hwait : Move e' (e'.waitForEgress j) := by
        refine .wait e' j ?_ ?_
        · rw [hquiet.slot_eq]
          exact hactive
        · rw [hquiet.slot_eq]
          exact hcomplete
      refine (hquiet.moves.tail hwait).trans ?_
      refine .trans ?_ (queueRxAck_quiet cb _ j .creditWithdrawal now).moves
      exact Moves.of_books rfl (fun harmed => harmed) rfl
  · split
    · exact (queueRxAck_quiet cb e j .none now).moves
    · exact .refl

/-- What follows `storeReassembly` in `acceptData`. -/
theorem acceptData_moves (cb : ArqCallbacks) {j : Fin 4} {header : DataHeader}
    {payload : List UInt8}
    {accepted : FragmentResult} {reassembly : ReassemblyV3} {memory : Buffer} (now : UInt32)
    (haccept : acceptFragment (e.rxSlots j).reassembly
      (e.rxPool.memory (e.rxSlots j).reassembly.output) header (some payload) =
        (accepted, reassembly, memory))
    (hactive : (e.rxSlots j).active) (h : (e.storeReassembly j reassembly memory).Valid) :
    Moves (e.storeReassembly j reassembly memory) (e.acceptData cb j header payload now) := by
  rw [acceptData, haccept]
  dsimp only
  split
  · refine .trans ?_ (queueFailureAck_quiet cb _ _ _ _ now _).moves
    exact Moves.of_books rfl (fun harmed => harmed) rfl
  · refine acknowledgeData_moves cb header now h ?_
    rw [storeReassembly, setRx_self]
    exact hactive

/-- A free receive slot leases a buffer and takes the first fragment of a datagram. -/
structure Activates (e e' : Exec) (j : Fin 4) : Prop where
  free : ¬ (e.rxSlots j).active
  valid : e'.Valid
  books : ∃ pool ref lease slot memory, acquireDatagram e.rxPool = (.ok, pool, lease) ∧
    slot.active ∧ slot.completeWaitingEgress = false ∧ e'.books = { e.books with
      rxPool := pool.setMemory (some ref) memory
      rxSlots := Function.update e.rxSlots j slot }
  armed : e'.creditProbeArmed → e.creditProbeArmed
  events : e'.events = e.events

/-- The first fragment of a datagram, in the slot that `allocateRxSlot` found. -/
theorem acceptData_activates (cb : ArqCallbacks) {j : Fin 4} {header : DataHeader}
    {payload : List UInt8} (now : UInt32) (h : e.Valid) (hempty : ¬ (e.rxSlots j).active)
    (hvalid : validateDataHeader header) (hlen : payload.length = header.payloadLen.toNat) :
    ∃ pool lease e₁, acquireDatagram e.rxPool = (.ok, pool, lease) ∧ Activates e e₁ j ∧
      Moves e₁ (acceptData cb ({ e with rxPool := pool }.setRx j ((e.rxSlots j).activate lease)) j
        header payload now) := by
  have hnone : (e.rxSlots j).held = none := by rw [RxSlot.held, if_neg hempty]
  obtain ⟨ref, pool, hacquire, _, _, hleases⟩ := h.2.leases.acquire hnone
  let slot : RxSlot := (e.rxSlots j).activate ⟨.ofRef ref, some ref, v3MaxDatagram⟩
  let e₁ : Exec := { e with rxPool := pool }.setRx j slot
  have hslot : e₁.rxSlots j = slot := setRx_self ..
  have hinactive : ¬ slot.reassembly.active := by simp [slot, RxSlot.activate, resetReassembly]
  have hreassembly : slot.reassembly.Valid ref :=
    ⟨rfl, rfl, fun hactive => absurd hactive hinactive⟩
  rcases acceptFragment_eq (e₁.rxPool.memory slot.reassembly.output) hreassembly hvalid hlen with
    ⟨_, _, hactive, _⟩ | ⟨_, result, state, memory, _, haccept, _, hactive, hstate, _⟩
  · exact absurd hactive hinactive
  have hstored : RxSlot.Valid { slot with reassembly := state } ref := ⟨rfl, hstate, hactive⟩
  obtain ⟨hrx, _⟩ := RxValid.store (fun k _ => h.2.slot k) hleases hstored rfl memory
  have hbooks : (e₁.storeReassembly j state memory).books = { e.books with
      rxPool := pool.setMemory (some ref) memory
      rxSlots := Function.update e.rxSlots j { slot with reassembly := state } } := by
    have hrxSlots : (e₁.storeReassembly j state memory).rxSlots =
        Function.update e.rxSlots j { slot with reassembly := state } := by
      change Function.update (Function.update e.rxSlots j slot) j
        { e₁.rxSlots j with reassembly := state } = _
      rw [Function.update_idem, hslot]
    have hrxPool : (e₁.storeReassembly j state memory).rxPool = pool.setMemory
      (some ref) memory := by
      change pool.setMemory (e₁.rxSlots j).reassembly.output memory = _
      rw [hslot]
      rfl
    rw [ArqEngine.books, hrxSlots, hrxPool]
    rfl
  have hv₁ : (e₁.storeReassembly j state memory).Valid := valid_of_books hbooks h.1 hrx
  refine ⟨pool, _, e₁.storeReassembly j state memory, hacquire, ?_, ?_⟩
  · exact ⟨hempty, hv₁, ⟨pool, ref, _, _, memory, hacquire, rfl, rfl, hbooks⟩, id, rfl⟩
  · exact acceptData_moves cb now (by rw [hslot]; exact haccept) (by rw [hslot]; rfl) hv₁

/-- A fragment for a slot that is active already. -/
theorem acceptData_held_moves (cb : ArqCallbacks) {j : Fin 4} {header : DataHeader}
    {payload : List UInt8} (now : UInt32) (h : e.Valid) (hactive : (e.rxSlots j).active)
    (hvalid : validateDataHeader header) (hlen : payload.length = header.payloadLen.toNat) :
    Moves e (e.acceptData cb j header payload now) := by
  obtain ⟨ref, hv⟩ := h.2.slot j hactive
  have hstored {result : FragmentResult} {state : ReassemblyV3} {memory : Buffer}
      (haccept : acceptFragment (e.rxSlots j).reassembly
        (e.rxPool.memory (e.rxSlots j).reassembly.output) header (some payload) =
          (result, state, memory))
      (hstate : state.Valid ref) (hopen : state.active)
      (hdone : reassemblyIsComplete (e.rxSlots j).reassembly → reassemblyIsComplete state) :
      Moves e (e.acceptData cb j header payload now) := by
    have hmove : Move e (e.storeReassembly j state memory) :=
      .store e j ref state memory hactive hv.reassembly.output ⟨hv.handle, hstate, hopen⟩ hdone
    exact .trans (.single hmove) (acceptData_moves cb now haccept hactive (hmove.valid h))
  rcases acceptFragment_eq (e.rxPool.memory (e.rxSlots j).reassembly.output) hv.reassembly
    hvalid hlen
    with ⟨state, haccept, hopen, _, hstate⟩ |
      ⟨opened, result, state, memory, hopened, haccept, _, hopen, hstate, hid, hlength, hbits, _⟩
  · refine hstored haccept ?_ ?_ ?_
    · rw [hstate]
      exact ⟨hv.reassembly.output, hv.reassembly.capacity, fun _ =>
        ⟨hv.consistent.length_pos, hv.consistent.length_le, hv.consistent.count, hv.consistent.bits,
          hv.consistent.lengths, hv.consistent.bytes⟩⟩
    · rw [hstate]
      exact hopen
    · rw [hstate]
      exact id
  · refine hstored haccept hstate hopen fun hcomplete => ?_
    -- a reassembly that is open keeps its length and its bits
    rw [openReassembly, if_neg (by simp [hv.active])] at hopened
    split at hopened
    · cases hopened
    · next hmatches =>
      cases hopened
      simp only [not_not, reassemblyMetadataMatches, decide_eq_true_eq] at hmatches
      rw [(hstate.consistent hopen).isComplete_iff hopen, hbits, hlength, ← hmatches.2.1]
      exact ((hv.consistent.isComplete_iff hv.active).mp hcomplete).or _

/-- `handleData` gets as far as `allocateRxSlot`, which takes a slot. -/
def allocates (e : Exec) (datagramId : UInt16) : Bool :=
  (duplicateWindowFind e.duplicateWindow datagramId).isNone ∧ (e.findRxSlot datagramId).isNone ∧
    e.allocateRxSlot.1.isSome

theorem handleData_moves (cb : ArqCallbacks) {header : DataHeader} {payload : List UInt8}
    (now : UInt32) (h : e.Valid) (hvalid : validateDataHeader header)
    (hlen : payload.length = header.payloadLen.toNat) :
    if e.allocates header.datagramId then
      ∃ e₁ j, Activates e e₁ j ∧ Moves e₁ (e.handleData cb header payload now)
    else Moves e (e.handleData cb header payload now) := by
  rw [handleData, allocates]
  cases hfind : duplicateWindowFind e.duplicateWindow header.datagramId with
  | some duplicate =>
    rw [if_neg (by simp)]
    refine .trans ?_ (enqueueAck_quiet _ _ _ _).moves
    refine .trans ?_ (currentCredits_quiet cb _).moves
    exact Moves.of_books rfl (fun harmed => harmed) rfl
  | none =>
    cases hslot : e.findRxSlot header.datagramId with
    | some j =>
      rw [if_neg (by simp)]
      obtain ⟨r, hr, _⟩ := findRxSlot_some hslot
      exact acceptData_held_moves cb now h (receiver_slot_some hr).1 hvalid hlen
    | none =>
      dsimp only
      rw [allocateRxSlot]
      cases hfree : (List.finRange 4).find? fun j => ¬ (e.rxSlots j).active with
      | none =>
        rw [if_neg (by simp)]
        dsimp only
        have hsaturated : Moves e (e.count fun c => { c with saturation := c.saturation + 1 }) :=
          Moves.of_books rfl (fun harmed => harmed) rfl
        have hqueued := hsaturated.trans (queueFailureAck_quiet cb _ header.datagramId 0
          .allocationFailure now .refused).moves
        exact hqueued.trans (Moves.of_books rfl (fun harmed => harmed) rfl)
      | some j =>
        have hempty : ¬ (e.rxSlots j).active := by simpa using (find_finRange_eq_some hfree).1
        obtain ⟨pool, lease, e₁, hacquire, hactivates, hmoves⟩ :=
          acceptData_activates cb now h hempty hvalid hlen
        simp only [hacquire]
        rw [if_pos (by simp)]
        exact ⟨e₁, j, hactivates, hmoves⟩

end Exec

/-! ### Calls -/

/-- The call takes a receive slot. -/
def ArqEngine.allocates (e : ArqEngine) : Call → Bool
  | .onRxPacket packet _ =>
    match parsePacketType packet, parseDataPacket packet with
    | .ok .data, .ok (header, _) => Exec.allocates { e with } header.datagramId
    | _, _ => false
  | _ => false

namespace Exec

variable {e : Exec}

theorem onRxPacket_moves {e : ArqEngine} (cb : ArqCallbacks) (packet : Packet) (now : UInt32)
    (h : e.Valid) :
    if e.allocates (.onRxPacket packet now) then
      ∃ e₁ j, Activates { e with } e₁ j ∧ Moves e₁ (onRxPacket cb { e with } packet now)
    else Moves { e with } (onRxPacket cb { e with } packet now) := by
  have hmalformed : Moves { e with } (count { e with } fun c =>
      { c with malformedInput := c.malformedInput + 1 }) :=
        Moves.of_books rfl (fun harmed => harmed) rfl
  rw [onRxPacket, ArqEngine.allocates]
  cases htype : parsePacketType packet with
  | error err => exact hmalformed
  | ok type =>
    cases type with
    | data =>
      cases hparse : parseDataPacket packet with
      | error err => exact hmalformed
      | ok frame =>
        obtain ⟨header, payload⟩ := frame
        obtain ⟨hvalid, hlen⟩ := parseDataPacket_sound hparse
        exact handleData_moves (e := { e with }) cb now h hvalid hlen
    | ack =>
      dsimp only
      rw [if_neg (by simp)]
      split
      · exact hmalformed
      · exact handleAck_moves _ now _
    | control | mgmt =>
      dsimp only
      rw [if_neg (by simp)]
      split
      · exact hmalformed
      · exact .refl

theorem onTick_moves (cb : ArqCallbacks) (now : UInt32) (h : e.Valid) :
    Moves e (e.onTick cb now) := by
  have hcomplete := tryCompleteRxSlotsFrom_moves cb now (List.finRange 4) h
  rw [onTick, tryCompleteRxSlots]
  split
  · next e₁ heq =>
    rw [heq] at hcomplete
    exact hcomplete.trans (sendPendingAck_quiet cb e₁ now).moves
  next e₁ heq =>
  rw [heq] at hcomplete
  have hsend := hcomplete.trans (sendPendingAck_quiet cb e₁ now).moves
  split
  · next e₂ heq =>
    rw [heq] at hsend
    exact hsend
  next e₂ heq =>
  rw [heq] at hsend
  have hretransmit := hsend.trans (trySendRetransmitFrom_moves cb now (List.finRange 4) e₂)
  rw [trySendRetransmit]
  split
  · next e₃ heq =>
    rw [heq] at hretransmit
    exact hretransmit
  next e₃ heq =>
  rw [heq] at hretransmit
  have hopen := hretransmit.trans (trySendOpenDataFrom_moves cb now (List.finRange 4) e₃)
  rw [trySendOpenData]
  split
  · next e₄ heq =>
    rw [heq] at hopen
    exact hopen
  · next e₄ heq =>
    rw [heq] at hopen
    exact hopen.trans (tryOpenQueued_moves cb now e₄)

end Exec

end FlrcTnc.Arq
