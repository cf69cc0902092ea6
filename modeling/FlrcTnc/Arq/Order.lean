import FlrcTnc.Arq.Wedge

/-! The order in which datagrams are opened.  The events of a run say which slots are `QUEUED`, in
the order in which their datagrams were accepted; the first of them should be opened next. -/

namespace FlrcTnc.Arq

open Framing

/-! ### Waiting datagrams -/

/-- One event, for the slots whose datagrams wait to be opened, the one accepted first in front. -/
def waitingStep (queue : List (Fin 4)) : Event → List (Fin 4)
  | .accepted i _ _ => queue ++ [i]
  | .opened i => queue.erase i
  | _ => queue

/-- The slots whose datagrams wait to be opened, in the order of acceptance. -/
def waiting (trace : List Event) : List (Fin 4) := trace.foldl waitingStep []

/-- Whatever is opened was accepted before everything else that waits. -/
def FirstComeFirstServed (trace : List Event) : Prop :=
  ∀ past i rest, trace = past ++ .opened i :: rest → (waiting past).head? = some i

theorem waiting_append (past evs : List Event) :
    waiting (past ++ evs) = evs.foldl waitingStep (waiting past) := List.foldl_append

theorem waiting_quiet {past evs : List Event}
    (h : ∀ ev ∈ evs, ∀ queue, waitingStep queue ev = queue) :
    waiting (past ++ evs) = waiting past := by
  rw [waiting_append]
  induction evs generalizing past with
  | nil => rfl
  | cons ev evs ih =>
    rw [List.foldl_cons, h ev (List.mem_cons_self ..)]
    exact ih fun ev hev => h ev (List.mem_cons_of_mem _ hev)

/-- The property event by event. -/
def Event.InTurn (past : List Event) : Event → Prop
  | .opened i => (waiting past).head? = some i
  | _ => True

theorem firstComeFirstServed_iff {trace : List Event} :
    FirstComeFirstServed trace ↔ Trace.Always (fun past ev => ev.InTurn past) trace := by
  constructor
  · rintro h past ev rest hsplit
    cases ev with
    | opened i => exact h past i rest hsplit
    | sent | delivered | accepted | failed | completed | ackQueued => trivial
  · exact fun h past i rest hsplit => h past _ rest hsplit

/-! ### The sender -/

/-- Slot `i` holds a datagram that waits. -/
def Sender.Waits (s : Sender) (i : Fin 4) : Prop := ∃ t, s.slots i = some t ∧ ¬ t.opened

/-- No empty slot stands below one whose datagram waits. -/
def Sender.KeepsOrder (s : Sender) : Prop := ∀ i k, i < k → s.slots i = none → ¬ s.Waits k

/-- `queue` lists the slots that wait, each once. -/
structure Sender.Queue (s : Sender) (queue : List (Fin 4)) : Prop where
  mem : ∀ k, k ∈ queue ↔ s.Waits k
  nodup : queue.Nodup

namespace Sender

theorem Queue.empty (nextId : UInt16) : Queue ⟨fun _ => none, nextId⟩ [] where
  mem k := by
    refine iff_of_false List.not_mem_nil ?_
    rintro ⟨t, ht, _⟩
    cases ht
  nodup := List.nodup_nil

theorem waits_setSlot {s : Sender} {i k : Fin 4} {t : Option Outgoing} :
    (s.setSlot i t).Waits k ↔ (k = i ∧ ∃ u, t = some u ∧ ¬ u.opened) ∨ (k ≠ i ∧ s.Waits k) := by
  simp only [Waits, setSlot_eq_some_iff]
  constructor
  · rintro ⟨u, ⟨hk, hu⟩ | ⟨hk, hu⟩, hopened⟩
    · exact .inl ⟨hk, u, hu, hopened⟩
    · exact .inr ⟨hk, u, hu, hopened⟩
  · rintro (⟨hk, u, hu, hopened⟩ | ⟨hk, u, hu, hopened⟩)
    · exact ⟨u, .inl ⟨hk, hu⟩, hopened⟩
    · exact ⟨u, .inr ⟨hk, hu⟩, hopened⟩

/-- A slot that does not wait, before or after, does not matter. -/
theorem Queue.setSlot {s : Sender} {queue : List (Fin 4)} (h : s.Queue queue) {i : Fin 4}
    {t : Option Outgoing} (hold : ¬ s.Waits i) (hnew : ∀ u, t = some u → u.opened) :
    (s.setSlot i t).Queue queue where
  mem k := by
    rw [h.mem, waits_setSlot]
    constructor
    · intro hk
      refine .inr ⟨?_, hk⟩
      rintro rfl
      exact hold hk
    · rintro (⟨_, u, hu, hopened⟩ | ⟨_, hk⟩)
      · exact absurd (hnew u hu) hopened
      · exact hk
  nodup := h.nodup

theorem Open.not_waits {s : Sender} {i : Fin 4} {t : Outgoing} (h : s.Open i t) : ¬ s.Waits i := by
  rintro ⟨u, hu, hopened⟩
  cases h.1.symm.trans hu
  exact hopened h.2

theorem Queue.act {s s' : Sender} {evs : List Event} {queue : List (Fin 4)} (h : s.Queue queue)
    (hact : s.Act evs s') : s'.Queue (evs.foldl waitingStep queue) := by
  cases hact with
  | accept i data hpos hmax hempty hfirst =>
    have hnot : ¬ s.Waits i := by
      rintro ⟨t, ht, _⟩
      rw [hempty] at ht
      cases ht
    refine ⟨fun k => ?_, ?_⟩
    · have hwaits : Waits { s.setSlot i (some ⟨false, s.nextId, data, 0⟩) with
          nextId := s.nextId + 1 } k ↔
          (s.setSlot i (some ⟨false, s.nextId, data, 0⟩)).Waits k := Iff.rfl
      rw [hwaits, waits_setSlot]
      change k ∈ queue ++ [i] ↔ _
      rw [List.mem_append, List.mem_singleton, h.mem]
      constructor
      · rintro (hk | rfl)
        · refine .inr ⟨?_, hk⟩
          rintro rfl
          exact hnot hk
        · exact .inl ⟨rfl, _, rfl, by simp⟩
      · rintro (⟨hk, _⟩ | ⟨_, hk⟩)
        · exact .inr hk
        · exact .inl hk
    · refine List.nodup_append.mpr ⟨h.nodup, List.nodup_singleton i, ?_⟩
      rintro k hk _ hi rfl
      rw [List.mem_singleton.mp hi, h.mem] at hk
      exact hnot hk
  | openSlot i t ht hnone hfirst =>
    refine ⟨fun k => ?_, h.nodup.erase i⟩
    rw [waits_setSlot]
    change k ∈ queue.erase i ↔ _
    rw [h.nodup.mem_erase_iff, h.mem]
    constructor
    · exact fun ⟨hk, hwaits⟩ => .inr ⟨hk, hwaits⟩
    · rintro (⟨_, u, hu, hopened⟩ | hk)
      · cases hu
        exact absurd rfl hopened
      · exact hk
  | send => exact h
  | fail i t ht hmissing => exact h.setSlot ht.not_waits (fun u hu => by cases hu)

theorem Queue.receive {s s' : Sender} {ack : AckFrame} {evs : List Event} {queue : List (Fin 4)}
    (h : s.Queue queue) (hreceive : s.Receive ack evs s') :
    s'.Queue (evs.foldl waitingStep queue) := by
  cases hreceive with
  | ignore => exact h
  | withdraw i t ht | add i t ht =>
    refine h.setSlot ht.not_waits fun u hu => ?_
    cases hu
    exact ht.2
  | complete i t ht => exact h.setSlot ht.not_waits (fun u hu => by cases hu)

/-- A queue in slot order stays so if the sender keeps the order. -/
theorem Queue.sorted_act {s s' : Sender} {evs : List Event} {queue : List (Fin 4)}
    (h : s.Queue queue) (hsorted : queue.Pairwise (· < ·)) (hact : s.Act evs s')
    (hkeep : (∃ ev ∈ evs, ev.Acceptance) → s.KeepsOrder) :
    (evs.foldl waitingStep queue).Pairwise (· < ·) := by
  cases hact with
  | accept i data hpos hmax hempty hfirst =>
    have hkeep := hkeep ⟨_, List.mem_singleton_self _, trivial⟩
    change (queue ++ [i]).Pairwise (· < ·)
    refine List.pairwise_append.mpr ⟨hsorted, List.pairwise_singleton .., ?_⟩
    rintro k hk _ hi
    rw [List.mem_singleton.mp hi]
    rw [h.mem] at hk
    refine lt_of_le_of_ne (not_lt.mp fun hlt => hkeep i k hlt hempty hk) ?_
    rintro rfl
    obtain ⟨t, ht, _⟩ := hk
    rw [hempty] at ht
    cases ht
  | openSlot => exact hsorted.sublist List.erase_sublist
  | send | fail => exact hsorted

theorem Queue.sorted_receive {s s' : Sender} {ack : AckFrame} {evs : List Event}
    {queue : List (Fin 4)} (hsorted : queue.Pairwise (· < ·)) (hreceive : s.Receive ack evs s') :
    (evs.foldl waitingStep queue).Pairwise (· < ·) := by
  cases hreceive with
  | ignore | withdraw | add | complete => exact hsorted

/-- With the queue in slot order, the slot that is opened stands in front. -/
theorem Queue.head_of_open {s : Sender} {queue : List (Fin 4)} (h : s.Queue queue)
    (hsorted : queue.Pairwise (· < ·)) {i : Fin 4} (hwaits : s.Waits i)
    (hfirst : ∀ k < i, s.slots k = none) : queue.head? = some i := by
  have hmem := (h.mem i).mpr hwaits
  cases queue with
  | nil => cases hmem
  | cons k rest =>
    rcases List.mem_cons.mp hmem with rfl | hrest
    · rfl
    · have hlt := (List.pairwise_cons.mp hsorted).1 i hrest
      obtain ⟨t, ht, _⟩ := (h.mem k).mp (List.mem_cons_self ..)
      rw [hfirst k hlt] at ht
      cases ht

end Sender

/-! ### The party -/

/-- The queue of a run is in slot order, and so far everything was opened in its turn. -/
structure Ordered (past : List Event) (p : Party) : Prop where
  queue : p.sender.Queue (waiting past)
  sorted : (waiting past).Pairwise (· < ·)
  inTurn : Trace.Always (fun past ev => ev.InTurn past) past

namespace Ordered

variable {past evs : List Event} {p q : Party}

/-- Events of the receiver move no queue. -/
theorem waiting_ofReceiver (hevs : ∀ ev ∈ evs, ev.OfReceiver) :
    waiting (past ++ evs) = waiting past := by
  refine waiting_quiet fun ev hev queue => ?_
  have hof := hevs ev hev
  cases ev with
  | sent | delivered | ackQueued => rfl
  | accepted | opened | failed | completed => exact hof.elim

theorem of_receiver {s : Sender} {r r' : Receiver} (h : Ordered past ⟨s, r⟩)
    (hevs : ∀ ev ∈ evs, ev.OfReceiver) : Ordered (past ++ evs) ⟨s, r'⟩ := by
  refine ⟨?_, ?_, Trace.always_append h.inTurn (Trace.always_of_forall fun ev hev more => ?_)⟩
  · rw [waiting_ofReceiver hevs]
    exact h.queue
  · rw [waiting_ofReceiver hevs]
    exact h.sorted
  · have hof := hevs ev hev
    cases ev with
    | opened => exact hof.elim
    | sent | delivered | ackQueued | accepted | failed | completed => trivial

theorem senderAct {s s' : Sender} {r : Receiver} (h : Ordered past ⟨s, r⟩) (hact : s.Act evs s')
    (hkeep : (∃ ev ∈ evs, ev.Acceptance) → s.KeepsOrder) : Ordered (past ++ evs) ⟨s', r⟩ := by
  refine ⟨?_, ?_, Trace.always_append h.inTurn ?_⟩
  · rw [waiting_append]
    exact h.queue.act hact
  · rw [waiting_append]
    exact h.queue.sorted_act h.sorted hact hkeep
  · cases hact with
    | openSlot i t ht hnone hfirst =>
      refine Trace.always_singleton.mpr ?_
      change (waiting (past ++ [])).head? = some i
      rw [List.append_nil]
      exact h.queue.head_of_open h.sorted ⟨t, ht, hnone i t ht⟩ hfirst
    | accept | send | fail => exact Trace.always_singleton.mpr trivial

theorem senderReceive {s s' : Sender} {r : Receiver} {ack : AckFrame} (h : Ordered past ⟨s, r⟩)
    (hreceive : s.Receive ack evs s') : Ordered (past ++ evs) ⟨s', r⟩ := by
  refine ⟨?_, ?_, Trace.always_append h.inTurn ?_⟩
  · rw [waiting_append]
    exact h.queue.receive hreceive
  · rw [waiting_append]
    exact Sender.Queue.sorted_receive h.sorted hreceive
  · cases hreceive with
    | ignore | withdraw | add => exact Trace.always_nil
    | complete => exact Trace.always_singleton.mpr trivial

theorem act (h : Ordered past p) (hact : Party.Act p evs q)
    (hkeep : (∃ ev ∈ evs, ev.Acceptance) → p.sender.KeepsOrder) : Ordered (past ++ evs) q := by
  cases hact with
  | sender r hact => exact h.senderAct hact hkeep
  | receiver s hact => exact h.of_receiver hact.ofReceiver

theorem own (h : Ordered past p) (hown : Party.Own p evs q) : Ordered (past ++ evs) q :=
  h.act hown.1 fun ⟨ev, hev, haccepts⟩ => absurd haccepts (hown.2 ev hev)

theorem submit (h : Ordered past p) (hsubmit : Party.Submit p evs q)
    (hkeep : p.sender.KeepsOrder) : Ordered (past ++ evs) q := by
  cases hsubmit with
  | reject => rwa [List.append_nil]
  | accept hact => exact h.act hact fun _ => hkeep

theorem receive {packet : Packet} (h : Ordered past p) (hreceive : Party.Receive packet p evs q) :
    Ordered (past ++ evs) q := by
  cases hreceive with
  | ignore => rwa [List.append_nil]
  | data s hpacket hreceive => exact h.of_receiver hreceive.ofReceiver
  | ack r hpacket hreceive => exact h.senderReceive hreceive

end Ordered

/-! ### Runs -/

/-- Every call of the run meets `C` in the engine before it. -/
def ArqEngine.Meets (C : ArqEngine → Call → Prop) (e : ArqEngine) :
    List (ArqCallbacks × Call) → Prop
  | [] => True
  | (cb, call) :: calls => C e call ∧ (e.run cb call).toArqEngine.Meets C calls

instance ArqEngine.decidableMeets (C : ArqEngine → Call → Prop) [∀ e call, Decidable (C e call)]
    (e : ArqEngine) (calls : List (ArqCallbacks × Call)) : Decidable (e.Meets C calls) := by
  induction calls generalizing e with
  | nil => exact instDecidableTrue
  | cons step calls ih =>
    have hrest := ih (e.run step.1 step.2).toArqEngine
    exact inferInstanceAs (Decidable (_ ∧ _))

/-- Unless the call accepts a datagram while an `EMPTY` slot stands below a `QUEUED` one. -/
def Call.KeepsOrder (e : ArqEngine) : Call → Prop
  | .onTxDatagram (some data) =>
    data.length = 0 ∨ data.length > v3MaxDatagram.toNat ∨
      ∀ i k, i < k → (e.txSlots i).state = .empty → (e.txSlots k).state ≠ .queued
  | .onTxDatagram none | .onRxPacket .. | .onTick _ | .flushPendingAck _ => True

instance (e : ArqEngine) (call : Call) : Decidable (call.KeepsOrder e) := by
  cases call with
  | onTxDatagram data =>
    cases data with
    | none => exact instDecidableTrue
    | some data => exact inferInstanceAs (Decidable (_ ∨ _ ∨ _))
  | onRxPacket | onTick | flushPendingAck => exact instDecidableTrue

/-- The slots that wait are the `QUEUED` ones. -/
theorem ArqEngine.waits_iff {e : ArqEngine} {i : Fin 4} :
    e.sender.Waits i ↔ (e.txSlots i).state = .queued := by
  simp only [Sender.Waits, sender, TxSlot.outgoing]
  cases (e.txSlots i).state <;> simp

theorem ArqEngine.keepsOrder_of {e : ArqEngine}
    (h : ∀ i k, i < k → (e.txSlots i).state = .empty → (e.txSlots k).state ≠ .queued) :
    e.sender.KeepsOrder := by
  intro i k hik hempty hwaits
  refine h i k hik ?_ (waits_iff.mp hwaits)
  simp only [sender, TxSlot.outgoing] at hempty
  split at hempty
  · assumption
  · cases hempty

/-- A datagram of an impossible length is rejected. -/
theorem onTxDatagram_badLength {e : ArqEngine} {data : List UInt8}
    (h : data.length = 0 ∨ data.length > v3MaxDatagram.toNat) (cb : ArqCallbacks) :
    (e.run cb (.onTxDatagram (some data))).party = e.party ∧
      (e.run cb (.onTxDatagram (some data))).events = [] := by
  simp only [ArqEngine.run, Exec.onTxDatagram, if_pos h]
  exact ⟨rfl, rfl⟩

theorem Ordered.run {e : ArqEngine} {past : List Event} (h : e.Valid) (he : Ordered past e.party)
    (calls : List (ArqCallbacks × Call)) (hkeep : e.Meets (fun e call => call.KeepsOrder e) calls) :
    Ordered (past ++ e.trace calls) (e.after calls).party := by
  induction calls generalizing e past with
  | nil => rwa [ArqEngine.trace, List.append_nil]
  | cons step calls ih =>
    obtain ⟨cb, call⟩ := step
    obtain ⟨hvalid, hdoes⟩ := ArqEngine.run_spec h cb call
    obtain ⟨hcall, hrest⟩ := hkeep
    rw [ArqEngine.trace, ← List.append_assoc]
    refine ih hvalid ?_ hrest
    cases call with
    | onRxPacket packet now => exact he.receive hdoes
    | onTick | flushPendingAck => exact Party.Tick.invariant (fun hp hown => hp.own hown) hdoes he
    | onTxDatagram data =>
      cases data with
      | none => exact (List.append_nil past).symm ▸ he
      | some data =>
        have hreject (hbad : data.length = 0 ∨ data.length > v3MaxDatagram.toNat) :
            Ordered (past ++ (e.run cb (.onTxDatagram (some data))).events)
              (e.run cb (.onTxDatagram (some data))).party := by
          obtain ⟨hparty, hevents⟩ := onTxDatagram_badLength (e := e) hbad cb
          rwa [hparty, hevents, List.append_nil]
        rcases hcall with hempty | hlong | hkeep
        · exact hreject (.inl hempty)
        · exact hreject (.inr hlong)
        · exact he.submit hdoes (ArqEngine.keepsOrder_of hkeep)

/-- If no datagram is accepted into a slot below one that is `QUEUED`, datagrams are opened in the
order of their acceptance. -/
theorem first_come_first_served (config : ArqConfig) (calls : List (ArqCallbacks × Call))
    (hkeep : (ArqEngine.reset config).Meets (fun e call => call.KeepsOrder e) calls) :
    FirstComeFirstServed ((ArqEngine.reset config).trace calls) := by
  have hstart : Ordered [] (ArqEngine.reset config).party :=
    ⟨Sender.Queue.empty _, List.Pairwise.nil, Trace.always_nil⟩
  have hrun := hstart.run (ArqEngine.reset_valid config) calls hkeep
  rw [List.nil_append] at hrun
  exact firstComeFirstServed_iff.mpr hrun.inTurn

/-- Two datagrams, and two more after the first is completed and the second is open. -/
def inTurnCalls : List (ArqCallbacks × Call) :=
  [({}, .onTxDatagram (some [1])), ({}, .onTxDatagram (some [2])), ({}, .onTick 0),
    ({}, .onRxPacket (ackPacket ⟨0, 1, 4, .none⟩) 0), ({}, .onTick 0),
    ({}, .onTxDatagram (some [3])), ({}, .onTxDatagram (some [4])),
    ({}, .onRxPacket (ackPacket ⟨1, 1, 4, .none⟩) 0), ({}, .onTick 0)]

theorem first_come_first_served_inTurnCalls :
    FirstComeFirstServed ((ArqEngine.reset {}).trace inTurnCalls) :=
  first_come_first_served {} inTurnCalls (by decide +kernel)

/-- A datagram that takes the slot of a completed one overtakes the one that waits above. -/
def overtakingCalls : List (ArqCallbacks × Call) :=
  [({}, .onTxDatagram (some [1])), ({}, .onTxDatagram (some [2])), ({}, .onTick 0),
    ({}, .onRxPacket (ackPacket ⟨0, 1, 4, .none⟩) 0), ({}, .onTxDatagram (some [3])),
    ({}, .onTick 0)]

theorem overtakingCalls_trace : (ArqEngine.reset {}).trace overtakingCalls =
    [.accepted 0 0 [1], .accepted 1 1 [2], .opened 0, .completed 0, .accepted 0 2 [3],
      .opened 0] := by
  decide +kernel

theorem not_first_come_first_served : ¬ ∀ (config : ArqConfig) (calls : List (ArqCallbacks × Call)),
    FirstComeFirstServed ((ArqEngine.reset config).trace calls) := by
  intro h
  have hhead := h {} overtakingCalls
    [.accepted 0 0 [1], .accepted 1 1 [2], .opened 0, .completed 0, .accepted 0 2 [3]] 0 []
    overtakingCalls_trace
  exact absurd hhead (by decide)

end FlrcTnc.Arq
