import FlrcTnc.Arq.AckQueue
import FlrcTnc.Arq.Credit
import FlrcTnc.Arq.RoundRuns

/-! ACKs before DATA: when a tick that finds a pending ACK due sends an ACK and nothing else. -/

namespace FlrcTnc.Arq

open Framing

/-! ### What a tick hands over -/

/-- The packet that `send_packet` is given, and its answer. -/
def Event.handed : Event → Option (Packet × Bool)
  | .sent packet ok => some (packet, ok)
  | _ => none

def handedPackets (evs : List Event) : List (Packet × Bool) := evs.filterMap Event.handed

theorem takenPackets_of_handed {evs : List Event} {packet : Packet}
    (h : handedPackets evs = [(packet, true)]) : takenPackets evs = [packet] := by
  have htaken : takenPackets evs =
      (handedPackets evs).filterMap fun handed => if handed.2 then some handed.1 else none := by
    rw [takenPackets, handedPackets, List.filterMap_filterMap]
    refine List.filterMap_congr fun ev _ => ?_
    cases ev with
    | sent packet ok => cases ok <;> rfl
    | _ => rfl
  rw [htaken, h]
  rfl

/-- One packet is handed over, which is an ACK and is taken. -/
def AckAlone (evs : List Event) : Prop :=
  ∃ packet ack, parseAckPacket packet = .ok ack ∧ handedPackets evs = [(packet, true)]

/-- Whether the host takes the datagram of slot `j` if so many callbacks have been called before,
and how many have been called then. -/
def ArqEngine.hostTakes (e : ArqEngine) (cb : ArqCallbacks) (calls : Nat) (j : Fin 4) :
    Bool × Nat :=
  let reassembly := (e.rxSlots j).reassembly
  let data := (e.rxPool.memory reassembly.output).read 0 reassembly.datagramLength.toNat
  let asked := if cb.egressCapacity.isSome then calls + 1 else calls
  if ¬ reassemblyIsComplete reassembly then (false, calls)
  else if cb.deliverDatagram.isNone ∨ cb.egressCapacity.any fun egress => egress calls = 0 then
    (false, asked)
  else (cb.deliverDatagram.any fun deliver => deliver asked data, asked + 1)

/-- The first slot whose datagram waits for egress and is taken by the host. -/
def ArqEngine.takenFrom (e : ArqEngine) (cb : ArqCallbacks) : Nat → List (Fin 4) → Option (Fin 4)
  | _, [] => none
  | calls, j :: rest =>
    if (e.rxSlots j).active ∧ (e.rxSlots j).completeWaitingEgress then
      if (e.hostTakes cb calls j).1 then some j
      else e.takenFrom cb (e.hostTakes cb calls j).2 rest
    else e.takenFrom cb calls rest

/-- The id of the datagram that the host takes in a tick. -/
def ArqEngine.taken (e : ArqEngine) (cb : ArqCallbacks) : Option UInt16 :=
  (e.takenFrom cb 0 (List.finRange 4)).map fun j => (e.rxSlots j).reassembly.datagramId

/-- The first pending ACK is due at `now`, also if the tick renews it since it delivers its
datagram. -/
def ArqEngine.HeadReady (e : ArqEngine) (cb : ArqCallbacks) (now : UInt32) : Prop :=
  ∃ head rest, e.pendingAcks.entries = head :: rest ∧
    ¬ isBefore now (if e.taken cb = some head.ack.datagramId then
      now + e.config.ackTurnaroundCycles else head.readyDeadline)

/-! ### Deliveries -/

namespace Exec

variable {e : Exec} {cb : ArqCallbacks} {now : UInt32}

theorem handedPackets_append (evs evs' : List Event) :
    handedPackets (evs ++ evs') = handedPackets evs ++ handedPackets evs' := List.filterMap_append

/-- The queue, and what has been handed over so far. -/
def queueAndHanded (e : Exec) : List PendingAck × List (Packet × Bool) :=
  (e.pendingAcks.entries, handedPackets e.events)

theorem egressCapacity_queue (cb : ArqCallbacks) (e : Exec) (default : UInt8) :
    (e.egressCapacity cb default).2.queueAndHanded = e.queueAndHanded := by
  obtain ⟨n, hn⟩ := egressCapacity_snd cb e default
  rw [hn]
  rfl

/-- The answer about egress that `tryCompleteRxSlot` goes by. -/
theorem egressCapacity_asked (cb : ArqCallbacks) (e : Exec) :
    ((e.egressCapacity cb 1).1 = 0 ↔ cb.egressCapacity.any fun egress => egress e.calls = 0) ∧
      (e.egressCapacity cb 1).2 =
        { e with calls := if cb.egressCapacity.isSome then e.calls + 1 else e.calls } := by
  cases hegress : cb.egressCapacity <;> simp [Exec.egressCapacity, hegress, called]

theorem enqueueAck_queue (e : Exec) (ack : AckFrame) (deadline : UInt32) (source : AckSource) :
    (e.enqueueAck ack deadline source).2.queueAndHanded =
      (enqueuePending e.pendingAcks.entries ack deadline, handedPackets e.events) := by
  unfold queueAndHanded
  rw [enqueueAck_entries]
  obtain ⟨pending, counters, heq, _⟩ := enqueueAck_snd e ack deadline source
  rw [heq, handedPackets_append]
  have hnone : handedPackets (enqueueEvents e.pendingAcks.frames ack source) = [] := by
    refine List.filterMap_eq_nil_iff.mpr fun ev hev => ?_
    rw [eq_of_mem_enqueueEvents hev]
    rfl
  rw [hnone, List.append_nil]

theorem releaseRxSlot_queue (e : Exec) (j : Fin 4) :
    (e.releaseRxSlot j).queueAndHanded = e.queueAndHanded := by
  unfold releaseRxSlot
  dsimp only
  split <;> rfl

/-- A delivery renews or adds the ACK of its datagram. -/
theorem finishRxSlot_queue (cb : ArqCallbacks) (e : Exec) (j : Fin 4) (now : UInt32) :
    ∃ ack, ack.datagramId = (e.rxSlots j).reassembly.datagramId ∧
      (e.finishRxSlot cb j now).queueAndHanded =
        (enqueuePending e.pendingAcks.entries ack (now + e.config.ackTurnaroundCycles),
          handedPackets e.events) := by
  obtain ⟨n, hn⟩ := currentCredits_snd cb e
  -- the engine with the new entry of the duplicate window
  obtain ⟨stored, hstored⟩ : ∃ stored : Exec, stored = { e with
      calls := n
      duplicateWindow := duplicateWindowStore e.duplicateWindow (e.rxSlots j).reassembly.datagramId
        ⟨expectedBitmap (e.rxSlots j).reassembly.fragmentCount, (e.currentCredits cb).1, .none⟩ } :=
    ⟨_, rfl⟩
  obtain ⟨m, hm⟩ := currentCredits_snd cb stored
  refine ⟨⟨(e.rxSlots j).reassembly.datagramId,
    expectedBitmap (e.rxSlots j).reassembly.fragmentCount, (stored.currentCredits cb).1, .none⟩,
    rfl, ?_⟩
  unfold finishRxSlot
  dsimp only
  rw [releaseRxSlot_queue, hn, ← hstored, hm]
  refine (enqueueAck_queue _ _ _ _).trans ?_
  rw [hstored]

/-- The datagram of one slot is offered to the host. -/
theorem tryCompleteRxSlot_queue (cb : ArqCallbacks) (e : Exec) (j : Fin 4) (now : UInt32) :
    ((e.hostTakes cb e.calls j).1 = false ∧ (e.tryCompleteRxSlot cb j now).1 = false ∧
        (e.tryCompleteRxSlot cb j now).2.toArqEngine = e.toArqEngine ∧
        (e.tryCompleteRxSlot cb j now).2.calls = (e.hostTakes cb e.calls j).2 ∧
        (e.tryCompleteRxSlot cb j now).2.queueAndHanded = e.queueAndHanded) ∨
      ((e.hostTakes cb e.calls j).1 = true ∧ (e.tryCompleteRxSlot cb j now).1 = true ∧
        ∃ ack, ack.datagramId = (e.rxSlots j).reassembly.datagramId ∧
          (e.tryCompleteRxSlot cb j now).2.queueAndHanded =
            (enqueuePending e.pendingAcks.entries ack (now + e.config.ackTurnaroundCycles),
              handedPackets e.events)) := by
  unfold tryCompleteRxSlot ArqEngine.hostTakes
  dsimp only
  by_cases hcomplete : reassemblyIsComplete (e.rxSlots j).reassembly
  · rw [if_neg (not_not.mpr hcomplete), if_neg (not_not.mpr hcomplete)]
    obtain ⟨hzero, hasked⟩ := egressCapacity_asked cb e
    have hqueue := egressCapacity_queue cb e 1
    cases hcap : e.egressCapacity cb 1 with
    | mk egress asked =>
      rw [hcap] at hzero hasked hqueue
      dsimp only at hzero hasked hqueue
      cases hdeliver : cb.deliverDatagram with
      | none =>
        rw [if_pos (.inl rfl), hasked]
        exact .inl ⟨rfl, rfl, rfl, rfl, rfl⟩
      | some deliver =>
        dsimp only
        by_cases hfull : egress = 0
        · rw [if_pos (.inr (hzero.mp hfull)), if_pos hfull, hasked]
          exact .inl ⟨rfl, rfl, rfl, rfl, rfl⟩
        · have hwilling : ¬ ((some deliver).isNone ∨
              cb.egressCapacity.any fun egress => egress e.calls = 0) :=
            not_or.mpr ⟨Bool.false_ne_true, mt hzero.mpr hfull⟩
          rw [if_neg hwilling, if_neg hfull, hasked]
          generalize (if cb.egressCapacity.isSome then e.calls + 1 else e.calls) = n
          dsimp only [Option.any_some]
          split
          · next hrefuses =>
            refine .inl ⟨by simpa using hrefuses, rfl, rfl, rfl, ?_⟩
            exact Prod.ext rfl ((handedPackets_append _ _).trans (List.append_nil _))
          · next htakes =>
            refine .inr ⟨by simpa using htakes, rfl, ?_⟩
            generalize (e.rxPool.memory (e.rxSlots j).reassembly.output).read 0
              (e.rxSlots j).reassembly.datagramLength.toNat = data
            obtain ⟨ack, hid, hfinished⟩ := finishRxSlot_queue cb
              (Exec.emit { e with calls := n + 1 }
                (.delivered (e.rxSlots j).reassembly.datagramId data (deliver n data))) j now
            refine ⟨ack, hid, hfinished.trans (Prod.ext rfl ?_)⟩
            exact (handedPackets_append _ _).trans (List.append_nil _)
  · rw [if_pos hcomplete, if_pos hcomplete]
    exact .inl ⟨rfl, rfl, rfl, rfl, rfl⟩

/-- What becomes of the queue in the deliveries of a tick. -/
theorem tryCompleteRxSlotsFrom_queue (cb : ArqCallbacks) (now : UInt32) (slots : List (Fin 4))
    (e : Exec) :
    (e.takenFrom cb e.calls slots = none ∧ (tryCompleteRxSlotsFrom cb now slots e).1 = false ∧
        (tryCompleteRxSlotsFrom cb now slots e).2.queueAndHanded = e.queueAndHanded) ∨
      ∃ j ack, e.takenFrom cb e.calls slots = some j ∧
        (tryCompleteRxSlotsFrom cb now slots e).1 = true ∧
        ack.datagramId = (e.rxSlots j).reassembly.datagramId ∧
        (tryCompleteRxSlotsFrom cb now slots e).2.queueAndHanded =
          (enqueuePending e.pendingAcks.entries ack (now + e.config.ackTurnaroundCycles),
            handedPackets e.events) := by
  induction slots generalizing e with
  | nil => exact .inl ⟨rfl, rfl, rfl⟩
  | cons j rest ih =>
    rw [tryCompleteRxSlotsFrom, ArqEngine.takenFrom]
    split
    · rcases tryCompleteRxSlot_queue cb e j now with ⟨hrefuses, hfalse, hsame, hcalls, hqueue⟩ |
        ⟨htakes, htrue, ack, hid, hqueue⟩
      · rw [if_neg (by rw [hrefuses]; decide)]
        cases hslot : e.tryCompleteRxSlot cb j now with
        | mk completed e' =>
          rw [hslot] at hfalse hsame hcalls hqueue
          dsimp only at hfalse hsame hcalls hqueue ⊢
          rw [hfalse]
          dsimp only
          have hentries : e'.pendingAcks.entries = e.pendingAcks.entries :=
            congrArg Prod.fst hqueue
          have hhanded : handedPackets e'.events = handedPackets e.events :=
            congrArg Prod.snd hqueue
          have hrest := ih e'
          rw [hcalls, hqueue, hhanded, hsame] at hrest
          exact hrest
      · rw [if_pos htakes]
        cases hslot : e.tryCompleteRxSlot cb j now with
        | mk completed e' =>
          rw [hslot] at htrue hqueue
          dsimp only at htrue hqueue ⊢
          rw [htrue]
          exact .inr ⟨j, ack, rfl, rfl, hid, hqueue⟩
    · exact ih e

/-- An ACK that is due and that `send_packet` takes. -/
theorem sendPendingAck_due {head : PendingAck} {rest : List PendingAck}
    (hentries : e.pendingAcks.entries = head :: rest) (hcb : cb.TakesAll)
    (hknown : isKnownFailureStatus head.ack.failure) (hdue : ¬ isBefore now head.readyDeadline) :
    ∃ packet ack, parseAckPacket packet = .ok ack ∧ (e.sendPendingAck cb now).1 = true ∧
      handedPackets (e.sendPendingAck cb now).2.events =
        handedPackets e.events ++ [(packet, true)] := by
  obtain ⟨send, hsend, htakes⟩ := hcb
  obtain ⟨packet, hbuild⟩ : ∃ packet, buildAckPacket head.ack = .ok packet := by
    rw [buildAckPacket, if_neg (not_not.mpr hknown)]
    exact ⟨_, rfl⟩
  refine ⟨packet, head.ack, ack_exact.parses_of_builds hbuild, ?_⟩
  unfold sendPendingAck
  split
  · next pending rest' send' hentries' hsend' =>
    obtain ⟨rfl, rfl⟩ := List.cons.inj (hentries.symm.trans hentries')
    obtain rfl := Option.some.inj (hsend.symm.trans hsend')
    rw [if_neg hdue, hbuild]
    dsimp only
    rw [htakes, if_neg (not_not.mpr rfl)]
    exact ⟨rfl, handedPackets_append _ _⟩
  · next hnone => exact absurd hsend (hnone head rest send hentries)

end Exec

/-! ### The head of the queue -/

theorem enqueuePending_cons (head : PendingAck) (rest : List PendingAck) (ack : AckFrame)
    (readyDeadline : UInt32) : ∃ head' rest',
      enqueuePending (head :: rest) ack readyDeadline = head' :: rest' ∧ head'.readyDeadline =
        if ack.datagramId = head.ack.datagramId then readyDeadline else head.readyDeadline := by
  rw [enqueuePending, List.findIdx?_cons]
  by_cases hid : head.ack.datagramId = ack.datagramId
  · rw [if_pos (decide_eq_true hid), if_pos hid.symm]
    exact ⟨_, rest, rfl, rfl⟩
  · rw [if_neg (by simpa using hid), if_neg (Ne.symm hid)]
    cases rest.findIdx? fun p => p.ack.datagramId = ack.datagramId with
    | some i => exact ⟨head, _, rfl, rfl⟩
    | none =>
      dsimp only [Option.map_none]
      split
      · exact ⟨head, rest, rfl, rfl⟩
      · exact ⟨head, _, rfl, rfl⟩

namespace ArqEngine

variable {e : ArqEngine} {cb : ArqCallbacks} {now : UInt32}

/-- The first pending ACK behind the deliveries of a tick. -/
theorem tryCompleteRxSlots_head (cb : ArqCallbacks) (now : UInt32) {head : PendingAck}
    {rest : List PendingAck} (hentries : e.pendingAcks.entries = head :: rest) :
    ∃ head' rest',
      (Exec.tryCompleteRxSlots cb { e with } now).2.pendingAcks.entries = head' :: rest' ∧
      handedPackets (Exec.tryCompleteRxSlots cb { e with } now).2.events = [] ∧
      head'.readyDeadline = if e.taken cb = some head.ack.datagramId then
        now + e.config.ackTurnaroundCycles else head.readyDeadline := by
  rcases Exec.tryCompleteRxSlotsFrom_queue cb now (List.finRange 4) { e with } with
    ⟨hnone, _, hqueue⟩ | ⟨j, ack, hj, _, hid, hqueue⟩
  · refine ⟨head, rest, (congrArg Prod.fst hqueue).trans hentries, congrArg Prod.snd hqueue, ?_⟩
    rw [if_neg]
    rw [taken, hnone]
    exact nofun
  · obtain ⟨head', rest', hcons, hdeadline⟩ :=
      enqueuePending_cons head rest ack (now + e.config.ackTurnaroundCycles)
    refine ⟨head', rest', ?_, congrArg Prod.snd hqueue, ?_⟩
    · rw [← hcons, ← hentries]
      exact congrArg Prod.fst hqueue
    · rw [hdeadline, hid, taken, hj]
      simp

/-- A tick that finds ACKs sends one of them and nothing else just if the first one is due. -/
theorem InStep.ackAlone_iff (h : e.InStep) (hs : e.receiver.Sendable) (hcb : cb.TakesAll)
    (hpending : e.pendingAcks.entries ≠ []) :
    AckAlone (e.run cb (.onTick now)).events ↔ e.HeadReady cb now := by
  obtain ⟨head, rest, hentries⟩ := List.exists_cons_of_ne_nil hpending
  obtain ⟨head', rest', hentries', hhanded, hdeadline⟩ :=
    tryCompleteRxSlots_head cb now hentries
  have hready : e.HeadReady cb now ↔ ¬ isBefore now head'.readyDeadline := by
    rw [hdeadline]
    constructor
    · rintro ⟨first, rest', hcons, hdue⟩
      obtain ⟨rfl, -⟩ := List.cons.inj (hentries.symm.trans hcons)
      exact hdue
    · exact fun hdue => ⟨head, rest, hentries, hdue⟩
  rw [hready]
  constructor
  · rintro ⟨packet, ack, hparse, halone⟩ hearly
    have hwaits : e.beforeTurn cb now = (Exec.tryCompleteRxSlots cb { e with } now).2 := by
      rw [beforeTurn, Exec.sendPendingAck_early]
      intro first rest'' hcons
      obtain ⟨rfl, -⟩ := List.cons.inj (hentries'.symm.trans hcons)
      exact hearly
    by_cases hpreempted : e.Preempted cb now
    · rw [run_preempted hpreempted, hwaits, hhanded] at halone
      cases halone
    · obtain ⟨_, hnone, data, hturn⟩ := h.turn hpreempted
      have htaken := hturn.hands_over
      rw [takenPackets_of_handed halone, hnone, List.nil_append] at htaken
      have hdata : packet ∈ data := Option.mem_toList.mp (by rw [← htaken]; exact .head _)
      have htypes := (hturn.data packet hdata).symm.trans (parsePacketType_of_ack hparse)
      cases htypes
  · intro hdue
    have hknown : isKnownFailureStatus head'.ack.failure :=
      (Exec.tryCompleteRxSlots_sendable (e := { e with }) cb now h.valid hs).known head'.ack
        (List.mem_map_of_mem (by rw [hentries']; exact .head _))
    obtain ⟨packet, ack, hparse, htrue, hsent⟩ :=
      Exec.sendPendingAck_due hentries' hcb hknown hdue
    refine ⟨packet, ack, hparse, ?_⟩
    rw [run_preempted (.inr htrue), beforeTurn, hsent, hhanded]
    rfl

/-- At most one packet is taken in a tick. -/
theorem InStep.one_taken (h : e.InStep) (cb : ArqCallbacks) (now : UInt32) :
    (takenPackets (e.run cb (.onTick now)).events).length ≤ 1 := by
  by_cases hpreempted : e.Preempted cb now
  · rw [run_preempted hpreempted]
    rcases h.beforeTurn_taken cb now with hnone | ⟨ack, packet, _, hack⟩
    · rw [hnone]
      exact Nat.zero_le 1
    · rw [hack]
      exact Nat.le_refl 1
  · obtain ⟨_, hnone, data, hturn⟩ := h.turn hpreempted
    rw [hturn.hands_over, hnone, List.nil_append]
    cases data with
    | none => exact Nat.zero_le 1
    | some packet => exact Nat.le_refl 1

end ArqEngine

/-! ### Runs -/

/-- Some pending ACK is due. -/
def ArqEngine.AckDue (e : ArqEngine) (now : UInt32) : Prop :=
  ∃ pending ∈ e.pendingAcks.entries, ¬ isBefore now pending.readyDeadline

/-- ACKs go before DATA: a tick that finds an ACK due hands over an ACK and no other packet, every
tick hands over one packet at most, and the queue is in order. -/
structure AckDiscipline (config : ArqConfig) (calls : List (ArqCallbacks × TimedCall)) : Prop where
  first : ∀ past cb now rest, calls = past ++ (cb, .onTick now) :: rest → cb.TakesAll →
    (engineAfter config past).AckDue (Clock.reading now) →
    AckAlone ((engineAfter config past).run cb (.onTick (Clock.reading now))).events
  single : ∀ past cb now rest, calls = past ++ (cb, .onTick now) :: rest →
    (takenPackets
      ((engineAfter config past).run cb (.onTick (Clock.reading now))).events).length ≤ 1
  queue : ∀ past rest, calls = past ++ rest → (engineAfter config past).QueueInOrder

/-- Which runs send ACKs before DATA: those in which the first pending ACK is due whenever one is.
-/
theorem ackDiscipline_iff (config : ArqConfig) (calls : List (ArqCallbacks × TimedCall)) :
    AckDiscipline config calls ↔
      ∀ past cb now rest, calls = past ++ (cb, .onTick now) :: rest → cb.TakesAll →
        (engineAfter config past).AckDue (Clock.reading now) →
        (engineAfter config past).HeadReady cb (Clock.reading now) := by
  have hiff (past : List (ArqCallbacks × TimedCall)) {cb : ArqCallbacks} {now : Nat}
      (hcb : cb.TakesAll) (hdue : (engineAfter config past).AckDue (Clock.reading now)) :
      AckAlone ((engineAfter config past).run cb (.onTick (Clock.reading now))).events ↔
        (engineAfter config past).HeadReady cb (Clock.reading now) := by
    obtain ⟨pending, hmem, _⟩ := hdue
    exact (engineAfter_inStep config past).ackAlone_iff (ArqEngine.run_sendable config _) hcb
      (List.ne_nil_of_mem hmem)
  constructor
  · intro h past cb now rest hcalls hcb hdue
    exact (hiff past hcb hdue).mp (h.first past cb now rest hcalls hcb hdue)
  · intro h
    refine ⟨?_, ?_, ?_⟩
    · intro past cb now rest hcalls hcb hdue
      exact (hiff past hcb hdue).mpr (h past cb now rest hcalls hcb hdue)
    · intro past cb now rest _
      exact (engineAfter_inStep config past).one_taken cb _
    · intro past rest _
      exact ArqEngine.after_queueInOrder config _

/-- The time of a call that has one. -/
def TimedCall.time : TimedCall → Option Nat
  | .onTxDatagram _ => none
  | .onRxPacket _ now | .onTick now | .flushPendingAck now => some now

/-- The configuration of the firmware, as far as ACKs are concerned. -/
def turnaroundConfig : ArqConfig := { ackTurnaroundCycles := 10 }

/-- Datagrams 7 and 8 are received one after the other, and then datagram 7 once more; its ACK is
put off, and stays before the other one. -/
def renewedCalls : List (ArqCallbacks × TimedCall) :=
  [(Exec.takesAll, .onTxDatagram (some [1])),
    (Exec.takesAll, .onRxPacket (dataPacket ⟨1, 0, 7, 0, 1, 1, 1⟩ [2]) 0),
    (Exec.takesAll, .onRxPacket (dataPacket ⟨1, 0, 8, 0, 1, 1, 1⟩ [3]) 1),
    (Exec.takesAll, .onRxPacket (dataPacket ⟨1, 0, 7, 0, 1, 1, 1⟩ [2]) 5)]

set_option maxRecDepth 100000 in
theorem renewedCalls_sends :
    (engineAfter turnaroundConfig renewedCalls).AckDue (Clock.reading 11) ∧
      (handedPackets ((engineAfter turnaroundConfig renewedCalls).run Exec.takesAll
        (.onTick (Clock.reading 11))).events).map (fun handed => parsePacketType handed.1) =
          [.ok .data] := by
  unfold ArqEngine.AckDue
  decide +kernel

/-- A tick sends DATA although an ACK is due. -/
theorem not_ackDiscipline : ¬ ∀ (config : ArqConfig) (calls : List (ArqCallbacks × TimedCall)),
    (calls.filterMap fun step => step.2.time).IsChain (fun t t' => t ≤ t' ∧ t' < t + 2 ^ 31) →
    AckDiscipline config calls := by
  intro h
  have hchain : ((renewedCalls ++ [(Exec.takesAll, TimedCall.onTick 11)]).filterMap fun step =>
      step.2.time).IsChain (fun t t' => t ≤ t' ∧ t' < t + 2 ^ 31) := by decide
  have hdiscipline := h turnaroundConfig _ hchain
  obtain ⟨hdue, hdata⟩ := renewedCalls_sends
  obtain ⟨packet, ack, hparse, halone⟩ := hdiscipline.first renewedCalls Exec.takesAll 11 [] rfl
    ⟨_, rfl, fun _ _ => rfl⟩ hdue
  rw [halone, List.map_singleton, parsePacketType_of_ack hparse] at hdata
  cases hdata

end FlrcTnc.Arq
