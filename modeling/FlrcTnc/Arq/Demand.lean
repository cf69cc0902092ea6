import FlrcTnc.Arq.Calls
import FlrcTnc.Lib.Token

/-! What a call of the engine asks `egress_capacity` for first: an ACK asks for its credits, and a
complete datagram for its way out. -/

namespace FlrcTnc.Arq

open Framing Token

/-- The datagram that `deliver_datagram` took. -/
def Event.handedUp : Event → Option (UInt16 × List UInt8)
  | .delivered datagramId data true => some (datagramId, data)
  | _ => none

/-- The datagrams that `deliver_datagram` took, in order. -/
def deliveries (evs : List Event) : List (UInt16 × List UInt8) := evs.filterMap Event.handedUp

@[simp] theorem deliveries_append (evs evs' : List Event) :
    deliveries (evs ++ evs') = deliveries evs ++ deliveries evs' := List.filterMap_append

/-- The datagram in slot `j`, as `deliver_datagram` gets it. -/
def ArqEngine.assembled (e : ArqEngine) (j : Fin 4) : UInt16 × List UInt8 :=
  let reassembly := (e.rxSlots j).reassembly
  (reassembly.datagramId,
    (e.rxPool.memory reassembly.output).read 0 reassembly.datagramLength.toNat)

/-- The first slot whose complete datagram waits for egress. -/
def ArqEngine.waitingSlot (e : ArqEngine) (slots : List (Fin 4)) : Option (Fin 4) :=
  slots.find? fun j => (e.rxSlots j).active ∧ (e.rxSlots j).completeWaitingEgress ∧
    reassemblyIsComplete (e.rxSlots j).reassembly

/-- What `tryCompleteRxSlots` asks for. -/
def ArqEngine.waitingDemand (e : ArqEngine) (slots : List (Fin 4)) :
    Request (UInt16 × List UInt8) :=
  match e.waitingSlot slots with
  | some j => .item (e.assembled j)
  | none => .idle

namespace Exec

/-- What the end of `handleData` asks for. -/
def acknowledgeDemand (e : Exec) (j : Fin 4) (header : DataHeader) :
    Request (UInt16 × List UInt8) :=
  if reassemblyIsComplete (e.rxSlots j).reassembly then .item (e.assembled j)
  else if header.flags &&& v3DataFlagRoundEnd ≠ 0 then .other else .idle

/-- What a fragment for slot `j` asks for. -/
def acceptDemand (e : Exec) (j : Fin 4) (header : DataHeader) (payload : List UInt8) :
    Request (UInt16 × List UInt8) :=
  let output := (e.rxSlots j).reassembly.output
  let (accepted, reassembly, memory) :=
    acceptFragment (e.rxSlots j).reassembly (e.rxPool.memory output) header (some payload)
  if accepted ∈ [.metadataMismatch, .badArgument, .badLength, .outputTooSmall] then .other
  else (e.storeReassembly j reassembly memory).acknowledgeDemand j header

/-- What a DATA frame asks for. -/
def dataDemand (e : Exec) (header : DataHeader) (payload : List UInt8) :
    Request (UInt16 × List UInt8) :=
  if (duplicateWindowFind e.duplicateWindow header.datagramId).isSome then .other
  else
    match e.findRxSlot header.datagramId with
    | some j => e.acceptDemand j header payload
    | none =>
      match e.allocateRxSlot with
      | (some j, e) => e.acceptDemand j header payload
      | (none, _) => .other

end Exec

/-- What a call asks for. -/
def ArqEngine.demand (e : ArqEngine) : Call → Request (UInt16 × List UInt8)
  | .onRxPacket packet _ =>
    match parsePacketType packet, parseDataPacket packet with
    | .ok .data, .ok (header, payload) => Exec.dataDemand { e with } header payload
    | _, _ => .idle
  | .onTick _ => e.waitingDemand (List.finRange 4)
  | .onTxDatagram _ | .flushPendingAck _ => .idle

/-- Whether a call asks `egress_capacity` at all, which then is its first callback call. -/
def ArqEngine.asksEgress (e : ArqEngine) (cb : ArqCallbacks) : Call → Bool
  | .onRxPacket packet now => (Exec.onRxPacket cb { e with } packet now).calls ≠ 0
  | .onTick now => (Exec.tryCompleteRxSlots cb { e with } now).2.calls ≠ 0
  | .onTxDatagram _ | .flushPendingAck _ => false

/-- `egress_capacity` says 1 the first time, if there is a token, and 0 from then on, and
`deliver_datagram` takes every datagram of a length that it may have. -/
structure ArqCallbacks.OneAtMost (cb : ArqCallbacks) (token : Bool) : Prop where
  egress : ∃ egress, cb.egressCapacity = some egress ∧ (egress 0 ≠ 0 ↔ token) ∧
    ∀ n, 0 < n → egress n = 0
  deliver : ∃ deliver, cb.deliverDatagram = some deliver ∧
    ∀ n data, 0 < data.length → data.length ≤ 1280 → deliver n data

namespace Exec

variable {e e' : Exec} {cb : ArqCallbacks} {token : Bool} {now : UInt32}

/-- The run from `e` to `e'` begins with the request: the datagram is handed up if there is a token,
and the callbacks were called just if the request is for anything. -/
structure Meets (token : Bool) (e : Exec) (request : Request (UInt16 × List UInt8)) (e' : Exec) :
    Prop where
  deliveries : deliveries e'.events =
    deliveries e.events ++ if token then request.wanted.toList else []
  calls : e'.calls ≠ 0 ↔ ¬ request.isIdle

/-- What the callbacks see of the engine. -/
def shown (e : Exec) : Nat × List (UInt16 × List UInt8) := (e.calls, Arq.deliveries e.events)

theorem Meets.idle (hcalls : e.calls = 0) (h : e'.shown = e.shown) : Meets token e .idle e' := by
  have hcalls' : e'.calls = e.calls := congrArg Prod.fst h
  have hdeliveries : Arq.deliveries e'.events = Arq.deliveries e.events := congrArg Prod.snd h
  refine ⟨?_, ?_⟩
  · cases token <;> simp [hdeliveries, Request.wanted]
  · simp [hcalls', hcalls, Request.isIdle]

/-- The credits of an ACK were asked for, and nothing was handed up. -/
theorem Meets.other {e'' : Exec} (h : e'.shown = e''.called.shown)
    (hsame : Arq.deliveries e''.events = Arq.deliveries e.events) : Meets token e .other e' := by
  have hcalls : e'.calls = e''.calls + 1 := congrArg Prod.fst h
  have hdeliveries : Arq.deliveries e'.events = Arq.deliveries e''.events := congrArg Prod.snd h
  refine ⟨?_, ?_⟩
  · cases token <;> simp [hdeliveries, hsame, Request.wanted]
  · simp [hcalls, Request.isIdle]

/-! ### Callbacks -/

theorem egressCapacity_some {egress : Nat → UInt8} (h : cb.egressCapacity = some egress) (e : Exec)
    (default : UInt8) : e.egressCapacity cb default = (egress e.calls, e.called) := by
  rw [egressCapacity, h]

theorem currentCredits_some {egress : Nat → UInt8} (h : cb.egressCapacity = some egress)
    (e : Exec) : (e.currentCredits cb).2 = e.called := by
  rw [currentCredits, egressCapacity_some h]

theorem enqueueAck_shown (e : Exec) (ack : AckFrame) (deadline : UInt32) (source : AckSource) :
    (e.enqueueAck ack deadline source).2.shown = e.shown := by
  obtain ⟨pending, counters, heq, _⟩ := enqueueAck_snd e ack deadline source
  have hnone : Arq.deliveries (enqueueEvents e.pendingAcks.frames ack source) = [] := by
    refine List.filterMap_eq_nil_iff.mpr fun ev hev => ?_
    rw [eq_of_mem_enqueueEvents hev]
    rfl
  rw [heq, shown, deliveries_append, hnone, List.append_nil]
  rfl

theorem queueRxAck_withdrawal_shown (cb : ArqCallbacks) (e : Exec) (j : Fin 4) (now : UInt32) :
    (e.queueRxAck cb j .creditWithdrawal now).shown = e.shown := by
  simp only [queueRxAck, if_true]
  exact enqueueAck_shown ..

theorem queueRxAck_none_shown {egress : Nat → UInt8} (h : cb.egressCapacity = some egress)
    (e : Exec) (j : Fin 4) (now : UInt32) :
    (e.queueRxAck cb j .none now).shown = e.called.shown := by
  have hnone : ¬ FailureStatus.none = .creditWithdrawal := by decide
  simp only [queueRxAck, hnone, false_and, if_false]
  rw [enqueueAck_shown, currentCredits_some h]

theorem queueFailureAck_shown {egress : Nat → UInt8} (h : cb.egressCapacity = some egress)
    (e : Exec) (datagramId bitmap : UInt16) (failure : FailureStatus) (now : UInt32)
    (source : AckSource) :
    (e.queueFailureAck cb datagramId bitmap failure now source).shown = e.called.shown := by
  simp only [queueFailureAck]
  rw [enqueueAck_shown, currentCredits_some h]

theorem releaseRxSlot_shown (e : Exec) (j : Fin 4) : (e.releaseRxSlot j).shown = e.shown := by
  unfold releaseRxSlot
  dsimp only
  split <;> rfl

theorem finishRxSlot_shown {egress : Nat → UInt8} (h : cb.egressCapacity = some egress) (e : Exec)
    (j : Fin 4) (now : UInt32) : (e.finishRxSlot cb j now).shown = e.called.called.shown := by
  simp only [finishRxSlot]
  rw [releaseRxSlot_shown]
  refine (enqueueAck_shown ..).trans ?_
  rw [currentCredits_some h, currentCredits_some h]
  rfl

/-! ### Deliveries -/

/-- A complete datagram in slot `j` is handed up with the token. -/
theorem tryCompleteRxSlot_granted (hcb : cb.OneAtMost true) {j : Fin 4} (now : UInt32)
    (hcomplete : reassemblyIsComplete (e.rxSlots j).reassembly)
    (hpos : 0 < (e.rxSlots j).reassembly.datagramLength.toNat)
    (hmax : (e.rxSlots j).reassembly.datagramLength.toNat ≤ 1280) (hcalls : e.calls = 0) :
    e.tryCompleteRxSlot cb j now = (true, (e.called.called.emit
      (.delivered (e.assembled j).1 (e.assembled j).2 true)).finishRxSlot cb j now) := by
  obtain ⟨egress, hegress, hfirst, _⟩ := hcb.egress
  obtain ⟨deliver, hdeliver, htakes⟩ := hcb.deliver
  have hone : ¬ egress e.calls = 0 := by
    rw [hcalls]
    exact hfirst.mpr rfl
  have htaken : deliver e.called.calls
      ((e.called.rxPool.memory (e.rxSlots j).reassembly.output).read 0
        (e.rxSlots j).reassembly.datagramLength.toNat) = true := by
    apply htakes
    · rwa [Buffer.read_length]
    · rwa [Buffer.read_length]
  rw [tryCompleteRxSlot, egressCapacity_some hegress, hdeliver]
  dsimp only
  rw [if_neg (not_not.mpr hcomplete), if_neg hone, htaken, if_neg (not_not.mpr rfl)]
  rfl

/-- Without the token, or after a call that has used it, nothing is handed up. -/
theorem tryCompleteRxSlot_refused (hcb : cb.OneAtMost token) {j : Fin 4} (now : UInt32)
    (hcomplete : reassemblyIsComplete (e.rxSlots j).reassembly)
    (hused : token → e.calls ≠ 0) : e.tryCompleteRxSlot cb j now = (false, e.called) := by
  obtain ⟨egress, hegress, hfirst, hlater⟩ := hcb.egress
  obtain ⟨deliver, hdeliver, _⟩ := hcb.deliver
  have hzero : egress e.calls = 0 := by
    by_cases hcalls : e.calls = 0
    · by_contra hnonzero
      rw [hcalls] at hnonzero
      exact hused (hfirst.mp hnonzero) hcalls
    · exact hlater _ (Nat.pos_of_ne_zero hcalls)
  rw [tryCompleteRxSlot, egressCapacity_some hegress, hdeliver]
  dsimp only
  rw [if_neg (not_not.mpr hcomplete), if_pos hzero]

theorem tryCompleteRxSlot_meets (hcb : cb.OneAtMost token) {j : Fin 4} (now : UInt32)
    (hcomplete : reassemblyIsComplete (e.rxSlots j).reassembly)
    (hpos : 0 < (e.rxSlots j).reassembly.datagramLength.toNat)
    (hmax : (e.rxSlots j).reassembly.datagramLength.toNat ≤ 1280) (hcalls : e.calls = 0) :
    (e.tryCompleteRxSlot cb j now).1 = token ∧
      Meets token e (.item (e.assembled j)) (e.tryCompleteRxSlot cb j now).2 := by
  cases token with
  | false =>
    rw [tryCompleteRxSlot_refused hcb now hcomplete (by simp)]
    refine ⟨rfl, ?_, ?_⟩
    · exact (List.append_nil _).symm
    · simp [called, Request.isIdle]
  | true =>
    obtain ⟨egress, hegress, _⟩ := hcb.egress
    rw [tryCompleteRxSlot_granted hcb now hcomplete hpos hmax hcalls]
    have hshown := finishRxSlot_shown hegress (e.called.called.emit
      (.delivered (e.assembled j).1 (e.assembled j).2 true)) j now
    have hdeliveries := congrArg Prod.snd hshown
    have hcounted := congrArg Prod.fst hshown
    refine ⟨rfl, hdeliveries.trans (deliveries_append _ _), ?_⟩
    change (finishRxSlot ..).calls ≠ 0 ↔ _
    rw [show (finishRxSlot ..).calls = _ from hcounted]
    simp [shown, called, emit, Request.isIdle]

/-- Nothing is handed up any more. -/
theorem tryCompleteRxSlotsFrom_refused (hcb : cb.OneAtMost token) (now : UInt32)
    (slots : List (Fin 4)) (hused : token → e.calls ≠ 0) :
    (tryCompleteRxSlotsFrom cb now slots e).1 = false ∧
      Arq.deliveries (tryCompleteRxSlotsFrom cb now slots e).2.events = Arq.deliveries e.events ∧
      e.calls ≤ (tryCompleteRxSlotsFrom cb now slots e).2.calls := by
  induction slots generalizing e with
  | nil => exact ⟨rfl, rfl, Nat.le_refl _⟩
  | cons j rest ih =>
    rw [tryCompleteRxSlotsFrom]
    split
    · by_cases hcomplete : reassemblyIsComplete (e.rxSlots j).reassembly
      · rw [tryCompleteRxSlot_refused hcb now hcomplete hused]
        dsimp only
        obtain ⟨hfalse, hdeliveries, hcalls⟩ := ih (e := e.called) fun _ => Nat.succ_ne_zero _
        exact ⟨hfalse, hdeliveries, Nat.le_trans (Nat.le_succ _) hcalls⟩
      · rw [tryCompleteRxSlot_incomplete cb now hcomplete]
        exact ih hused
    · exact ih hused

/-- The datagrams in the slots have a length that a datagram may have. -/
theorem datagramLength_bounds (h : e.Valid) {j : Fin 4} (hactive : (e.rxSlots j).active) :
    0 < (e.rxSlots j).reassembly.datagramLength.toNat ∧
      (e.rxSlots j).reassembly.datagramLength.toNat ≤ 1280 := by
  obtain ⟨ref, hv⟩ := h.2.slot j hactive
  refine ⟨Nat.pos_of_ne_zero fun h0 => ?_, hv.consistent.length_toNat_le⟩
  exact hv.consistent.length_pos (UInt16.toNat_inj.mp h0)

theorem tryCompleteRxSlotsFrom_meets (hcb : cb.OneAtMost token) (now : UInt32)
    (slots : List (Fin 4)) (h : e.Valid) (hcalls : e.calls = 0) :
    Meets token e (e.waitingDemand slots) (tryCompleteRxSlotsFrom cb now slots e).2 := by
  induction slots with
  | nil => exact .idle hcalls rfl
  | cons j rest ih =>
    rw [tryCompleteRxSlotsFrom, ArqEngine.waitingDemand, ArqEngine.waitingSlot, List.find?_cons]
    by_cases hcomplete : reassemblyIsComplete (e.rxSlots j).reassembly
    · by_cases hwaiting : (e.rxSlots j).active ∧ (e.rxSlots j).completeWaitingEgress
      · rw [if_pos hwaiting, decide_eq_true (And.intro hwaiting.1 ⟨hwaiting.2, hcomplete⟩)]
        dsimp only
        obtain ⟨hpos, hmax⟩ := datagramLength_bounds h hwaiting.1
        obtain ⟨htoken, hmeets⟩ := tryCompleteRxSlot_meets hcb now hcomplete hpos hmax hcalls
        cases hresult : e.tryCompleteRxSlot cb j now with
        | mk completed e' =>
          rw [hresult] at htoken hmeets
          dsimp only at htoken hmeets
          subst htoken
          cases completed with
          | true => exact hmeets
          | false =>
            obtain ⟨_, hdeliveries, hle⟩ :=
              tryCompleteRxSlotsFrom_refused hcb now rest (e := e') (by simp)
            refine ⟨hdeliveries.trans hmeets.deliveries, ?_⟩
            have hasked := hmeets.calls.mpr (by simp [Request.isIdle])
            refine ⟨fun _ => by simp [Request.isIdle], fun _ => ?_⟩
            dsimp only
            omega
      · rw [if_neg hwaiting, decide_eq_false (by tauto)]
        exact ih
    · rw [decide_eq_false (by tauto), tryCompleteRxSlot_incomplete cb now hcomplete]
      dsimp only
      rw [ite_self]
      exact ih

/-! ### Packets -/

theorem acknowledgeData_meets (hcb : cb.OneAtMost token) {j : Fin 4} (header : DataHeader)
    (now : UInt32) (hpos : 0 < (e.rxSlots j).reassembly.datagramLength.toNat)
    (hmax : (e.rxSlots j).reassembly.datagramLength.toNat ≤ 1280) (hcalls : e.calls = 0) :
    Meets token e (e.acknowledgeDemand j header) (e.acknowledgeData cb j header now) := by
  obtain ⟨egress, hegress, _⟩ := hcb.egress
  rw [acknowledgeDemand, acknowledgeData]
  split
  · next hcomplete =>
    obtain ⟨htoken, hmeets⟩ := tryCompleteRxSlot_meets hcb now hcomplete hpos hmax hcalls
    cases hresult : e.tryCompleteRxSlot cb j now with
    | mk completed e' =>
      rw [hresult] at htoken hmeets
      cases completed with
      | true => exact hmeets
      | false =>
        have hshown := queueRxAck_withdrawal_shown cb ((e'.waitForEgress j).count fun c =>
          { c with creditWithdrawal := c.creditWithdrawal + 1 }) j now
        have hdeliveries := congrArg Prod.snd hshown
        have hcounted := congrArg Prod.fst hshown
        refine ⟨hdeliveries.trans hmeets.deliveries, ?_⟩
        rw [← hmeets.calls]
        exact not_congr (by rw [show (queueRxAck ..).calls = _ from hcounted]; rfl)
  · split
    · exact .other (queueRxAck_none_shown hegress e j now) rfl
    · exact .idle hcalls rfl

/-- A fragment that is taken is of a datagram of the length that its header says. -/
theorem acceptFragment_length {state : ReassemblyV3} {memory : Buffer} {header : DataHeader}
    {payload : Option (List UInt8)}
    (h : (acceptFragment state memory header payload).1 ∉
      [.metadataMismatch, .badArgument, .badLength, .outputTooSmall]) :
    validateDataHeader header ∧
      (acceptFragment state memory header payload).2.1.datagramLength = header.datagramLength := by
  revert h
  unfold acceptFragment
  dsimp only
  split
  · simp
  next hvalid =>
  rw [not_not] at hvalid
  split
  · simp
  split
  · simp
  split
  · simp
  next opened hopen =>
  intro _
  refine ⟨hvalid, ?_⟩
  have hlength : opened.datagramLength = header.datagramLength := by
    unfold openReassembly at hopen
    split at hopen
    · cases hopen
      rfl
    · split at hopen
      · cases hopen
      next hmatches =>
      cases hopen
      simp only [reassemblyMetadataMatches] at hmatches
      simp at hmatches
      exact hmatches.2.1
  unfold storeFragment
  dsimp only
  repeat' split
  all_goals exact hlength

theorem acceptData_meets (hcb : cb.OneAtMost token) (j : Fin 4) (header : DataHeader)
    (payload : List UInt8) (now : UInt32) (hcalls : e.calls = 0) :
    Meets token e (e.acceptDemand j header payload) (e.acceptData cb j header payload now) := by
  obtain ⟨egress, hegress, _⟩ := hcb.egress
  have hlength := @acceptFragment_length (e.rxSlots j).reassembly
    (e.rxPool.memory (e.rxSlots j).reassembly.output) header (some payload)
  rw [acceptDemand, acceptData]
  cases haccept : acceptFragment (e.rxSlots j).reassembly
      (e.rxPool.memory (e.rxSlots j).reassembly.output) header (some payload) with
  | mk accepted result =>
    obtain ⟨reassembly, memory⟩ := result
    rw [haccept] at hlength
    dsimp only at hlength ⊢
    split
    · exact .other (queueFailureAck_shown hegress ..) rfl
    · next haccepted =>
      obtain ⟨hvalid, hlength⟩ := hlength haccepted
      obtain ⟨hpos, hmax, _⟩ := validateDataHeader_toNat hvalid
      have hstored : ((e.storeReassembly j reassembly memory).rxSlots j).reassembly =
          reassembly := by
        simp [storeReassembly, setRx]
      have hmeets := acknowledgeData_meets (e := e.storeReassembly j reassembly memory) hcb
        (j := j) header now (by rwa [hstored, hlength]) (by rwa [hstored, hlength]) hcalls
      exact ⟨hmeets.deliveries, hmeets.calls⟩

theorem allocateRxSlot_shown (e : Exec) : e.allocateRxSlot.2.shown = e.shown := by
  unfold allocateRxSlot
  split
  · rfl
  · split <;> rfl

theorem handleData_meets (hcb : cb.OneAtMost token) (header : DataHeader) (payload : List UInt8)
    (now : UInt32) (hcalls : e.calls = 0) :
    Meets token e (e.dataDemand header payload) (e.handleData cb header payload now) := by
  obtain ⟨egress, hegress, _⟩ := hcb.egress
  unfold dataDemand handleData
  cases hfind : duplicateWindowFind e.duplicateWindow header.datagramId with
  | some duplicate =>
    let counted := e.count fun c => { c with duplicateSuppressed := c.duplicateSuppressed + 1 }
    have hshown : (counted.currentCredits cb).2.shown = counted.called.shown := by
      rw [currentCredits_some hegress]
    exact .other ((enqueueAck_shown ..).trans hshown) rfl
  | none =>
    dsimp only
    rw [if_neg (by simp)]
    cases e.findRxSlot header.datagramId with
    | some j => exact acceptData_meets hcb j header payload now hcalls
    | none =>
      have hshown := allocateRxSlot_shown e
      cases hallocate : e.allocateRxSlot with
      | mk slot e' =>
        rw [hallocate] at hshown
        have hcalls' : e'.calls = 0 := (congrArg Prod.fst hshown).trans hcalls
        have hdeliveries : Arq.deliveries e'.events = Arq.deliveries e.events :=
          congrArg Prod.snd hshown
        cases slot with
        | some j =>
          have hmeets := acceptData_meets hcb j header payload now hcalls'
          refine ⟨?_, hmeets.calls⟩
          rw [← hdeliveries]
          exact hmeets.deliveries
        | none =>
          exact .other (queueFailureAck_shown hegress e' header.datagramId 0 .allocationFailure now
            .refused) hdeliveries

/-! ### The sending half -/

/-- An event of the sending half hands nothing up. -/
theorem emit_shown (e : Exec) (ev : Event) (h : ev.OfSender) : (e.emit ev).shown = e.shown := by
  have hnone : Arq.deliveries [ev] = [] := by
    cases ev with
    | delivered => exact h.elim
    | _ => rfl
  rw [shown, shown, emit, deliveries_append, hnone, List.append_nil]

theorem clearTxSlot_shown (e : Exec) (i : Fin 4) : (e.clearTxSlot i).shown = e.shown := by
  unfold clearTxSlot
  dsimp only
  split <;> rfl

theorem failTxSlot_shown (e : Exec) (i : Fin 4) : (e.failTxSlot i).shown = e.shown :=
  (emit_shown _ (.failed i) trivial).trans (clearTxSlot_shown ..)

theorem completeTxSlot_shown (e : Exec) (i : Fin 4) : (e.completeTxSlot i).shown = e.shown :=
  (emit_shown _ (.completed i) trivial).trans (clearTxSlot_shown ..)

theorem openSlot_shown (e : Exec) (i : Fin 4) (now : UInt32) :
    (e.openSlot i now).shown = e.shown := emit_shown _ (.opened i) trivial

theorem handleAck_shown (e : Exec) (ack : AckFrame) (now : UInt32) :
    (e.handleAck ack now).shown = e.shown := by
  unfold handleAck
  dsimp only
  split
  · rfl
  split
  · rfl
  split
  · exact completeTxSlot_shown ..
  · rfl

theorem onTxDatagram_shown (e : Exec) (data : Option (List UInt8)) :
    (e.onTxDatagram data).2.shown = e.shown := by
  unfold onTxDatagram
  dsimp only
  split
  · rfl
  split
  · rfl
  split
  · rfl
  split
  · exact emit_shown _ (.accepted ..) trivial
  · rfl

/-- The datagrams that were handed up so far stay the same. -/
theorem sendPendingAck_deliveries (cb : ArqCallbacks) (e : Exec) (now : UInt32) :
    Arq.deliveries (e.sendPendingAck cb now).2.events = Arq.deliveries e.events := by
  have hsent (e : Exec) (packet : Packet) (ok : Bool) :
      Arq.deliveries (e.emit (.sent packet ok)).events = Arq.deliveries e.events :=
    congrArg Prod.snd (emit_shown e (.sent packet ok) trivial)
  unfold sendPendingAck
  split
  · split
    · rfl
    · split
      · rfl
      · dsimp only
        split <;> exact hsent ..
  · rfl

theorem sendDataFragment_deliveries (cb : ArqCallbacks) (e : Exec) (i : Fin 4) (k : UInt8) :
    Arq.deliveries (e.sendDataFragment cb i k).2.events = Arq.deliveries e.events := by
  unfold sendDataFragment
  split
  · rfl
  dsimp only
  split
  · rfl
  split
  · rfl
  split
  · rfl
  · exact congrArg Prod.snd (emit_shown _ (.sent ..) trivial)

theorem trySendRetransmitFrom_deliveries (cb : ArqCallbacks) (now : UInt32)
    (slots : List (Fin 4)) (e : Exec) :
    Arq.deliveries (trySendRetransmitFrom cb now slots e).2.events = Arq.deliveries e.events := by
  induction slots generalizing e with
  | nil => rfl
  | cons i rest ih =>
    rw [trySendRetransmitFrom]
    dsimp only
    split
    · exact ih e
    split
    · exact ih e
    split
    · exact ih e
    split
    · exact congrArg Prod.snd (failTxSlot_shown e i)
    split
    · have hsent := sendDataFragment_deliveries cb (e.setTx i (e.txSlots i).beginRound) i
        (e.txSlots i).beginRound.nextFragment
      split
      · next heq =>
        rw [heq] at hsent
        exact hsent
      · next heq =>
        rw [heq] at hsent
        exact (ih _).trans hsent
    · exact ih _

theorem trySendOpenDataFrom_deliveries (cb : ArqCallbacks) (now : UInt32) (slots : List (Fin 4))
    (e : Exec) :
    Arq.deliveries (trySendOpenDataFrom cb now slots e).2.events = Arq.deliveries e.events := by
  induction slots generalizing e with
  | nil => rfl
  | cons i rest ih =>
    rw [trySendOpenDataFrom]
    split
    · exact ih e
    dsimp only
    split
    · exact ih _
    have hsent := sendDataFragment_deliveries cb (e.setTx i (e.txSlots i).skipToNext) i
      (e.txSlots i).skipToNext.nextFragment
    split
    · next heq =>
      rw [heq] at hsent
      exact hsent
    · next heq =>
      rw [heq] at hsent
      exact (ih _).trans hsent

theorem tryOpenQueued_deliveries (cb : ArqCallbacks) (now : UInt32) (e : Exec) :
    Arq.deliveries (e.tryOpenQueued cb now).2.events = Arq.deliveries e.events := by
  have hprobe : (e.creditProbe now).2.events = e.events := by
    rw [creditProbe]
    repeat' split
    all_goals rfl
  rw [tryOpenQueued]
  split
  · rfl
  split
  · next heq =>
    rw [heq] at hprobe
    exact congrArg Arq.deliveries hprobe
  · next e' heq =>
    rw [heq] at hprobe
    have hsame : Arq.deliveries e'.events = Arq.deliveries e.events :=
      congrArg Arq.deliveries hprobe
    dsimp only
    split
    · exact hsame
    · refine (trySendOpenDataFrom_deliveries cb now _ _).trans ?_
      exact (congrArg Prod.snd (openSlot_shown ..)).trans hsame

/-- Only the first step of a tick hands anything up. -/
theorem onTick_deliveries (cb : ArqCallbacks) (now : UInt32) (e : Exec) :
    Arq.deliveries (e.onTick cb now).events =
      Arq.deliveries (e.tryCompleteRxSlots cb now).2.events := by
  unfold onTick
  split
  · next heq =>
    rw [heq]
    exact sendPendingAck_deliveries ..
  next e₁ heq =>
  rw [heq]
  have hack := sendPendingAck_deliveries cb e₁ now
  split
  · next heq =>
    rw [heq] at hack
    exact hack
  next e₂ heq =>
  rw [heq] at hack
  have hretransmit := trySendRetransmitFrom_deliveries cb now (List.finRange 4) e₂
  split
  · next heq =>
    rw [trySendRetransmit] at heq
    rw [heq] at hretransmit
    exact hretransmit.trans hack
  next e₃ heq =>
  rw [trySendRetransmit] at heq
  rw [heq] at hretransmit
  have hdata := trySendOpenDataFrom_deliveries cb now (List.finRange 4) e₃
  split
  · next heq =>
    rw [trySendOpenData] at heq
    rw [heq] at hdata
    exact hdata.trans (hretransmit.trans hack)
  next e₄ heq =>
  rw [trySendOpenData] at heq
  rw [heq] at hdata
  exact (tryOpenQueued_deliveries cb now e₄).trans (hdata.trans (hretransmit.trans hack))

/-- Whatever a packet is, it gets what it asks for. -/
theorem onRxPacket_meets (hcb : cb.OneAtMost token) (e : ArqEngine) (packet : Packet)
    (now : UInt32) :
    Meets token { e with } (e.demand (.onRxPacket packet now))
      (Exec.onRxPacket cb { e with } packet now) := by
  have hidle {e' : Exec} (h : e'.shown = shown { e with }) : Meets token { e with } .idle e' :=
    .idle rfl h
  unfold onRxPacket ArqEngine.demand
  dsimp only
  cases parsePacketType packet with
  | error => exact hidle rfl
  | ok type =>
    cases type with
    | data =>
      cases parseDataPacket packet with
      | error => exact hidle rfl
      | ok parsed => exact handleData_meets hcb parsed.1 parsed.2 now rfl
    | ack =>
      cases parseAckPacket packet with
      | error => exact hidle rfl
      | ok ack => exact hidle (handleAck_shown ..)
    | control =>
      dsimp only
      split <;> exact hidle rfl
    | mgmt =>
      dsimp only
      split <;> exact hidle rfl

end Exec

/-- With one token at most, a call hands up the datagram it asks for, if there is the token; it asks
`egress_capacity` just if it asks for anything. -/
theorem ArqEngine.run_meets {e : ArqEngine} (h : e.Valid) {cb : ArqCallbacks} {token : Bool}
    (hcb : cb.OneAtMost token) (call : Call) :
    deliveries (e.run cb call).events =
        (if token then (e.demand call).wanted.toList else []) ∧
      e.asksEgress cb call = ! (e.demand call).isIdle := by
  have hidle {e' : Exec} (hnone : deliveries e'.events = []) :
      deliveries e'.events = if token then [] else [] := by
    rw [hnone, ite_self]
  cases call with
  | onTxDatagram data =>
    exact ⟨hidle (congrArg Prod.snd (Exec.onTxDatagram_shown { e with } data)), rfl⟩
  | onRxPacket packet now =>
    have hmeets := Exec.onRxPacket_meets hcb e packet now
    refine ⟨hmeets.deliveries, ?_⟩
    rw [Bool.eq_iff_iff, asksEgress, decide_eq_true_eq, hmeets.calls, Bool.not_eq_true',
      Bool.not_eq_true]
  | onTick now =>
    have hmeets := Exec.tryCompleteRxSlotsFrom_meets (e := { e with }) hcb now (List.finRange 4) h
      rfl
    refine ⟨(Exec.onTick_deliveries cb now { e with }).trans hmeets.deliveries, ?_⟩
    rw [Bool.eq_iff_iff, asksEgress, decide_eq_true_eq, Bool.not_eq_true', ← Bool.not_eq_true]
    exact hmeets.calls
  | flushPendingAck now =>
    exact ⟨hidle (Exec.sendPendingAck_deliveries cb { e with } now), rfl⟩

end FlrcTnc.Arq
