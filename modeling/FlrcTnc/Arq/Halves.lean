import FlrcTnc.Arq.Run

/-! The two halves of the engine: what the reception of datagrams leaves alone, and what sending
them does. -/

namespace FlrcTnc.Arq

open Framing

/-- What the engine sends by: its datagrams, credits and timers, and the counters about them. -/
structure SendingHalf where
  config : ArqConfig
  txPool : DatagramPool
  txSlots : Fin 4 → TxSlot
  remoteCredits : UInt8
  nextDatagramId : UInt16
  creditProbeArmed : Bool
  creditProbeDeadline : UInt32
  creditStallProbes : UInt32
  retryExhaustion : UInt32

/-- What the engine receives by. -/
structure ReceivingHalf where
  rxPool : DatagramPool
  rxSlots : Fin 4 → RxSlot
  duplicateWindow : DuplicateWindow
  pendingAcks : PendingAcks

def ArqEngine.sendingHalf (e : ArqEngine) : SendingHalf :=
  ⟨e.config, e.txPool, e.txSlots, e.remoteCredits, e.nextDatagramId, e.creditProbeArmed,
    e.creditProbeDeadline, e.counters.creditStallProbes, e.counters.retryExhaustion⟩

def ArqEngine.receivingHalf (e : ArqEngine) : ReceivingHalf :=
  ⟨e.rxPool, e.rxSlots, e.duplicateWindow, e.pendingAcks⟩

/-- What a delivery has nothing to do with. -/
def ArqEngine.elsewhere (e : ArqEngine) : SendingHalf × UInt32 :=
  (e.sendingHalf, e.counters.malformedInput)

namespace Exec

variable {e : Exec}

/-! ### Receiving leaves the sending half alone -/

theorem egressCapacity_elsewhere (cb : ArqCallbacks) (e : Exec) (default : UInt8) :
    (e.egressCapacity cb default).2.elsewhere = e.elsewhere := by
  obtain ⟨n, hn⟩ := egressCapacity_snd cb e default
  rw [hn]

theorem currentCredits_elsewhere (cb : ArqCallbacks) (e : Exec) :
    (e.currentCredits cb).2.elsewhere = e.elsewhere := egressCapacity_elsewhere cb e _

theorem currentCredits_sendingHalf (cb : ArqCallbacks) (e : Exec) :
    (e.currentCredits cb).2.sendingHalf = e.sendingHalf :=
  congrArg Prod.fst (currentCredits_elsewhere cb e)

theorem enqueueAck_elsewhere (e : Exec) (ack : AckFrame) (deadline : UInt32)
    (source : AckSource) : (e.enqueueAck ack deadline source).2.elsewhere = e.elsewhere := by
  unfold enqueueAck
  dsimp only
  split
  · rfl
  · split <;> rfl

theorem enqueueAck_sendingHalf (e : Exec) (ack : AckFrame) (deadline : UInt32)
    (source : AckSource) : (e.enqueueAck ack deadline source).2.sendingHalf = e.sendingHalf :=
  congrArg Prod.fst (enqueueAck_elsewhere e ack deadline source)

theorem queueRxAck_sendingHalf (cb : ArqCallbacks) (e : Exec) (j : Fin 4) (failure : FailureStatus)
    (now : UInt32) : (e.queueRxAck cb j failure now).sendingHalf = e.sendingHalf := by
  unfold queueRxAck
  dsimp only
  rw [enqueueAck_sendingHalf]
  split
  · rfl
  · exact currentCredits_sendingHalf cb e

theorem queueFailureAck_sendingHalf (cb : ArqCallbacks) (e : Exec) (datagramId bitmap : UInt16)
    (failure : FailureStatus) (now : UInt32) (source : AckSource) :
    (e.queueFailureAck cb datagramId bitmap failure now source).sendingHalf = e.sendingHalf := by
  unfold queueFailureAck
  rw [enqueueAck_sendingHalf, currentCredits_sendingHalf]

theorem releaseRxSlot_elsewhere (e : Exec) (j : Fin 4) :
    (e.releaseRxSlot j).elsewhere = e.elsewhere := by
  unfold releaseRxSlot
  dsimp only
  split <;> rfl

theorem finishRxSlot_elsewhere (cb : ArqCallbacks) (e : Exec) (j : Fin 4) (now : UInt32) :
    (e.finishRxSlot cb j now).elsewhere = e.elsewhere := by
  unfold finishRxSlot
  dsimp only
  rw [releaseRxSlot_elsewhere]
  -- the count of deliveries is not the sender's
  refine .trans (b := (enqueueAck _ _ _ _).2.elsewhere) rfl ?_
  rw [enqueueAck_elsewhere, currentCredits_elsewhere]
  exact currentCredits_elsewhere cb e

theorem tryCompleteRxSlot_elsewhere (cb : ArqCallbacks) (e : Exec) (j : Fin 4) (now : UInt32) :
    (e.tryCompleteRxSlot cb j now).2.elsewhere = e.elsewhere := by
  have hegress := egressCapacity_elsewhere cb e 1
  unfold tryCompleteRxSlot
  dsimp only
  split
  · rfl
  cases cb.deliverDatagram with
  | none => exact hegress
  | some deliver =>
    dsimp only
    split
    · exact hegress
    split
    · exact hegress
    · rw [finishRxSlot_elsewhere]
      exact hegress

theorem tryCompleteRxSlot_sendingHalf (cb : ArqCallbacks) (e : Exec) (j : Fin 4) (now : UInt32) :
    (e.tryCompleteRxSlot cb j now).2.sendingHalf = e.sendingHalf :=
  congrArg Prod.fst (tryCompleteRxSlot_elsewhere cb e j now)

theorem tryCompleteRxSlots_elsewhere (cb : ArqCallbacks) (e : Exec) (now : UInt32) :
    (e.tryCompleteRxSlots cb now).2.elsewhere = e.elsewhere := by
  have hfrom (slots : List (Fin 4)) (e : Exec) :
      (tryCompleteRxSlotsFrom cb now slots e).2.elsewhere = e.elsewhere := by
    induction slots generalizing e with
    | nil => rfl
    | cons j rest ih =>
      have hslot := tryCompleteRxSlot_elsewhere cb e j now
      rw [tryCompleteRxSlotsFrom]
      split
      · split
        · next e' heq =>
          rw [heq] at hslot
          exact hslot
        · next e' heq =>
          rw [heq] at hslot
          exact (ih e').trans hslot
      · exact ih e
  exact hfrom _ e

theorem tryCompleteRxSlots_sendingHalf (cb : ArqCallbacks) (e : Exec) (now : UInt32) :
    (e.tryCompleteRxSlots cb now).2.sendingHalf = e.sendingHalf :=
  congrArg Prod.fst (tryCompleteRxSlots_elsewhere cb e now)

theorem sendPendingAck_sendingHalf (cb : ArqCallbacks) (e : Exec) (now : UInt32) :
    (e.sendPendingAck cb now).2.sendingHalf = e.sendingHalf := by
  unfold sendPendingAck
  split
  · dsimp only
    split
    · rfl
    split
    · rfl
    · split <;> rfl
  · rfl

theorem acknowledgeData_sendingHalf (cb : ArqCallbacks) (e : Exec) (j : Fin 4)
    (header : DataHeader) (now : UInt32) :
    (e.acknowledgeData cb j header now).sendingHalf = e.sendingHalf := by
  have hcomplete := tryCompleteRxSlot_sendingHalf cb e j now
  unfold acknowledgeData
  split
  · split
    · next e' heq =>
      rw [heq] at hcomplete
      exact hcomplete
    · next e' heq =>
      rw [heq] at hcomplete
      rw [queueRxAck_sendingHalf]
      exact hcomplete
  · split
    · exact queueRxAck_sendingHalf cb e j _ now
    · rfl

theorem acceptData_sendingHalf (cb : ArqCallbacks) (e : Exec) (j : Fin 4) (header : DataHeader)
    (payload : List UInt8) (now : UInt32) :
    (e.acceptData cb j header payload now).sendingHalf = e.sendingHalf := by
  unfold acceptData
  dsimp only
  split
  · rw [queueFailureAck_sendingHalf]
    rfl
  · rw [acknowledgeData_sendingHalf]
    rfl

theorem allocateRxSlot_sendingHalf (e : Exec) : e.allocateRxSlot.2.sendingHalf = e.sendingHalf := by
  unfold allocateRxSlot
  split
  · rfl
  · split <;> rfl

theorem handleData_sendingHalf (cb : ArqCallbacks) (e : Exec) (header : DataHeader)
    (payload : List UInt8) (now : UInt32) :
    (e.handleData cb header payload now).sendingHalf = e.sendingHalf := by
  have hallocate := allocateRxSlot_sendingHalf e
  unfold handleData
  split
  · dsimp only
    rw [enqueueAck_sendingHalf, currentCredits_sendingHalf]
    rfl
  split
  · exact acceptData_sendingHalf cb e _ header payload now
  split
  · next e' heq =>
    rw [heq] at hallocate
    rw [acceptData_sendingHalf]
    exact hallocate
  · next e' heq =>
    rw [heq] at hallocate
    dsimp only
    refine .trans (b := (queueFailureAck _ _ _ _ _ _ _).sendingHalf) rfl ?_
    rw [queueFailureAck_sendingHalf]
    exact hallocate

/-! ### Sending leaves the receiving half alone -/

theorem clearTxSlot_receivingHalf (e : Exec) (i : Fin 4) :
    (e.clearTxSlot i).receivingHalf = e.receivingHalf := by
  unfold clearTxSlot
  dsimp only
  split <;> rfl

theorem failTxSlot_receivingHalf (e : Exec) (i : Fin 4) :
    (e.failTxSlot i).receivingHalf = e.receivingHalf := clearTxSlot_receivingHalf _ i

theorem completeTxSlot_receivingHalf (e : Exec) (i : Fin 4) :
    (e.completeTxSlot i).receivingHalf = e.receivingHalf := clearTxSlot_receivingHalf _ i

theorem handleAck_receivingHalf (e : Exec) (ack : AckFrame) (now : UInt32) :
    (e.handleAck ack now).receivingHalf = e.receivingHalf := by
  unfold handleAck
  dsimp only
  split
  · rfl
  split
  · rfl
  · split
    · exact completeTxSlot_receivingHalf _ _
    · rfl

end Exec

end FlrcTnc.Arq
