import FlrcTnc.Arq.Calls
import FlrcTnc.Arq.Ledger
import FlrcTnc.Arq.Run
import FlrcTnc.Node.Moves

/-! The frames of the host on their way through the task, in both transport modes: each one is
settled in its turn, waits for a free channel or stands in `txQueue`, and the engine takes every
frame that it is given. -/

namespace FlrcTnc.Arq.ArqEngine

variable {e : ArqEngine}

/-- The test of `serviceIdle` finds a slot for the datagram. -/
theorem onTxDatagram_ok (h : e.Valid)
    (hroom : e.txActiveCount + e.txQueuedCount < arqMaxOutstanding) {data : List UInt8}
    (hpos : 0 < data.length) (hmax : data.length ≤ 1280) :
    (Exec.onTxDatagram { e with } (some data)).1 = .ok := by
  rcases Exec.onTxDatagram_accepts (e := { e with }) (some data) h with ⟨hok, _⟩ | ⟨_, _, hfull⟩
  · exact hok
  obtain ⟨_, hlive⟩ := hfull data rfl hpos hmax
  have hboth : (List.finRange 4).countP (fun i => (e.txSlots i).state = .open) +
      (List.finRange 4).countP (fun i => (e.txSlots i).state = .queued) = 4 := by
    have hall := List.length_eq_countP_add_countP
      (fun i => decide ((e.txSlots i).state = .open)) (l := List.finRange 4)
    rw [List.length_finRange] at hall
    refine Eq.trans (Nat.add_left_cancel_iff.mpr (List.countP_congr fun i _ => ?_)) hall.symm
    have hi : (e.txSlots i).state ≠ .empty := hlive i
    cases hstate : (e.txSlots i).state with
    | empty => exact absurd hstate hi
    | queued => decide
    | «open» => decide
  have hsum : e.txActiveCount + e.txQueuedCount = 4 := by
    rw [txActiveCount, txQueuedCount, txCount, txCount, ← UInt8.ofNat_add, hboth]
    rfl
  rw [hsum] at hroom
  exact absurd hroom (by decide)

end FlrcTnc.Arq.ArqEngine

namespace FlrcTnc.Node

open Arq Framing Kiss Serial

namespace Event

def queued? : Event → Option (List UInt8)
  | .queued frame => some frame
  | _ => none

/-- The frame that the event settles. -/
def settled? : Event → Option (List UInt8)
  | .invalid frame | .accepted frame | .refused frame | .oversize frame | .native frame _
  | .acked frame | .failed frame => some frame
  | _ => none

end Event

/-- The frames that `txQueue` took from the host, in order. -/
def hostFrames (events : List Event) : List (List UInt8) := events.filterMap Event.queued?

/-- The frames that the task is done with, in order: the engine has them, they went out natively, or
no transport carries them. -/
def settledFrames (events : List Event) : List (List UInt8) := events.filterMap Event.settled?

theorem hostFrames_append (events events' : List Event) :
    hostFrames (events ++ events') = hostFrames events ++ hostFrames events' :=
  List.filterMap_append

theorem settledFrames_append (events events' : List Event) :
    settledFrames (events ++ events') = settledFrames events ++ settledFrames events' :=
  List.filterMap_append

/-- The engine takes no frame from `txQueue` and settles none. -/
theorem frames_engineEvents (events : List Arq.Event) :
    hostFrames (events.flatMap engineEvents) = [] ∧
      settledFrames (events.flatMap engineEvents) = [] ∧
      ∀ frame, .refused frame ∉ events.flatMap engineEvents := by
  refine ⟨List.filterMap_eq_nil_iff.mpr fun event hmem => ?_,
    List.filterMap_eq_nil_iff.mpr fun event hmem => ?_, fun frame hmem => ?_⟩
  · rcases of_mem_engineEvents hmem with ⟨_, _, _, _, _, rfl⟩ | ⟨_, _, _, _, rfl | rfl⟩ <;> rfl
  · rcases of_mem_engineEvents hmem with ⟨_, _, _, _, _, rfl⟩ | ⟨_, _, _, _, rfl | rfl⟩ <;> rfl
  · rcases of_mem_engineEvents hmem with ⟨_, _, _, _, _, heq⟩ | ⟨_, _, _, _, heq⟩
    · cases heq
    · rcases heq with heq | heq <;> cases heq

namespace Statics

variable {mac mac' : Statics}

/-- The frame in `s_tx` that waits for a free channel. -/
def waiting (mac : Statics) : List (List UInt8) :=
  if mac.tx.phase = .lbtBackoff then [mac.tx.frame] else []

/-- The frames of the host are settled in the order of `txQueue`, and none is lost. -/
structure Serves (mac : Statics) : Prop where
  valid : mac.arq.Valid
  accepted : ∀ frame, .refused frame ∉ mac.trace
  conserved : hostFrames mac.trace = settledFrames mac.trace ++ (mac.waiting ++ mac.txQueue)

/-- Events that move frames on from `txQueue` as far as they say. -/
theorem Serves.step (h : mac.Serves) {events : List Event}
    (htrace : mac'.trace = mac.trace ++ events) (hvalid : mac'.arq.Valid)
    (haccepted : ∀ frame, .refused frame ∉ events) (hhost : hostFrames events = [])
    (hflow : mac.waiting ++ mac.txQueue =
      settledFrames events ++ (mac'.waiting ++ mac'.txQueue)) : mac'.Serves where
  valid := hvalid
  accepted frame hmem := by
    rw [htrace] at hmem
    exact (List.mem_append.mp hmem).elim (h.accepted frame) (haccepted frame)
  conserved := by
    rw [htrace, hostFrames_append, settledFrames_append, hhost, List.append_nil, h.conserved, hflow,
      List.append_assoc]

/-- Events that no frame has part in. -/
theorem Serves.idle (h : mac.Serves) {events : List Event}
    (htrace : mac'.trace = mac.trace ++ events) (harq : mac'.arq = mac.arq)
    (hnone : ∀ event ∈ events, event.queued? = none ∧ event.settled? = none)
    (hwaiting : mac'.waiting = mac.waiting) (hqueue : mac'.txQueue = mac.txQueue) :
    mac'.Serves := by
  refine h.step htrace (harq ▸ h.valid) (fun frame hmem => ?_) ?_ ?_
  · exact absurd (hnone _ hmem).2 (by simp [Event.settled?])
  · exact List.filterMap_eq_nil_iff.mpr fun event hmem => (hnone event hmem).1
  · rw [settledFrames, List.filterMap_eq_nil_iff.mpr fun event hmem => (hnone event hmem).2,
      hwaiting, hqueue]
    rfl

theorem Serves.runArq (h : mac.Serves) (ans : EngineAnswers) (call : Call) :
    (mac.runArq ans call).Serves := by
  obtain ⟨hhost, hsettled, haccepted⟩ :=
    frames_engineEvents (mac.arq.run ans.callbacks call).events
  refine h.step rfl (ArqEngine.run_spec h.valid ans.callbacks call).1 haccepted hhost ?_
  rw [hsettled]
  rfl

/-- A frame that is given to the radio is settled. -/
theorem sendNative_settles (mac : Statics) (ans : Answers) (now : UInt32) :
    ∃ events, (mac.sendNative ans now).trace = mac.trace ++ events ∧
      (mac.sendNative ans now).arq = mac.arq ∧ (mac.sendNative ans now).txQueue = mac.txQueue ∧
      (mac.sendNative ans now).waiting = [] ∧ (∀ frame, .refused frame ∉ events) ∧
      hostFrames events = [] ∧ settledFrames events = [mac.tx.frame] := by
  rcases sendNative_cases mac ans now with ⟨_, heq⟩ | ⟨hle, ok, _, heq⟩
  · rw [heq]
    exact ⟨[.oversize mac.tx.frame], rfl, rfl, rfl, rfl, fun frame => by simp, rfl, rfl⟩
  · rw [heq]
    refine ⟨[.transmit (V2.framingBuildNativePacket mac.tx.frame hle) ok,
      .native mac.tx.frame ok], ?_, rfl, rfl, rfl, fun frame => by simp, rfl, rfl⟩
    exact List.append_assoc mac.trace [_] [_]

theorem waiting_of_idle (h : mac.tx.phase = .idle) : mac.waiting = [] :=
  if_neg (by rw [h]; decide)

theorem serves_move (h : mac.Serves) (hmove : Move mac mac') : mac'.Serves := by
  have hreceived (packet : Packet) : (mac.emit (.received packet)).Serves :=
    h.idle rfl rfl (by simp [Event.queued?, Event.settled?]) rfl rfl
  have hhbWait (hphase : mac.tx.phase = .hbWait) : [] = mac.waiting :=
    (if_neg (by rw [hphase]; decide)).symm
  cases hmove with
  | clocks | tries | payloadActivity | staged =>
    exact h.idle (List.append_nil _).symm rfl (List.forall_mem_nil _) rfl rfl
  | startReceive | finished | heartbeatLost =>
    exact h.idle rfl rfl (by simp [Event.queued?, Event.settled?]) rfl rfl
  | configured config hcmd hphase =>
    refine h.step rfl (ArqEngine.reset_valid _) (by simp) rfl ?_
    rw [waiting_of_idle hphase]
    rfl
  | received packet => exact hreceived packet
  | delivered packet | replied packet | repliedV3 packet =>
    exact (hreceived packet).idle rfl rfl (by simp [Event.queued?, Event.settled?]) rfl rfl
  | answered packet ctrl millis now random hmode hparse htype hphase =>
    exact (hreceived packet).idle rfl rfl (by simp [Event.queued?, Event.settled?])
      (hhbWait hphase) rfl
  | answeredV3 packet millis now random hmode hparse hphase =>
    exact (hreceived packet).idle rfl rfl (by simp [Event.queued?, Event.settled?])
      (hhbWait hphase) rfl
  | linkStateV3 packet =>
    exact (hreceived packet).idle rfl rfl (by simp [Event.queued?, Event.settled?]) rfl rfl
  | acked packet millis now ans =>
    have hconfirmed : ((mac.emit (.received packet)).noteBidirectionalControl millis .ack).Serves :=
      (hreceived packet).idle rfl rfl (by simp [Event.queued?, Event.settled?]) rfl rfl
    exact hconfirmed.runArq ans _
  | took packet type now ans => exact (hreceived packet).runArq ans _
  | flushed ans | ticked ans => exact h.runArq ans _
  | heartbeat seq millis hmode hphase =>
    exact h.idle rfl rfl (by simp [Event.queued?, Event.settled?]) (waiting_of_idle hphase).symm rfl
  | heartbeatV3 packet type millis hmode hphase =>
    exact h.idle rfl rfl (by simp [Event.queued?, Event.settled?]) (waiting_of_idle hphase).symm rfl
  | unanswered now random hphase =>
    exact h.idle (List.append_nil _).symm rfl (List.forall_mem_nil _) (hhbWait hphase) rfl
  | invalid frame txQueue hphase hqueue hlen =>
    refine h.step rfl h.valid (by simp) rfl ?_
    have hidle : ((mac.take frame txQueue).emit (.invalid frame)).waiting = [] :=
      waiting_of_idle hphase
    rw [waiting_of_idle hphase, hqueue, hidle]
    rfl
  | passed ans frame txQueue hmode hphase hstaged hqueue hroom hlen =>
    obtain ⟨hpos, hmax⟩ := not_or.mp hlen
    rw [if_pos (ArqEngine.onTxDatagram_ok h.valid hroom (Nat.pos_of_ne_zero hpos)
      (Nat.le_of_not_gt hmax))]
    obtain ⟨hhost, hsettled, haccepted⟩ :=
      frames_engineEvents (mac.arq.run ans.callbacks (.onTxDatagram (some frame))).events
    refine h.step (List.append_assoc ..)
      (ArqEngine.run_spec h.valid ans.callbacks (.onTxDatagram (some frame))).1
      (fun frame hmem => ?_) ?_ ?_
    · rcases List.mem_append.mp hmem with hmem | hmem
      · exact haccepted frame hmem
      · simp at hmem
    · exact (hostFrames_append _ _).trans (congrArg (· ++ []) hhost)
    · have hidle : (((mac.take frame txQueue).runArq ans (.onTxDatagram (some frame))).emit
          (.accepted frame)).waiting = [] := waiting_of_idle hphase
      rw [waiting_of_idle hphase, hqueue, hidle, settledFrames_append]
      exact (congrArg (· ++ [frame] ++ txQueue) hsettled).symm
  | backedOff frame txQueue deadlineMs hmode hphase hqueue hlen =>
    refine h.step (List.append_nil _).symm h.valid (fun _ => List.not_mem_nil) rfl ?_
    rw [waiting_of_idle hphase, hqueue]
    rfl
  | sent ans now frame txQueue hmode hphase hqueue hlen =>
    obtain ⟨events, htrace, harq, hrest, hwaiting, haccepted, hhost, hsettled⟩ :=
      sendNative_settles (mac.take frame txQueue) ans now
    refine h.step htrace (harq ▸ h.valid) haccepted hhost ?_
    rw [hsettled, hwaiting, hrest, waiting_of_idle hphase, hqueue]
    rfl
  | dispatched ans now hmode hphase =>
    obtain ⟨events, htrace, harq, hrest, hwaiting, haccepted, hhost, hsettled⟩ :=
      sendNative_settles mac ans now
    refine h.step htrace (harq ▸ h.valid) haccepted hhost ?_
    rw [hsettled, hwaiting, hrest, waiting, if_pos hphase]
    rfl

theorem serves_kept : Kept Serves where
  move _ h hmove := serves_move h hmove
  host frame _ h :=
    { valid := h.valid
      accepted := fun f hmem =>
        (List.mem_append.mp hmem).elim (h.accepted f) fun hlast => by simp at hlast
      conserved := by
        have hqueued := congrArg (· ++ [frame]) h.conserved
        rw [emit, hostFrames_append, settledFrames_append]
        exact hqueued.trans (by simp [settledFrames, waiting, Event.settled?]) }
  request _ h := h.idle (List.append_nil _).symm rfl (List.forall_mem_nil _) rfl rfl

theorem start_serves (config : RadioConfig) (nextHbMs : UInt32) :
    (start config nextHbMs).Serves :=
  ⟨ArqEngine.reset_valid _, fun _ => List.not_mem_nil, rfl⟩

/-- The task itself puts nothing in `txQueue`. -/
theorem hostFrames_move (hmove : Move mac mac') :
    hostFrames mac'.trace = hostFrames mac.trace := by
  have hengine (ans : EngineAnswers) (call : Call) (m : Statics) :
      hostFrames (m.runArq ans call).trace = hostFrames m.trace := by
    rw [Statics.runArq, hostFrames_append, (frames_engineEvents _).1, List.append_nil]
  have hnative (m : Statics) (ans : Answers) (now : UInt32) :
      hostFrames (m.sendNative ans now).trace = hostFrames m.trace := by
    obtain ⟨events, htrace, _, _, _, _, hhost, _⟩ := sendNative_settles m ans now
    rw [htrace, hostFrames_append, hhost, List.append_nil]
  have hone {events : List Event} {event : Event} (hnot : event.queued? = none) :
      hostFrames (events ++ [event]) = hostFrames events := by
    have hnone : hostFrames [event] = [] := List.filterMap_cons_none hnot
    rw [hostFrames_append, hnone, List.append_nil]
  cases hmove with
  | clocks | tries | payloadActivity | staged | unanswered | backedOff => rfl
  | startReceive | finished | configured | received | heartbeat | heartbeatV3 | heartbeatLost
  | invalid => exact hone rfl
  | delivered | replied | answered | repliedV3 | answeredV3 | linkStateV3 =>
    exact (hone rfl).trans (hone rfl)
  | acked packet millis now ans =>
    exact (hengine ans _ _).trans ((hone rfl).trans (hone rfl))
  | took packet type now ans => exact (hengine ans _ _).trans (hone rfl)
  | flushed ans now => exact hengine ans _ mac
  | ticked ans now => exact hengine ans _ mac
  | passed ans frame txQueue =>
    refine (hone ?_).trans (hengine ans _ (mac.take frame txQueue))
    split <;> rfl
  | sent ans now frame txQueue => exact hnative (mac.take frame txQueue) ans now
  | dispatched ans now => exact hnative mac ans now

theorem hostFrames_loop (h : mac.Current) (turn : Turn) :
    hostFrames (mac.loop turn).trace = hostFrames mac.trace :=
  (loop_moves h turn).keeps (P := fun m => hostFrames m.trace = hostFrames mac.trace)
    (fun _ _ hm hmove => (hostFrames_move hmove).trans hm) rfl

/-- Through every run of the task, with changes of the transport mode at any point of it, the
frames that `txQueue` took from the host are those that are settled, then the one that waits for a
free channel, then those in `txQueue`: each once and in order.  The engine refuses none of them. -/
theorem frames_conserved (config : RadioConfig) (nextHbMs : UInt32) (inputs : List Input) :
    let mac := (start config nextHbMs).run inputs
    hostFrames mac.trace = settledFrames mac.trace ++ (mac.waiting ++ mac.txQueue) ∧
      ∀ frame, .refused frame ∉ mac.trace :=
  have h := serves_kept.of_start (start_serves config nextHbMs) inputs
  ⟨h.conserved, h.accepted⟩

end Statics

end FlrcTnc.Node
