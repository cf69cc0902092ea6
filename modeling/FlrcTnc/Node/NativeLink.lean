import FlrcTnc.Node.Air
import FlrcTnc.Node.Queue

/-! Two modems on one channel in native mode.  What the radio of one receives is compared with what
the other transmitted, so that every interleaving of the two tasks is covered. -/

namespace FlrcTnc.Node

open Arq Framing Kiss Serial
open V2 (framingParseControl framingBuildControlPacket)

/-- A frame that goes out natively is settled by that. -/
theorem nativeFrames_sublist (events : List Event) :
    (nativeFrames events).Sublist (settledFrames events) := by
  induction events with
  | nil => exact List.Sublist.refl _
  | cons event events ih =>
    cases event with
    | native => exact ih.cons_cons _
    | invalid | accepted | refused | oversize | acked | failed => exact ih.cons _
    | queued | transmit | received | rxQueueSend | confirmed | executed | startReceive => exact ih

/-- A packet that the radio takes. -/
def Event.taken? : Event → Option Packet
  | .transmit packet true => some packet
  | _ => none

/-- A payload that `rxQueue` takes in native mode. -/
def Event.nativeTaken? : Event → Option (List UInt8)
  | .rxQueueSend .nativePacket payload true => some payload
  | _ => none

/-- The packets that the radio takes, in order. -/
def radioTaken (events : List Event) : List Packet := events.filterMap Event.taken?

/-- What `rxQueue` takes in native mode, in order. -/
def nativeTaken (events : List Event) : List (List UInt8) := events.filterMap Event.nativeTaken?

/-- The radio takes what the event hands to it. -/
def Event.radioTakes : Event → Bool
  | .transmit _ ok => ok
  | _ => true

/-- `rxQueue` takes what the event hands to it. -/
def Event.rxQueueTakes : Event → Bool
  | .rxQueueSend _ _ ok => ok
  | _ => true

theorem radioTaken_eq {events : List Event} (h : ∀ event ∈ events, event.radioTakes) :
    radioTaken events = transmitted events := by
  apply List.filterMap_congr
  intro event hmem
  cases event with
  | transmit packet ok =>
    have htakes := h _ hmem
    cases ok with
    | true => rfl
    | false => cases htakes
  | queued | received | rxQueueSend | native | confirmed | executed | invalid | accepted | refused
  | oversize | acked | failed | startReceive => rfl

theorem nativeTaken_eq {events : List Event} (h : ∀ event ∈ events, event.rxQueueTakes) :
    nativeTaken events = nativeDeliveries events := by
  apply List.filterMap_congr
  intro event hmem
  cases event with
  | rxQueueSend transport payload ok =>
    have htakes := h _ hmem
    cases ok with
    | true => cases transport <;> rfl
    | false => cases htakes
  | queued | transmit | received | native | confirmed | executed | invalid | accepted | refused
  | oversize | acked | failed | startReceive => rfl

def Event.keepsNative : Event → Bool
  | .executed (.applyConfig config) => config.transportMode = .nativePacket
  | _ => true

theorem parseNative_length {packet : Packet} {payload : List UInt8}
    (h : parseNative packet = some payload) : payload.length ≤ V2.framingNativeMaxPayload := by
  rw [parseNative, Option.map_eq_some_iff] at h
  obtain ⟨n, hparse, rfl⟩ := h
  have hmax := (V2.framingParseNativePayload_iff.mp hparse).2.1
  exact (List.length_take_le ..).trans hmax

namespace Statics

variable {mac mac' : Statics}

/-- What the task of another modem delivers in native mode are frames of the host of this one: each
at most once, in order, and byte for byte, whatever the channel loses and however often either modem
changes its transport mode. -/
theorem native_deliveries_sublist (configA configB : RadioConfig) (nextHbA nextHbB : UInt32)
    (inputsA inputsB : List Input)
    (hair : (received ((start configB nextHbB).run inputsB).trace).Sublist
      (transmitted ((start configA nextHbA).run inputsA).trace)) :
    (nativeDeliveries ((start configB nextHbB).run inputsB).trace).Sublist
        (hostFrames ((start configA nextHbA).run inputsA).trace) ∧
      ∀ payload ∈ nativeDeliveries ((start configB nextHbB).run inputsB).trace,
        payload.length ≤ V2.framingNativeMaxPayload := by
  have hA : OnAir ((start configA nextHbA).run inputsA).trace := onAir_kept.of_start .nil inputsA
  have hB : OnAir ((start configB nextHbB).run inputsB).trace := onAir_kept.of_start .nil inputsB
  have hserves := serves_kept.of_start (start_serves configA nextHbA) inputsA
  constructor
  · have hparsed := hB.deliveries.trans (hair.filterMap parseNative)
    rw [hA.natives] at hparsed
    have hsettled := hparsed.trans (nativeFrames_sublist _)
    rw [hserves.conserved]
    exact hsettled.trans (List.sublist_append_left _ _)
  · intro payload hmem
    obtain ⟨packet, _, hparse⟩ := List.mem_filterMap.mp (hB.deliveries.subset hmem)
    exact parseNative_length hparse

/-- The config of native mode. -/
def nativeConfig : RadioConfig := { transportMode := .nativePacket }

/-- Two frames of the host, of which the first goes out. -/
def nativeSending : List Input :=
  [.host [1, 2], .host [3], .turn (.calm .txWake 1)]

/-- The packet of the first arrives. -/
def nativeReceiving : List Input :=
  [.turn (.calm (.radio (some
    (V2.framingBuildNativePacket [1, 2] (Nat.le_of_ble_eq_true rfl)))) 2)]

theorem native_deliveries_sublist_nativeReceiving :
    (nativeDeliveries ((start nativeConfig 4000).run nativeReceiving).trace).Sublist
        (hostFrames ((start nativeConfig 4000).run nativeSending).trace) ∧
      ∀ payload ∈ nativeDeliveries ((start nativeConfig 4000).run nativeReceiving).trace,
        payload.length ≤ V2.framingNativeMaxPayload :=
  native_deliveries_sublist nativeConfig nativeConfig 4000 4000 nativeSending nativeReceiving
    (by decide +kernel)

/-! ### Without loss -/

/-- No command that the task has run is for another mode than native. -/
def StaysNative (events : List Event) : Prop := ∀ event ∈ events, event.keepsNative

/-- A length that native mode carries. -/
def fitsNative (frame : List UInt8) : Bool :=
  0 < frame.length ∧ frame.length ≤ V2.framingNativeMaxPayload

/-- The task in native mode since it began: it delivers every NATIVE packet that it receives, and
sends every frame that fits one. -/
structure OnlyNative (mac : Statics) : Prop where
  mode : mac.config.transportMode = .nativePacket
  delivers : nativeDeliveries mac.trace = (received mac.trace).filterMap parseNative
  sends : nativeFrames mac.trace = (settledFrames mac.trace).filter fitsNative
  waiting : ∀ frame ∈ mac.waiting, 0 < frame.length

/-- Events of native mode. -/
theorem OnlyNative.step (h : mac.OnlyNative) {events : List Event}
    (htrace : mac'.trace = mac.trace ++ events)
    (hmode : mac'.config.transportMode = .nativePacket)
    (hdelivers : nativeDeliveries events = (received events).filterMap parseNative)
    (hsends : nativeFrames events = (settledFrames events).filter fitsNative)
    (hwaiting : ∀ frame ∈ mac'.waiting, 0 < frame.length) : mac'.OnlyNative where
  mode := hmode
  delivers := by
    rw [htrace, nativeDeliveries, received, List.filterMap_append, List.filterMap_append,
      List.filterMap_append]
    exact congrArg₂ (· ++ ·) h.delivers hdelivers
  sends := by
    rw [htrace, settledFrames_append, nativeFrames, List.filterMap_append, List.filter_append]
    exact congrArg₂ (· ++ ·) h.sends hsends
  waiting := hwaiting

/-- Events that no payload has part in. -/
theorem OnlyNative.idle (h : mac.OnlyNative) {events : List Event}
    (htrace : mac'.trace = mac.trace ++ events) (hconfig : mac'.config = mac.config)
    (hnone : ∀ event ∈ events, event.received? = none ∧ event.nativeDelivery? = none ∧
      event.native? = none ∧ event.settled? = none)
    (hwaiting : mac'.waiting = mac.waiting ∨ mac'.waiting = []) : mac'.OnlyNative := by
  refine h.step htrace (hconfig ▸ h.mode) ?_ ?_ ?_
  · rw [nativeDeliveries, received, List.filterMap_eq_nil_iff.mpr fun event hmem =>
      (hnone event hmem).1, List.filterMap_eq_nil_iff.mpr fun event hmem => (hnone event hmem).2.1]
    rfl
  · rw [nativeFrames, settledFrames, List.filterMap_eq_nil_iff.mpr fun event hmem =>
      (hnone event hmem).2.2.1, List.filterMap_eq_nil_iff.mpr fun event hmem =>
      (hnone event hmem).2.2.2]
    rfl
  · rcases hwaiting with heq | heq
    · exact heq ▸ h.waiting
    · rw [heq]
      exact List.forall_mem_nil _

/-- A packet without a payload for the host. -/
theorem OnlyNative.ignored (h : mac.OnlyNative) {packet : Packet}
    (hignored : parseNative packet = none) : (mac.emit (.received packet)).OnlyNative :=
  h.step rfl h.mode (List.filterMap_cons_none hignored (l := [])).symm rfl h.waiting

theorem OnlyNative.sendNative (h : mac.OnlyNative) (hpos : 0 < mac.tx.frame.length) (ans : Answers)
    (now : UInt32) : (mac.sendNative ans now).OnlyNative := by
  rcases sendNative_cases mac ans now with ⟨hlong, heq⟩ | ⟨hle, ok, _, heq⟩
  · rw [heq]
    have hnot : ¬ fitsNative mac.tx.frame = true := by
      rw [fitsNative, decide_eq_true_iff]
      exact fun hfits => Nat.not_le.mpr hlong hfits.2
    refine h.step rfl h.mode rfl ?_ (List.forall_mem_nil _)
    exact (List.filter_cons_of_neg (l := []) hnot).symm
  · rw [heq]
    have hfits : fitsNative mac.tx.frame = true := by
      rw [fitsNative, decide_eq_true_iff]
      exact ⟨hpos, hle⟩
    refine h.step (List.append_assoc ..) h.mode rfl ?_ (List.forall_mem_nil _)
    exact (List.filter_cons_of_pos (l := []) hfits).symm

/-- A move that only generic mode makes. -/
theorem OnlyNative.not_generic (h : mac.OnlyNative)
    (hmode : mac.config.transportMode = .genericFragmented) {p : Prop} : p := by
  rw [h.mode] at hmode
  cases hmode

theorem onlyNative_move (h : mac.OnlyNative) (hmove : Move mac mac')
    (hstays : StaysNative mac'.trace) : mac'.OnlyNative := by
  have hcontrol {packet : Packet} {ctrl : V2.ControlFrame}
      (hparse : framingParseControl packet = some ctrl) : parseNative packet = none := by
    rw [parseNative, framingParseNativePayload_eq_none (by
      rw [(V2.control_type hparse).2]; decide), Option.map_none]
  have hnone : ∀ event ∈ ([] : List Event), event.received? = none ∧ event.nativeDelivery? = none ∧
      event.native? = none ∧ event.settled? = none := List.forall_mem_nil _
  have hsplit {frame : List UInt8} (hlen : ¬ (frame.length = 0 ∨
      frame.length > Kiss.tncPayloadMaxLen)) : 0 < frame.length :=
    Nat.pos_of_ne_zero (not_or.mp hlen).1
  cases hmove with
  | clocks | tries | payloadActivity | staged =>
    exact h.idle (List.append_nil _).symm rfl hnone (.inl rfl)
  | unanswered => exact h.idle (List.append_nil _).symm rfl hnone (.inr rfl)
  | startReceive | finished | heartbeatLost =>
    exact h.idle rfl rfl (by simp [Event.received?, Event.nativeDelivery?, Event.native?,
      Event.settled?]) (.inl rfl)
  | heartbeat =>
    exact h.idle rfl rfl (by simp [Event.received?, Event.nativeDelivery?, Event.native?,
      Event.settled?]) (.inr rfl)
  | configured config =>
    have hnative := hstays _ (List.mem_append_right _ (List.mem_singleton_self _))
    exact h.step rfl (of_decide_eq_true hnative) rfl rfl (List.forall_mem_nil _)
  | received packet hignored =>
    exact h.ignored (by rw [parseNative, hignored h.mode, Option.map_none])
  | delivered packet payloadLen ok hmode hparse =>
    refine h.step (List.append_assoc ..) h.mode ?_ rfl h.waiting
    have hpayload : parseNative packet = some (nativePayload packet payloadLen) := by
      rw [parseNative, hparse, Option.map_some]
    exact (List.filterMap_cons_some hpayload (l := [])).symm
  | replied packet ctrl ok hmode hparse =>
    exact (h.ignored (hcontrol hparse)).idle rfl rfl (by simp [Event.received?,
      Event.nativeDelivery?, Event.native?, Event.settled?]) (.inl rfl)
  | answered packet ctrl millis now random hmode hparse =>
    exact (h.ignored (hcontrol hparse)).idle rfl rfl (by simp [Event.received?,
      Event.nativeDelivery?, Event.native?, Event.settled?]) (.inr rfl)
  | repliedV3 packet reply type ok hmode | answeredV3 packet millis now random hmode
  | linkStateV3 packet millis hmode | acked packet millis now ans hmode
  | took packet type now ans hmode | flushed ans now hmode | ticked ans now hmode
  | heartbeatV3 packet type millis hmode | passed ans frame txQueue hmode =>
    exact h.not_generic hmode
  | invalid frame txQueue hphase hqueue hlen =>
    have hnot : ¬ fitsNative frame = true := by
      rw [fitsNative, decide_eq_true_iff]
      have hmax : V2.framingNativeMaxPayload ≤ Kiss.tncPayloadMaxLen := by decide
      omega
    refine h.step rfl h.mode rfl (List.filter_cons_of_neg (l := []) hnot).symm ?_
    have hidle : ((mac.take frame txQueue).emit (.invalid frame)).waiting = [] :=
      waiting_of_idle hphase
    rw [hidle]
    exact List.forall_mem_nil _
  | backedOff frame txQueue deadlineMs hmode hphase hqueue hlen =>
    refine h.step (List.append_nil _).symm h.mode rfl rfl fun held hmem => ?_
    rw [List.mem_singleton.mp hmem]
    exact hsplit hlen
  | sent ans now frame txQueue hmode hphase hqueue hlen =>
    have htaken : (mac.take frame txQueue).OnlyNative := by
      refine h.idle (List.append_nil _).symm rfl hnone (.inr ?_)
      exact waiting_of_idle hphase
    exact htaken.sendNative (hsplit hlen) ans now
  | dispatched ans now hmode hphase =>
    have hwaiting : mac.tx.frame ∈ mac.waiting := by
      rw [Statics.waiting, if_pos hphase]
      exact List.mem_singleton_self _
    exact h.sendNative (h.waiting _ hwaiting) ans now

theorem onlyNative_kept : Kept fun mac => StaysNative mac.trace → mac.OnlyNative where
  move _ h hmove hstays :=
    onlyNative_move (h fun event hmem => hstays event (hmove.trace.subset hmem)) hmove hstays
  host frame _ h hstays :=
    (h fun event hmem => hstays event (List.mem_append_left _ hmem)).idle rfl rfl
      (by simp [Event.received?, Event.nativeDelivery?, Event.native?, Event.settled?]) (.inl rfl)
  request _ h hstays := (h hstays).idle (List.append_nil _).symm rfl
    (List.forall_mem_nil _) (.inl rfl)

theorem onlyNative_run {config : RadioConfig} (hconfig : config.transportMode = .nativePacket)
    {nextHbMs : UInt32} {inputs : List Input}
    (hstays : StaysNative ((start config nextHbMs).run inputs).trace) :
    ((start config nextHbMs).run inputs).OnlyNative := by
  have hstart : StaysNative (start config nextHbMs).trace → (start config nextHbMs).OnlyNative :=
    fun _ => ⟨hconfig, rfl, rfl, List.forall_mem_nil _⟩
  exact onlyNative_kept.of_start hstart inputs hstays

/-- Both tasks run in native mode only, the radio of the one takes everything, all of it arrives,
and `rxQueue` of the other takes everything: what it takes are the frames that the one is done with,
in order and each once, but for those that no NATIVE packet carries. -/
theorem native_deliveries_eq (configA configB : RadioConfig) (nextHbA nextHbB : UInt32)
    (inputsA inputsB : List Input) (hconfigA : configA.transportMode = .nativePacket)
    (hconfigB : configB.transportMode = .nativePacket)
    (hstaysA : StaysNative ((start configA nextHbA).run inputsA).trace)
    (hstaysB : StaysNative ((start configB nextHbB).run inputsB).trace)
    (hradio : ∀ event ∈ ((start configA nextHbA).run inputsA).trace, event.radioTakes)
    (hair : received ((start configB nextHbB).run inputsB).trace =
      radioTaken ((start configA nextHbA).run inputsA).trace)
    (hqueue : ∀ event ∈ ((start configB nextHbB).run inputsB).trace, event.rxQueueTakes) :
    let mac := (start configA nextHbA).run inputsA
    hostFrames mac.trace = settledFrames mac.trace ++ (mac.waiting ++ mac.txQueue) ∧
      nativeTaken ((start configB nextHbB).run inputsB).trace =
        (settledFrames mac.trace).filter fitsNative := by
  have hA := onlyNative_run hconfigA hstaysA
  have hB := onlyNative_run hconfigB hstaysB
  have hairA : OnAir ((start configA nextHbA).run inputsA).trace := onAir_kept.of_start .nil inputsA
  have hserves := serves_kept.of_start (start_serves configA nextHbA) inputsA
  refine ⟨hserves.conserved, ?_⟩
  rw [nativeTaken_eq hqueue, hB.delivers, hair, radioTaken_eq hradio, hairA.natives]
  exact hA.sends

theorem native_deliveries_eq_nativeReceiving :
    let mac := (start nativeConfig 4000).run nativeSending
    hostFrames mac.trace = settledFrames mac.trace ++ (mac.waiting ++ mac.txQueue) ∧
      nativeTaken ((start nativeConfig 4000).run nativeReceiving).trace =
        (settledFrames mac.trace).filter fitsNative := by
  have hsender : StaysNative ((start nativeConfig 4000).run nativeSending).trace := by
    unfold StaysNative
    decide +kernel
  have hreceiver : StaysNative ((start nativeConfig 4000).run nativeReceiving).trace := by
    unfold StaysNative
    decide +kernel
  exact native_deliveries_eq nativeConfig nativeConfig 4000 4000 nativeSending nativeReceiving rfl
    rfl hsender hreceiver (by decide +kernel) (by decide +kernel) (by decide +kernel)

end Statics

end FlrcTnc.Node
