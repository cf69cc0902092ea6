import FlrcTnc.Framing.ExactV2
import FlrcTnc.Node.Moves

/-! What the task puts on the air: v3 packets of the engine and for heartbeats, CONTROL packets, and
one NATIVE packet for each frame that is sent natively.  No packet of the v2 ARQ is among them. -/

namespace FlrcTnc.Node

open Arq Framing Kiss Serial
open V2 (BuildsNative BuildsControl framingParseNativePayload)

/-- The packets that the task transmits. -/
inductive Airborne (packet : Packet) : Prop
  | v3 (type : PacketType) (h : parsePacketType packet = .ok type)
  | native (frame : List UInt8) (h : BuildsNative frame packet)
  | control (ctrl : V2.ControlFrame) (h : BuildsControl ctrl packet)

/-- The payload that a receiver in native mode takes out of a packet. -/
def parseNative (packet : Packet) : Option (List UInt8) :=
  (framingParseNativePayload packet).map (Statics.nativePayload packet)

theorem parseNative_build {frame : List UInt8} {packet : Packet} (h : BuildsNative frame packet) :
    parseNative packet = some frame := by
  obtain ⟨hparse, hpayload⟩ := V2.native_exact.parses_of_builds h
  rw [parseNative, hparse, Option.map_some, Statics.nativePayload, ← hpayload]

theorem parseNative_eq_none {packet : Packet}
    (h : ¬ (V2.framingHasValidVersion packet = true ∧ V2.framingPacketType packet = .native)) :
    parseNative packet = none := by
  rw [parseNative]
  cases hparse : framingParseNativePayload packet with
  | none => rfl
  | some n => exact absurd (V2.native_type hparse) h

theorem parseNative_v3 {packet : Packet} {type : PacketType}
    (h : parsePacketType packet = .ok type) : parseNative packet = none := by
  apply parseNative_eq_none
  rw [V2.not_framingHasValidVersion h]
  exact fun h => Bool.false_ne_true h.1

theorem parseNative_control {ctrl : V2.ControlFrame} {packet : Packet}
    (h : BuildsControl ctrl packet) : parseNative packet = none := by
  apply parseNative_eq_none
  rw [(V2.control_type (V2.control_exact.parses_of_builds h)).2]
  exact fun h => absurd h.2 (by decide)

/-- No parser of the v2 ARQ takes what the task transmits. -/
theorem Airborne.not_v2Arq {packet : Packet} (h : Airborne packet) :
    V2.framingParseDataHeader packet = none ∧ V2.framingParseAck packet = none := by
  have hnone {α : Type} {o : Option α} (h : ∀ a, o ≠ some a) : o = none := by
    cases o with
    | none => rfl
    | some a => exact absurd rfl (h a)
  have htype (type : V2.LinkPacketType)
      (h : V2.framingHasValidVersion packet = true → V2.framingPacketType packet = type)
      (hdata : type ≠ .data) (hack : type ≠ .ack) :
      V2.framingParseDataHeader packet = none ∧ V2.framingParseAck packet = none := by
    refine ⟨hnone fun a ha => ?_, hnone fun a ha => ?_⟩
    · obtain ⟨hversion, heq⟩ := V2.data_type ha
      exact hdata ((h hversion).symm.trans heq)
    · obtain ⟨hversion, heq⟩ := V2.ack_type ha
      exact hack ((h hversion).symm.trans heq)
  cases h with
  | v3 type h =>
    refine htype .native (fun hversion => ?_) (by decide) (by decide)
    rw [V2.not_framingHasValidVersion h] at hversion
    cases hversion
  | native frame h =>
    have hparse := (V2.native_exact.parses_of_builds h).1
    exact htype .native (fun _ => (V2.native_type hparse).2) (by decide) (by decide)
  | control ctrl h =>
    have hparse := V2.control_exact.parses_of_builds h
    exact htype .control (fun _ => (V2.control_type hparse).2) (by decide) (by decide)

namespace Event

def transmitted? : Event → Option Packet
  | .transmit packet _ => some packet
  | _ => none

def received? : Event → Option Packet
  | .received packet => some packet
  | _ => none

def native? : Event → Option (List UInt8)
  | .native frame _ => some frame
  | _ => none

/-- A payload that native mode hands to `rxQueue`. -/
def nativeDelivery? : Event → Option (List UInt8)
  | .rxQueueSend .nativePacket payload _ => some payload
  | _ => none

end Event

/-- The packets that the task hands to the radio, in order. -/
def transmitted (events : List Event) : List Packet := events.filterMap Event.transmitted?

/-- The packets that it gets from the radio, in order. -/
def received (events : List Event) : List Packet := events.filterMap Event.received?

/-- The frames that it sends natively, in order. -/
def nativeFrames (events : List Event) : List (List UInt8) := events.filterMap Event.native?

/-- What it hands to `rxQueue` in native mode, in order. -/
def nativeDeliveries (events : List Event) : List (List UInt8) :=
  events.filterMap Event.nativeDelivery?

/-- Events of the air: what is transmitted is `Airborne`, its NATIVE packets carry the frames that
are sent natively, what native mode delivers was received as such, and nothing is settled by the v2
ARQ. -/
structure OnAir (events : List Event) : Prop where
  airborne : ∀ packet ∈ transmitted events, Airborne packet
  natives : (transmitted events).filterMap parseNative = nativeFrames events
  deliveries : (nativeDeliveries events).Sublist ((received events).filterMap parseNative)
  settled : ∀ frame, .acked frame ∉ events ∧ .failed frame ∉ events

theorem OnAir.nil : OnAir [] :=
  ⟨fun _ h => (nomatch h), rfl, List.Sublist.refl _,
    fun _ => ⟨List.not_mem_nil, List.not_mem_nil⟩⟩

theorem OnAir.append {events events' : List Event} (h : OnAir events) (h' : OnAir events') :
    OnAir (events ++ events') where
  airborne packet hpacket := by
    rw [transmitted, List.filterMap_append] at hpacket
    exact (List.mem_append.mp hpacket).elim (h.airborne packet) (h'.airborne packet)
  natives := by
    rw [transmitted, List.filterMap_append, List.filterMap_append, nativeFrames,
      List.filterMap_append]
    exact congrArg₂ (· ++ ·) h.natives h'.natives
  deliveries := by
    rw [nativeDeliveries, received, List.filterMap_append, List.filterMap_append,
      List.filterMap_append]
    exact h.deliveries.append h'.deliveries
  settled frame :=
    ⟨fun hmem => (List.mem_append.mp hmem).elim (h.settled frame).1 (h'.settled frame).1,
      fun hmem => (List.mem_append.mp hmem).elim (h.settled frame).2 (h'.settled frame).2⟩

theorem OnAir.flatMap {α : Type} {f : α → List Event} (h : ∀ a, OnAir (f a)) (l : List α) :
    OnAir (l.flatMap f) := by
  induction l with
  | nil => exact .nil
  | cons a l ih => exact (h a).append ih

/-- An event that has nothing to do with the air. -/
theorem OnAir.other {event : Event} (htransmitted : event.transmitted? = none)
    (hnative : event.native? = none) (hdelivery : event.nativeDelivery? = none)
    (hsettled : ∀ frame, event ≠ .acked frame ∧ event ≠ .failed frame) : OnAir [event] where
  airborne packet hpacket := by
    rw [transmitted, List.filterMap_cons_none htransmitted] at hpacket
    cases hpacket
  natives := by
    rw [transmitted, List.filterMap_cons_none htransmitted, nativeFrames,
      List.filterMap_cons_none hnative]
    rfl
  deliveries := by
    rw [nativeDeliveries, List.filterMap_cons_none hdelivery]
    exact List.nil_sublist _
  settled frame :=
    ⟨fun hmem => (hsettled frame).1 (List.mem_singleton.mp hmem).symm,
      fun hmem => (hsettled frame).2 (List.mem_singleton.mp hmem).symm⟩

/-- A packet that carries no frame. -/
theorem OnAir.transmit {packet : Packet} (h : Airborne packet) (hnone : parseNative packet = none)
    (ok : Bool) : OnAir [.transmit packet ok] where
  airborne packet' hpacket := by
    rw [show transmitted [.transmit packet ok] = [packet] from rfl, List.mem_singleton] at hpacket
    exact hpacket ▸ h
  natives := List.filterMap_cons_none hnone
  deliveries := List.nil_sublist _
  settled frame := by simp

theorem OnAir.transmitV3 {packet : Packet} {type : PacketType}
    (h : parsePacketType packet = .ok type) (ok : Bool) : OnAir [.transmit packet ok] :=
  .transmit (.v3 type h) (parseNative_v3 h) ok

theorem OnAir.transmitControl {ctrl : V2.ControlFrame} (h : V2.isKnownControlType ctrl.type)
    (ok : Bool) : OnAir [.transmit (V2.framingBuildControlPacket ctrl) ok] :=
  .transmit (.control ctrl ⟨h, rfl⟩) (parseNative_control ⟨h, rfl⟩) ok

theorem OnAir.sendNative {frame : List UInt8} (h : frame.length ≤ V2.framingNativeMaxPayload)
    (ok : Bool) : OnAir [.transmit (V2.framingBuildNativePacket frame h) ok, .native frame ok] where
  airborne packet hpacket := .native frame ⟨h, List.mem_singleton.mp hpacket⟩
  natives := List.filterMap_cons_some (parseNative_build ⟨h, rfl⟩)
  deliveries := List.nil_sublist _
  settled frame := by simp

theorem OnAir.deliver {packet : Packet} {payloadLen : Nat}
    (h : framingParseNativePayload packet = some payloadLen) (ok : Bool) :
    OnAir [.received packet,
      .rxQueueSend .nativePacket (Statics.nativePayload packet payloadLen) ok] where
  airborne _ hpacket := nomatch hpacket
  natives := rfl
  deliveries := by
    have hparse : parseNative packet = some (Statics.nativePayload packet payloadLen) := by
      rw [parseNative, h, Option.map_some]
    exact (List.filterMap_cons_some hparse).symm ▸ List.Sublist.refl _
  settled frame := by simp

/-- The engine transmits v3 packets and delivers for generic mode. -/
theorem onAir_engineEvents (event : Arq.Event) : OnAir (engineEvents event) := by
  have hother (event : Event) (h : event.transmitted? = none ∧ event.native? = none ∧
      event.nativeDelivery? = none ∧ ∀ frame, event ≠ .acked frame ∧ event ≠ .failed frame) :
      OnAir [event] := .other h.1 h.2.1 h.2.2.1 h.2.2.2
  cases event with
  | sent packet ok =>
    rw [engineEvents]
    cases hparse : parsePacketType packet with
    | error e => exact .nil
    | ok type => exact .transmitV3 hparse ok
  | delivered id data ok =>
    rw [engineEvents]
    split
    · exact .nil
    · have hsend : OnAir [.rxQueueSend .genericFragmented data ok] := by
        refine hother _ ⟨rfl, rfl, rfl, fun frame => ⟨?_, ?_⟩⟩ <;> intro heq <;> cases heq
      have hconfirmed : OnAir [.confirmed .datagram] := by
        refine hother _ ⟨rfl, rfl, rfl, fun frame => ⟨?_, ?_⟩⟩ <;> intro heq <;> cases heq
      split
      · exact hsend.append hconfirmed
      · exact hsend
  | accepted | opened | failed | completed | ackQueued => exact .nil

namespace Statics

variable {mac mac' : Statics}

theorem onAir_sendNative (h : OnAir mac.trace) (ans : Answers) (now : UInt32) :
    OnAir (mac.sendNative ans now).trace := by
  rcases sendNative_cases mac ans now with ⟨_, heq⟩ | ⟨hle, ok, _, heq⟩
  · rw [heq]
    exact h.append (.other rfl rfl rfl fun _ => ⟨nofun, nofun⟩)
  · rw [heq]
    have happend := h.append (OnAir.sendNative hle ok)
    rwa [← List.singleton_append, ← List.append_assoc] at happend

theorem onAir_move (h : OnAir mac.trace) (hmove : Move mac mac') : OnAir mac'.trace := by
  have hreceived (packet : Packet) : OnAir (mac.emit (.received packet)).trace :=
    h.append (.other rfl rfl rfl fun _ => ⟨nofun, nofun⟩)
  have hconfirmed {m : Statics} (h : OnAir m.trace) (cause : Confirmation) :
      OnAir (m.trace ++ [.confirmed cause]) :=
    h.append (.other rfl rfl rfl fun _ => ⟨nofun, nofun⟩)
  cases hmove with
  | clocks | tries | payloadActivity | staged | unanswered | backedOff => exact h
  | startReceive => exact h.append (.other rfl rfl rfl fun _ => ⟨nofun, nofun⟩)
  | finished => exact h.append (.other rfl rfl rfl fun _ => ⟨nofun, nofun⟩)
  | configured => exact h.append (.other rfl rfl rfl fun _ => ⟨nofun, nofun⟩)
  | received packet => exact hreceived packet
  | delivered packet payloadLen ok hmode hparse =>
    have happend := h.append (OnAir.deliver hparse ok)
    rwa [← List.singleton_append, ← List.append_assoc] at happend
  | replied packet ctrl ok =>
    refine (hreceived packet).append (OnAir.transmitControl ?_ ok)
    dsimp only
    split <;> rfl
  | answered packet ctrl => exact hconfirmed (hreceived packet) _
  | repliedV3 packet reply type ok hmode hparse hreply htype =>
    exact (hreceived packet).append (.transmitV3 htype ok)
  | answeredV3 packet => exact hconfirmed (hreceived packet) _
  | linkStateV3 packet => exact hconfirmed (hreceived packet) _
  | acked packet => exact (hconfirmed (hreceived packet) _).append (.flatMap onAir_engineEvents _)
  | took packet => exact (hreceived packet).append (.flatMap onAir_engineEvents _)
  | flushed | ticked => exact h.append (.flatMap onAir_engineEvents _)
  | heartbeat => exact h.append (.transmitControl rfl true)
  | heartbeatV3 packet type millis hmode hphase hbuild htype =>
    exact h.append (.transmitV3 htype true)
  | heartbeatLost packet hphase hpacket =>
    rcases hpacket with ⟨seq, hmode, rfl⟩ | ⟨type, hbuild, htype⟩
    · exact h.append (.transmitControl rfl false)
    · exact h.append (.transmitV3 htype false)
  | invalid => exact h.append (.other rfl rfl rfl fun _ => ⟨nofun, nofun⟩)
  | passed ans frame txQueue =>
    refine (h.append (.flatMap onAir_engineEvents _)).append ?_
    split <;> exact .other rfl rfl rfl fun _ => ⟨nofun, nofun⟩
  | sent ans now frame txQueue =>
    have htaken : OnAir (mac.take frame txQueue).trace := h
    exact onAir_sendNative htaken ans now
  | dispatched ans now => exact onAir_sendNative h ans now

theorem onAir_kept : Kept fun mac => OnAir mac.trace where
  move _ h hmove := onAir_move h hmove
  host _ _ h := h.append (.other rfl rfl rfl fun _ => ⟨nofun, nofun⟩)
  request _ h := h

/-- In every run of the task nothing enters the v2 ARQ: no frame is in its phases, no reassembly is
open and nothing is cached for duplicates, no frame is settled by it, and no packet that is handed
to the radio is one of its DATA or ACK packets. -/
theorem v2Arq_unreachable (config : RadioConfig) (nextHbMs : UInt32) (inputs : List Input) :
    let mac := (start config nextHbMs).run inputs
    mac.tx.phase ∉ [.warmupWait, .sending, .waitAck] ∧
      mac.ra.seq = V2.framingSeqUnset ∧ mac.completed = {} ∧
      (∀ frame, .acked frame ∉ mac.trace ∧ .failed frame ∉ mac.trace) ∧
      ∀ packet ∈ transmitted mac.trace,
        V2.framingParseDataHeader packet = none ∧ V2.framingParseAck packet = none := by
  have hair : OnAir ((start config nextHbMs).run inputs).trace := onAir_kept.of_start .nil inputs
  have hcurrent := (start_current config nextHbMs).run inputs
  refine ⟨?_, hcurrent.ra, hcurrent.completed, hair.settled,
    fun packet hpacket => (hair.airborne packet hpacket).not_v2Arq⟩
  rcases hcurrent.phase with hphase | hphase | ⟨hphase, _⟩ <;> rw [hphase] <;> decide

end Statics

end FlrcTnc.Node
