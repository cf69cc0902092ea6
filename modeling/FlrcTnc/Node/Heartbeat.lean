import FlrcTnc.Arq.Run
import FlrcTnc.Lib.Interleaving
import FlrcTnc.Node.NativeLink

/-! Heartbeats between two modems, in either format.  The link counts as confirmed by an answer only
if a heartbeat with the `seq` of the last one went over before, and the answer to it came back. -/

namespace FlrcTnc.Arq.ArqEngine

open Framing

/-- What the engine sends is DATA or ACK. -/
def SendsPayload (evs : List Event) : Prop :=
  ∀ packet ok, .sent packet ok ∈ evs →
    parsePacketType packet = .ok .data ∨ parsePacketType packet = .ok .ack

theorem SendsPayload.append {evs evs' : List Event} (h : SendsPayload evs)
    (h' : SendsPayload evs') : SendsPayload (evs ++ evs') := fun packet ok hmem =>
  (List.mem_append.mp hmem).elim (h packet ok) (h' packet ok)

theorem sendsPayload_run {e : ArqEngine} (h : e.Valid) (cb : ArqCallbacks) (call : Call) :
    SendsPayload (e.run cb call).events := by
  have hnil : SendsPayload [] := fun packet ok hmem => absurd hmem List.not_mem_nil
  have hfragment {evs : List Event} (hevs : ∀ ev ∈ evs, ev.OfFragment) : SendsPayload evs :=
    fun packet ok hmem => (hevs _ hmem).elim
  have hrun : SendsPayload ([] ++ e.trace [(cb, call)]) := by
    refine run_invariant (P := fun past _ => SendsPayload past) (fun hpast hact => hpast.append ?_)
      (fun hpast hreceive => hpast.append ?_) h hnil _
    · cases hact with
      | sender r hact =>
        cases hact with
        | send i t ht packet header payload hcarries hpacket ok =>
          intro packet' ok' hmem
          cases List.mem_singleton.mp hmem
          exact .inl (parsePacketType_of_data hpacket)
        | accept | openSlot | fail =>
          intro packet' ok' hmem
          cases List.mem_singleton.mp hmem
      | receiver s hact =>
        cases hact with
        | refuse =>
          intro packet' ok' hmem
          cases List.mem_singleton.mp hmem
        | deliver => exact hfragment fun ev hev => Receiver.ofFragment_of_mem_finishEvents hev
        | sendAck ack rest hpending packet hpacket ok =>
          intro packet' ok' hmem
          cases List.mem_singleton.mp hmem
          exact .inr (parsePacketType_of_ack hpacket)
    · cases hreceive with
      | ignore => exact hnil
      | data s hpacket hreceive => exact hfragment hreceive.ofFragment
      | ack r hpacket hreceive =>
        cases hreceive with
        | ignore | withdraw | add => exact hnil
        | complete =>
          intro packet' ok' hmem
          cases List.mem_singleton.mp hmem
  rwa [List.nil_append, trace, trace, List.append_nil] at hrun

end FlrcTnc.Arq.ArqEngine

namespace FlrcTnc.Node

open Arq Framing Kiss Serial Trace

/-- A CONTROL packet of either format, with its `seq` in v2. -/
def IsControl (v3 : ControlFrame) (v2 : V2.ControlType) (seq : Option UInt16) (packet : Packet) :
    Prop :=
  seq.elim (parseControlPacket packet = .ok v3) fun seq =>
    ∃ ctrl, V2.framingParseControl packet = some ctrl ∧ ctrl.type = v2 ∧ ctrl.seq = seq

def IsHeartbeat : Option UInt16 → Packet → Prop :=
  IsControl { subtype := .heartbeat } .heartbeat

def IsHeartbeatAck : Option UInt16 → Packet → Prop :=
  IsControl { subtype := .heartbeatAck } .heartbeatAck

namespace IsControl

variable {v3 : ControlFrame} {v2 : V2.ControlType} {seq : Option UInt16} {packet : Packet}

/-- A v3 packet is a CONTROL packet of its format only. -/
theorem of_v3 (h : IsControl v3 v2 seq packet) {type : PacketType}
    (htype : parsePacketType packet = .ok type) :
    seq = none ∧ parseControlPacket packet = .ok v3 := by
  cases seq with
  | none => exact ⟨rfl, h⟩
  | some seq =>
    obtain ⟨ctrl, hparse, _⟩ := h
    have hversion := (V2.control_type hparse).1
    rw [V2.not_framingHasValidVersion htype] at hversion
    cases hversion

theorem of_v2 (h : IsControl v3 v2 seq packet)
    (hversion : V2.framingHasValidVersion packet = true) :
    ∃ ctrl, seq = some ctrl.seq ∧ V2.framingParseControl packet = some ctrl ∧
      ctrl.type = v2 := by
  cases seq with
  | none =>
    rw [V2.not_framingHasValidVersion (parsePacketType_of_control h)] at hversion
    cases hversion
  | some n =>
    obtain ⟨ctrl, hparse, htype, rfl⟩ := h
    exact ⟨ctrl, rfl, hparse, htype⟩

end IsControl

/-- A packet that is no CONTROL packet. -/
def Payload (packet : Packet) : Prop := ∀ v3 v2 seq, ¬ IsControl v3 v2 seq packet

theorem payload_v3 {packet : Packet} {type : PacketType} (h : parsePacketType packet = .ok type)
    (htype : type ≠ .control) : Payload packet := by
  intro v3 v2 seq hcontrol
  have hparse := parsePacketType_of_control (hcontrol.of_v3 h).2
  rw [h] at hparse
  cases hparse
  exact htype rfl

theorem payload_native {frame : List UInt8} {packet : Packet} (h : V2.BuildsNative frame packet) :
    Payload packet := by
  intro v3 v2 seq hcontrol
  obtain ⟨hversion, hnative⟩ := V2.native_type (V2.native_exact.parses_of_builds h).1
  obtain ⟨ctrl, _, hparse, _⟩ := hcontrol.of_v2 hversion
  rw [(V2.control_type hparse).2] at hnative
  cases hnative

theorem IsHeartbeat.not_ack {seq : Option UInt16} {packet : Packet} (h : IsHeartbeat seq packet)
    (seq' : Option UInt16) : ¬ IsHeartbeatAck seq' packet := by
  intro hack
  cases seq with
  | none =>
    have hparse := (hack.of_v3 (parsePacketType_of_control h)).2
    exact absurd (Except.ok.inj (Eq.trans h.symm hparse)) (by decide)
  | some n =>
    obtain ⟨ctrl, hhb, htype, _⟩ := h
    obtain ⟨ctrl', _, hparse, htype'⟩ := hack.of_v2 (V2.control_type hhb).1
    rw [← Option.some.inj (hhb.symm.trans hparse), htype] at htype'
    cases htype'

/-- A heartbeat went to the radio, and no other one after it. -/
def LastHeartbeat (seq : Option UInt16) (past : List Event) : Prop :=
  ∃ before hb after, past = before ++ .transmit hb true :: after ∧ IsHeartbeat seq hb ∧
    ∀ packet ok, .transmit packet ok ∈ after → ∀ seq, ¬ IsHeartbeat seq packet

theorem LastHeartbeat.append {seq : Option UInt16} {past events : List Event}
    (h : LastHeartbeat seq past)
    (hevents : ∀ packet ok, .transmit packet ok ∈ events → ∀ seq, ¬ IsHeartbeat seq packet) :
    LastHeartbeat seq (past ++ events) := by
  obtain ⟨before, hb, after, rfl, hhb, hafter⟩ := h
  refine ⟨before, hb, after ++ events, List.append_assoc .., hhb, fun packet ok hmem => ?_⟩
  exact (List.mem_append.mp hmem).elim (hafter packet ok) (hevents packet ok)

/-- An event of the heartbeats has its reason: an answer that the heartbeat was received, a
confirmation that the answer to the last heartbeat was. -/
structure Reasoned (past : List Event) (event : Event) : Prop where
  answers : ∀ seq ack ok, event = .transmit ack ok → IsHeartbeatAck seq ack →
    ∃ hb, IsHeartbeat seq hb ∧ .received hb ∈ past
  confirms : ∀ seq, event = .confirmed (.heartbeatAck seq) →
    LastHeartbeat seq past ∧ ∃ ack, IsHeartbeatAck seq ack ∧ .received ack ∈ past

/-- An event that has nothing to do with heartbeats. -/
structure Event.Plain (event : Event) : Prop where
  transmits : ∀ packet ok, event = .transmit packet ok → Payload packet
  confirms : ∀ seq, event ≠ .confirmed (.heartbeatAck seq)

theorem Event.Plain.reasoned {event : Event} (h : event.Plain) (past : List Event) :
    Reasoned past event where
  answers seq ack ok heq hack := absurd hack (h.transmits ack ok heq _ _ seq)
  confirms seq heq := absurd heq (h.confirms seq)

/-- Whether the event belongs to a heartbeat's answer. -/
def Event.answer? : Event → Option (Option UInt16)
  | .confirmed (.heartbeatAck seq) => some seq
  | _ => none

theorem plain_other {event : Event} (htransmitted : event.transmitted? = none)
    (hanswer : event.answer? = none) : event.Plain where
  transmits packet ok heq := by
    rw [heq] at htransmitted
    cases htransmitted
  confirms seq heq := by
    rw [heq] at hanswer
    cases hanswer

theorem plain_engineEvents {e : ArqEngine} (h : e.Valid) (cb : ArqCallbacks) (call : Call) :
    ∀ event ∈ (e.run cb call).events.flatMap engineEvents, event.Plain := by
  intro event hmem
  rcases of_mem_engineEvents hmem with ⟨packet, _, ok, hsent, _, rfl⟩ | ⟨_, _, _, _, rfl | rfl⟩
  · have htype := ArqEngine.sendsPayload_run h cb call packet ok hsent
    have hpayload : Payload packet := htype.elim (payload_v3 · (by decide))
      (payload_v3 · (by decide))
    refine ⟨fun packet' ok' heq => ?_, fun seq heq => ?_⟩
    · cases heq
      exact hpayload
    · cases heq
  · exact plain_other rfl rfl
  · exact plain_other rfl rfl

namespace Statics

variable {mac mac' : Statics}

/-- What the answer has to carry: native mode numbers its heartbeats. -/
def awaited (mac : Statics) : Option UInt16 :=
  if mac.isGenericTransport then none else some mac.tx.hbSeq

/-- Events of heartbeats have their reasons, and while an answer is awaited the last heartbeat is
the one that it is awaited for. -/
structure Beats (mac : Statics) : Prop where
  reasoned : Always Reasoned mac.trace
  awaits : mac.tx.phase = .hbWait → LastHeartbeat mac.awaited mac.trace

/-- Events after which the task awaits the answer that it awaited, or none. -/
theorem Beats.step (h : mac.Beats) {events : List Event}
    (htrace : mac'.trace = mac.trace ++ events)
    (hreasoned : Always (fun past => Reasoned (mac.trace ++ past)) events)
    (hawaits : mac'.tx.phase = .hbWait → mac.tx.phase = .hbWait ∧ mac'.awaited = mac.awaited ∧
      ∀ packet ok, .transmit packet ok ∈ events → ∀ seq, ¬ IsHeartbeat seq packet) :
    mac'.Beats where
  reasoned := by
    rw [htrace]
    exact always_append h.reasoned hreasoned
  awaits hphase := by
    obtain ⟨hphase, hawaited, hnone⟩ := hawaits hphase
    rw [htrace, hawaited]
    exact (h.awaits hphase).append hnone

theorem Beats.plain (h : mac.Beats) {events : List Event}
    (htrace : mac'.trace = mac.trace ++ events) (hplain : ∀ event ∈ events, event.Plain)
    (hawaits : mac'.tx.phase = .hbWait → mac.tx.phase = .hbWait ∧ mac'.awaited = mac.awaited) :
    mac'.Beats := by
  refine h.step htrace (always_of_forall fun event hmem past => (hplain event hmem).reasoned _)
    fun hphase => ?_
  obtain ⟨hphase, hawaited⟩ := hawaits hphase
  exact ⟨hphase, hawaited, fun packet ok hmem seq =>
    (hplain _ hmem).transmits packet ok rfl _ _ seq⟩

theorem Beats.received (h : mac.Beats) (packet : Packet) :
    (mac.emit (.received packet)).Beats :=
  h.plain rfl (fun event hmem => by
    rw [List.mem_singleton.mp hmem]
    exact plain_other rfl rfl) fun hphase => ⟨hphase, rfl⟩

/-- A heartbeat that the radio takes. -/
theorem Beats.heartbeat (h : mac.Beats) {packet : Packet} (seq : UInt16) (millis : UInt32)
    (hhb : IsHeartbeat ((mac.emit (.transmit packet true)).awaitHeartbeatAck seq millis).awaited
      packet) :
    ((mac.emit (.transmit packet true)).awaitHeartbeatAck seq millis).Beats where
  reasoned := by
    refine always_append h.reasoned (always_singleton.mpr ⟨fun seq' ack ok heq hack => ?_, nofun⟩)
    cases heq
    exact absurd hack (hhb.not_ack seq')
  awaits _ := ⟨mac.trace, packet, [], rfl, hhb, fun _ _ hmem => absurd hmem List.not_mem_nil⟩

/-- One that it does not take. -/
theorem Beats.lost (h : mac.Beats) {packet : Packet} (seq : Option UInt16)
    (hhb : IsHeartbeat seq packet) (hphase : mac.tx.phase = .idle) :
    (mac.emit (.transmit packet false)).Beats := by
  refine h.step rfl (always_singleton.mpr ⟨fun seq' ack ok heq hack => ?_, nofun⟩) fun hwait => ?_
  · cases heq
    exact absurd hack (hhb.not_ack seq')
  · exact absurd (hphase.symm.trans hwait) (by decide)

/-- The answer to a packet that it received. -/
theorem Beats.reply (h : mac.Beats) {packet reply : Packet} (ok : Bool)
    (hack : ∀ seq, IsHeartbeatAck seq reply → IsHeartbeat seq packet)
    (hhb : ∀ seq, ¬ IsHeartbeat seq reply) :
    ((mac.emit (.received packet)).emit (.transmit reply ok)).Beats := by
  refine (h.received packet).step rfl (always_singleton.mpr ⟨fun seq ack ok' heq hreply => ?_,
    nofun⟩) fun hphase => ⟨hphase, rfl, fun packet' ok' hmem => ?_⟩
  · cases heq
    refine ⟨packet, hack seq hreply, ?_⟩
    exact List.mem_append_left _ (List.mem_append_right _ (List.mem_singleton_self _))
  · cases List.mem_singleton.mp hmem
    exact hhb

/-- The answer that was awaited. -/
theorem Beats.confirmed (h : mac.Beats) (hphase : mac.tx.phase = .hbWait) {packet : Packet}
    (hack : IsHeartbeatAck mac.awaited packet) (millis now random : UInt32) :
    (((mac.emit (.received packet)).noteBidirectionalControl millis
      (.heartbeatAck mac.awaited)).postFrame now random).Beats := by
  have hreceived := h.received packet
  refine hreceived.step rfl (always_singleton.mpr ⟨nofun, fun seq heq => ?_⟩) nofun
  cases heq
  rw [List.append_nil]
  refine ⟨hreceived.awaits hphase, packet, hack, ?_⟩
  exact List.mem_append_right _ (List.mem_singleton_self _)

theorem beats_sendNative (h : mac.Beats) (ans : Answers) (now : UInt32) :
    (mac.sendNative ans now).Beats := by
  rcases sendNative_cases mac ans now with ⟨_, heq⟩ | ⟨hle, ok, _, heq⟩
  · rw [heq]
    exact h.plain rfl (fun event hmem => by
      rw [List.mem_singleton.mp hmem]
      exact plain_other rfl rfl) nofun
  · rw [heq]
    refine h.plain (List.append_assoc ..) (fun event hmem => ?_) nofun
    rcases List.mem_pair.mp hmem with rfl | rfl
    · refine ⟨fun packet ok heq => ?_, nofun⟩
      cases heq
      exact payload_native ⟨hle, rfl⟩
    · exact plain_other rfl rfl

theorem beats_move (hvalid : mac.arq.Valid) (h : mac.Beats) (hmove : Move mac mac') :
    mac'.Beats := by
  have hnone : ∀ event ∈ ([] : List Event), event.Plain := List.forall_mem_nil _
  have hone {event : Event} (hevent : event.Plain) : ∀ ev ∈ [event], ev.Plain := fun ev hmem =>
    List.mem_singleton.mp hmem ▸ hevent
  have hengine (ans : EngineAnswers) (call : Call) {m : Statics} (h : m.Beats)
      (harq : m.arq = mac.arq) : (m.runArq ans call).Beats :=
    h.plain rfl (harq ▸ plain_engineEvents hvalid ans.callbacks call) fun hphase => ⟨hphase, rfl⟩
  cases hmove with
  | clocks | tries | payloadActivity | staged =>
    exact h.plain (List.append_nil _).symm hnone fun hphase => ⟨hphase, rfl⟩
  | unanswered => exact h.plain (List.append_nil _).symm hnone nofun
  | backedOff => exact h.plain (List.append_nil _).symm hnone nofun
  | startReceive | finished =>
    exact h.plain rfl (hone (plain_other rfl rfl)) fun hphase => ⟨hphase, rfl⟩
  | configured => exact h.plain rfl (hone (plain_other rfl rfl)) nofun
  | received packet => exact h.received packet
  | delivered packet =>
    exact (h.received packet).plain rfl (hone (plain_other rfl rfl)) fun hphase => ⟨hphase, rfl⟩
  | replied packet ctrl ok hmode hparse htype =>
    have hknown : V2.isKnownControlType
        (if ctrl.type = .heartbeat then .heartbeatAck else .dataReady) := by split <;> rfl
    have hreply := V2.control_exact.parses_of_builds (p := controlReply ctrl) ⟨hknown, rfl⟩
    refine h.reply ok (fun seq hack => ?_) fun seq hhb => ?_
    · obtain ⟨ctrl', rfl, hctrl', htype'⟩ := hack.of_v2 (V2.control_type hreply).1
      cases Option.some.inj (hreply.symm.trans hctrl')
      dsimp only at htype'
      split at htype'
      · next hheartbeat => exact ⟨ctrl, hparse, hheartbeat, rfl⟩
      · cases htype'
    · obtain ⟨ctrl', rfl, hctrl', htype'⟩ := hhb.of_v2 (V2.control_type hreply).1
      cases Option.some.inj (hreply.symm.trans hctrl')
      dsimp only at htype'
      split at htype' <;> cases htype'
  | answered packet ctrl millis now random hmode hparse htype hphase hseq =>
    have hawaited : mac.awaited = some ctrl.seq := by
      rw [awaited, if_neg (not_isGenericTransport_iff.mpr hmode), hseq]
    have hack : IsHeartbeatAck mac.awaited packet := by
      rw [hawaited]
      exact ⟨ctrl, hparse, htype, rfl⟩
    have hconfirmed := h.confirmed hphase hack millis now random
    rwa [hawaited] at hconfirmed
  | repliedV3 packet reply type ok hmode hparse hreply htype =>
    have hparsed := control_exact.parses_of_builds hreply
    refine h.reply ok (fun seq hack => ?_) fun seq hhb => ?_
    · obtain ⟨rfl, _⟩ := hack.of_v3 htype
      exact hparse
    · exact absurd (Except.ok.inj (hparsed.symm.trans (hhb.of_v3 htype).2)) (by decide)
  | answeredV3 packet millis now random hmode hparse hphase =>
    have hawaited : mac.awaited = none := if_pos (isGenericTransport_iff.mpr hmode)
    have hack : IsHeartbeatAck mac.awaited packet := by
      rw [hawaited]
      exact hparse
    have hconfirmed := h.confirmed hphase hack millis now random
    rwa [hawaited] at hconfirmed
  | linkStateV3 packet =>
    exact (h.received packet).plain rfl (hone (plain_other rfl rfl)) fun hphase => ⟨hphase, rfl⟩
  | acked packet millis now ans =>
    have hconfirmed : ((mac.emit (.received packet)).noteBidirectionalControl millis .ack).Beats :=
      (h.received packet).plain rfl (hone (plain_other rfl rfl)) fun hphase => ⟨hphase, rfl⟩
    exact hengine ans _ hconfirmed rfl
  | took packet type now ans => exact hengine ans _ (h.received packet) rfl
  | flushed ans | ticked ans => exact hengine ans _ h rfl
  | heartbeat seq millis hmode =>
    refine h.heartbeat seq millis ?_
    rw [awaited, if_neg (not_isGenericTransport_iff.mpr (by exact hmode))]
    exact ⟨_, V2.control_exact.parses_of_builds ⟨rfl, rfl⟩, rfl, rfl⟩
  | heartbeatV3 packet type millis hmode hphase hbuild =>
    refine h.heartbeat mac.tx.hbSeq millis ?_
    rw [awaited, if_pos (isGenericTransport_iff.mpr (by exact hmode))]
    exact control_exact.parses_of_builds hbuild
  | heartbeatLost packet hphase hpacket =>
    rcases hpacket with ⟨seq, _, rfl⟩ | ⟨_, hbuild, _⟩
    · have hparse := V2.control_exact.parses_of_builds
        (f := { type := .heartbeat, seq }) ⟨rfl, rfl⟩
      exact h.lost (some seq) ⟨_, hparse, rfl, rfl⟩ hphase
    · exact h.lost none (control_exact.parses_of_builds hbuild) hphase
  | invalid frame txQueue hphase =>
    exact h.plain rfl (hone (plain_other rfl rfl)) fun hwait => ⟨hwait, rfl⟩
  | passed ans frame txQueue =>
    have htaken : (mac.take frame txQueue).Beats :=
      h.plain (List.append_nil _).symm hnone fun hphase => ⟨hphase, rfl⟩
    refine (hengine ans (.onTxDatagram (some frame)) htaken rfl).plain rfl (hone ?_)
      fun hphase => ⟨hphase, rfl⟩
    split <;> exact plain_other rfl rfl
  | sent ans now frame txQueue =>
    have htaken : (mac.take frame txQueue).Beats :=
      h.plain (List.append_nil _).symm hnone fun hphase => ⟨hphase, rfl⟩
    exact beats_sendNative htaken ans now
  | dispatched ans now => exact beats_sendNative h ans now

theorem beats_kept : Kept fun mac => mac.Serves ∧ mac.Beats where
  move _ h hmove := ⟨serves_move h.1 hmove, beats_move h.1.valid h.2 hmove⟩
  host frame hroom h :=
    ⟨serves_kept.host frame hroom h.1, h.2.plain rfl (fun event hmem => by
      rw [List.mem_singleton.mp hmem]
      exact plain_other rfl rfl) fun hphase => ⟨hphase, rfl⟩⟩
  request command h :=
    ⟨serves_kept.request command h.1, h.2.plain (List.append_nil _).symm
      (List.forall_mem_nil _) fun hphase => ⟨hphase, rfl⟩⟩

/-- If the link counts as confirmed, a heartbeat was answered. -/
def Confirmed (mac : Statics) : Prop :=
  mac.health.linkEverConfirmed = true → ∃ seq, .confirmed (.heartbeatAck seq) ∈ mac.trace

theorem Confirmed.mono (h : mac.Confirmed)
    (hhealth : mac'.health.linkEverConfirmed = mac.health.linkEverConfirmed)
    (htrace : mac.trace <+: mac'.trace) : mac'.Confirmed := by
  intro hconfirmed
  rw [hhealth] at hconfirmed
  obtain ⟨seq, hmem⟩ := h hconfirmed
  exact ⟨seq, htrace.subset hmem⟩

theorem sendNative_confirmed (mac : Statics) (ans : Answers) (now : UInt32) :
    (mac.sendNative ans now).health.linkEverConfirmed = mac.health.linkEverConfirmed := by
  rw [sendNative]
  split
  · rfl
  · dsimp only
    split <;> rfl

/-- In native mode nothing else confirms it. -/
theorem confirmed_move (hnative : mac.OnlyNative) (h : mac.Confirmed) (hmove : Move mac mac') :
    mac'.Confirmed := by
  have hmono (hhealth : mac'.health.linkEverConfirmed = mac.health.linkEverConfirmed) :
      mac'.Confirmed := h.mono hhealth hmove.trace
  cases hmove with
  | clocks | tries | payloadActivity | startReceive | staged | finished | configured | received
  | delivered | replied | heartbeat | heartbeatV3 | heartbeatLost | unanswered | invalid
  | backedOff =>
    exact hmono rfl
  | answered packet ctrl =>
    exact fun _ => ⟨some ctrl.seq, List.mem_append_right _ (List.mem_singleton_self _)⟩
  | repliedV3 packet reply type ok hmode | answeredV3 packet millis now random hmode
  | linkStateV3 packet millis hmode | acked packet millis now ans hmode
  | took packet type now ans hmode | flushed ans now hmode | ticked ans now hmode
  | passed ans frame txQueue hmode =>
    exact hnative.not_generic hmode
  | sent ans now frame txQueue =>
    exact hmono (sendNative_confirmed (mac.take frame txQueue) ans now)
  | dispatched ans now => exact hmono (sendNative_confirmed mac ans now)

theorem confirmed_kept : Kept fun mac =>
    StaysNative mac.trace → mac.OnlyNative ∧ mac.Confirmed where
  move _ h hmove hstays := by
    obtain ⟨hnative, hconfirmed⟩ := h fun event hmem => hstays event (hmove.trace.subset hmem)
    exact ⟨onlyNative_move hnative hmove hstays, confirmed_move hnative hconfirmed hmove⟩
  host frame hroom h hstays := by
    obtain ⟨hnative, hconfirmed⟩ := h fun event hmem => hstays event (List.mem_append_left _ hmem)
    exact ⟨onlyNative_kept.host frame hroom (fun _ => hnative) hstays,
      hconfirmed.mono rfl (List.prefix_append ..)⟩
  request command h hstays :=
    ⟨onlyNative_kept.request command (fun _ => (h hstays).1) hstays,
      (h hstays).2.mono rfl (List.prefix_refl _)⟩

theorem start_beats (config : RadioConfig) (nextHbMs : UInt32) : (start config nextHbMs).Beats :=
  ⟨always_nil, nofun⟩

end Statics

/-! ### Two modems -/

/-- The modems at the two ends. -/
inductive Side
  | a | b
  deriving DecidableEq, Repr

def Side.other : Side → Side
  | a => b
  | b => a

theorem Side.other_other (side : Side) : side.other.other = side := by cases side <;> rfl

/-- What is received was taken by the radio of the other side before.  Any packet may be lost, come
late, or more than once. -/
def Heard (past : List (Side × Event)) (entry : Side × Event) : Prop :=
  ∀ packet, entry.2 = .received packet → (entry.1.other, .transmit packet true) ∈ past

open Interleaving

section

variable {config : Side → RadioConfig} {nextHbMs : Side → UInt32} {inputs : Side → List Input}
  {log : List (Side × Event)}

/-- The chain of causes behind a confirmation. -/
theorem confirmed_chain
    (hlog : ∀ side, eventsOf side log =
      ((Statics.start (config side) (nextHbMs side)).run (inputs side)).trace)
    (hheard : Always Heard log) {past rest : List (Side × Event)} {side : Side}
    {seq : Option UInt16} (hsplit : log = past ++ (side, .confirmed (.heartbeatAck seq)) :: rest) :
    LastHeartbeat seq (eventsOf side past) ∧
      ∃ hb ack, IsHeartbeat seq hb ∧ IsHeartbeatAck seq ack ∧
        [(side, .transmit hb true), (side.other, .received hb), (side.other, .transmit ack true),
          (side, .received ack)].Sublist past := by
  have hreasoned : Always (fun past entry => Reasoned (eventsOf entry.1 past) entry.2) log :=
    always_of_eventsOf fun side => by
      rw [hlog]
      exact (Statics.beats_kept.of_start ⟨Statics.start_serves _ _, Statics.start_beats _ _⟩
        (inputs side)).2.reasoned
  obtain ⟨hlast, ack, hack, hreceived⟩ := (hreasoned past _ rest hsplit).confirms seq rfl
  refine ⟨hlast, ?_⟩
  have hpast : past <+: log := ⟨_, hsplit.symm⟩
  have hheard := hheard.prefix hpast
  have hreasoned := hreasoned.prefix hpast
  -- back along the chain, from the answer that arrived
  have hchain := List.singleton_sublist.mpr (mem_eventsOf.mp hreceived)
  obtain ⟨_, rfl, hchain⟩ := exists_cause (C := (· = (side.other, .transmit ack true)))
    (fun past rest hsplit => ⟨_, hheard past _ rest hsplit ack rfl, rfl⟩) hchain
  obtain ⟨_, ⟨hb, hhb, rfl⟩, hchain⟩ := exists_cause
    (C := fun cause => ∃ hb, IsHeartbeat seq hb ∧ cause = (side.other, .received hb))
    (fun past rest hsplit => by
      obtain ⟨hb, hhb, hmem⟩ := (hreasoned past _ rest hsplit).answers seq ack true rfl hack
      exact ⟨_, mem_eventsOf.mp hmem, hb, hhb, rfl⟩) hchain
  obtain ⟨_, rfl, hchain⟩ := exists_cause (C := (· = (side, .transmit hb true)))
    (fun past rest hsplit => by
      have hmem := hheard past _ rest hsplit hb rfl
      rw [Side.other_other] at hmem
      exact ⟨_, hmem, rfl⟩) hchain
  exact ⟨hb, ack, hhb, hack, hchain⟩

end

/-- What two tasks do, in one log with their events in any order that keeps to causes: wherever a
heartbeat counts as answered, the last one of that side has the `seq` of the answer, a heartbeat
with that `seq`, the last or one before it, went over before, and the answer to it came back. -/
theorem heartbeat_round_trip (config : Side → RadioConfig) (nextHbMs : Side → UInt32)
    (inputs : Side → List Input) (log : List (Side × Event))
    (hlog : ∀ side, eventsOf side log =
      ((Statics.start (config side) (nextHbMs side)).run (inputs side)).trace)
    (hheard : Always Heard log) :
    Always (fun past entry => ∀ seq, entry.2 = .confirmed (.heartbeatAck seq) →
      LastHeartbeat seq (eventsOf entry.1 past) ∧
        ∃ hb ack, IsHeartbeat seq hb ∧ IsHeartbeatAck seq ack ∧
          [(entry.1, .transmit hb true), (entry.1.other, .received hb),
            (entry.1.other, .transmit ack true), (entry.1, .received ack)].Sublist past) log := by
  rintro past ⟨side, event⟩ rest hsplit seq rfl
  exact confirmed_chain hlog hheard hsplit

/-- As long as a task runs in native mode, it reports a link that is not down only after a heartbeat
of its own went over and the answer came back. -/
theorem native_link_round_trip (config : Side → RadioConfig) (nextHbMs : Side → UInt32)
    (inputs : Side → List Input) (log : List (Side × Event))
    (hlog : ∀ side, eventsOf side log =
      ((Statics.start (config side) (nextHbMs side)).run (inputs side)).trace)
    (hheard : Always Heard log) (side : Side) (millis : UInt32)
    (hnative : (config side).transportMode = .nativePacket)
    (hstays : Statics.StaysNative (eventsOf side log))
    (hup : ((Statics.start (config side) (nextHbMs side)).run (inputs side)).health.linkState
      millis ≠ .down) :
    ∃ seq hb ack, IsHeartbeat seq hb ∧ IsHeartbeatAck seq ack ∧
      [(side, .transmit hb true), (side.other, .received hb), (side.other, .transmit ack true),
        (side, .received ack), (side, .confirmed (.heartbeatAck seq))].Sublist log := by
  have hstart : Statics.StaysNative (Statics.start (config side) (nextHbMs side)).trace →
      (Statics.start (config side) (nextHbMs side)).OnlyNative ∧
        (Statics.start (config side) (nextHbMs side)).Confirmed :=
    fun _ => ⟨⟨hnative, rfl, rfl, List.forall_mem_nil _⟩, nofun⟩
  rw [hlog] at hstays
  have hconfirmed := (Statics.confirmed_kept.of_start hstart (inputs side) hstays).2
  obtain ⟨seq, hmem⟩ := hconfirmed (by
    by_contra hnot
    exact hup (if_neg hnot))
  rw [← hlog, mem_eventsOf] at hmem
  obtain ⟨past, rest, rfl⟩ := List.append_of_mem hmem
  obtain ⟨_, hb, ack, hhb, hack, hchain⟩ :=
    confirmed_chain hlog hheard rfl
  exact ⟨seq, hb, ack, hhb, hack,
    hchain.append (List.singleton_sublist.mpr (List.mem_cons_self ..))⟩

/-- A heartbeat of `a` and its answer. -/
def beatInputs (hb ack : Packet) (side : Side) : List Input :=
  if side = .a then [.turn (.calm .timeout 5), .turn (.calm (.radio (some ack)) 9)]
  else [.turn (.calm (.radio (some hb)) 7)]

def beatNextHbMs (side : Side) : UInt32 := if side = .a then 1 else 4000

def beatLog (hb ack : Packet) : List (Side × Event) :=
  [(.a, .transmit hb true), (.b, .received hb), (.b, .transmit ack true), (.a, .received ack),
    (.a, .confirmed (.heartbeatAck (some 1)))]

def firstBeat : Packet := V2.framingBuildControlPacket { type := .heartbeat, seq := 1 }

def firstBeatAck : Packet := V2.framingBuildControlPacket { type := .heartbeatAck, seq := 1 }

theorem beatLog_eq (side : Side) : eventsOf side (beatLog firstBeat firstBeatAck) =
    ((Statics.start Statics.nativeConfig (beatNextHbMs side)).run
      (beatInputs firstBeat firstBeatAck side)).trace := by
  cases side <;> decide +kernel

theorem beatLog_heard : Always Heard (beatLog firstBeat firstBeatAck) := by
  simp [beatLog, always_cons, always_nil, Heard, Side.other]

theorem heartbeat_round_trip_beatLog :
    Always (fun past entry => ∀ seq, entry.2 = .confirmed (.heartbeatAck seq) →
      LastHeartbeat seq (eventsOf entry.1 past) ∧
        ∃ hb ack, IsHeartbeat seq hb ∧ IsHeartbeatAck seq ack ∧
          [(entry.1, .transmit hb true), (entry.1.other, .received hb),
            (entry.1.other, .transmit ack true), (entry.1, .received ack)].Sublist past)
      (beatLog firstBeat firstBeatAck) :=
  heartbeat_round_trip (fun _ => Statics.nativeConfig) beatNextHbMs
    (beatInputs firstBeat firstBeatAck) _ beatLog_eq beatLog_heard

theorem native_link_round_trip_beatLog :
    ∃ seq hb ack, IsHeartbeat seq hb ∧ IsHeartbeatAck seq ack ∧
      [(.a, .transmit hb true), (.b, .received hb), (.b, .transmit ack true),
        (.a, .received ack), (.a, .confirmed (.heartbeatAck seq))].Sublist
          (beatLog firstBeat firstBeatAck) := by
  refine native_link_round_trip (fun _ => Statics.nativeConfig) beatNextHbMs
    (beatInputs firstBeat firstBeatAck) _ beatLog_eq beatLog_heard .a 100 rfl ?_ (by decide +kernel)
  unfold Statics.StaysNative
  decide +kernel

end FlrcTnc.Node
