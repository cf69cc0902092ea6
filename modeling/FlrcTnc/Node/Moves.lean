import FlrcTnc.Framing.ExactV2
import FlrcTnc.Node.Loop
import Mathlib.Logic.Relation

/-! What the loop of `macTask` can do.  The fragmented v2 ARQ is never entered: generic mode hands
every packet and every frame to the v3 engine, and native mode sends and takes single packets only.
A turn is a chain of moves, from which the invariants of the task are derived. -/

namespace FlrcTnc.Node

open Arq Framing Kiss Serial
open Mac (TxPhase)
open V2 (framingSeqUnset)

namespace Statics

/-- The v2 ARQ is not in use: no frame is in its phases and no reassembly is open. -/
structure Current (mac : Statics) : Prop where
  phase : mac.tx.phase = .idle ∨ mac.tx.phase = .hbWait ∨
    mac.tx.phase = .lbtBackoff ∧ mac.config.transportMode = .nativePacket
  ra : mac.ra.seq = framingSeqUnset
  completed : mac.completed = {}

/-- The payload of a NATIVE packet. -/
def nativePayload (packet : Packet) (payloadLen : Nat) : List UInt8 :=
  (packet.data.drop V2.framingNativeHdrLen).take payloadLen

/-- The reply to a v2 heartbeat, and to an announcement of data. -/
def controlReply (ctrl : V2.ControlFrame) : Packet :=
  V2.framingBuildControlPacket {
    type := if ctrl.type = .heartbeat then .heartbeatAck else .dataReady
    seq := ctrl.seq }

/-- A frame of `txQueue` is copied to `s_tx.frame`. -/
def take (mac : Statics) (frame : List UInt8) (txQueue : List (List UInt8)) : Statics :=
  { mac with txQueue, tx := { mac.tx with frame } }

/-- One move of the task outside the v2 ARQ. -/
inductive Move (mac : Statics) : Statics → Prop
  | clocks (nextHbMs lastRadioEventMs deadlineMs : UInt32) (controlSeq : UInt16) :
      Move mac { mac with
        nextHbMs, lastRadioEventMs, controlSeq, tx := { mac.tx with deadlineMs } }
  | tries (lbtTries : UInt8) (hmax : mac.tx.phase = .lbtBackoff → lbtTries < radioLbtMaxRetries) :
      Move mac { mac with tx := { mac.tx with lbtTries } }
  | payloadActivity (millis : UInt32) : Move mac (mac.notePayloadActivity millis)
  | startReceive : Move mac (mac.emit .startReceive)
  | staged (command : MacCommand) (hcmd : mac.cmdQueue = some command) :
      Move mac { mac with cmdQueue := none, stagedCmd := some command }
  | finished (command : MacCommand) (hcmd : mac.stagedCmd = some command)
      (hphase : mac.tx.phase = .idle) :
      Move mac ({ mac with stagedCmd := none }.emit (.executed command))
  | configured (config : RadioConfig) (hcmd : mac.stagedCmd = some (.applyConfig config))
      (hphase : mac.tx.phase = .idle) :
      Move mac { mac.emit (.executed (.applyConfig config)) with
        stagedCmd := none, config, ra := mac.ra.reset, tx := {}, arq := .reset Mac.arqConfig }
  -- packets from the radio
  | received (packet : Packet)
      (hignored : mac.config.transportMode = .nativePacket →
        V2.framingParseNativePayload packet = none) :
      Move mac (mac.emit (.received packet))
  | delivered (packet : Packet) (payloadLen : Nat) (ok : Bool)
      (hmode : mac.config.transportMode = .nativePacket)
      (hparse : V2.framingParseNativePayload packet = some payloadLen) :
      Move mac ((mac.emit (.received packet)).emit
        (.rxQueueSend .nativePacket (nativePayload packet payloadLen) ok))
  | replied (packet : Packet) (ctrl : V2.ControlFrame) (ok : Bool)
      (hmode : mac.config.transportMode = .nativePacket)
      (hparse : V2.framingParseControl packet = some ctrl)
      (htype : ctrl.type = .heartbeat ∨ ctrl.type = .dataPending) :
      Move mac ((mac.emit (.received packet)).emit (.transmit (controlReply ctrl) ok))
  | answered (packet : Packet) (ctrl : V2.ControlFrame) (millis now random : UInt32)
      (hmode : mac.config.transportMode = .nativePacket)
      (hparse : V2.framingParseControl packet = some ctrl) (htype : ctrl.type = .heartbeatAck)
      (hphase : mac.tx.phase = .hbWait) (hseq : ctrl.seq = mac.tx.hbSeq) :
      Move mac (((mac.emit (.received packet)).noteBidirectionalControl millis
        (.heartbeatAck (some ctrl.seq))).postFrame now random)
  | repliedV3 (packet reply : Packet) (type : PacketType) (ok : Bool)
      (hmode : mac.config.transportMode = .genericFragmented)
      (hparse : parseControlPacket packet = .ok { subtype := .heartbeat })
      (hreply : buildControlPacket { subtype := .heartbeatAck } = .ok reply)
      (htype : parsePacketType reply = .ok type) :
      Move mac ((mac.emit (.received packet)).emit (.transmit reply ok))
  | answeredV3 (packet : Packet) (millis now random : UInt32)
      (hmode : mac.config.transportMode = .genericFragmented)
      (hparse : parseControlPacket packet = .ok { subtype := .heartbeatAck })
      (hphase : mac.tx.phase = .hbWait) :
      Move mac (((mac.emit (.received packet)).noteBidirectionalControl millis
        (.heartbeatAck none)).postFrame now random)
  | linkStateV3 (packet : Packet) (millis : UInt32)
      (hmode : mac.config.transportMode = .genericFragmented)
      (hparse : parseControlPacket packet = .ok { subtype := .linkState }) :
      Move mac ((mac.emit (.received packet)).noteBidirectionalControl millis .linkState)
  | acked (packet : Packet) (millis now : UInt32) (ans : EngineAnswers)
      (hmode : mac.config.transportMode = .genericFragmented)
      (hparse : parsePacketType packet = .ok .ack) :
      Move mac (((mac.emit (.received packet)).noteBidirectionalControl millis .ack).runArq ans
        (.onRxPacket packet now))
  | took (packet : Packet) (type : PacketType) (now : UInt32) (ans : EngineAnswers)
      (hmode : mac.config.transportMode = .genericFragmented)
      (hparse : parsePacketType packet = .ok type) (hcontrol : type ≠ .control)
      (hack : type ≠ .ack) :
      Move mac ((mac.emit (.received packet)).runArq ans (.onRxPacket packet now))
  -- the engine by itself
  | flushed (ans : EngineAnswers) (now : UInt32)
      (hmode : mac.config.transportMode = .genericFragmented) :
      Move mac (mac.runArq ans (.flushPendingAck now))
  | ticked (ans : EngineAnswers) (now : UInt32)
      (hmode : mac.config.transportMode = .genericFragmented) :
      Move mac (mac.runArq ans (.onTick now))
  -- heartbeats
  | heartbeat (seq : UInt16) (millis : UInt32)
      (hmode : mac.config.transportMode = .nativePacket) (hphase : mac.tx.phase = .idle) :
      Move mac ((mac.emit (.transmit
        (V2.framingBuildControlPacket { type := .heartbeat, seq }) true)).awaitHeartbeatAck seq
          millis)
  | heartbeatV3 (packet : Packet) (type : PacketType) (millis : UInt32)
      (hmode : mac.config.transportMode = .genericFragmented) (hphase : mac.tx.phase = .idle)
      (hbuild : buildControlPacket { subtype := .heartbeat } = .ok packet)
      (htype : parsePacketType packet = .ok type) :
      Move mac ((mac.emit (.transmit packet true)).awaitHeartbeatAck mac.tx.hbSeq millis)
  | heartbeatLost (packet : Packet) (hphase : mac.tx.phase = .idle)
      (hpacket : (∃ seq, mac.config.transportMode = .nativePacket ∧
          packet = V2.framingBuildControlPacket { type := .heartbeat, seq }) ∨
        ∃ type, buildControlPacket { subtype := .heartbeat } = .ok packet ∧
          parsePacketType packet = .ok type) :
      Move mac (mac.emit (.transmit packet false))
  | unanswered (now random : UInt32) (hphase : mac.tx.phase = .hbWait) :
      Move mac (mac.postFrame now random)
  -- frames of `txQueue`
  | invalid (frame : List UInt8) (txQueue : List (List UInt8)) (hphase : mac.tx.phase = .idle)
      (hqueue : mac.txQueue = frame :: txQueue)
      (hlen : frame.length = 0 ∨ frame.length > Kiss.tncPayloadMaxLen) :
      Move mac ((mac.take frame txQueue).emit (.invalid frame))
  | passed (ans : EngineAnswers) (frame : List UInt8) (txQueue : List (List UInt8))
      (hmode : mac.config.transportMode = .genericFragmented) (hphase : mac.tx.phase = .idle)
      (hstaged : mac.stagedCmd = none) (hqueue : mac.txQueue = frame :: txQueue)
      (hroom : mac.arq.txActiveCount + mac.arq.txQueuedCount < arqMaxOutstanding)
      (hlen : ¬ (frame.length = 0 ∨ frame.length > Kiss.tncPayloadMaxLen)) :
      Move mac (((mac.take frame txQueue).runArq ans (.onTxDatagram (some frame))).emit
        (if (Exec.onTxDatagram { mac.arq with } (some frame)).1 = .ok then .accepted frame
          else .refused frame))
  | backedOff (frame : List UInt8) (txQueue : List (List UInt8)) (deadlineMs : UInt32)
      (hmode : mac.config.transportMode = .nativePacket) (hphase : mac.tx.phase = .idle)
      (hqueue : mac.txQueue = frame :: txQueue)
      (hlen : ¬ (frame.length = 0 ∨ frame.length > Kiss.tncPayloadMaxLen)) :
      Move mac { mac with
        txQueue, tx := { mac.tx with frame, lbtTries := 0, phase := .lbtBackoff, deadlineMs } }
  | sent (ans : Answers) (now : UInt32) (frame : List UInt8) (txQueue : List (List UInt8))
      (hmode : mac.config.transportMode = .nativePacket) (hphase : mac.tx.phase = .idle)
      (hqueue : mac.txQueue = frame :: txQueue)
      (hlen : ¬ (frame.length = 0 ∨ frame.length > Kiss.tncPayloadMaxLen)) :
      Move mac ((mac.take frame txQueue).sendNative ans now)
  | dispatched (ans : Answers) (now : UInt32)
      (hmode : mac.config.transportMode = .nativePacket) (hphase : mac.tx.phase = .lbtBackoff) :
      Move mac (mac.sendNative ans now)

/-- A chain of moves. -/
def Reaches : Statics → Statics → Prop := Relation.ReflTransGen Move

variable {mac mac' : Statics}

theorem Reaches.refl (mac : Statics) : Reaches mac mac := Relation.ReflTransGen.refl

theorem Move.reaches (h : Move mac mac') : Reaches mac mac' := Relation.ReflTransGen.single h

theorem Reaches.trans {mac'' : Statics} (h : Reaches mac mac') (h' : Reaches mac' mac'') :
    Reaches mac mac'' := Relation.ReflTransGen.trans h h'

/-- What every move keeps, a chain keeps. -/
theorem Reaches.keeps {P : Statics → Prop} (h : Reaches mac mac')
    (hmove : ∀ m m', P m → Move m m' → P m') (hmac : P mac) : P mac' := by
  induction h with
  | refl => exact hmac
  | tail _ hlast ih => exact hmove _ _ ih hlast

theorem isGenericTransport_iff : mac.isGenericTransport ↔
    mac.config.transportMode = .genericFragmented := by
  rw [isGenericTransport, decide_eq_true_iff]

theorem not_isGenericTransport_iff : ¬ mac.isGenericTransport ↔
    mac.config.transportMode = .nativePacket := by
  rw [isGenericTransport_iff]
  cases mac.config.transportMode <;> simp

theorem dispatchFrame_eq (h : mac.config.transportMode = .nativePacket) (ans : Answers)
    (now : UInt32) : mac.dispatchFrame ans now = mac.sendNative ans now := if_pos h

/-! ### The services as moves -/

theorem received_moves {packet : Packet}
    (hignored : V2.framingParseNativePayload packet = none) :
    Reaches mac (mac.emit (.received packet)) := (Move.received packet fun _ => hignored).reaches

theorem received_moves_generic (hmode : mac.config.transportMode = .genericFragmented)
    (packet : Packet) : Reaches mac (mac.emit (.received packet)) :=
  (Move.received packet fun hnative => by rw [hmode] at hnative; cases hnative).reaches

/-- Only a packet of type NATIVE is taken for one. -/
theorem framingParseNativePayload_eq_none {packet : Packet}
    (h : V2.framingPacketType packet ≠ .native) : V2.framingParseNativePayload packet = none := by
  cases hparse : V2.framingParseNativePayload packet with
  | none => rfl
  | some n => exact absurd (V2.native_type hparse).2 h

theorem handleControl_moves (hmode : mac.config.transportMode = .nativePacket) (ans : Answers)
    {packet : Packet} {ctrl : V2.ControlFrame}
    (hparse : V2.framingParseControl packet = some ctrl) :
    Reaches mac ((mac.emit (.received packet)).handleControl ans ctrl) := by
  have hreceived : Reaches mac (mac.emit (.received packet)) :=
    received_moves (framingParseNativePayload_eq_none
      (by rw [(V2.control_type hparse).2]; decide))
  unfold handleControl
  split
  · next hheartbeat =>
    have hreply := Move.replied packet ctrl (ans.transmit (controlReply ctrl)) hmode hparse
      (.inl hheartbeat)
    rw [controlReply, if_pos hheartbeat] at hreply
    exact hreply.reaches
  · next hheartbeat =>
    split
    · next hpending =>
      have hreply := Move.replied packet ctrl (ans.transmit (controlReply ctrl)) hmode hparse
        (.inr hpending)
      rw [controlReply, if_neg hheartbeat] at hreply
      exact hreply.reaches
    · split
      · next hack =>
        split
        · next hwait =>
          exact (Move.answered packet ctrl _ _ _ hmode hparse hack hwait.1 hwait.2).reaches
        · exact hreceived
      · exact hreceived

theorem handleNative_moves (hmode : mac.config.transportMode = .nativePacket) (ans : Answers)
    (packet : Packet) : Reaches mac ((mac.emit (.received packet)).handleNative ans packet) := by
  unfold handleNative
  dsimp only
  have hnote : Reaches mac (mac.notePayloadActivity (ans.millis 1)) :=
    (Move.payloadActivity (ans.millis 1)).reaches
  split
  · next hparse =>
    have hreceived : Reaches (mac.notePayloadActivity (ans.millis 1)) _ := received_moves hparse
    exact hnote.trans hreceived
  · next payloadLen hparse =>
    have hdelivered : Move (mac.notePayloadActivity (ans.millis 1)) _ :=
      .delivered packet payloadLen ans.rxQueueSend hmode hparse
    exact hnote.trans hdelivered.reaches

/-- A bitmap ACK finds nothing to acknowledge. -/
theorem handleAckForTx_eq
    (h : mac.tx.phase = .idle ∨ mac.tx.phase = .hbWait ∨ mac.tx.phase = .lbtBackoff)
    (ans : Answers) (now : UInt32) (ack : V2.AckFrame) : mac.handleAckForTx ans now ack = mac := by
  unfold handleAckForTx
  rcases h with hphase | hphase | hphase <;> simp only [hphase]

theorem handleV2RadioPacket_moves (h : mac.Current)
    (hmode : mac.config.transportMode = .nativePacket) (ans : Answers) (packet : Packet) :
    Reaches mac ((mac.emit (.received packet)).handleV2RadioPacket ans packet) := by
  unfold handleV2RadioPacket
  have hreceived (h : V2.framingPacketType packet ≠ .native) :
      Reaches mac (mac.emit (.received packet)) :=
    received_moves (framingParseNativePayload_eq_none h)
  split
  · next htype =>
    split
    · exact hreceived (by rw [htype]; decide)
    · next ctrl hparse => exact handleControl_moves hmode ans hparse
  · split
    · next htype =>
      have hreceived := hreceived (by rw [htype]; decide)
      split
      · exact hreceived
      · next ack _ =>
        rw [handleAckForTx_eq (by exact h.phase.imp_right (Or.imp_right And.left))]
        exact hreceived.trans (Move.payloadActivity _).reaches
    · split
      · exact handleNative_moves hmode ans packet
      · next htype =>
        rw [if_pos (show (mac.emit _).config.transportMode = _ from hmode)]
        exact hreceived htype

theorem sendControl_cases (mac : Statics) (ans : Answers) (packet : Packet) :
    mac.sendControl ans packet = (false, mac) ∨ ∃ type, parsePacketType packet = .ok type ∧
      mac.sendControl ans packet = (ans.transmit packet, mac.emit (.transmit packet
        (ans.transmit packet))) := by
  rw [sendControl]
  cases hparse : parsePacketType packet with
  | error e => exact .inl rfl
  | ok type => exact .inr ⟨type, rfl, rfl⟩

theorem handleV3Control_moves (hmode : mac.config.transportMode = .genericFragmented)
    (ans : Answers) {packet : Packet} {ctrl : ControlFrame}
    (hparse : parseControlPacket packet = .ok ctrl) :
    Reaches mac ((mac.emit (.received packet)).handleV3Control ans ctrl) := by
  obtain ⟨subtype⟩ := ctrl
  have hreceived := received_moves_generic hmode packet
  unfold handleV3Control
  dsimp only
  split
  · next hsubtype =>
    subst hsubtype
    split
    · exact hreceived
    · next reply hreply =>
      rcases sendControl_cases (mac.emit (.received packet)) ans reply with h | ⟨type, htype, h⟩
      · rw [h]
        exact hreceived
      · rw [h]
        exact (Move.repliedV3 packet reply type _ hmode hparse hreply htype).reaches
  · split
    · next hsubtype =>
      subst hsubtype
      split
      · next hphase => exact (Move.answeredV3 packet _ _ _ hmode hparse hphase).reaches
      · exact hreceived
    · split
      · next hsubtype =>
        subst hsubtype
        exact (Move.linkStateV3 packet _ hmode hparse).reaches
      · exact hreceived

theorem handleV3RadioPacket_moves (hmode : mac.config.transportMode = .genericFragmented)
    (turn : Turn) (packet : Packet) :
    Reaches mac ((mac.emit (.received packet)).handleV3RadioPacket turn packet) := by
  have hreceived := received_moves_generic hmode packet
  have hnote : Reaches mac (mac.notePayloadActivity (turn.radio.millis 2)) :=
    (Move.payloadActivity (turn.radio.millis 2)).reaches
  unfold handleV3RadioPacket
  split
  · exact hreceived
  next type hparse =>
  split
  · split
    · exact hreceived
    · next ctrl hctrl => exact handleV3Control_moves hmode turn.radio hctrl
  next hcontrol =>
  cases type with
  | control => exact absurd rfl hcontrol
  | ack =>
    have hacked : Move (mac.notePayloadActivity (turn.radio.millis 2)) _ :=
      .acked packet (turn.radio.millis 1) (turn.radio.millis 3) turn.receive hmode hparse
    exact hnote.trans hacked.reaches
  | data =>
    have htook : Move (mac.notePayloadActivity (turn.radio.millis 2)) _ :=
      .took packet .data (turn.radio.millis 3) turn.receive hmode hparse (by decide) (by decide)
    refine hnote.trans (htook.reaches.trans (Move.reaches ?_))
    exact Move.flushed turn.flush (turn.radio.millis 4) hmode
  | mgmt =>
    exact (Move.took packet .mgmt (turn.radio.millis 3) turn.receive hmode hparse (by decide)
      (by decide)).reaches

/-- Setting the time of the last radio event. -/
theorem lastRadioEvent_moves (mac : Statics) (millis : UInt32) :
    Reaches mac { mac with lastRadioEventMs := millis } :=
  (Move.clocks mac.nextHbMs millis mac.tx.deadlineMs mac.controlSeq).reaches

theorem handleRadioEvent_moves (h : mac.Current) (turn : Turn) (packet : Option Packet) :
    Reaches mac (mac.handleRadioEvent turn packet) := by
  unfold handleRadioEvent
  dsimp only
  have hcurrent : Current { mac with lastRadioEventMs := turn.radio.millis 0 } :=
    ⟨h.phase, h.ra, h.completed⟩
  refine (lastRadioEvent_moves mac (turn.radio.millis 0)).trans ?_
  generalize { mac with lastRadioEventMs := turn.radio.millis 0 } = mac' at hcurrent ⊢
  split
  · exact .refl _
  · next packet =>
    split
    · exact .refl _
    · split
      · next hmode =>
        have hgeneric : mac'.config.transportMode = .genericFragmented :=
          isGenericTransport_iff.mp hmode
        exact handleV3RadioPacket_moves hgeneric turn packet
      · next hmode =>
        exact handleV2RadioPacket_moves hcurrent (not_isGenericTransport_iff.mp hmode) _ packet

theorem wakeUp_moves (h : mac.Current) (turn : Turn) : Reaches mac (mac.wakeUp turn) := by
  unfold wakeUp
  split
  · exact handleRadioEvent_moves h turn _
  · split
    · exact .refl mac
    · next command hcmd => exact (Move.staged command hcmd).reaches
  · exact .refl mac
  · exact .refl mac

theorem serviceRx_eq (h : mac.Current) (ans : Answers) (now : UInt32) :
    mac.serviceRx ans now = mac := by
  unfold serviceRx
  split
  · rfl
  · rw [if_pos h.ra]

theorem sendNative_phase (mac : Statics) (ans : Answers) (now : UInt32) :
    (mac.sendNative ans now).tx.phase = .idle := by
  unfold sendNative
  split <;> rfl

/-- The number of tries plays no part in `sendNative`. -/
theorem sendNative_tries (mac : Statics) (ans : Answers) (now : UInt32) (lbtTries : UInt8) :
    { mac with tx := { mac.tx with lbtTries } }.sendNative ans now =
      { mac.sendNative ans now with
        tx := { (mac.sendNative ans now).tx with lbtTries } } := by
  unfold sendNative
  dsimp only
  split
  · rfl
  · split <;> rfl

theorem retryLbt_moves (hmode : mac.config.transportMode = .nativePacket)
    (hphase : mac.tx.phase = .lbtBackoff) (ans : Answers) (now : UInt32) :
    Reaches mac (mac.retryLbt ans now) := by
  unfold retryLbt
  dsimp only
  split
  · rw [dispatchFrame_eq (by exact hmode), sendNative_tries]
    have hidle (hwait : (mac.sendNative ans now).tx.phase = .lbtBackoff) :
        mac.tx.lbtTries + 1 < radioLbtMaxRetries := by
      rw [sendNative_phase] at hwait
      cases hwait
    exact (Move.dispatched ans now hmode hphase).reaches.trans (Move.tries _ hidle).reaches
  · next hbusy =>
    have htry : Reaches mac { mac with tx := { mac.tx with lbtTries := mac.tx.lbtTries + 1 } } :=
      (Move.tries _ fun _ => UInt8.not_le.mp (not_or.mp hbusy).1).reaches
    refine htry.trans (Move.reaches ?_)
    exact Move.clocks mac.nextHbMs mac.lastRadioEventMs _ mac.controlSeq

theorem serviceTx_moves (h : mac.Current) (turn : Turn) : Reaches mac (mac.serviceTx turn) := by
  unfold serviceTx
  dsimp only
  split
  · next hmode =>
    have hmode := isGenericTransport_iff.mp hmode
    split
    · next hwait =>
      have hticked : Move (mac.postFrame turn.now turn.tx.hbRandom) _ :=
        .ticked turn.tick turn.now hmode
      exact (Move.unanswered _ _ hwait.1).reaches.trans hticked.reaches
    · exact (Move.ticked turn.tick turn.now hmode).reaches
  · next hmode =>
    have hmode := not_isGenericTransport_iff.mp hmode
    rcases h.phase with hphase | hphase | ⟨hphase, _⟩
    · rw [hphase]
      exact .refl mac
    · rw [hphase]
      dsimp only
      split
      · exact (Move.unanswered _ _ hphase).reaches
      · exact .refl mac
    · rw [hphase]
      dsimp only
      split
      · exact retryLbt_moves hmode hphase turn.tx turn.now
      · exact .refl mac

theorem heartbeatLost_moves {packet : Packet} (hphase : mac.tx.phase = .idle)
    (hpacket : (∃ seq, mac.config.transportMode = .nativePacket ∧
        packet = V2.framingBuildControlPacket { type := .heartbeat, seq }) ∨
      ∃ type, buildControlPacket { subtype := .heartbeat } = .ok packet ∧
        parsePacketType packet = .ok type) (nextHbMs : UInt32) (controlSeq : UInt16) :
    Reaches mac { mac.emit (.transmit packet false) with nextHbMs, controlSeq } :=
  (Move.heartbeatLost packet hphase hpacket).reaches.trans
    (Move.clocks nextHbMs mac.lastRadioEventMs mac.tx.deadlineMs controlSeq).reaches

theorem controlSeq_moves (mac : Statics) (nextHbMs : UInt32) (controlSeq : UInt16) :
    Reaches mac { mac with nextHbMs, controlSeq } :=
  (Move.clocks nextHbMs mac.lastRadioEventMs mac.tx.deadlineMs controlSeq).reaches

theorem startHeartbeat_moves (hphase : mac.tx.phase = .idle) (ans : Answers) (now : UInt32) :
    Reaches mac (mac.startHeartbeat ans now) := by
  have hcounted := controlSeq_moves mac mac.nextHbMs (mac.controlSeq + 1)
  unfold startHeartbeat
  dsimp only
  split
  · next hmode =>
    have hmode : mac.config.transportMode = .genericFragmented := isGenericTransport_iff.mp hmode
    split
    · exact hcounted
    · next packet hbuild =>
      rcases sendControl_cases { mac with controlSeq := mac.controlSeq + 1 } ans packet with
        h | ⟨type, htype, h⟩
      · rw [h]
        exact controlSeq_moves mac _ _
      · rw [h]
        dsimp only
        cases ans.transmit packet with
        | true =>
          have hsent : Move { mac with controlSeq := mac.controlSeq + 1 } _ :=
            .heartbeatV3 packet type (ans.millis 1) hmode hphase hbuild htype
          exact hcounted.trans hsent.reaches
        | false => exact heartbeatLost_moves hphase (.inr ⟨type, hbuild, htype⟩) _ _
  · next hmode =>
    have hmode : mac.config.transportMode = .nativePacket := not_isGenericTransport_iff.mp hmode
    cases ans.transmit (V2.framingBuildControlPacket
        { type := .heartbeat, seq := mac.controlSeq + 1 }) with
    | true =>
      have hsent : Move { mac with controlSeq := mac.controlSeq + 1 } _ :=
        .heartbeat (mac.controlSeq + 1) (ans.millis 1) hmode hphase
      exact hcounted.trans hsent.reaches
    | false => exact heartbeatLost_moves hphase (.inl ⟨_, hmode, rfl⟩) _ _

theorem serviceHeartbeat_moves (hphase : mac.tx.phase = .idle) (turn : Turn) (armed : Bool) :
    Reaches mac (mac.serviceHeartbeat turn armed) := by
  unfold serviceHeartbeat
  split
  · split
    · exact startHeartbeat_moves hphase turn.idle turn.now
    · exact (Move.clocks _ mac.lastRadioEventMs mac.tx.deadlineMs mac.controlSeq).reaches
  · split
    · exact (lastRadioEvent_moves mac turn.now).trans Move.startReceive.reaches
    · exact .refl mac

theorem executeStagedCommand_moves (turn : Turn) {command : MacCommand}
    (hcmd : mac.stagedCmd = some command) (hphase : mac.tx.phase = .idle) :
    Reaches mac (mac.executeStagedCommand turn command) := by
  have hfinished := (Move.finished command hcmd hphase).reaches
  unfold executeStagedCommand
  dsimp only
  cases command with
  | scanBand => exact hfinished
  | applyConfig config =>
    dsimp only
    split
    · exact (Move.configured config hcmd hphase).reaches
    · exact hfinished

theorem passToArq_moves (hmode : mac.config.transportMode = .genericFragmented)
    (hphase : mac.tx.phase = .idle) (hstaged : mac.stagedCmd = none) (turn : Turn)
    {frame : List UInt8} {txQueue : List (List UInt8)} (hqueue : mac.txQueue = frame :: txQueue)
    (hroom : mac.arq.txActiveCount + mac.arq.txQueuedCount < arqMaxOutstanding) :
    Reaches mac ((mac.take frame txQueue).passToArq turn frame) := by
  unfold passToArq
  split
  · next hlen => exact (Move.invalid frame txQueue hphase hqueue hlen).reaches
  · next hlen =>
    exact (Move.passed turn.accept frame txQueue hmode hphase hstaged hqueue hroom hlen).reaches

theorem startFrame_moves (hmode : mac.config.transportMode = .nativePacket)
    (hphase : mac.tx.phase = .idle) (ans : Answers) (now : UInt32) {frame : List UInt8}
    {txQueue : List (List UInt8)} (hqueue : mac.txQueue = frame :: txQueue) :
    Reaches mac ((mac.take frame txQueue).startFrame ans now) := by
  have hreset : Reaches mac { mac with tx := { mac.tx with lbtTries := 0 } } :=
    (Move.tries 0 fun _ => by decide).reaches
  unfold startFrame
  split
  · next hlen => exact (Move.invalid frame txQueue hphase hqueue hlen).reaches
  next hlen =>
  dsimp only
  split
  · exact (Move.backedOff frame txQueue _ hmode hphase hqueue hlen).reaches
  · rw [dispatchFrame_eq (by exact hmode)]
    have hsent : Move { mac with tx := { mac.tx with lbtTries := 0 } } _ :=
      .sent ans now frame txQueue hmode hphase hqueue hlen
    exact hreset.trans hsent.reaches

theorem serviceIdle_moves (turn : Turn) : Reaches mac (mac.serviceIdle turn) := by
  unfold serviceIdle
  split
  · exact .refl mac
  next hphase =>
  have hphase := not_not.mp hphase
  split
  · next command hcmd => exact executeStagedCommand_moves turn hcmd hphase
  · next hstaged =>
    split
    · next hmode =>
      have hmode := isGenericTransport_iff.mp hmode
      unfold serviceGeneric
      dsimp only
      split
      · next frame txQueue hqueue =>
        split
        · next hroom =>
          exact passToArq_moves hmode hphase hstaged turn hqueue hroom
        · split
          · exact .refl mac
          · exact serviceHeartbeat_moves hphase turn true
      · split
        · exact .refl mac
        · exact serviceHeartbeat_moves hphase turn true
    · next hmode =>
      have hmode := not_isGenericTransport_iff.mp hmode
      unfold serviceNative
      split
      · next frame txQueue hqueue =>
        exact startFrame_moves hmode hphase turn.idle turn.now hqueue
      · exact serviceHeartbeat_moves hphase turn _

/-! ### Runs -/

/-- What `sendNative` does with the frame in `s_tx`. -/
theorem sendNative_cases (mac : Statics) (ans : Answers) (now : UInt32) :
    mac.tx.frame.length > V2.framingNativeMaxPayload ∧
        mac.sendNative ans now = (mac.emit (.oversize mac.tx.frame)).postFrame now ans.hbRandom ∨
      ∃ h ok health, mac.sendNative ans now =
        (({ mac with health }.emit (.transmit (V2.framingBuildNativePacket mac.tx.frame h) ok)).emit
          (.native mac.tx.frame ok)).postFrame (ans.millis 1) ans.hbRandom := by
  rw [sendNative]
  split
  · next hlong => exact .inl ⟨hlong, rfl⟩
  · next hfits =>
    have hle := Nat.le_of_not_gt hfits
    refine .inr ⟨hle, ans.transmit (V2.framingBuildNativePacket mac.tx.frame hle), ?_⟩
    dsimp only
    split
    · exact ⟨_, rfl⟩
    · exact ⟨mac.health, rfl⟩

theorem Current.sendNative (h : mac.Current) (ans : Answers) (now : UInt32) :
    (mac.sendNative ans now).Current := by
  rcases sendNative_cases mac ans now with ⟨_, heq⟩ | ⟨_, _, _, heq⟩ <;>
    exact heq ▸ ⟨.inl rfl, h.ra, h.completed⟩

theorem Move.current (h : mac.Current) (hmove : Move mac mac') : mac'.Current := by
  have hkeep : ∀ m : Statics, m.tx.phase = mac.tx.phase → m.config = mac.config → m.ra = mac.ra →
      m.completed = mac.completed → m.Current := by
    intro m hphase hconfig hra hcompleted
    refine ⟨?_, hra ▸ h.ra, hcompleted ▸ h.completed⟩
    rw [hphase, hconfig]
    exact h.phase
  have hidle : ∀ m : Statics, m.tx.phase = .idle ∨ m.tx.phase = .hbWait → m.ra = mac.ra →
      m.completed = mac.completed → m.Current := fun m hphase hra hcompleted =>
    ⟨hphase.imp_right .inl, hra ▸ h.ra, hcompleted ▸ h.completed⟩
  cases hmove with
  | clocks | tries | payloadActivity | startReceive | staged | finished | received | delivered
  | replied | repliedV3 | linkStateV3 | acked | took | flushed | ticked | heartbeatLost | invalid
  | passed =>
    exact hkeep _ rfl rfl rfl rfl
  | answered | answeredV3 | unanswered => exact hidle _ (.inl rfl) rfl rfl
  | heartbeat | heartbeatV3 => exact hidle _ (.inr rfl) rfl rfl
  | configured => exact ⟨.inl rfl, rfl, h.completed⟩
  | backedOff _ _ _ hmode => exact ⟨.inr (.inr ⟨rfl, hmode⟩), h.ra, h.completed⟩
  | sent ans now frame txQueue =>
    exact Current.sendNative (hkeep (mac.take frame txQueue) rfl rfl rfl rfl) ans now
  | dispatched ans now => exact h.sendNative ans now

/-- The trace only grows. -/
theorem Move.trace (hmove : Move mac mac') : mac.trace <+: mac'.trace := by
  have hsendNative (m : Statics) (ans : Answers) (now : UInt32) :
      m.trace <+: (m.sendNative ans now).trace := by
    rcases sendNative_cases m ans now with ⟨_, heq⟩ | ⟨_, _, _, heq⟩
    · exact heq ▸ List.prefix_append ..
    · exact heq ▸ (List.prefix_append ..).trans (List.prefix_append ..)
  cases hmove with
  | clocks | tries | payloadActivity | staged | unanswered | backedOff => exact List.prefix_refl _
  | startReceive | finished | configured | received | flushed | ticked | heartbeat | heartbeatV3
  | heartbeatLost | invalid => exact List.prefix_append ..
  | delivered | replied | answered | repliedV3 | answeredV3 | linkStateV3 | took | passed =>
    exact (List.prefix_append ..).trans (List.prefix_append ..)
  | acked =>
    exact ((List.prefix_append ..).trans (List.prefix_append ..)).trans (List.prefix_append ..)
  | sent ans now frame txQueue => exact hsendNative (mac.take frame txQueue) ans now
  | dispatched ans now => exact hsendNative mac ans now

theorem Reaches.trace (h : Reaches mac mac') : mac.trace <+: mac'.trace := by
  induction h with
  | refl => exact List.prefix_refl _
  | tail _ hlast ih => exact ih.trans hlast.trace

theorem Reaches.current (h : mac.Current) (hreaches : Reaches mac mac') : mac'.Current :=
  hreaches.keeps (fun _ _ h hmove => hmove.current h) h

/-- A turn is a chain of moves. -/
theorem loop_moves (h : mac.Current) (turn : Turn) : Reaches mac (mac.loop turn) := by
  have hwake := wakeUp_moves h turn
  have hcurrent := hwake.current h
  rw [loop, serviceRx_eq hcurrent]
  exact hwake.trans ((serviceTx_moves hcurrent turn).trans (serviceIdle_moves turn))

theorem start_current (config : RadioConfig) (nextHbMs : UInt32) :
    (start config nextHbMs).Current := ⟨.inl rfl, rfl, rfl⟩

/-- A property that the moves of the task keep, and the two things that other tasks do. -/
structure Kept (P : Statics → Prop) : Prop where
  move : ∀ {m m'}, m.Current → P m → Move m m' → P m'
  host : ∀ {m : Statics} (frame : List UInt8), m.txQueue.length < Mac.txQueueDepth → P m →
    P ({ m with txQueue := m.txQueue ++ [frame] }.emit (.queued frame))
  request : ∀ {m : Statics} (command : MacCommand), P m → P { m with cmdQueue := some command }

theorem Kept.reaches {P : Statics → Prop} (h : Kept P) (hcurrent : mac.Current) (hmac : P mac)
    (hreaches : Reaches mac mac') : P mac' :=
  (hreaches.keeps (P := fun m => m.Current ∧ P m)
    (fun _ _ hm hmove => ⟨hmove.current hm.1, h.move hm.1 hm.2 hmove⟩) ⟨hcurrent, hmac⟩).2

theorem Current.step (h : mac.Current) (input : Input) : (mac.step input).Current := by
  cases input with
  | host frame =>
    rw [Statics.step]
    split
    · exact ⟨h.phase, h.ra, h.completed⟩
    · exact h
  | request command =>
    rw [Statics.step]
    split
    · exact ⟨h.phase, h.ra, h.completed⟩
    · exact h
  | turn turn => exact (loop_moves h turn).current h

theorem Current.run (h : mac.Current) (inputs : List Input) : (mac.run inputs).Current := by
  induction inputs generalizing mac with
  | nil => exact h
  | cons input inputs ih => exact ih (h.step input)

theorem Current.step_trace (h : mac.Current) (input : Input) :
    mac.trace <+: (mac.step input).trace := by
  cases input with
  | host frame =>
    rw [Statics.step]
    split
    · exact List.prefix_append ..
    · exact List.prefix_refl _
  | request command =>
    rw [Statics.step]
    split <;> exact List.prefix_refl _
  | turn turn => exact (loop_moves h turn).trace

theorem Current.run_trace (h : mac.Current) (inputs : List Input) :
    mac.trace <+: (mac.run inputs).trace := by
  induction inputs generalizing mac with
  | nil => exact List.prefix_refl _
  | cons input inputs ih => exact (h.step_trace input).trans (ih (h.step input))

theorem Kept.step {P : Statics → Prop} (h : Kept P) (hcurrent : mac.Current) (hmac : P mac)
    (input : Input) : P (mac.step input) := by
  cases input with
  | host frame =>
    rw [Statics.step]
    split
    · next hroom => exact h.host frame hroom hmac
    · exact hmac
  | request command =>
    rw [Statics.step]
    split
    · exact h.request command hmac
    · exact hmac
  | turn turn => exact h.reaches hcurrent hmac (loop_moves hcurrent turn)

theorem Kept.run {P : Statics → Prop} (h : Kept P) (hcurrent : mac.Current) (hmac : P mac)
    (inputs : List Input) : P (mac.run inputs) := by
  induction inputs generalizing mac with
  | nil => exact hmac
  | cons input inputs ih => exact ih (hcurrent.step input) (h.step hcurrent hmac input)

/-- What is kept holds in every state of a run from the start of the task. -/
theorem Kept.of_start {P : Statics → Prop} (h : Kept P) {config : RadioConfig} {nextHbMs : UInt32}
    (hstart : P (start config nextHbMs)) (inputs : List Input) :
    P ((start config nextHbMs).run inputs) :=
  h.run (start_current config nextHbMs) hstart inputs

end Statics

end FlrcTnc.Node
