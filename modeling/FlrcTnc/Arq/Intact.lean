import FlrcTnc.Arq.Halves

/-! What a received packet cannot touch, whatever stands in it. -/

namespace FlrcTnc.Arq

open Framing

/-- `parsePacketType` or the parser of the type it finds rejects the packet. -/
inductive Rejected (packet : Packet) : Prop
  | type {err : ParseResult} (htype : parsePacketType packet = .error err)
  | data {err : ParseResult} (htype : parsePacketType packet = .ok .data)
      (hparse : parseDataPacket packet = .error err)
  | ack {err : ParseResult} (htype : parsePacketType packet = .ok .ack)
      (hparse : parseAckPacket packet = .error err)
  | control {err : ParseResult} (htype : parsePacketType packet = .ok .control)
      (hparse : parseControlPacket packet = .error err)
  | mgmt {err : ParseResult} (htype : parsePacketType packet = .ok .mgmt)
      (hparse : parseMgmtPacket packet true v3MgmtPayloadMax = .error err)

/-- The packet is a valid one of the types that the engine has no use for. -/
inductive Ignored (packet : Packet) : Prop
  | control {frame : ControlFrame} (htype : parsePacketType packet = .ok .control)
      (hparse : parseControlPacket packet = .ok frame)
  | mgmt {frame : List UInt8} (htype : parsePacketType packet = .ok .mgmt)
      (hparse : parseMgmtPacket packet true v3MgmtPayloadMax = .ok frame)

namespace Exec

variable {packet : Packet}

theorem onRxPacket_rejected (cb : ArqCallbacks) (e : Exec) (now : UInt32) (h : Rejected packet) :
    e.onRxPacket cb packet now =
      e.count fun c => { c with malformedInput := c.malformedInput + 1 } := by
  unfold onRxPacket
  cases h with
  | type htype => rw [htype]
  | data htype hparse | ack htype hparse | control htype hparse | mgmt htype hparse =>
    rw [htype]
    dsimp only
    rw [hparse]

theorem onRxPacket_ignored (cb : ArqCallbacks) (e : Exec) (now : UInt32) (h : Ignored packet) :
    e.onRxPacket cb packet now = e := by
  unfold onRxPacket
  cases h with
  | control htype hparse | mgmt htype hparse =>
    rw [htype]
    dsimp only
    rw [hparse]

theorem onRxPacket_data (cb : ArqCallbacks) (e : Exec) (now : UInt32) {header : DataHeader}
    {payload : List UInt8} (hparse : parseDataPacket packet = .ok (header, payload)) :
    e.onRxPacket cb packet now = e.handleData cb header payload now := by
  unfold onRxPacket
  rw [parsePacketType_of_data hparse]
  dsimp only
  rw [hparse]

theorem onRxPacket_ack (cb : ArqCallbacks) (e : Exec) (now : UInt32) {ack : AckFrame}
    (hparse : parseAckPacket packet = .ok ack) :
    e.onRxPacket cb packet now = e.handleAck ack now := by
  unfold onRxPacket
  rw [parsePacketType_of_ack hparse]
  dsimp only
  rw [hparse]

theorem clearTxSlot_of_ne (e : Exec) {i k : Fin 4} (h : k ≠ i) :
    (e.clearTxSlot i).txSlots k = e.txSlots k := by
  unfold clearTxSlot
  dsimp only
  split <;> exact Function.update_of_ne h ..

/-- An ACK is about one open slot with its id, if there is one. -/
theorem handleAck_of_ne (e : Exec) (ack : AckFrame) (now : UInt32) {k : Fin 4}
    (h : ¬ ((e.txSlots k).state = .open ∧ (e.txSlots k).datagramId = ack.datagramId)) :
    (e.handleAck ack now).txSlots k = e.txSlots k := by
  unfold handleAck
  dsimp only
  split
  · rfl
  next i hfind =>
  have hki : k ≠ i := by
    rintro rfl
    exact h (by simpa using (find_finRange_eq_some hfind).1)
  split
  · exact Function.update_of_ne hki ..
  split
  · refine (clearTxSlot_of_ne _ hki).trans ?_
    exact Function.update_of_ne hki ..
  · exact Function.update_of_ne hki ..

end Exec

/-- What the reception of `packet` leaves alone. The number of calls is that of the callbacks. -/
structure ArqEngine.Withstands (e : ArqEngine) (cb : ArqCallbacks) (packet : Packet)
    (now : UInt32) : Prop where
  rejected : Rejected packet →
    (e.run cb (.onRxPacket packet now)).toArqEngine = { e with
      counters := { e.counters with malformedInput := e.counters.malformedInput + 1 } } ∧
    (e.run cb (.onRxPacket packet now)).calls = 0 ∧
    (e.run cb (.onRxPacket packet now)).events = []
  ignored : Ignored packet → (e.run cb (.onRxPacket packet now)).toArqEngine = e ∧
    (e.run cb (.onRxPacket packet now)).calls = 0 ∧
    (e.run cb (.onRxPacket packet now)).events = []
  data : ∀ header payload, parseDataPacket packet = .ok (header, payload) →
    (e.run cb (.onRxPacket packet now)).sendingHalf = e.sendingHalf
  ack : ∀ ack, parseAckPacket packet = .ok ack →
    (e.run cb (.onRxPacket packet now)).receivingHalf = e.receivingHalf ∧
    ∀ i, ¬ ((e.txSlots i).state = .open ∧ (e.txSlots i).datagramId = ack.datagramId) →
      (e.run cb (.onRxPacket packet now)).txSlots i = e.txSlots i

theorem ArqEngine.withstands (e : ArqEngine) (cb : ArqCallbacks) (packet : Packet)
    (now : UInt32) : e.Withstands cb packet now where
  rejected h := by
    unfold run
    dsimp only
    rw [Exec.onRxPacket_rejected cb _ now h]
    exact ⟨rfl, rfl, rfl⟩
  ignored h := by
    unfold run
    dsimp only
    rw [Exec.onRxPacket_ignored cb _ now h]
    exact ⟨rfl, rfl, rfl⟩
  data header payload hparse := by
    unfold run
    dsimp only
    rw [Exec.onRxPacket_data cb _ now hparse]
    exact Exec.handleData_sendingHalf cb { e with } header payload now
  ack ack hparse := by
    unfold run
    dsimp only
    rw [Exec.onRxPacket_ack cb _ now hparse]
    exact ⟨Exec.handleAck_receivingHalf { e with } ack now,
      fun i h => Exec.handleAck_of_ne { e with } ack now h⟩

/-- Every packet is rejected, ignored, or a valid DATA or ACK packet. -/
theorem packet_cases (packet : Packet) : Rejected packet ∨ Ignored packet ∨
    (∃ header payload, parseDataPacket packet = .ok (header, payload)) ∨
    ∃ ack, parseAckPacket packet = .ok ack := by
  cases htype : parsePacketType packet with
  | error err => exact .inl (.type htype)
  | ok type =>
    cases type with
    | data =>
      cases hparse : parseDataPacket packet with
      | error err => exact .inl (.data htype hparse)
      | ok result => exact .inr (.inr (.inl ⟨_, _, rfl⟩))
    | ack =>
      cases hparse : parseAckPacket packet with
      | error err => exact .inl (.ack htype hparse)
      | ok ack => exact .inr (.inr (.inr ⟨ack, rfl⟩))
    | control =>
      cases hparse : parseControlPacket packet with
      | error err => exact .inl (.control htype hparse)
      | ok frame => exact .inr (.inl (.control htype hparse))
    | mgmt =>
      cases hparse : parseMgmtPacket packet true v3MgmtPayloadMax with
      | error err => exact .inl (.mgmt htype hparse)
      | ok frame => exact .inr (.inl (.mgmt htype hparse))

/-- In every state of every run, a packet that is not for the engine does nothing to it, and one
that is touches only the half that it is for. -/
theorem hostile_packets_leave_intact (config : ArqConfig) (calls : List (ArqCallbacks × Call))
    (cb : ArqCallbacks) (packet : Packet) (now : UInt32) :
    ((ArqEngine.reset config).after calls).Withstands cb packet now :=
  ArqEngine.withstands _ cb packet now

end FlrcTnc.Arq
