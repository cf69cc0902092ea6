import FlrcTnc.Serial.Integrity

/-! The v2 packet format: `framing/Framing.h`.  Native transport mode speaks it on the air; of the
fragmented packets and their `Reassembler` the MAC keeps the code beside the v3 engine.  There is no
CRC inside a packet but that of the reassembled frame. -/

namespace FlrcTnc.Framing.V2

open Serial

/-- As `ControlSubtype` of the v3 format, any nibble. -/
structure LinkPacketType where
  raw : UInt8
  deriving DecidableEq, Repr

namespace LinkPacketType
def data : LinkPacketType := ⟨0⟩
def ack : LinkPacketType := ⟨1⟩
def native : LinkPacketType := ⟨2⟩
def control : LinkPacketType := ⟨3⟩
end LinkPacketType

structure ControlType where
  raw : UInt8
  deriving DecidableEq, Repr

namespace ControlType
def heartbeat : ControlType := ⟨0x01⟩
def heartbeatAck : ControlType := ⟨0x02⟩
def dataPending : ControlType := ⟨0x03⟩
def dataReady : ControlType := ⟨0x04⟩
end ControlType

def framingControlLen : Nat := 12

structure ControlFrame where
  type : ControlType := .heartbeat
  seq : UInt16 := 0
  flags : UInt8 := 0
  reason : UInt8 := 0
  pendingFrags : UInt8 := 0
  token : UInt32 := 0
  deriving DecidableEq, Repr

def framingVersion : UInt8 := 2
def framingVersionShift : UInt8 := 4
def framingTypeMask : UInt8 := 0x0F
def framingFlagRoundEnd : UInt8 := 0x01
def framingFlagWarmup : UInt8 := 0x02
def framingDataHdrLen : Nat := 13
def framingAckHdrLen : Nat := 11
def framingAckMaskBytes : UInt8 := 4
/-- `FRAMING_ACK_MASK_BYTES * 8u`. -/
def framingAckWindowBits : UInt8 := 32
def framingSeqUnset : UInt16 := 0xFFFF
def tncPayloadMaxLen : UInt16 := 1280
def framingNativeHdrLen : Nat := 2
/-- `PACKET_MAX_LEN - FRAMING_NATIVE_HDR_LEN`. -/
def framingNativeMaxPayload : Nat := 125
/-- `PACKET_MAX_LEN - FRAMING_DATA_HDR_LEN`. -/
def framingFragData : Nat := 114
def framingMaxFrags : UInt8 := 12

structure AckFrame where
  seq : UInt16 := framingSeqUnset
  totalFrags : UInt8 := 0
  windowBase : UInt8 := 0
  receivedMask : UInt32 := 0
  deriving DecidableEq, Repr

structure DataFrameHeader where
  seq : UInt16 := framingSeqUnset
  fragIndex : UInt8 := 0
  totalFrags : UInt8 := 0
  payloadLen : UInt8 := 0
  frameLen : UInt16 := 0
  frameCrc32 : UInt32 := 0
  roundEnd : Bool := false
  warmup : Bool := false
  deriving DecidableEq, Repr

def framingExpectedMask (totalFrags : UInt8) : UInt32 :=
  if totalFrags = 0 ∨ totalFrags > framingAckWindowBits then 0
  else if totalFrags = framingAckWindowBits then 0xFFFFFFFF
  else (1 <<< totalFrags.toUInt32) - 1

def framingMaskThrough (idx : UInt8) : UInt32 :=
  if idx ≥ framingAckWindowBits - 1 then 0xFFFFFFFF else (1 <<< (idx.toUInt32 + 1)) - 1

def framingEncodeVersionType (type : LinkPacketType) : UInt8 :=
  (framingVersion <<< framingVersionShift) ||| (type.raw &&& framingTypeMask)

def framingHasValidVersion (pkt : Packet) : Bool :=
  pkt.len ≥ 1 ∧ byteAt pkt.data 0 >>> framingVersionShift = framingVersion

def framingPacketType (pkt : Packet) : LinkPacketType := ⟨byteAt pkt.data 0 &&& framingTypeMask⟩

def framingPacketSeq (pkt : Packet) : UInt16 := readBe16 pkt.data 2

/-! ### Parsers -/

def framingParseDataHeader (pkt : Packet) : Option DataFrameHeader :=
  if pkt.len < framingDataHdrLen then none
  else if ¬ framingHasValidVersion pkt ∨ framingPacketType pkt ≠ .data then none
  else
    let header : DataFrameHeader := {
      seq := framingPacketSeq pkt
      fragIndex := byteAt pkt.data 4
      totalFrags := byteAt pkt.data 5
      payloadLen := byteAt pkt.data 6
      frameLen := readBe16 pkt.data 7
      frameCrc32 := readBe32 pkt.data 9
      roundEnd := byteAt pkt.data 1 &&& framingFlagRoundEnd ≠ 0
      warmup := byteAt pkt.data 1 &&& framingFlagWarmup ≠ 0 }
    if header.totalFrags = 0 ∨ header.totalFrags > framingMaxFrags then none
    else if header.fragIndex ≥ header.totalFrags then none
    else if header.payloadLen.toNat > framingFragData then none
    else if pkt.len ≥ framingDataHdrLen + header.payloadLen.toNat then some header
    else none

def framingParseAck (pkt : Packet) : Option AckFrame :=
  if pkt.len < framingAckHdrLen then none
  else if ¬ framingHasValidVersion pkt ∨ framingPacketType pkt ≠ .ack then none
  else
    let windowBase := byteAt pkt.data 4
    let totalFrags := byteAt pkt.data 5
    if byteAt pkt.data 6 ≠ framingAckMaskBytes then none
    else if totalFrags = 0 ∨ totalFrags > framingAckWindowBits then none
    else if windowBase ≥ totalFrags then none
    else some {
      seq := framingPacketSeq pkt
      totalFrags
      windowBase
      receivedMask := readLe32 pkt.data 7 }

/-- The payload is `data + FRAMING_NATIVE_HDR_LEN`, of which the parser says the length. -/
def framingParseNativePayload (pkt : Packet) : Option Nat :=
  if pkt.len < framingNativeHdrLen then none
  else if ¬ framingHasValidVersion pkt ∨ framingPacketType pkt ≠ .native then none
  else
    let payloadLen := (byteAt pkt.data 1).toNat
    if payloadLen > framingNativeMaxPayload then none
    else if pkt.len ≥ framingNativeHdrLen + payloadLen then some payloadLen
    else none

def framingParseControl (pkt : Packet) : Option ControlFrame :=
  if pkt.len < framingControlLen then none
  else if ¬ framingHasValidVersion pkt then none
  else if framingPacketType pkt ≠ .control then none
  else
    let type : ControlType := ⟨byteAt pkt.data 1⟩
    if type ≠ .heartbeat ∧ type ≠ .heartbeatAck ∧ type ≠ .dataPending ∧ type ≠ .dataReady then none
    else some {
      type
      seq := readBe16 pkt.data 2
      flags := byteAt pkt.data 4
      reason := byteAt pkt.data 5
      pendingFrags := byteAt pkt.data 6
      token := readBe32 pkt.data 8 }

/-! ### Builders -/

/-- The header of a DATA packet. -/
def dataHdr (header : DataFrameHeader) : List UInt8 :=
  [framingEncodeVersionType .data,
    (if header.roundEnd then framingFlagRoundEnd else 0) |||
      (if header.warmup then framingFlagWarmup else 0)] ++
    writeBe16 header.seq ++ [header.fragIndex, header.totalFrags, header.payloadLen] ++
    writeBe16 header.frameLen ++ writeBe32 header.frameCrc32

theorem data_fits (header : DataFrameHeader) {payload : List UInt8}
    (h : payload.length ≤ framingFragData) :
    (dataHdr header ++ payload).length ≤ packetMaxLen := by
  rw [List.length_append]
  exact Nat.add_le_add_left h _

/-- `framingBuildDataPacket`; `header.payloadLen` is the length of the payload. -/
def framingBuildDataPacket (header : DataFrameHeader) (payload : List UInt8)
    (h : payload.length ≤ framingFragData) : Packet :=
  padToMinRadioLen (dataHdr header ++ payload) (data_fits header h)

/-- The bytes of an ACK packet before the padding. -/
def ackHdr (ack : AckFrame) : List UInt8 :=
  [framingEncodeVersionType .ack, 0] ++ writeBe16 ack.seq ++
    [ack.windowBase, ack.totalFrags, framingAckMaskBytes] ++ writeLe32 ack.receivedMask

theorem ack_fits (ack : AckFrame) : (ackHdr ack).length ≤ packetMaxLen :=
  Nat.le_of_ble_eq_true rfl

def framingBuildAckPacket (ack : AckFrame) : Packet := padToMinRadioLen (ackHdr ack) (ack_fits ack)

theorem native_fits {payload : List UInt8} (h : payload.length ≤ framingNativeMaxPayload) :
    ([framingEncodeVersionType .native, .ofNat payload.length] ++ payload).length ≤
      packetMaxLen := by
  rw [List.length_append]
  exact Nat.add_le_add_left h _

def framingBuildNativePacket (payload : List UInt8) (h : payload.length ≤ framingNativeMaxPayload) :
    Packet :=
  padToMinRadioLen ([framingEncodeVersionType .native, .ofNat payload.length] ++ payload)
    (native_fits h)

/-- The bytes of a CONTROL packet before the padding. -/
def controlHdr (ctrl : ControlFrame) : List UInt8 :=
  [framingEncodeVersionType .control, ctrl.type.raw] ++ writeBe16 ctrl.seq ++
    [ctrl.flags, ctrl.reason, ctrl.pendingFrags, 0] ++ writeBe32 ctrl.token

theorem control_fits (ctrl : ControlFrame) : (controlHdr ctrl).length ≤ packetMaxLen :=
  Nat.le_of_ble_eq_true rfl

def framingBuildControlPacket (ctrl : ControlFrame) : Packet :=
  padToMinRadioLen (controlHdr ctrl) (control_fits ctrl)

/-! ### Validation helpers -/

def framingExpectedTotalFrags (frameLen : UInt16) : UInt8 :=
  if frameLen = 0 then 0 else .ofNat ((frameLen.toNat + framingFragData - 1) / framingFragData)

def framingExpectedFragmentLen (frameLen : UInt16) (fragIndex totalFrags : UInt8) : UInt8 :=
  if fragIndex ≥ totalFrags then 0
  else if fragIndex < totalFrags - 1 then .ofNat framingFragData
  else
    let remainder : UInt8 := .ofNat (frameLen.toNat % framingFragData)
    if remainder = 0 then .ofNat framingFragData else remainder

def framingValidateDataFragment (header : DataFrameHeader) : Bool :=
  if header.frameLen = 0 ∨ header.frameLen > tncPayloadMaxLen then false
  else if header.totalFrags ≠ framingExpectedTotalFrags header.frameLen then false
  else if header.fragIndex ≥ header.totalFrags then false
  else header.payloadLen =
    framingExpectedFragmentLen header.frameLen header.fragIndex header.totalFrags

/-! ### The reassembler -/

/-- `buf` and `frag_len` with `FRAMING_FRAG_DATA` bytes of `buf` for each fragment. -/
structure Reassembler where
  seq : UInt16 := framingSeqUnset
  buf : List UInt8 := List.replicate 1280 0
  fragLen : List UInt16 := List.replicate 12 0
  receivedMask : UInt32 := 0
  totalFrags : UInt8 := 0
  frameLen : UInt16 := 0
  frameCrc32 : UInt32 := 0
  warmup : Bool := false
  ackPending : Bool := false
  lastTickMs : UInt32 := 0
  ackDueMs : UInt32 := 0
  deriving DecidableEq, Repr

namespace Reassembler

def reset (ra : Reassembler) : Reassembler := { buf := ra.buf }

def isComplete (ra : Reassembler) : Bool :=
  let expected := framingExpectedMask ra.totalFrags
  expected ≠ 0 ∧ ra.receivedMask &&& expected = expected

end Reassembler

end FlrcTnc.Framing.V2
