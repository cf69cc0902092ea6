import Mathlib.Data.UInt

/-! The v3 packet format: `framing/FramingV3.h`.  A packet is the list of the bytes below its `len`;
the builders and the typed parsers compute what the source computes, byte by byte, with the CRC
field read as zero while the CRC is computed and padding outside it. -/

namespace FlrcTnc.Framing

/-- `PACKET_MAX_LEN`, the largest FLRC payload of the SX1280. -/
def packetMaxLen : Nat := 127

def v3Version : UInt8 := 3
def v3VersionShift : UInt8 := 4
def v3TypeMask : UInt8 := 0x0F
def v3MaxNibble : UInt8 := 0x0F
def v3MaxDatagram : UInt16 := 1280
def v3MaxFrags : UInt8 := 12
def v3DataHdrLen : Nat := 12
def v3AckLen : Nat := 11
def v3ControlLen : Nat := 6
def v3MgmtHdrLen : Nat := 2
def v3CrcLen : Nat := 4
def v3DataFlagRoundEnd : UInt8 := 0x01
/-- `PACKET_MAX_LEN - V3_DATA_HDR_LEN`. -/
def v3FragmentPayloadMax : UInt8 := 115
/-- `PACKET_MAX_LEN - V3_MGMT_HDR_LEN - V3_CRC_LEN`. -/
def v3MgmtPayloadMax : UInt8 := 121
/-- `V3_MIN_RADIO_LEN`: builders pad every packet to the full radio frame. -/
def v3MinRadioLen : Nat := packetMaxLen

inductive PacketType
  | data | ack | control | mgmt
  deriving DecidableEq, Repr

/-- The low nibble of byte 0. -/
def PacketType.raw : PacketType → UInt8
  | .data => 0
  | .ack => 1
  | .control => 2
  | .mgmt => 3

/-- An `enum class : uint8_t` of the source holds any byte; `isKnownControlSubtype` tells the
named values apart from the others. -/
structure ControlSubtype where
  raw : UInt8
  deriving DecidableEq, Repr

namespace ControlSubtype
def heartbeat : ControlSubtype := ⟨0x01⟩
def heartbeatAck : ControlSubtype := ⟨0x02⟩
def linkState : ControlSubtype := ⟨0x03⟩
def grantReserved : ControlSubtype := ⟨0x10⟩
def profileSwitchReserved : ControlSubtype := ⟨0x20⟩
end ControlSubtype

/-- As `ControlSubtype`, with `isKnownFailureStatus`. -/
structure FailureStatus where
  raw : UInt8
  deriving DecidableEq, Repr

namespace FailureStatus
def none : FailureStatus := ⟨0⟩
def reset : FailureStatus := ⟨1⟩
def retryExhausted : FailureStatus := ⟨2⟩
def saturation : FailureStatus := ⟨3⟩
def malformedInput : FailureStatus := ⟨4⟩
def creditWithdrawal : FailureStatus := ⟨5⟩
def allocationFailure : FailureStatus := ⟨6⟩
end FailureStatus

/-- The failures of builders and parsers; `ParseResult::OK` is the success case of `Except`. -/
inductive ParseResult
  | truncated | versionMismatch | unknownType | wrongType | badLength | badFragment | badValue
  | badCrc | outputTooSmall
  deriving DecidableEq, Repr

/-- The bytes `data[0 .. len)` of a `Packet`. -/
structure Packet where
  data : List UInt8
  fits : data.length ≤ packetMaxLen
  deriving DecidableEq, Repr

def Packet.len (pkt : Packet) : Nat := pkt.data.length

structure DataHeader where
  flags : UInt8 := 0
  queueDepthHint : UInt8 := 0
  datagramId : UInt16 := 0
  fragmentIndex : UInt8 := 0
  fragmentCount : UInt8 := 0
  datagramLength : UInt16 := 0
  payloadLen : UInt8 := 0
  deriving DecidableEq, Repr

structure AckFrame where
  datagramId : UInt16 := 0
  fragmentBitmap : UInt16 := 0
  receiverCredits : UInt8 := 0
  failure : FailureStatus := .none
  deriving DecidableEq, Repr

structure ControlFrame where
  subtype : ControlSubtype := .heartbeat
  deriving DecidableEq, Repr

/-- `MgmtFrame`; `none` is the null payload pointer. -/
structure MgmtFrame where
  payload : Option (List UInt8) := none
  payloadLen : UInt8 := 0
  deriving DecidableEq, Repr

/-- `data[offset]`; every use stands behind a check of the length. -/
def byteAt (data : List UInt8) (offset : Nat) : UInt8 := data.getD offset 0

def encodeVersionType (type : PacketType) : UInt8 :=
  (v3Version <<< v3VersionShift) ||| (type.raw &&& v3TypeMask)

def packetVersion (pkt : Packet) : UInt8 := byteAt pkt.data 0 >>> v3VersionShift

def writeLe16 (value : UInt16) : List UInt8 :=
  [(value &&& 0xFF).toUInt8, ((value >>> 8) &&& 0xFF).toUInt8]

def readLe16 (data : List UInt8) (offset : Nat) : UInt16 :=
  (byteAt data offset).toUInt16 ||| ((byteAt data (offset + 1)).toUInt16 <<< 8)

def writeLe32 (value : UInt32) : List UInt8 :=
  [(value &&& 0xFF).toUInt8, ((value >>> 8) &&& 0xFF).toUInt8,
    ((value >>> 16) &&& 0xFF).toUInt8, ((value >>> 24) &&& 0xFF).toUInt8]

def readLe32 (data : List UInt8) (offset : Nat) : UInt32 :=
  (byteAt data offset).toUInt32 ||| ((byteAt data (offset + 1)).toUInt32 <<< 8) |||
    ((byteAt data (offset + 2)).toUInt32 <<< 16) ||| ((byteAt data (offset + 3)).toUInt32 <<< 24)

def isKnownPacketType (rawType : UInt8) : Bool := rawType ≤ PacketType.mgmt.raw

/-- `static_cast<PacketType>` of a raw type that `isKnownPacketType` accepts. -/
def PacketType.ofRaw (rawType : UInt8) : PacketType :=
  if rawType = 0 then .data else if rawType = 1 then .ack
  else if rawType = 2 then .control else .mgmt

def isKnownControlSubtype (subtype : ControlSubtype) : Bool :=
  subtype ∈ [.heartbeat, .heartbeatAck, .linkState, .grantReserved, .profileSwitchReserved]

def isKnownFailureStatus (status : FailureStatus) : Bool :=
  status ∈ [.none, .reset, .retryExhausted, .saturation, .malformedInput, .creditWithdrawal,
    .allocationFailure]

def expectedFragmentCount (datagramLength : UInt16) : UInt8 :=
  if datagramLength = 0 ∨ datagramLength > v3MaxDatagram then 0
  else ((datagramLength + v3FragmentPayloadMax.toUInt16 - 1) /
    v3FragmentPayloadMax.toUInt16).toUInt8

def expectedFragmentPayloadLen (datagramLength : UInt16) (fragmentIndex fragmentCount : UInt8) :
    UInt8 :=
  if datagramLength = 0 ∨ datagramLength > v3MaxDatagram ∨ fragmentCount = 0 ∨
      fragmentCount > v3MaxFrags ∨ fragmentIndex ≥ fragmentCount ∨
      fragmentCount ≠ expectedFragmentCount datagramLength then 0
  else if fragmentIndex < fragmentCount - 1 then v3FragmentPayloadMax
  else (datagramLength - fragmentIndex.toUInt16 * v3FragmentPayloadMax.toUInt16).toUInt8

def validateDataHeader (header : DataHeader) : Bool :=
  if header.flags > v3MaxNibble ∨ header.queueDepthHint > v3MaxNibble then false
  else if header.datagramLength = 0 ∨ header.datagramLength > v3MaxDatagram then false
  else if header.fragmentCount = 0 ∨ header.fragmentCount > v3MaxFrags then false
  else if header.fragmentCount ≠ expectedFragmentCount header.datagramLength then false
  else if header.fragmentIndex ≥ header.fragmentCount then false
  else header.payloadLen = expectedFragmentPayloadLen header.datagramLength header.fragmentIndex
    header.fragmentCount

/-! ### The CRC -/

def crc32Shift (crc : UInt32) : UInt32 :=
  if crc &&& 1 ≠ 0 then (crc >>> 1) ^^^ 0xEDB88320 else crc >>> 1

/-- `for (bit = 0; bit < 8; ++bit)` of `crc32Update`. -/
def crc32Shifts : Nat → UInt32 → UInt32
  | 0, crc => crc
  | bits + 1, crc => crc32Shifts bits (crc32Shift crc)

def crc32Update (crc : UInt32) (value : UInt8) : UInt32 := crc32Shifts 8 (crc ^^^ value.toUInt32)

def crc32UpdateBytes (crc : UInt32) (data : List UInt8) : UInt32 := data.foldl crc32Update crc

/-- The CRC of `data[0 .. len)` with the four bytes from `crcOffset` on read as zero. -/
def crcWithZeroedField (data : List UInt8) (len crcOffset : Nat) : UInt32 :=
  let crc := crc32UpdateBytes 0xFFFFFFFF (data.take crcOffset)
  let crc := crc32UpdateBytes crc (List.replicate v3CrcLen 0)
  ~~~ crc32UpdateBytes crc ((data.drop (crcOffset + v3CrcLen)).take (len - crcOffset - v3CrcLen))

/-! ### Builders and parsers -/

/-- The packet of the logical bytes `data`, zero-padded to the minimum radio length. -/
def padToMinRadioLen (data : List UInt8) (fits : data.length ≤ packetMaxLen) : Packet where
  data := data ++ List.replicate (v3MinRadioLen - data.length) 0
  fits := by simp [v3MinRadioLen]; omega

def validateCommon (pkt : Packet) (expectedType : PacketType) : Except ParseResult Unit :=
  if pkt.len < 1 then .error .truncated
  else if packetVersion pkt ≠ v3Version then .error .versionMismatch
  else
    let rawType := byteAt pkt.data 0 &&& v3TypeMask
    if ¬ isKnownPacketType rawType then .error .unknownType
    else if PacketType.ofRaw rawType ≠ expectedType then .error .wrongType
    else .ok ()

def parsePacketType (pkt : Packet) : Except ParseResult PacketType :=
  if pkt.len < 1 then .error .truncated
  else if packetVersion pkt ≠ v3Version then .error .versionMismatch
  else
    let rawType := byteAt pkt.data 0 &&& v3TypeMask
    if ¬ isKnownPacketType rawType then .error .unknownType
    else .ok (PacketType.ofRaw rawType)

/-- The logical bytes of a DATA packet with `crc` in the CRC field. -/
def dataBytes (header : DataHeader) (payload : List UInt8) (crc : UInt32) : List UInt8 :=
  [encodeVersionType .data, (header.queueDepthHint <<< 4) ||| (header.flags &&& v3MaxNibble)] ++
    writeLe16 header.datagramId ++ [header.fragmentIndex, header.fragmentCount] ++
    writeLe16 header.datagramLength ++ writeLe32 crc ++ payload

/-- `buildDataPacket`; `none` is the null payload pointer, and `some payload` the bytes from the
pointer on, of which `header.payload_len` are read. -/
def buildDataPacket (header : DataHeader) (payload : Option (List UInt8)) :
    Except ParseResult Packet :=
  if ¬ validateDataHeader header then .error .badFragment
  else if header.payloadLen > 0 ∧ payload = none then .error .badValue
  else
    let payload := (payload.getD []).take header.payloadLen.toNat
    -- the logical bytes while the CRC field is still the zeros of the `memset`
    let zeroed := dataBytes header payload 0
    let logical := dataBytes header payload (crcWithZeroedField zeroed zeroed.length 8)
    if fits : logical.length ≤ packetMaxLen then .ok (padToMinRadioLen logical fits)
    else .error .badLength

/-- `parseDataPacket`; the payload is the `payload_len` bytes behind the returned pointer. -/
def parseDataPacket (pkt : Packet) : Except ParseResult (DataHeader × List UInt8) := do
  validateCommon pkt .data
  if pkt.len < v3DataHdrLen then .error .truncated
  else
    let flags := byteAt pkt.data 1 &&& v3MaxNibble
    let queueDepthHint := byteAt pkt.data 1 >>> 4
    let datagramId := readLe16 pkt.data 2
    let fragmentIndex := byteAt pkt.data 4
    let fragmentCount := byteAt pkt.data 5
    let datagramLength := readLe16 pkt.data 6
    if datagramLength = 0 ∨ datagramLength > v3MaxDatagram then .error .badLength
    else if fragmentCount = 0 ∨ fragmentCount > v3MaxFrags ∨
        fragmentCount ≠ expectedFragmentCount datagramLength ∨ fragmentIndex ≥ fragmentCount then
      .error .badFragment
    else
      let payloadLen := expectedFragmentPayloadLen datagramLength fragmentIndex fragmentCount
      let expectedLen := v3DataHdrLen + payloadLen.toNat
      if pkt.len < expectedLen then .error .truncated
      -- bytes beyond the expected length are radio padding, excluded from the CRC
      else if readLe32 pkt.data 8 ≠ crcWithZeroedField pkt.data expectedLen 8 then .error .badCrc
      else .ok (⟨flags, queueDepthHint, datagramId, fragmentIndex, fragmentCount, datagramLength,
        payloadLen⟩, (pkt.data.drop v3DataHdrLen).take payloadLen.toNat)

/-- The logical bytes of an ACK packet with `crc` in the CRC field. -/
def ackBytes (ack : AckFrame) (crc : UInt32) : List UInt8 :=
  [encodeVersionType .ack] ++ writeLe16 ack.datagramId ++ writeLe16 ack.fragmentBitmap ++
    [ack.receiverCredits, ack.failure.raw] ++ writeLe32 crc

def buildAckPacket (ack : AckFrame) : Except ParseResult Packet :=
  if ¬ isKnownFailureStatus ack.failure then .error .badValue
  else .ok (padToMinRadioLen (ackBytes ack (crcWithZeroedField (ackBytes ack 0) v3AckLen 7))
    (by simp [ackBytes, writeLe16, writeLe32, packetMaxLen]))

def parseAckPacket (pkt : Packet) : Except ParseResult AckFrame := do
  validateCommon pkt .ack
  if pkt.len < v3AckLen then .error .truncated
  else
    let status : FailureStatus := ⟨byteAt pkt.data 6⟩
    if ¬ isKnownFailureStatus status then .error .badValue
    else if readLe32 pkt.data 7 ≠ crcWithZeroedField pkt.data v3AckLen 7 then .error .badCrc
    else .ok { datagramId := readLe16 pkt.data 1, fragmentBitmap := readLe16 pkt.data 3,
               receiverCredits := byteAt pkt.data 5, failure := status }

/-- The logical bytes of a CONTROL packet with `crc` in the CRC field. -/
def controlBytes (ctrl : ControlFrame) (crc : UInt32) : List UInt8 :=
  [encodeVersionType .control, ctrl.subtype.raw] ++ writeLe32 crc

def buildControlPacket (ctrl : ControlFrame) : Except ParseResult Packet :=
  if ¬ isKnownControlSubtype ctrl.subtype then .error .badValue
  else .ok (padToMinRadioLen
    (controlBytes ctrl (crcWithZeroedField (controlBytes ctrl 0) v3ControlLen 2))
    (by simp [controlBytes, writeLe32, packetMaxLen]))

def parseControlPacket (pkt : Packet) : Except ParseResult ControlFrame := do
  validateCommon pkt .control
  if pkt.len < v3ControlLen then .error .truncated
  else
    let subtype : ControlSubtype := ⟨byteAt pkt.data 1⟩
    if ¬ isKnownControlSubtype subtype then .error .badValue
    else if readLe32 pkt.data 2 ≠ crcWithZeroedField pkt.data v3ControlLen 2 then .error .badCrc
    else .ok { subtype }

/-- The logical bytes of a MGMT packet with `crc` in the CRC field, which follows the payload. -/
def mgmtBytes (payloadLen : UInt8) (payload : List UInt8) (crc : UInt32) : List UInt8 :=
  [encodeVersionType .mgmt, payloadLen] ++ payload ++ writeLe32 crc

def buildMgmtPacket (mgmt : MgmtFrame) : Except ParseResult Packet :=
  if mgmt.payloadLen > v3MgmtPayloadMax then .error .badLength
  else if mgmt.payloadLen > 0 ∧ mgmt.payload = none then .error .badValue
  else
    let payload := (mgmt.payload.getD []).take mgmt.payloadLen.toNat
    let crcOffset := v3MgmtHdrLen + payload.length
    let zeroed := mgmtBytes mgmt.payloadLen payload 0
    let logical := mgmtBytes mgmt.payloadLen payload
      (crcWithZeroedField zeroed zeroed.length crcOffset)
    if fits : logical.length ≤ packetMaxLen then .ok (padToMinRadioLen logical fits)
    else .error .badLength

/-- `parseMgmtPacket` into a buffer of `payloadCapacity` bytes, null if not `buffer`; the result is
the bytes copied to the buffer, and their number is `payload_len`. -/
def parseMgmtPacket (pkt : Packet) (buffer : Bool) (payloadCapacity : UInt8) :
    Except ParseResult (List UInt8) := do
  validateCommon pkt .mgmt
  if pkt.len < v3MgmtHdrLen + v3CrcLen then .error .truncated
  else
    let payloadLen := byteAt pkt.data 1
    if payloadLen > v3MgmtPayloadMax then .error .badLength
    else
      let expectedLen := v3MgmtHdrLen + payloadLen.toNat + v3CrcLen
      if pkt.len < expectedLen then .error .truncated
      else
        let crcOffset := v3MgmtHdrLen + payloadLen.toNat
        if readLe32 pkt.data crcOffset ≠ crcWithZeroedField pkt.data expectedLen crcOffset then
          .error .badCrc
        else if payloadLen > payloadCapacity then .error .outputTooSmall
        else if payloadLen > 0 ∧ ¬ buffer then .error .outputTooSmall
        else .ok ((pkt.data.drop v3MgmtHdrLen).take payloadLen.toNat)

end FlrcTnc.Framing
