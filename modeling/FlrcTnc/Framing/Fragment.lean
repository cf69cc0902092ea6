import FlrcTnc.Framing.V3

/-! Fragmentation and reassembly: `framing/FragmentV3.h`.  Datagrams stand in buffers of a pool and
are reached through pointers; a pointer to a buffer is the number of that buffer. -/

namespace FlrcTnc.Framing

/-- The memory of one buffer.  Only the first `V3_MAX_DATAGRAM` bytes exist; the length checks of
the source keep every access below that. -/
abbrev Buffer := Nat → UInt8

/-- The `n` bytes from `offset` on. -/
def Buffer.read (buffer : Buffer) (offset n : Nat) : List UInt8 :=
  (List.range n).map fun k => buffer (offset + k)

/-- `memcpy(buffer + offset, bytes, bytes.length)`. -/
def Buffer.write (buffer : Buffer) (offset : Nat) (bytes : List UInt8) : Buffer := fun k =>
  if offset ≤ k ∧ k < offset + bytes.length then byteAt bytes (k - offset) else buffer k

/-- The address `buffer + offset`. -/
def Buffer.shift (buffer : Buffer) (offset : Nat) : Buffer := fun k => buffer (offset + k)

/-- A pointer to a buffer of a `DatagramPool`, which has eight of them. -/
abbrev BufferRef := Fin 8

inductive FragmentResult
  | ok | badArgument | badLength | tooManyFragments | outputTooSmall | metadataMismatch | duplicate
  deriving DecidableEq, Repr

/-- A fragment; `payload` is the memory from the payload pointer on. -/
structure FragmentDescriptor where
  header : DataHeader
  payload : Buffer

structure ReassemblyV3 where
  datagramId : UInt16 := 0
  datagramLength : UInt16 := 0
  fragmentCount : UInt8 := 0
  receivedBitmap : UInt16 := 0
  fragmentLengths : Vector UInt8 12 := Vector.replicate 12 0
  output : Option BufferRef := none
  outputCapacity : UInt16 := 0
  bytesReceived : UInt16 := 0
  active : Bool := false
  duplicateFragments : UInt32 := 0
  metadataMismatches : UInt32 := 0
  rejectedFragments : UInt32 := 0
  deriving DecidableEq, Repr

/-- `static_cast<uint16_t>(1u << index)`. -/
def fragmentBit (index : UInt8) : UInt16 := ((1 : UInt32) <<< index.toUInt32).toUInt16

def fragmentExpectedBitmap (fragmentCount : UInt8) : UInt16 :=
  if fragmentCount = 0 ∨ fragmentCount > v3MaxFrags then 0
  else (((1 : UInt32) <<< fragmentCount.toUInt32) - 1).toUInt16

/-- The loop of `describeDatagram` over the fragments from `i` on, of which `todo` are left, with
the first of them at `offset`. -/
def describeFragments (datagram : Buffer) (header : DataHeader) :
    (todo : Nat) → (i : UInt8) → (offset : UInt16) → Except FragmentResult (List FragmentDescriptor)
  | 0, _, _ => .ok []
  | todo + 1, i, offset =>
    let payloadLen := expectedFragmentPayloadLen header.datagramLength i header.fragmentCount
    let this := { header with fragmentIndex := i, payloadLen }
    if ¬ validateDataHeader this then .error .badLength
    else
      match describeFragments datagram header todo (i + 1) (offset + payloadLen.toUInt16) with
      | .error e => .error e
      | .ok rest => .ok (⟨this, datagram.shift offset.toNat⟩ :: rest)

/-- `describeDatagram`; the null datagram and the null fragment array are `none`. -/
def describeDatagram (datagram : Option Buffer) (datagramLength datagramId : UInt16)
    (flags queueDepthHint : UInt8) (fragmentCapacity : Option UInt8) :
    Except FragmentResult (List FragmentDescriptor) :=
  if datagramLength = 0 ∨ datagramLength > v3MaxDatagram then .error .badLength
  else
    match datagram, fragmentCapacity with
    | some datagram, some capacity =>
      if flags > v3MaxNibble ∨ queueDepthHint > v3MaxNibble then .error .badArgument
      else
        let needed := expectedFragmentCount datagramLength
        if needed = 0 ∨ needed > v3MaxFrags then .error .tooManyFragments
        else if capacity < needed then .error .outputTooSmall
        else describeFragments datagram
          { flags, queueDepthHint, datagramId, datagramLength, fragmentCount := needed }
          needed.toNat 0 0
    | _, _ => .error .badArgument

/-- The three counters survive. -/
def resetReassembly (state : ReassemblyV3) (output : Option BufferRef) (outputCapacity : UInt16) :
    ReassemblyV3 :=
  { duplicateFragments := state.duplicateFragments
    metadataMismatches := state.metadataMismatches
    rejectedFragments := state.rejectedFragments
    output, outputCapacity }

def reassemblyIsComplete (state : ReassemblyV3) : Bool :=
  let expected := fragmentExpectedBitmap state.fragmentCount
  state.active ∧ expected ≠ 0 ∧ state.receivedBitmap &&& expected = expected ∧
    state.bytesReceived = state.datagramLength

def reassembledLength (state : ReassemblyV3) : UInt16 :=
  if reassemblyIsComplete state then state.datagramLength else 0

def reassemblyMetadataMatches (state : ReassemblyV3) (header : DataHeader) : Bool :=
  state.datagramId = header.datagramId ∧ state.datagramLength = header.datagramLength ∧
    state.fragmentCount = header.fragmentCount

/-- The metadata check of `acceptFragment`, which the first fragment of a reassembly passes. -/
def openReassembly (state : ReassemblyV3) (header : DataHeader) : Option ReassemblyV3 :=
  if ¬ state.active then
    some { state with
      datagramId := header.datagramId
      datagramLength := header.datagramLength
      fragmentCount := header.fragmentCount
      receivedBitmap := 0
      fragmentLengths := Vector.replicate 12 0
      bytesReceived := 0
      active := true }
  else if ¬ reassemblyMetadataMatches state header then none
  else some state

/-- The part of `acceptFragment` behind the metadata check; `memory` is what `output` points to. -/
def storeFragment (state : ReassemblyV3) (memory : Buffer) (header : DataHeader)
    (payload : List UInt8) : FragmentResult × ReassemblyV3 × Buffer :=
  let bit := fragmentBit header.fragmentIndex
  if state.receivedBitmap &&& bit ≠ 0 then
    if state.fragmentLengths.toList.getD header.fragmentIndex.toNat 0 ≠ header.payloadLen then
      (.metadataMismatch, { state with
        metadataMismatches := state.metadataMismatches + 1
        rejectedFragments := state.rejectedFragments + 1 }, memory)
    else
      (.duplicate, { state with duplicateFragments := state.duplicateFragments + 1 }, memory)
  else
    let offset := header.fragmentIndex.toUInt16 * v3FragmentPayloadMax.toUInt16
    let payloadLen := header.payloadLen.toUInt16
    if offset > header.datagramLength ∨ offset + payloadLen > header.datagramLength ∨
        offset + payloadLen > state.outputCapacity then
      (.badLength, { state with rejectedFragments := state.rejectedFragments + 1 }, memory)
    else
      (.ok, { state with
        fragmentLengths :=
          state.fragmentLengths.setIfInBounds header.fragmentIndex.toNat header.payloadLen
        receivedBitmap := state.receivedBitmap ||| bit
        bytesReceived := state.bytesReceived + payloadLen },
        memory.write offset.toNat (payload.take header.payloadLen.toNat))

/-- `acceptFragment`; `none` is the null payload pointer. -/
def acceptFragment (state : ReassemblyV3) (memory : Buffer) (header : DataHeader)
    (payload : Option (List UInt8)) : FragmentResult × ReassemblyV3 × Buffer :=
  let rejected := { state with rejectedFragments := state.rejectedFragments + 1 }
  if ¬ validateDataHeader header then (.badLength, rejected, memory)
  else if header.payloadLen > 0 ∧ payload = none then (.badArgument, rejected, memory)
  else if state.output = none ∨ state.outputCapacity < header.datagramLength then
    (.outputTooSmall, rejected, memory)
  else
    match openReassembly state header with
    | none => (.metadataMismatch,
        { rejected with metadataMismatches := state.metadataMismatches + 1 }, memory)
    | some state => storeFragment state memory header (payload.getD [])

end FlrcTnc.Framing
