import FlrcTnc.Framing.Exact
import FlrcTnc.Framing.Fragment

/-! Frames with another datagram id.  A packet is encoded again with its id shifted; the parsers
read the shifted frame from it, and fragmentation and reassembly do not see the shift. -/

namespace FlrcTnc.Framing

def DataHeader.shiftId (j : UInt16) (header : DataHeader) : DataHeader :=
  { header with datagramId := header.datagramId + j }

def AckFrame.shiftId (j : UInt16) (ack : AckFrame) : AckFrame :=
  { ack with datagramId := ack.datagramId + j }

/-- The packet of the DATA or ACK frame with its id shifted; any other packet has no id. -/
def Packet.shiftId (j : UInt16) (packet : Packet) : Packet :=
  match parseDataPacket packet with
  | .ok (header, payload) =>
    (buildDataPacket (header.shiftId j) (some payload)).toOption.getD packet
  | .error _ =>
    match parseAckPacket packet with
    | .ok ack => (buildAckPacket (ack.shiftId j)).toOption.getD packet
    | .error _ => packet

variable {j : UInt16}

theorem DataHeader.shiftId_neg (header : DataHeader) :
    (header.shiftId j).shiftId (-j) = header := by
  simp [shiftId]

theorem AckFrame.shiftId_neg (ack : AckFrame) : (ack.shiftId j).shiftId (-j) = ack := by
  simp [shiftId]

@[simp] theorem DataHeader.shiftId_datagramId (header : DataHeader) :
    (header.shiftId j).datagramId = header.datagramId + j := rfl

@[simp] theorem DataHeader.shiftId_flags (header : DataHeader) :
    (header.shiftId j).flags = header.flags := rfl

@[simp] theorem DataHeader.shiftId_payloadLen (header : DataHeader) :
    (header.shiftId j).payloadLen = header.payloadLen := rfl

@[simp] theorem AckFrame.shiftId_fragmentBitmap (ack : AckFrame) :
    (ack.shiftId j).fragmentBitmap = ack.fragmentBitmap := rfl

@[simp] theorem AckFrame.shiftId_receiverCredits (ack : AckFrame) :
    (ack.shiftId j).receiverCredits = ack.receiverCredits := rfl

@[simp] theorem AckFrame.shiftId_failure (ack : AckFrame) :
    (ack.shiftId j).failure = ack.failure := rfl

@[simp] theorem validateDataHeader_shiftId (header : DataHeader) :
    validateDataHeader (header.shiftId j) = validateDataHeader header := rfl

/-! ### Packets -/

/-- Every valid header has a packet. -/
theorem exists_buildsData {header : DataHeader} {payload : List UInt8}
    (hvalid : validateDataHeader header) (hlen : payload.length = header.payloadLen.toNat) :
    ∃ packet, BuildsData (header, payload) packet := by
  obtain ⟨_, hok⟩ := buildDataPacket_of_valid hvalid hlen
  exact ⟨_, hlen, hok⟩

theorem shiftId_of_data {packet : Packet} {header : DataHeader} {payload : List UInt8}
    (h : parseDataPacket packet = .ok (header, payload)) :
    BuildsData (header.shiftId j, payload) (packet.shiftId j) := by
  obtain ⟨hvalid, hlen⟩ := parseDataPacket_sound h
  obtain ⟨shifted, hbuilds⟩ := exists_buildsData
    (show validateDataHeader (header.shiftId j) from hvalid) hlen
  rw [Packet.shiftId, h]
  dsimp only
  rw [hbuilds.2]
  exact hbuilds

theorem shiftId_of_ack {packet : Packet} {ack : AckFrame} (h : parseAckPacket packet = .ok ack) :
    buildAckPacket (ack.shiftId j) = .ok (packet.shiftId j) := by
  have hknown : isKnownFailureStatus ack.failure := ((parseAckPacket_iff packet ack).mp h).1
  cases hbuild : buildAckPacket (ack.shiftId j) with
  | error err =>
    rw [buildAckPacket, if_neg (not_not.mpr
      (show isKnownFailureStatus (ack.shiftId j).failure from hknown))]
      at hbuild
    cases hbuild
  | ok shifted =>
    rw [Packet.shiftId]
    cases hdata : parseDataPacket packet with
    | ok frame => exact absurd h (not_ack_of_data hdata ack)
    | error err =>
      dsimp only
      rw [h]
      dsimp only
      rw [hbuild]
      rfl

theorem parseDataPacket_shiftId {packet : Packet} {header : DataHeader} {payload : List UInt8}
    (h : parseDataPacket packet = .ok (header, payload)) :
    parseDataPacket (packet.shiftId j) = .ok (header.shiftId j, payload) :=
  data_exact.parses_of_builds (shiftId_of_data h)

theorem parseAckPacket_shiftId {packet : Packet} {ack : AckFrame}
    (h : parseAckPacket packet = .ok ack) :
    parseAckPacket (packet.shiftId j) = .ok (ack.shiftId j) :=
  ack_exact.parses_of_builds (shiftId_of_ack h)

theorem shiftId_of_neither {packet : Packet} {err err' : ParseResult}
    (hdata : parseDataPacket packet = .error err) (hack : parseAckPacket packet = .error err') :
    packet.shiftId j = packet := by
  rw [Packet.shiftId, hdata]
  dsimp only
  rw [hack]

theorem buildsData_shiftId {header : DataHeader} {payload : List UInt8} {packet : Packet}
    (h : BuildsData (header, payload) packet) :
    BuildsData (header.shiftId j, payload) (packet.shiftId j) :=
  shiftId_of_data (data_exact.parses_of_builds h)

theorem buildAckPacket_shiftId {ack : AckFrame} {packet : Packet}
    (h : buildAckPacket ack = .ok packet) :
    buildAckPacket (ack.shiftId j) = .ok (packet.shiftId j) :=
  shiftId_of_ack (ack_exact.parses_of_builds h)

theorem buildAckPacket_shiftId_error {ack : AckFrame} {err : ParseResult}
    (h : buildAckPacket ack = .error err) : buildAckPacket (ack.shiftId j) = .error err := by
  unfold buildAckPacket at h ⊢
  by_cases hknown : isKnownFailureStatus ack.failure
  · rw [if_neg (not_not.mpr hknown)] at h
    cases h
  · rw [if_pos hknown] at h
    rw [← h]
    exact if_pos hknown

/-- The shift of a built packet can be undone. -/
theorem shiftId_neg_of_data {header : DataHeader} {payload : List UInt8} {packet : Packet}
    (h : BuildsData (header, payload) packet) : (packet.shiftId j).shiftId (-j) = packet := by
  have hback := buildsData_shiftId (j := -j) (buildsData_shiftId (j := j) h)
  rw [DataHeader.shiftId_neg] at hback
  exact data_exact.builds_unique hback h

theorem shiftId_neg_of_ack {ack : AckFrame} {packet : Packet}
    (h : buildAckPacket ack = .ok packet) :
    (packet.shiftId j).shiftId (-j) = packet := by
  have hback := buildAckPacket_shiftId (j := -j) (buildAckPacket_shiftId (j := j) h)
  rw [AckFrame.shiftId_neg] at hback
  exact ack_exact.builds_unique hback h

/-! ### Fragmentation -/

def FragmentDescriptor.shiftId (j : UInt16) (fragment : FragmentDescriptor) : FragmentDescriptor :=
  { fragment with header := fragment.header.shiftId j }

theorem describeFragments_shiftId (datagram : Buffer) (header : DataHeader) (todo : Nat) (i : UInt8)
    (offset : UInt16) : describeFragments datagram (header.shiftId j) todo i offset =
      (describeFragments datagram header todo i offset).map (·.map (·.shiftId j)) := by
  induction todo generalizing i offset with
  | zero => rfl
  | succ todo ih =>
    rw [describeFragments, describeFragments]
    by_cases hvalid : validateDataHeader { header with
        fragmentIndex := i
        payloadLen := expectedFragmentPayloadLen header.datagramLength i header.fragmentCount }
    · rw [if_neg (not_not.mpr hvalid)]
      refine (if_neg (not_not.mpr hvalid)).trans ?_
      have hrest := ih (i + 1) (offset +
        (expectedFragmentPayloadLen header.datagramLength i header.fragmentCount).toUInt16)
      dsimp only [DataHeader.shiftId] at hrest ⊢
      rw [hrest]
      cases describeFragments datagram header todo (i + 1) (offset +
        (expectedFragmentPayloadLen header.datagramLength i header.fragmentCount).toUInt16) <;> rfl
    · rw [if_pos hvalid]
      exact if_pos hvalid

theorem describeDatagram_shiftId (datagram : Option Buffer) (len id : UInt16) (flags hint : UInt8)
    (capacity : Option UInt8) : describeDatagram datagram len (id + j) flags hint capacity =
      (describeDatagram datagram len id flags hint capacity).map (·.map (·.shiftId j)) := by
  unfold describeDatagram
  split
  · rfl
  split
  · next datagram capacity =>
    dsimp only
    split
    · rfl
    split
    · rfl
    split
    · rfl
    let header : DataHeader :=
      { flags, queueDepthHint := hint, datagramId := id, datagramLength := len,
        fragmentCount := expectedFragmentCount len }
    exact describeFragments_shiftId datagram header _ 0 0
  · rfl

theorem exists_datagram_of_describe {datagram : Option Buffer} {len id : UInt16}
    {flags hint : UInt8}
    {capacity : Option UInt8} {fragments : List FragmentDescriptor}
    (h : describeDatagram datagram len id flags hint capacity = .ok fragments) :
    ∃ buffer, datagram = some buffer := by
  unfold describeDatagram at h
  split at h
  · cases h
  split at h
  · exact ⟨_, rfl⟩
  · cases h

/-! ### Reassembly -/

/-- An inactive reassembly has no id yet. -/
def ReassemblyV3.shiftId (j : UInt16) (state : ReassemblyV3) : ReassemblyV3 :=
  { state with datagramId := if state.active then state.datagramId + j else state.datagramId }

theorem reassemblyMetadataMatches_shiftId {state : ReassemblyV3} (header : DataHeader)
    (h : state.active) : reassemblyMetadataMatches (state.shiftId j) (header.shiftId j) =
      reassemblyMetadataMatches state header := by
  simp [reassemblyMetadataMatches, ReassemblyV3.shiftId, DataHeader.shiftId, h]

theorem openReassembly_shiftId (state : ReassemblyV3) (header : DataHeader) :
    openReassembly (state.shiftId j) (header.shiftId j) =
      (openReassembly state header).map (·.shiftId j) := by
  unfold openReassembly
  by_cases hactive : state.active
  · rw [if_neg (not_not.mpr hactive), if_neg (not_not.mpr
      (show (state.shiftId j).active from hactive)),
      reassemblyMetadataMatches_shiftId header hactive]
    split <;> rfl
  · rw [if_pos hactive, if_pos (show ¬ (state.shiftId j).active from hactive)]
    rfl

theorem storeFragment_shiftId (state : ReassemblyV3) (memory : Buffer) (header : DataHeader)
    (payload : List UInt8) : storeFragment (state.shiftId j) memory (header.shiftId j) payload =
      ((storeFragment state memory header payload).1,
        (storeFragment state memory header payload).2.1.shiftId j,
        (storeFragment state memory header payload).2.2) := by
  unfold storeFragment
  by_cases hbit : state.receivedBitmap &&& fragmentBit header.fragmentIndex ≠ 0
  · rw [if_pos hbit]
    refine (if_pos hbit).trans ?_
    by_cases hlength : state.fragmentLengths.toList.getD header.fragmentIndex.toNat 0 ≠
      header.payloadLen
    · rw [if_pos hlength]
      exact if_pos hlength
    · rw [if_neg hlength]
      exact if_neg hlength
  · rw [if_neg hbit]
    refine (if_neg hbit).trans ?_
    dsimp only
    generalize hoffset : header.fragmentIndex.toUInt16 * v3FragmentPayloadMax.toUInt16 = offset
    by_cases hbounds : offset > header.datagramLength ∨
        offset + header.payloadLen.toUInt16 > header.datagramLength ∨
        offset + header.payloadLen.toUInt16 > state.outputCapacity
    · rw [if_pos hbounds]
      subst hoffset
      exact if_pos hbounds
    · rw [if_neg hbounds]
      subst hoffset
      exact if_neg hbounds

theorem acceptFragment_shiftId (state : ReassemblyV3) (memory : Buffer) (header : DataHeader)
    (payload : Option (List UInt8)) :
    acceptFragment (state.shiftId j) memory (header.shiftId j) payload =
      ((acceptFragment state memory header payload).1,
        (acceptFragment state memory header payload).2.1.shiftId j,
        (acceptFragment state memory header payload).2.2) := by
  unfold acceptFragment
  dsimp only
  rw [openReassembly_shiftId, validateDataHeader_shiftId]
  by_cases hvalid : ¬ validateDataHeader header
  · rw [if_pos hvalid, if_pos hvalid]
    rfl
  rw [if_neg hvalid, if_neg hvalid]
  by_cases hnull : header.payloadLen > 0 ∧ payload = none
  · rw [if_pos hnull]
    exact if_pos hnull
  rw [if_neg hnull]
  refine (if_neg hnull).trans ?_
  by_cases hroom : state.output = none ∨ state.outputCapacity < header.datagramLength
  · rw [if_pos hroom]
    exact if_pos hroom
  rw [if_neg hroom]
  refine (if_neg hroom).trans ?_
  cases openReassembly state header with
  | none => rfl
  | some opened => exact storeFragment_shiftId opened memory header (payload.getD [])

/-- A fragment that is stored or known already leaves the reassembly active. -/
theorem acceptFragment_active {state state' : ReassemblyV3} {memory memory' : Buffer}
    {header : DataHeader} {payload : Option (List UInt8)} {result : FragmentResult}
    (h : acceptFragment state memory header payload = (result, state', memory'))
    (hresult : result ∉ [.metadataMismatch, .badArgument, .badLength, .outputTooSmall]) :
    state'.active := by
  unfold acceptFragment at h
  dsimp only at h
  split at h
  · cases h
    exact absurd (by decide) hresult
  split at h
  · cases h
    exact absurd (by decide) hresult
  split at h
  · cases h
    exact absurd (by decide) hresult
  split at h
  · cases h
    exact absurd (by decide) hresult
  next opened hopen =>
  have hactive : opened.active := by
    unfold openReassembly at hopen
    split at hopen
    · cases hopen
      rfl
    · next hactive =>
      split at hopen
      · cases hopen
      · cases hopen
        exact not_not.mp hactive
  unfold storeFragment at h
  dsimp only at h
  split at h
  · split at h
    · cases h
      exact absurd (by decide) hresult
    · cases h
      exact hactive
  · split at h
    · cases h
      exact absurd (by decide) hresult
    · cases h
      exact hactive

end FlrcTnc.Framing
