import FlrcTnc.Framing.V2

/-! The v2 wire format is exact but for what its parsers ignore: two reserved bytes and the unused
flags of a DATA packet.  The parsers tell the v2 packets from one another and from the v3 ones. -/

namespace FlrcTnc.Framing.V2

open Serial

variable {packet : Packet}

/-- The version and the type of a packet are its first byte. -/
theorem versionByte_iff {type : LinkPacketType} (htype : type ∈ [.data, .ack, .native, .control])
    (hlen : 1 ≤ packet.len) :
    (framingHasValidVersion packet = true ∧ framingPacketType packet = type) ↔
      byteAt packet.data 0 = framingEncodeVersionType type := by
  rw [framingHasValidVersion, framingPacketType, decide_eq_true_iff]
  simp only [ge_iff_le, hlen, true_and]
  generalize byteAt packet.data 0 = b
  revert b
  simp only [List.mem_cons, List.not_mem_nil, or_false] at htype
  rcases htype with rfl | rfl | rfl | rfl <;> decide +kernel

theorem not_version_or_type_iff {type : LinkPacketType}
    (htype : type ∈ [.data, .ack, .native, .control]) (hlen : 1 ≤ packet.len) :
    (¬ framingHasValidVersion packet = true ∨ framingPacketType packet ≠ type) ↔
      byteAt packet.data 0 ≠ framingEncodeVersionType type := by
  rw [Ne, Ne, ← versionByte_iff htype hlen, not_and_or]

/-- A v3 packet is none of the v2 format. -/
theorem not_framingHasValidVersion {type : PacketType} (h : parsePacketType packet = .ok type) :
    framingHasValidVersion packet = false := by
  have hversion : packetVersion packet = v3Version := by
    by_contra hne
    rw [parsePacketType] at h
    simp only [hne, not_false_eq_true, ne_eq, if_true] at h
    split at h <;> cases h
  have hbyte : byteAt packet.data 0 >>> framingVersionShift = v3Version := hversion
  rw [framingHasValidVersion, hbyte]
  exact decide_eq_false fun hboth => absurd hboth.2 (by decide)

theorem byteAt_set (data : List UInt8) (i j : Nat) (b : UInt8) (hi : i < data.length) :
    byteAt (data.set i b) j = if j = i then b else byteAt data j := by
  simp only [byteAt, List.getD_eq_getElem?_getD]
  by_cases h : j = i
  · subst h
    simp [hi]
  · rw [List.getElem?_set_ne (Ne.symm h), if_neg h]

/-- A format whose builder pads `wire f` and whose parser looks for `wire f` in what it reads. -/
theorem exact_of_wire {Frame : Type} (bytes : Packet → List UInt8) (ok : Frame → Prop)
    (wire : Frame → List UInt8) {logicalLen : Frame → Nat} {parses : Packet → Frame → Prop}
    {builds : Frame → Packet → Prop}
    (hparses : ∀ p f, parses p f ↔
      ok f ∧ logicalLen f ≤ (bytes p).length ∧ (bytes p).take (logicalLen f) = wire f)
    (hbuilds : ∀ f p, builds f p ↔ ok f ∧ ∃ fits, p = padToMinRadioLen (wire f) fits)
    (hbytes : ∀ f fits, ok f → logicalLen f ≤ (bytes (padToMinRadioLen (wire f) fits)).length ∧
      (bytes (padToMinRadioLen (wire f) fits)).take (logicalLen f) = wire f)
    (hfits : ∀ f, ok f → (wire f).length ≤ packetMaxLen) :
    WireFormat.Exact bytes logicalLen parses builds where
  parses_iff p f := by
    rw [hparses]
    constructor
    · rintro ⟨hok, hle, htake⟩
      exact ⟨_, (hbuilds f _).mpr ⟨hok, hfits f hok, rfl⟩, hle, htake.trans (hbytes f _ hok).2.symm⟩
    · rintro ⟨q, hq, hle, htake⟩
      obtain ⟨hok, fits, rfl⟩ := (hbuilds f q).mp hq
      exact ⟨hok, hle, htake.trans (hbytes f fits hok).2⟩
  builds_unique hp hq := by
    obtain ⟨_, _, rfl⟩ := (hbuilds _ _).mp hp
    obtain ⟨_, _, rfl⟩ := (hbuilds _ _).mp hq
    rfl
  builds_length hb := by
    obtain ⟨hok, _, rfl⟩ := (hbuilds _ _).mp hb
    exact (hbytes _ _ hok).1

/-! ### NATIVE -/

/-- The packet begins with the bytes of `wire`. -/
theorem take_native_iff {data payload : List UInt8} (h : 2 + payload.length ≤ data.length) :
    data.take (2 + payload.length) =
        [framingEncodeVersionType .native, .ofNat payload.length] ++ payload ↔
      byteAt data 0 = framingEncodeVersionType .native ∧
        byteAt data 1 = .ofNat payload.length ∧ (data.drop 2).take payload.length = payload := by
  obtain ⟨a, b, rest, rfl⟩ : ∃ a b rest, data = a :: b :: rest := by
    match data, h with
    | [], h => simp only [List.length_nil] at h; omega
    | [_], h => simp only [List.length_cons, List.length_nil] at h; omega
    | a :: b :: rest, _ => exact ⟨a, b, rest, rfl⟩
  rw [Nat.add_comm]
  simp only [List.take_succ_cons, List.cons_append, List.nil_append, List.cons.injEq]
  rfl

theorem framingParseNativePayload_iff {n : Nat} :
    framingParseNativePayload packet = some n ↔
      byteAt packet.data 0 = framingEncodeVersionType .native ∧ n ≤ framingNativeMaxPayload ∧
        n = (byteAt packet.data 1).toNat ∧ framingNativeHdrLen + n ≤ packet.len := by
  rw [framingParseNativePayload]
  by_cases hlen : packet.len < framingNativeHdrLen
  · rw [if_pos hlen]
    simp only [reduceCtorEq, false_iff]
    rintro ⟨_, _, _, h⟩
    omega
  rw [if_neg hlen]
  have hpos : 1 ≤ packet.len := by simp only [framingNativeHdrLen] at hlen; omega
  have htype : .native ∈ [LinkPacketType.data, .ack, .native, .control] := by decide
  have hne := not_version_or_type_iff htype hpos
  by_cases hbyte : byteAt packet.data 0 = framingEncodeVersionType .native
  · rw [if_neg (fun h => hne.mp h hbyte)]
    dsimp only
    split
    · simp only [reduceCtorEq, false_iff]
      rintro ⟨_, hmax, rfl, _⟩
      omega
    · split
      · rw [Option.some.injEq]
        constructor
        · rintro rfl
          exact ⟨hbyte, by omega, rfl, by omega⟩
        · rintro ⟨_, _, rfl, _⟩
          rfl
      · simp only [reduceCtorEq, false_iff]
        rintro ⟨_, _, rfl, h⟩
        omega
  · rw [if_pos (hne.mpr hbyte)]
    simp only [reduceCtorEq, false_iff]
    exact fun h => hbyte h.1

/-- The parser accepts the packet with the payload. -/
def ParsesNative (packet : Packet) (payload : List UInt8) : Prop :=
  framingParseNativePayload packet = some payload.length ∧
    payload = (packet.data.drop framingNativeHdrLen).take payload.length

/-- The builder takes the payload and writes the packet. -/
def BuildsNative (payload : List UInt8) (packet : Packet) : Prop :=
  ∃ h, packet = framingBuildNativePacket payload h

theorem native_exact :
    WireFormat.Exact Packet.data (fun payload : List UInt8 => framingNativeHdrLen + payload.length)
      ParsesNative BuildsNative := by
  refine exact_of_wire Packet.data (fun payload => payload.length ≤ framingNativeMaxPayload)
    (fun payload => [framingEncodeVersionType .native, .ofNat payload.length] ++ payload)
    (fun p f => ?_) (fun f p => ?_) (fun f fits _ => ?_) (fun f hok => native_fits hok)
  · have hword (h : f.length ≤ framingNativeMaxPayload) :
        f.length = (byteAt p.data 1).toNat ↔ byteAt p.data 1 = .ofNat f.length := by
      rw [← UInt8.toNat_inj, UInt8.toNat_ofNat',
        Nat.mod_eq_of_lt (h.trans_lt (by decide)), eq_comm]
    rw [ParsesNative, framingParseNativePayload_iff]
    constructor
    · rintro ⟨⟨hbyte, hok, hlen, hle⟩, hpayload⟩
      exact ⟨hok, hle, (take_native_iff hle).mpr ⟨hbyte, (hword hok).mp hlen, hpayload.symm⟩⟩
    · rintro ⟨hok, hle, htake⟩
      obtain ⟨hbyte, hlen, hpayload⟩ := (take_native_iff hle).mp htake
      exact ⟨⟨hbyte, hok, (hword hok).mpr hlen, hle⟩, hpayload.symm⟩
  · exact ⟨fun ⟨h, heq⟩ => ⟨h, native_fits h, heq⟩, fun ⟨h, _, heq⟩ => ⟨h, heq⟩⟩
  · have hwire : ([framingEncodeVersionType .native, .ofNat f.length] ++ f).length =
        framingNativeHdrLen + f.length := by
      rw [List.length_append]
      rfl
    refine ⟨?_, padToMinRadioLen_take fits hwire⟩
    rw [padToMinRadioLen, List.length_append, hwire]
    exact Nat.le_add_right ..

/-! ### CONTROL and ACK -/

def isKnownControlType (type : ControlType) : Bool :=
  type ∈ [.heartbeat, .heartbeatAck, .dataPending, .dataReady]

/-- The frame that the bytes of a CONTROL packet spell out. -/
def decodeControl (data : List UInt8) : ControlFrame where
  type := ⟨byteAt data 1⟩
  seq := readBe16 data 2
  flags := byteAt data 4
  reason := byteAt data 5
  pendingFrags := byteAt data 6
  token := readBe32 data 8

/-- A CONTROL packet with its reserved byte cleared. -/
def controlView (packet : Packet) : List UInt8 := packet.data.set 7 0

theorem framingParseControl_iff {ctrl : ControlFrame} :
    framingParseControl packet = some ctrl ↔ isKnownControlType ctrl.type ∧
      framingControlLen ≤ packet.len ∧
      byteAt packet.data 0 = framingEncodeVersionType .control ∧
      ctrl = decodeControl packet.data := by
  have hunknown (type : ControlType) : (type ≠ .heartbeat ∧ type ≠ .heartbeatAck ∧
      type ≠ .dataPending ∧ type ≠ .dataReady) ↔ ¬ isKnownControlType type := by
    simp only [isKnownControlType, decide_eq_true_eq, List.mem_cons,
      List.not_mem_nil, or_false, not_or]
  rw [framingParseControl]
  by_cases hlen : packet.len < framingControlLen
  · rw [if_pos hlen]
    simp only [reduceCtorEq, false_iff]
    rintro ⟨_, h, _⟩
    omega
  rw [if_neg hlen]
  have hpos : 1 ≤ packet.len := by simp only [framingControlLen] at hlen; omega
  have htype : .control ∈ [LinkPacketType.data, .ack, .native, .control] := by decide
  have hversion := versionByte_iff htype hpos
  constructor
  · intro h
    dsimp only at h
    split_ifs at h with h1 h2 h3
    cases h
    have hbyte := hversion.mp ⟨h1, not_not.mp h2⟩
    exact ⟨not_not.mp fun hn => h3 ((hunknown _).mpr hn), Nat.le_of_not_lt hlen, hbyte, rfl⟩
  · rintro ⟨hknown, _, hbyte, rfl⟩
    obtain ⟨hvalid, htype⟩ := hversion.mpr hbyte
    rw [if_neg (not_not.mpr hvalid), if_neg (not_not.mpr htype)]
    exact if_neg fun h => (hunknown _).mp h hknown

theorem controlView_iff {ctrl : ControlFrame} (hlen : framingControlLen ≤ packet.len) :
    (controlView packet).take framingControlLen = controlHdr ctrl ↔
      byteAt packet.data 0 = framingEncodeVersionType .control ∧
        ctrl = decodeControl packet.data := by
  simp only [framingControlLen, Packet.len] at hlen
  have htake : (controlView packet).take 12 =
      (List.range' 0 12).map (byteAt (controlView packet)) :=
    take_eq_map (by rw [controlView, List.length_set]; exact hlen)
  have hbyte (j : Nat) : byteAt (controlView packet) j =
      if j = 7 then 0 else byteAt packet.data j := byteAt_set _ 7 j 0 (by omega)
  obtain ⟨⟨type⟩, seq, flags, reason, pendingFrags, token⟩ := ctrl
  have hseq := @readBe16_iff packet.data 2 seq
  have htoken := @readBe32_iff packet.data 8 token
  rw [framingControlLen, htake, controlHdr]
  simp only [hbyte, List.range', List.map_cons, List.map_nil, writeBe16, writeBe32,
    List.cons_append, List.nil_append, List.cons.injEq, and_true, decodeControl,
    ControlFrame.mk.injEq, ControlType.mk.injEq] at hseq htoken ⊢
  simp only [Nat.reduceAdd, Nat.reduceEqDiff, if_true, if_false, OfNat.zero_ne_ofNat]
    at hseq htoken ⊢
  grind

/-- The builder, for a type that the parsers know. -/
def BuildsControl (ctrl : ControlFrame) (packet : Packet) : Prop :=
  isKnownControlType ctrl.type ∧ packet = framingBuildControlPacket ctrl

theorem control_exact :
    WireFormat.Exact controlView (fun _ => framingControlLen)
      (fun packet ctrl => framingParseControl packet = some ctrl) BuildsControl := by
  refine exact_of_wire controlView (fun ctrl => isKnownControlType ctrl.type) controlHdr
    (fun p f => ?_) (fun f p => ?_) (fun f fits _ => ⟨Nat.le_of_ble_eq_true rfl, rfl⟩)
    (fun f _ => control_fits f)
  · have hlength : (controlView p).length = p.len := List.length_set
    rw [framingParseControl_iff, hlength]
    exact and_congr_right fun _ => and_congr_right fun hlen => (controlView_iff hlen).symm
  · exact and_congr_right fun _ => ⟨fun h => ⟨control_fits f, h⟩, fun ⟨_, h⟩ => h⟩

/-- The bounds that `framingParseAck` checks. -/
def AckFrame.InBounds (ack : AckFrame) : Prop :=
  ack.totalFrags ≠ 0 ∧ ack.totalFrags ≤ framingAckWindowBits ∧ ack.windowBase < ack.totalFrags

/-- The frame that the bytes of an ACK packet spell out. -/
def decodeAck (data : List UInt8) : AckFrame where
  seq := readBe16 data 2
  totalFrags := byteAt data 5
  windowBase := byteAt data 4
  receivedMask := readLe32 data 7

/-- An ACK packet with its reserved byte cleared. -/
def ackView (packet : Packet) : List UInt8 := packet.data.set 1 0

theorem framingParseAck_iff {ack : AckFrame} :
    framingParseAck packet = some ack ↔ ack.InBounds ∧ framingAckHdrLen ≤ packet.len ∧
      byteAt packet.data 0 = framingEncodeVersionType .ack ∧
      byteAt packet.data 6 = framingAckMaskBytes ∧ ack = decodeAck packet.data := by
  rw [framingParseAck]
  by_cases hlen : packet.len < framingAckHdrLen
  · rw [if_pos hlen]
    simp only [reduceCtorEq, false_iff]
    rintro ⟨_, h, _⟩
    omega
  rw [if_neg hlen]
  have hpos : 1 ≤ packet.len := by simp only [framingAckHdrLen] at hlen; omega
  have htype : .ack ∈ [LinkPacketType.data, .ack, .native, .control] := by decide
  have hversion := not_version_or_type_iff htype hpos
  constructor
  · intro h
    dsimp only at h
    split_ifs at h with h1 h2 h3 h4
    cases h
    obtain ⟨hzero, hmax⟩ := not_or.mp h3
    exact ⟨⟨hzero, UInt8.not_lt.mp hmax, UInt8.not_le.mp h4⟩, Nat.le_of_not_lt hlen,
      not_not.mp fun hne => h1 (hversion.mpr hne), not_not.mp h2, rfl⟩
  · rintro ⟨⟨hzero, hmax, hbase⟩, _, hbyte, hmask, rfl⟩
    rw [if_neg fun h => hversion.mp h hbyte]
    refine (if_neg (not_not.mpr hmask)).trans ?_
    refine (if_neg (not_or.mpr ⟨hzero, UInt8.not_lt.mpr hmax⟩)).trans ?_
    exact if_neg (UInt8.not_le.mpr hbase)

theorem ackView_iff {ack : AckFrame} (hlen : framingAckHdrLen ≤ packet.len) :
    (ackView packet).take framingAckHdrLen = ackHdr ack ↔
      byteAt packet.data 0 = framingEncodeVersionType .ack ∧
        byteAt packet.data 6 = framingAckMaskBytes ∧ ack = decodeAck packet.data := by
  simp only [framingAckHdrLen, Packet.len] at hlen
  have htake : (ackView packet).take 11 = (List.range' 0 11).map (byteAt (ackView packet)) :=
    take_eq_map (by rw [ackView, List.length_set]; exact hlen)
  have hbyte (j : Nat) : byteAt (ackView packet) j = if j = 1 then 0 else byteAt packet.data j :=
    byteAt_set _ 1 j 0 (by omega)
  obtain ⟨seq, totalFrags, windowBase, receivedMask⟩ := ack
  have hseq := @readBe16_iff packet.data 2 seq
  have hmask := @readLe32_iff packet.data 7 receivedMask
  rw [framingAckHdrLen, htake, ackHdr]
  simp only [hbyte, List.range', List.map_cons, List.map_nil, writeBe16, writeLe32,
    List.cons_append, List.nil_append, List.cons.injEq, and_true, decodeAck,
    AckFrame.mk.injEq] at hseq hmask ⊢
  simp only [Nat.reduceAdd, Nat.reduceEqDiff, if_true, if_false] at hseq hmask ⊢
  grind

/-- The builder, within the bounds that the parser checks. -/
def BuildsAck (ack : AckFrame) (packet : Packet) : Prop :=
  ack.InBounds ∧ packet = framingBuildAckPacket ack

theorem ack_exact :
    WireFormat.Exact ackView (fun _ => framingAckHdrLen)
      (fun packet ack => framingParseAck packet = some ack) BuildsAck := by
  refine exact_of_wire ackView AckFrame.InBounds ackHdr (fun p f => ?_) (fun f p => ?_)
    (fun f fits _ => ⟨Nat.le_of_ble_eq_true rfl, rfl⟩) (fun f _ => ack_fits f)
  · have hlength : (ackView p).length = p.len := List.length_set
    rw [framingParseAck_iff, hlength]
    exact and_congr_right fun _ => and_congr_right fun hlen => (ackView_iff hlen).symm
  · exact and_congr_right fun _ => ⟨fun h => ⟨ack_fits f, h⟩, fun ⟨_, h⟩ => h⟩

/-! ### DATA -/

/-- A header with the bytes of its fragment, as `framingParseDataHeader` bounds them. -/
structure DataFrame where
  header : DataFrameHeader
  payload : List UInt8

/-- What the parser checks of the header. -/
def DataFrame.InBounds (frame : DataFrame) : Prop :=
  frame.header.totalFrags ≠ 0 ∧ frame.header.totalFrags ≤ framingMaxFrags ∧
    frame.header.fragIndex < frame.header.totalFrags ∧
    frame.payload.length ≤ framingFragData ∧
    frame.header.payloadLen = .ofNat frame.payload.length

/-- The header that the bytes of a DATA packet spell out. -/
def decodeData (data : List UInt8) : DataFrameHeader where
  seq := readBe16 data 2
  fragIndex := byteAt data 4
  totalFrags := byteAt data 5
  payloadLen := byteAt data 6
  frameLen := readBe16 data 7
  frameCrc32 := readBe32 data 9
  roundEnd := byteAt data 1 &&& framingFlagRoundEnd ≠ 0
  warmup := byteAt data 1 &&& framingFlagWarmup ≠ 0

/-- A DATA packet with its unused flags cleared. -/
def dataView (packet : Packet) : List UInt8 := packet.data.set 1 (byteAt packet.data 1 &&& 0x03)

/-- The parser accepts the packet with the fragment. -/
def ParsesData (packet : Packet) (frame : DataFrame) : Prop :=
  framingParseDataHeader packet = some frame.header ∧
    frame.payload = (packet.data.drop framingDataHdrLen).take frame.header.payloadLen.toNat

/-- The builder, within the bounds that the parser checks. -/
def BuildsData (frame : DataFrame) (packet : Packet) : Prop :=
  frame.InBounds ∧ ∃ h, packet = framingBuildDataPacket frame.header frame.payload h

theorem framingParseDataHeader_iff {header : DataFrameHeader} :
    framingParseDataHeader packet = some header ↔
      (header.totalFrags ≠ 0 ∧ header.totalFrags ≤ framingMaxFrags ∧
        header.fragIndex < header.totalFrags ∧ header.payloadLen.toNat ≤ framingFragData) ∧
      framingDataHdrLen + header.payloadLen.toNat ≤ packet.len ∧
      byteAt packet.data 0 = framingEncodeVersionType .data ∧ header = decodeData packet.data := by
  rw [framingParseDataHeader]
  by_cases hlen : packet.len < framingDataHdrLen
  · rw [if_pos hlen]
    simp only [reduceCtorEq, false_iff]
    rintro ⟨_, h, _⟩
    omega
  rw [if_neg hlen]
  have hpos : 1 ≤ packet.len := by simp only [framingDataHdrLen] at hlen; omega
  have htype : .data ∈ [LinkPacketType.data, .ack, .native, .control] := by decide
  have hversion := not_version_or_type_iff htype hpos
  constructor
  · intro h
    dsimp only at h
    split_ifs at h with h1 h2 h3 h4 h5
    cases h
    obtain ⟨hzero, hmax⟩ := not_or.mp h2
    exact ⟨⟨hzero, UInt8.not_lt.mp hmax, UInt8.not_le.mp h3, Nat.le_of_not_lt h4⟩, h5,
      not_not.mp fun hne => h1 (hversion.mpr hne), rfl⟩
  · rintro ⟨⟨hzero, hmax, hindex, hfits⟩, hle, hbyte, rfl⟩
    rw [if_neg fun h => hversion.mp h hbyte]
    dsimp only
    refine (if_neg (not_or.mpr ⟨hzero, UInt8.not_lt.mpr hmax⟩)).trans ?_
    refine (if_neg (UInt8.not_le.mpr hindex)).trans ?_
    exact (if_neg (Nat.not_lt.mpr hfits)).trans (if_pos hle)

/-- The two flags that a DATA packet has are the low bits of its second byte. -/
theorem flags_iff {b : UInt8} {roundEnd warmup : Bool} :
    b &&& 0x03 = (if roundEnd then framingFlagRoundEnd else 0) |||
        (if warmup then framingFlagWarmup else 0) ↔
      roundEnd = decide (b &&& framingFlagRoundEnd ≠ 0) ∧
        warmup = decide (b &&& framingFlagWarmup ≠ 0) := by
  revert b
  cases roundEnd <;> cases warmup <;> decide +kernel

theorem dataHdr_length (header : DataFrameHeader) : (dataHdr header).length = 13 := rfl

theorem dataView_hdr_iff {header : DataFrameHeader} (hlen : 13 ≤ packet.len) :
    (dataView packet).take 13 = dataHdr header ↔
      byteAt packet.data 0 = framingEncodeVersionType .data ∧ header = decodeData packet.data := by
  simp only [Packet.len] at hlen
  have htake : (dataView packet).take 13 = (List.range' 0 13).map (byteAt (dataView packet)) :=
    take_eq_map (by rw [dataView, List.length_set]; exact hlen)
  have hbyte (j : Nat) : byteAt (dataView packet) j =
      if j = 1 then byteAt packet.data 1 &&& 0x03 else byteAt packet.data j :=
    byteAt_set _ 1 j _ (by omega)
  obtain ⟨seq, fragIndex, totalFrags, payloadLen, frameLen, frameCrc32, roundEnd, warmup⟩ := header
  have hseq := @readBe16_iff packet.data 2 seq
  have hframe := @readBe16_iff packet.data 7 frameLen
  have hcrc := @readBe32_iff packet.data 9 frameCrc32
  have hflags := @flags_iff (byteAt packet.data 1) roundEnd warmup
  rw [htake, dataHdr]
  simp only [hbyte, List.range', List.map_cons, List.map_nil, writeBe16, writeBe32,
    List.cons_append, List.nil_append, List.cons.injEq, and_true, decodeData,
    DataFrameHeader.mk.injEq] at hseq hframe hcrc ⊢
  simp only [Nat.reduceAdd, Nat.reduceEqDiff, if_true, if_false] at hseq hframe hcrc ⊢
  grind

theorem dataView_iff {header : DataFrameHeader} {payload : List UInt8}
    (hlen : 13 + payload.length ≤ packet.len) :
    (dataView packet).take (13 + payload.length) = dataHdr header ++ payload ↔
      (byteAt packet.data 0 = framingEncodeVersionType .data ∧
        header = decodeData packet.data) ∧
      (packet.data.drop 13).take payload.length = payload := by
  have hdrop : (dataView packet).drop 13 = packet.data.drop 13 :=
    List.drop_set_of_lt (by decide)
  rw [← dataView_hdr_iff (by omega), List.take_add, hdrop]
  have hhead : ((dataView packet).take 13).length = (dataHdr header).length := by
    rw [List.length_take, dataView, List.length_set, dataHdr_length]
    exact Nat.min_eq_left (by simp only [Packet.len] at hlen; omega)
  exact ⟨fun h => List.append_inj h hhead, fun h => by rw [h.1, h.2]⟩

theorem data_exact :
    WireFormat.Exact dataView (fun frame => framingDataHdrLen + frame.payload.length) ParsesData
      BuildsData := by
  refine exact_of_wire dataView DataFrame.InBounds
    (fun frame => dataHdr frame.header ++ frame.payload) (fun p f => ?_) (fun f p => ?_)
    (fun f fits hok => ?_) (fun f hok => data_fits f.header hok.2.2.2.1)
  · obtain ⟨header, payload⟩ := f
    have hlength : (dataView p).length = p.len := List.length_set
    have hmax : framingFragData = 114 := rfl
    have hhdr : framingDataHdrLen = 13 := rfl
    rw [ParsesData, framingParseDataHeader_iff, hlength]
    dsimp only [DataFrame.InBounds]
    constructor
    · rintro ⟨⟨⟨hzero, hfrags, hindex, hfits⟩, hle, hbyte, hheader⟩, hpayload⟩
      have hlen : payload.length = header.payloadLen.toNat := by
        rw [hpayload, List.length_take, List.length_drop]
        exact Nat.min_eq_left (by simp only [Packet.len] at hle; omega)
      rw [← hlen] at hle hpayload
      refine ⟨⟨hzero, hfrags, hindex, by omega, ?_⟩, hle, ?_⟩
      · rw [hlen, UInt8.ofNat_toNat]
      · exact (dataView_iff hle).mpr ⟨⟨hbyte, hheader⟩, hpayload.symm⟩
    · rintro ⟨⟨hzero, hfrags, hindex, hfits, hpayloadLen⟩, hle, htake⟩
      obtain ⟨⟨hbyte, hheader⟩, hpayload⟩ := (dataView_iff hle).mp htake
      have hlen : header.payloadLen.toNat = payload.length := by
        rw [hpayloadLen, UInt8.toNat_ofNat', Nat.mod_eq_of_lt (by omega)]
      rw [hlen]
      exact ⟨⟨⟨hzero, hfrags, hindex, hfits⟩, hle, hbyte, hheader⟩, hpayload.symm⟩
  · refine and_congr_right fun hok => ⟨?_, ?_⟩
    · rintro ⟨h, heq⟩
      exact ⟨data_fits f.header h, heq⟩
    · rintro ⟨_, heq⟩
      exact ⟨hok.2.2.2.1, heq⟩
  · have hwire : (dataHdr f.header ++ f.payload).length = framingDataHdrLen + f.payload.length :=
      List.length_append
    have hview : dataView (padToMinRadioLen (dataHdr f.header ++ f.payload) fits) =
        (padToMinRadioLen (dataHdr f.header ++ f.payload) fits).data := by
      have hmask (roundEnd warmup : Bool) : ((if roundEnd then framingFlagRoundEnd else 0) |||
          (if warmup then framingFlagWarmup else 0)) &&& 0x03 =
            (if roundEnd then framingFlagRoundEnd else 0) |||
              (if warmup then framingFlagWarmup else 0) := by
        cases roundEnd <;> cases warmup <;> decide
      exact congrArg (fun b => framingEncodeVersionType .data :: b :: _)
        (hmask f.header.roundEnd f.header.warmup)
    rw [hview]
    refine ⟨?_, padToMinRadioLen_take fits hwire⟩
    rw [padToMinRadioLen, List.length_append, hwire]
    exact Nat.le_add_right ..

/-! ### The format -/

theorem data_type {header : DataFrameHeader} (h : framingParseDataHeader packet = some header) :
    framingHasValidVersion packet = true ∧ framingPacketType packet = .data := by
  obtain ⟨_, hle, hbyte, _⟩ := framingParseDataHeader_iff.mp h
  exact (versionByte_iff (by decide) (by simp only [framingDataHdrLen] at hle; omega)).mpr hbyte

theorem ack_type {ack : AckFrame} (h : framingParseAck packet = some ack) :
    framingHasValidVersion packet = true ∧ framingPacketType packet = .ack := by
  obtain ⟨_, hle, hbyte, _⟩ := framingParseAck_iff.mp h
  exact (versionByte_iff (by decide) (by simp only [framingAckHdrLen] at hle; omega)).mpr hbyte

theorem native_type {n : Nat} (h : framingParseNativePayload packet = some n) :
    framingHasValidVersion packet = true ∧ framingPacketType packet = .native := by
  obtain ⟨hbyte, _, _, hle⟩ := framingParseNativePayload_iff.mp h
  exact (versionByte_iff (by decide) (by simp only [framingNativeHdrLen] at hle; omega)).mpr hbyte

theorem control_type {ctrl : ControlFrame} (h : framingParseControl packet = some ctrl) :
    framingHasValidVersion packet = true ∧ framingPacketType packet = .control := by
  obtain ⟨_, hle, hbyte, _⟩ := framingParseControl_iff.mp h
  exact (versionByte_iff (by decide) (by simp only [framingControlLen] at hle; omega)).mpr hbyte

/-- Whether each of the v2 parsers takes the packet. -/
def v2Takers (packet : Packet) : List Bool :=
  [(framingParseDataHeader packet).isSome, (framingParseAck packet).isSome,
    (framingParseNativePayload packet).isSome, (framingParseControl packet).isSome]

/-- Whether each of the v3 parsers does. -/
def v3Takers (packet : Packet) (buffer : Bool) (payloadCapacity : UInt8) : List Bool :=
  [(parseDataPacket packet).isOk, (parseAckPacket packet).isOk, (parseControlPacket packet).isOk,
    (parseMgmtPacket packet buffer payloadCapacity).isOk]

/-- The first bytes that the v2 parsers want. -/
def v2Bytes : List UInt8 := [.data, .ack, .native, .control].map framingEncodeVersionType

/-- The first bytes that the v3 parsers want. -/
def v3Bytes : List UInt8 := [.data, .ack, .control, .mgmt].map encodeVersionType

theorem v2Takers_wants (packet : Packet) :
    WireFormat.Wants (byteAt packet.data 0) (v2Takers packet) v2Bytes := by
  have hwants {α : Type} {o : Option α} {b : UInt8}
      (h : ∀ a, o = some a → byteAt packet.data 0 = b) :
      o.isSome = true → byteAt packet.data 0 = b := fun hsome =>
    h _ (Option.eq_some_of_isSome hsome)
  refine .cons (hwants fun _ h => ?_) (.cons (hwants fun _ h => ?_) (.cons (hwants fun _ h => ?_)
    (.cons (hwants fun _ h => ?_) .nil)))
  · exact (framingParseDataHeader_iff.mp h).2.2.1
  · exact (framingParseAck_iff.mp h).2.2.1
  · exact (framingParseNativePayload_iff.mp h).1
  · exact (framingParseControl_iff.mp h).2.2.1

theorem byteAt_zero_of_parsePacketType {type : PacketType}
    (h : parsePacketType packet = .ok type) :
    byteAt packet.data 0 = encodeVersionType type := by
  rw [← Framing.versionByte_iff]
  rw [parsePacketType] at h
  dsimp only at h
  split_ifs at h with _ hversion hknown
  cases h
  exact ⟨not_not.mp hversion, hknown, rfl⟩

theorem v3Takers_wants (packet : Packet) (buffer : Bool) (payloadCapacity : UInt8) :
    WireFormat.Wants (byteAt packet.data 0) (v3Takers packet buffer payloadCapacity) v3Bytes := by
  have hwants {α : Type} {o : Except ParseResult α} {type : PacketType}
      (h : ∀ a, o = .ok a → parsePacketType packet = .ok type) :
      o.isOk = true → byteAt packet.data 0 = encodeVersionType type := by
    cases o with
    | ok a => exact fun _ => byteAt_zero_of_parsePacketType (h a rfl)
    | error => exact fun hok => by cases hok
  exact .cons (hwants fun _ => parsePacketType_of_data) (.cons (hwants fun _ =>
    parsePacketType_of_ack) (.cons (hwants fun _ => parsePacketType_of_control) (.cons
    (hwants fun _ => parsePacketType_of_mgmt) .nil)))

/-- No packet is taken by two of the parsers. -/
theorem takers_count (packet : Packet) (buffer : Bool) (payloadCapacity : UInt8) :
    (v2Takers packet ++ v3Takers packet buffer payloadCapacity).count true ≤ 1 := by
  have hwants : WireFormat.Wants (byteAt packet.data 0)
      (v2Takers packet ++ v3Takers packet buffer payloadCapacity) (v2Bytes ++ v3Bytes) :=
    List.rel_append (v2Takers_wants packet) (v3Takers_wants packet buffer payloadCapacity)
  exact hwants.count_le_one (by decide)

/-- None of the v2 parsers takes what has the head of a v3 packet. -/
theorem not_mem_v2Takers {type : PacketType} (h : parsePacketType packet = .ok type) :
    true ∉ v2Takers packet := by
  refine (v2Takers_wants packet).not_mem ?_
  rw [byteAt_zero_of_parsePacketType h]
  cases type <;> decide

/-- Each of the four formats is exact on what its parser reads of a packet, and no packet is taken
by two parsers, those of the v3 format included. -/
theorem v2_wire_format_exact :
    WireFormat.Exact dataView (fun frame => framingDataHdrLen + frame.payload.length) ParsesData
        BuildsData ∧
      WireFormat.Exact ackView (fun _ => framingAckHdrLen)
        (fun packet ack => framingParseAck packet = some ack) BuildsAck ∧
      WireFormat.Exact Packet.data
        (fun payload : List UInt8 => framingNativeHdrLen + payload.length) ParsesNative
        BuildsNative ∧
      WireFormat.Exact controlView (fun _ => framingControlLen)
        (fun packet ctrl => framingParseControl packet = some ctrl) BuildsControl ∧
      (∀ packet buffer payloadCapacity,
        (v2Takers packet ++ v3Takers packet buffer payloadCapacity).count true ≤ 1) ∧
      ∀ packet type, parsePacketType packet = .ok type → true ∉ v2Takers packet :=
  ⟨data_exact, ack_exact, native_exact, control_exact, takers_count,
    fun _ _ => not_mem_v2Takers⟩

end FlrcTnc.Framing.V2
