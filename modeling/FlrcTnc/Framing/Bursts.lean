import FlrcTnc.Framing.Exact
import FlrcTnc.Lib.Crc

/-! What the CRC of a packet detects: a burst of changes in up to four bytes in a row. -/

namespace FlrcTnc.Framing

/-! ### The CRC register -/

/-- The polynomial of `crc32Update`. -/
def crc32Poly : BitVec 32 := 0xEDB88320#32

theorem crc32Shift_toBitVec (crc : UInt32) :
    (crc32Shift crc).toBitVec = Crc.shift crc32Poly crc.toBitVec := by
  have hbit : (crc &&& 1).toBitVec = BitVec.setWidth 32 (BitVec.ofBool (crc.toBitVec.getLsbD 0)) :=
    BitVec.and_one_eq_setWidth_ofBool_getLsbD
  unfold crc32Shift Crc.shift
  cases hlow : crc.toBitVec.getLsbD 0 with
  | true =>
    have hone : crc &&& 1 = 1 := UInt32.toBitVec_inj.mp (by rw [hbit, hlow]; rfl)
    rw [hone, if_pos (by decide)]
    rfl
  | false =>
    have hzero : crc &&& 1 = 0 := UInt32.toBitVec_inj.mp (by rw [hbit, hlow]; rfl)
    rw [hzero, if_neg (by decide)]
    exact BitVec.xor_zero.symm

theorem crc32Shifts_toBitVec (n : Nat) (crc : UInt32) :
    (crc32Shifts n crc).toBitVec = Crc.shifts crc32Poly n crc.toBitVec := by
  induction n generalizing crc with
  | zero => rfl
  | succ n ih => rw [crc32Shifts, ih, crc32Shift_toBitVec]; rfl

theorem crc32Update_toBitVec (crc : UInt32) (value : UInt8) :
    (crc32Update crc value).toBitVec = Crc.update crc32Poly crc.toBitVec value.toBitVec :=
  crc32Shifts_toBitVec 8 _

theorem crc32UpdateBytes_toBitVec (crc : UInt32) (data : List UInt8) :
    (crc32UpdateBytes crc data).toBitVec =
      Crc.updates crc32Poly crc.toBitVec (data.map UInt8.toBitVec) := by
  induction data generalizing crc with
  | nil => rfl
  | cons value data ih =>
    rw [crc32UpdateBytes, List.foldl_cons]
    refine (ih _).trans ?_
    rw [crc32Update_toBitVec]
    rfl

/-- Four bytes in a row cannot change without the register. -/
theorem crc32UpdateBytes_burst {crc : UInt32} {before after bytes bytes' : List UInt8}
    (hlen : bytes.length = bytes'.length) (hfits : bytes.length ≤ 4)
    (h : crc32UpdateBytes crc (before ++ (bytes ++ after)) =
      crc32UpdateBytes crc (before ++ (bytes' ++ after))) : bytes = bytes' := by
  have hregister := congrArg UInt32.toBitVec h
  simp only [crc32UpdateBytes_toBitVec, List.map_append] at hregister
  have hbits := Crc.updates_burst crc32Poly (by decide) _ _ _ (by simpa using hlen)
    (by rw [List.length_map]; omega) hregister
  exact List.map_injective_iff.mpr (fun _ _ => UInt8.toBitVec_inj.mp) hbits

/-! ### A burst among the logical bytes -/

/-- The bytes are the same but for `n` of them from `first` on. -/
def SameOutside (first n : Nat) (data data' : List UInt8) : Prop :=
  ∀ k, k < first ∨ first + n ≤ k → data'[k]? = data[k]?

/-- Some bytes change, which lie among four in a row at most. The CRC field is at `offset`, and the
burst is in the field, before it, or between the field and the end `len` of the logical bytes. -/
structure Burst (offset len : Nat) (data data' : List UInt8) : Prop where
  length : data'.length = data.length
  changed : data' ≠ data
  window : ∃ first n, n ≤ 4 ∧ SameOutside first n data data' ∧
    (first + n ≤ offset ∨ (offset ≤ first ∧ first + n ≤ offset + v3CrcLen) ∨
      (offset + v3CrcLen ≤ first ∧ first + n ≤ len))

/-- The CRC in the field at `offset` is that of the logical bytes. -/
def CrcMatches (offset len : Nat) (data : List UInt8) : Prop :=
  readLe32 data offset = crcWithZeroedField data len offset

/-- What the CRC is computed of. -/
def zeroedBytes (offset len : Nat) (data : List UInt8) : List UInt8 :=
  data.take offset ++ (List.replicate v3CrcLen 0 ++
    (data.drop (offset + v3CrcLen)).take (len - offset - v3CrcLen))

theorem crcWithZeroedField_eq (data : List UInt8) (len offset : Nat) :
    crcWithZeroedField data len offset =
      ~~~ crc32UpdateBytes 0xFFFFFFFF (zeroedBytes offset len data) := by
  unfold crcWithZeroedField zeroedBytes crc32UpdateBytes
  rw [List.foldl_append, List.foldl_append]

variable {data data' : List UInt8} {first n : Nat}

/-- The bytes that a burst leaves alone. -/
theorem SameOutside.take_drop (h : SameOutside first n data data') {a m : Nat}
    (hapart : a + m ≤ first ∨ first + n ≤ a) : (data'.drop a).take m = (data.drop a).take m := by
  apply List.ext_getElem?
  intro k
  rw [List.getElem?_take, List.getElem?_take, List.getElem?_drop, List.getElem?_drop]
  split
  · exact h (a + k) (by omega)
  · rfl

/-- The bytes around those of a burst. -/
theorem take_drop_around (data : List UInt8) {a m : Nat} (ha : a ≤ first)
    (hm : first + n ≤ a + m) : (data.drop a).take m = (data.drop a).take (first - a) ++
      ((data.drop first).take n ++ (data.drop (first + n)).take (a + m - (first + n))) := by
  obtain ⟨i, rfl⟩ := Nat.exists_eq_add_of_le ha
  obtain ⟨j, hj⟩ := Nat.exists_eq_add_of_le hm
  have hsplit : m = i + (n + j) := by omega
  rw [hsplit, List.take_add, List.take_add, List.drop_drop, List.drop_drop]
  congr 3 <;> omega

/-- The bytes of a burst tell whether any bytes around them have changed. -/
theorem SameOutside.take_drop_iff (h : SameOutside first n data data') {a m : Nat}
    (ha : a ≤ first) (hm : first + n ≤ a + m) :
    (data'.drop a).take m = (data.drop a).take m ↔
      (data'.drop first).take n = (data.drop first).take n := by
  rw [take_drop_around data' ha hm, take_drop_around data ha hm,
    h.take_drop (.inl (by omega)), h.take_drop (.inr (Nat.le_refl _)),
    List.append_cancel_left_eq, List.append_cancel_right_eq]

theorem SameOutside.bytes_ne (h : SameOutside first n data data')
    (hlen : data'.length = data.length) (hchanged : data' ≠ data) :
    (data'.drop first).take n ≠ (data.drop first).take n := by
  intro heq
  have hall := (h.take_drop_iff (Nat.zero_le first) (m := first + n + data.length)
    (by omega)).mpr heq
  rw [List.drop_zero, List.drop_zero, List.take_of_length_le (by omega),
    List.take_of_length_le (by omega)] at hall
  exact hchanged hall

/-- What the CRC is computed of, around a burst that is not in the field. -/
theorem SameOutside.zeroedBytes (h : SameOutside first n data data') {offset len : Nat}
    (hfits : offset + v3CrcLen ≤ len)
    (hapart : first + n ≤ offset ∨ offset + v3CrcLen ≤ first ∧ first + n ≤ len) :
    ∃ before after,
      Framing.zeroedBytes offset len data = before ++ ((data.drop first).take n ++ after) ∧
      Framing.zeroedBytes offset len data' = before ++ ((data'.drop first).take n ++ after) := by
  unfold Framing.zeroedBytes
  rcases hapart with hbefore | ⟨hstart, hend⟩
  · have haround (data : List UInt8) : data.take offset = _ :=
      take_drop_around (n := n) data (a := 0) (m := offset) (Nat.zero_le first) (by omega)
    rw [haround data, haround data', h.take_drop (a := 0) (m := first - 0) (.inl (by omega)),
      h.take_drop (a := first + n) (.inr (Nat.le_refl _)),
      h.take_drop (a := offset + v3CrcLen) (.inr (by omega))]
    exact ⟨_, _, by rw [List.append_assoc, List.append_assoc],
      by rw [List.append_assoc, List.append_assoc]⟩
  · have hhead : data'.take offset = data.take offset :=
      h.take_drop (a := 0) (m := offset) (.inl (by omega))
    have haround (data : List UInt8) :=
      take_drop_around (n := n) (m := len - offset - v3CrcLen) data hstart (by omega)
    rw [haround data, haround data', hhead,
      h.take_drop (.inl (by omega)), h.take_drop (.inr (Nat.le_refl _))]
    exact ⟨_, _, by rw [← List.append_assoc, ← List.append_assoc],
      by rw [← List.append_assoc, ← List.append_assoc]⟩

theorem readLe32_congr {offset : Nat}
    (hlen : offset + v3CrcLen ≤ data.length) (hlen' : data'.length = data.length) :
    readLe32 data' offset = readLe32 data offset ↔
      (data'.drop offset).take v3CrcLen = (data.drop offset).take v3CrcLen := by
  rw [take_drop_eq_map hlen, take_drop_eq_map (by omega), readLe32_iff,
    ← readLe32_iff.mp (rfl : readLe32 data offset = readLe32 data offset)]
  rfl

/-- After a burst the CRC does not match any more. -/
theorem Burst.not_crcMatches {offset len : Nat}
    (h : Burst offset len data data') (hfits : offset + v3CrcLen ≤ len) (hlen : len ≤ data.length)
    (hcrc : CrcMatches offset len data) : ¬ CrcMatches offset len data' := by
  obtain ⟨first, n, hn, hsame, hwhere⟩ := h.window
  intro hcrc'
  have hne := hsame.bytes_ne h.length h.changed
  have hbytes : ((data'.drop first).take n).length = ((data.drop first).take n).length := by
    simp [h.length]
  have hn' : ((data'.drop first).take n).length ≤ 4 := by
    rw [List.length_take]
    omega
  rw [CrcMatches, crcWithZeroedField_eq] at hcrc hcrc'
  have hfield : readLe32 data' offset = readLe32 data offset ↔
      (data'.drop offset).take v3CrcLen = (data.drop offset).take v3CrcLen :=
    readLe32_congr (by omega) h.length
  -- a burst elsewhere leaves the field, and changes what the register comes to
  have helsewhere (hapart : first + n ≤ offset ∨ offset + v3CrcLen ≤ first)
      (hend : first + n ≤ len) : False := by
    obtain ⟨before, after, hdata, hdata'⟩ := hsame.zeroedBytes hfits
      (hapart.imp_right fun hstart => ⟨hstart, hend⟩)
    rw [hfield.mpr (hsame.take_drop (by omega)), hcrc, UInt32.not_inj, hdata, hdata'] at hcrc'
    exact hne (crc32UpdateBytes_burst hbytes.symm (by omega) hcrc').symm
  rcases hwhere with hbefore | ⟨hstart, hend⟩ | ⟨hstart, hend⟩
  · exact helsewhere (.inl hbefore) (by omega)
  · -- a burst in the field leaves the register
    have hhead : data'.take offset = data.take offset :=
      hsame.take_drop (a := 0) (m := offset) (.inl (by omega))
    have hzeroed : zeroedBytes offset len data' = zeroedBytes offset len data := by
      unfold zeroedBytes
      rw [hhead, hsame.take_drop (.inr (by omega))]
    rw [hzeroed, ← hcrc] at hcrc'
    exact hne ((hsame.take_drop_iff hstart hend).mp (hfield.mp hcrc'))
  · exact helsewhere (.inr hstart) hend

/-! ### Packets -/

/-- The packets that the builders make; behind a payload pointer are as many bytes as the frame
says. -/
inductive Built : PacketType → Packet → Prop
  | data {pkt : Packet} (header : DataHeader) (payload : Option (List UInt8))
      (hbytes : ∀ bytes ∈ payload, header.payloadLen.toNat ≤ bytes.length)
      (hbuild : buildDataPacket header payload = .ok pkt) : Built .data pkt
  | ack {pkt : Packet} (ack : AckFrame) (hbuild : buildAckPacket ack = .ok pkt) : Built .ack pkt
  | control {pkt : Packet} (ctrl : ControlFrame) (hbuild : buildControlPacket ctrl = .ok pkt) :
      Built .control pkt
  | mgmt {pkt : Packet} (mgmt : MgmtFrame)
      (hbytes : ∀ bytes ∈ mgmt.payload, mgmt.payloadLen.toNat ≤ bytes.length)
      (hbuild : buildMgmtPacket mgmt = .ok pkt) : Built .mgmt pkt

/-- The parser of the type accepts the packet; that of MGMT packets, into some buffer. -/
inductive Accepted : PacketType → Packet → Prop
  | data {pkt : Packet} {frame : DataHeader × List UInt8}
      (hparse : parseDataPacket pkt = .ok frame) : Accepted .data pkt
  | ack {pkt : Packet} {ack : AckFrame} (hparse : parseAckPacket pkt = .ok ack) : Accepted .ack pkt
  | control {pkt : Packet} {ctrl : ControlFrame} (hparse : parseControlPacket pkt = .ok ctrl) :
      Accepted .control pkt
  | mgmt {pkt : Packet} {buffer : Bool} {payloadCapacity : UInt8} {payload : List UInt8}
      (hparse : parseMgmtPacket pkt buffer payloadCapacity = .ok payload) : Accepted .mgmt pkt

/-- The logical length that the headers of a packet say. -/
def logicalLen (type : PacketType) (pkt : Packet) : Nat :=
  match type with
  | .data => v3DataHdrLen + (expectedFragmentPayloadLen (readLe16 pkt.data 6) (byteAt pkt.data 4)
      (byteAt pkt.data 5)).toNat
  | .ack => v3AckLen
  | .control => v3ControlLen
  | .mgmt => v3MgmtHdrLen + (byteAt pkt.data 1).toNat + v3CrcLen

/-- The offset of the CRC field, which ends the logical bytes of all packets but DATA packets. -/
def crcOffset (type : PacketType) (pkt : Packet) : Nat :=
  match type with
  | .data => 8
  | .ack | .control | .mgmt => logicalLen type pkt - v3CrcLen

theorem crcOffset_congr {type : PacketType} {pkt pkt' : Packet}
    (h : logicalLen type pkt' = logicalLen type pkt) :
    crcOffset type pkt' = crcOffset type pkt := by
  cases type with
  | data => rfl
  | ack | control | mgmt => exact congrArg (· - v3CrcLen) h

/-- What the parsers accept has a CRC that matches. -/
theorem Accepted.crcMatches {type : PacketType} {pkt : Packet} (h : Accepted type pkt) :
    crcOffset type pkt + v3CrcLen ≤ logicalLen type pkt ∧ logicalLen type pkt ≤ pkt.data.length ∧
      CrcMatches (crcOffset type pkt) (logicalLen type pkt) pkt.data := by
  cases h with
  | @data _ frame hparse =>
    obtain ⟨_, hheader, _, hlen, _, hcrc⟩ := parseDataPacket_iff.mp hparse
    rw [hheader] at hlen hcrc
    exact ⟨Nat.le_add_right .., hlen, hcrc⟩
  | @ack _ ack hparse =>
    obtain ⟨_, hlen, htake⟩ := (parseAckPacket_iff pkt ack).mp hparse
    exact ⟨Nat.le_refl _, hlen,
      ((take_eq_withCrc_iff (ackHead_length ack) List.length_nil hlen).mp htake).2.2⟩
  | @control _ ctrl hparse =>
    obtain ⟨_, hlen, htake⟩ := (parseControlPacket_iff pkt ctrl).mp hparse
    exact ⟨Nat.le_refl _, hlen,
      ((take_eq_withCrc_iff (controlHead_length ctrl) List.length_nil hlen).mp htake).2.2⟩
  | @mgmt _ buffer payloadCapacity payload hparse =>
    cases hcommon : validateCommon pkt .mgmt with
    | error => simp [parseMgmtPacket, hcommon, bind, Except.bind] at hparse
    | ok =>
      simp only [parseMgmtPacket, hcommon, bind, Except.bind] at hparse
      split_ifs at hparse with _ _ hlen hcrc
      exact ⟨Nat.le_of_eq (Nat.sub_add_cancel (Nat.le_add_left ..)), Nat.le_of_not_lt hlen,
        not_not.mp hcrc⟩

/-- The bytes that a builder reads behind the payload pointer. -/
theorem read_length {payload : Option (List UInt8)} {payloadLen : UInt8}
    (hbytes : ∀ bytes ∈ payload, payloadLen.toNat ≤ bytes.length)
    (hnull : ¬ (payloadLen > 0 ∧ payload = none)) :
    ((payload.getD []).take payloadLen.toNat).length = payloadLen.toNat := by
  rw [List.length_take, Nat.min_eq_left]
  cases payload with
  | some bytes => exact hbytes bytes rfl
  | none =>
    have hzero : ¬ payloadLen > 0 := fun hpos => hnull ⟨hpos, rfl⟩
    rw [gt_iff_lt, UInt8.lt_iff_toNat_lt] at hzero
    exact Nat.le_of_not_lt hzero

theorem Built.accepted {type : PacketType} {pkt : Packet} (h : Built type pkt) :
    Accepted type pkt := by
  cases h with
  | data header payload hbytes hbuild =>
    have hnull : ¬ (header.payloadLen > 0 ∧ payload = none) := by
      intro hnull
      rw [buildDataPacket, if_pos hnull] at hbuild
      split_ifs at hbuild
    have hread := read_length hbytes hnull
    have hsame : buildDataPacket header (some ((payload.getD []).take header.payloadLen.toNat)) =
        buildDataPacket header payload := by
      simp [buildDataPacket, hnull, List.take_take]
    exact .data (data_exact.parses_of_builds (f := (header, _)) ⟨hread, hsame.trans hbuild⟩)
  | ack ack hbuild => exact .ack (ack_exact.parses_of_builds hbuild)
  | control ctrl hbuild => exact .control (control_exact.parses_of_builds hbuild)
  | mgmt mgmt hbytes hbuild =>
    have hnull : ¬ (mgmt.payloadLen > 0 ∧ mgmt.payload = none) := by
      intro hnull
      rw [buildMgmtPacket, if_pos hnull] at hbuild
      split_ifs at hbuild
    have hread := read_length hbytes hnull
    have hsame : buildMgmtPacket ⟨some ((mgmt.payload.getD []).take mgmt.payloadLen.toNat),
        UInt8.ofNat ((mgmt.payload.getD []).take mgmt.payloadLen.toNat).length⟩ =
          buildMgmtPacket mgmt := by
      rw [hread, UInt8.ofNat_toNat]
      simp [buildMgmtPacket, hnull, List.take_take]
    exact .mgmt (mgmt_exact.parses_of_builds
      ⟨Nat.lt_of_le_of_lt (Nat.le_of_eq hread) mgmt.payloadLen.toNat_lt, hsame.trans hbuild⟩)

/-- A packet that was built is not accepted any more after a burst that does not change what its
headers say of its length, wherever the burst is. -/
theorem burst_not_accepted {type : PacketType} {pkt pkt' : Packet} (hbuilt : Built type pkt)
    (hburst : Burst (crcOffset type pkt) (logicalLen type pkt) pkt.data pkt'.data)
    (hlen : logicalLen type pkt' = logicalLen type pkt) : ¬ Accepted type pkt' := by
  obtain ⟨hfits, hle, hcrc⟩ := hbuilt.accepted.crcMatches
  intro haccepted
  obtain ⟨_, _, hcrc'⟩ := haccepted.crcMatches
  rw [hlen, crcOffset_congr hlen] at hcrc'
  exact hburst.not_crcMatches hfits hle hcrc hcrc'

theorem sameOutside_of_take_drop (htake : data'.take first = data.take first)
    (hdrop : data'.drop (first + n) = data.drop (first + n)) : SameOutside first n data data' := by
  rintro k (hlt | hge)
  · rw [← List.getElem?_take_of_lt hlt, htake, List.getElem?_take_of_lt hlt]
  · obtain ⟨i, rfl⟩ := Nat.exists_eq_add_of_le hge
    rw [← List.getElem?_drop, hdrop, List.getElem?_drop]

def ackOf7 : Packet := (buildAckPacket ⟨7, 0x0fff, 4, .none⟩).toOption.getD ⟨[], Nat.zero_le _⟩

/-- The same packet with another id and another bitmap. -/
def ackOf7Bytes : List UInt8 := ackOf7.data.take 1 ++ [8, 1, 0xfe, 0] ++ ackOf7.data.drop 5

theorem ackOf7Bytes_fits : ackOf7Bytes.length ≤ packetMaxLen := by decide +kernel

def ackOf7Garbled : Packet := ⟨ackOf7Bytes, ackOf7Bytes_fits⟩

theorem burst_not_accepted_ackOf7 : ackOf7 ≠ ackOf7Garbled ∧ ¬ Accepted .ack ackOf7Garbled := by
  have hbuilt : Built .ack ackOf7 := .ack ⟨7, 0x0fff, 4, .none⟩ (by decide +kernel)
  have hburst : Burst 7 11 ackOf7.data ackOf7Garbled.data :=
    ⟨by decide +kernel, by decide +kernel, 1, 4, Nat.le_refl 4,
      sameOutside_of_take_drop (by decide +kernel) (by decide +kernel), .inl (by decide)⟩
  exact ⟨by decide +kernel, burst_not_accepted hbuilt hburst rfl⟩

end FlrcTnc.Framing
