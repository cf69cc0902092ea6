import FlrcTnc.Framing.Exact

/-! The integrity envelope of the host serial link: `kiss/SerialIntegrity.h` and `framing/Crc32.h`
of the firmware, `pi-daemon/serial_integrity.py` and `pi-daemon-rust/src/serial_integrity.rs`. -/

namespace FlrcTnc.Serial

open Framing

/-! ### Words -/

/-- A word as its bytes, most significant first: `to_be_bytes`, and `H` of a `>` format. -/
def writeBe16 (value : UInt16) : List UInt8 := [(value >>> 8).toUInt8, (value &&& 0xFF).toUInt8]

def readBe16 (data : List UInt8) (offset : Nat) : UInt16 :=
  ((byteAt data offset).toUInt16 <<< 8) ||| (byteAt data (offset + 1)).toUInt16

/-- `to_be_bytes`, and `I` of a `>` format. -/
def writeBe32 (value : UInt32) : List UInt8 :=
  [(value >>> 24).toUInt8, ((value >>> 16) &&& 0xFF).toUInt8, ((value >>> 8) &&& 0xFF).toUInt8,
    (value &&& 0xFF).toUInt8]

def readBe32 (data : List UInt8) (offset : Nat) : UInt32 :=
  ((byteAt data offset).toUInt32 <<< 24) ||| ((byteAt data (offset + 1)).toUInt32 <<< 16) |||
    ((byteAt data (offset + 2)).toUInt32 <<< 8) ||| (byteAt data (offset + 3)).toUInt32

/-! ### Firmware -/

/-- The body of the loop over `data`; its inner loop is the one of `crc32Update`. -/
def crc32Byte (crc : UInt32) (byte : UInt8) : UInt32 := crc32Shifts 8 (crc ^^^ byte.toUInt32)

def computeCrc32 (data : List UInt8) : UInt32 := ~~~ data.foldl crc32Byte 0xFFFFFFFF

/-- The check value of CRC-32. -/
example : computeCrc32 [0x31, 0x32, 0x33, 0x34, 0x35, 0x36, 0x37, 0x38, 0x39] = 0xCBF43926 := by
  decide +kernel

def serialIntegrityMagic : UInt16 := 0x8AC1
def serialIntegrityHdrLen : Nat := 8

structure SerialIntegrityHeader where
  magic : UInt16
  payloadLen : UInt16
  payloadCrc32 : UInt32
  deriving DecidableEq, Repr

def parseSerialIntegrityHeader (data : List UInt8) : Option SerialIntegrityHeader :=
  if data.length < serialIntegrityHdrLen then none
  else some ⟨readBe16 data 0, readBe16 data 2, readBe32 data 4⟩

def buildSerialIntegrityHeader (payloadLen : UInt16) (payloadCrc32 : UInt32) : List UInt8 :=
  writeBe16 serialIntegrityMagic ++ writeBe16 payloadLen ++ writeBe32 payloadCrc32

/-! ### Hosts -/

/-- The digits of `{:x}`, at least `width` of them. -/
def hexDigits (width n : Nat) : String :=
  let digits := Nat.toDigits 16 n
  String.ofList (List.replicate (width - digits.length) '0' ++ digits)

namespace Script

/-! `serial_integrity.py`; `zlibCrc32` is `zlib.crc32`. -/

def serialIntegrityMaxPayloadLen : Nat := 1280

/-- `struct.pack` of the format `>HHI`. -/
def pack (magic length crc : Nat) : List UInt8 :=
  writeBe16 (.ofNat magic) ++ writeBe16 (.ofNat length) ++ writeBe32 (.ofNat crc)

variable (zlibCrc32 : List UInt8 → Nat)

def wrapPayload (payload : List UInt8) : Except String (List UInt8) :=
  if payload.length > serialIntegrityMaxPayloadLen then
    .error ("Payload too large: " ++ toString payload.length ++ " > " ++
      toString serialIntegrityMaxPayloadLen)
  else
    let crc := zlibCrc32 payload &&& 0xFFFFFFFF
    .ok (pack serialIntegrityMagic.toNat payload.length crc ++ payload)

def unwrapPayload (frame : List UInt8) : Except String (List UInt8) :=
  if frame.length < serialIntegrityHdrLen then .error "Frame too short for integrity header"
  else
    let magic := (readBe16 frame 0).toNat
    let length := (readBe16 frame 2).toNat
    let crc := (readBe32 frame 4).toNat
    if magic ≠ serialIntegrityMagic.toNat then .error ("Invalid magic: 0x" ++ hexDigits 1 magic)
    else if length ≠ frame.length - serialIntegrityHdrLen then
      .error ("Length mismatch: expected " ++ toString length ++ ", got " ++
        toString (frame.length - serialIntegrityHdrLen))
    else if length > serialIntegrityMaxPayloadLen then
      .error ("Payload too large: " ++ toString length ++ " > " ++
        toString serialIntegrityMaxPayloadLen)
    else
      let payload := frame.drop serialIntegrityHdrLen
      let computedCrc := zlibCrc32 payload &&& 0xFFFFFFFF
      if computedCrc ≠ crc then
        .error ("CRC mismatch: expected 0x" ++ hexDigits 1 crc ++ ", got 0x" ++
          hexDigits 1 computedCrc)
      else .ok payload

end Script

namespace Daemon

/-! `serial_integrity.rs`; `crc32fast` is what a `Hasher` that was updated once finalizes to. -/

variable (crc32fast : List UInt8 → UInt32)

def wrapPayload (payload : List UInt8) : List UInt8 :=
  writeBe16 serialIntegrityMagic ++ writeBe16 (.ofNat payload.length) ++
    writeBe32 (crc32fast payload) ++ payload

def unwrapPayload (frame : List UInt8) : Except String (List UInt8) :=
  if frame.length < serialIntegrityHdrLen then .error "Frame too short for integrity header"
  else
    let magic := readBe16 frame 0
    let length := (readBe16 frame 2).toNat
    let crc := readBe32 frame 4
    let payload := frame.drop serialIntegrityHdrLen
    let computedCrc := crc32fast payload
    if magic ≠ serialIntegrityMagic then .error ("Invalid magic: 0x" ++ hexDigits 4 magic.toNat)
    else if length ≠ frame.length - serialIntegrityHdrLen then
      .error ("Length mismatch: expected " ++ toString length ++ ", got " ++
        toString (frame.length - serialIntegrityHdrLen))
    else if computedCrc ≠ crc then
      .error ("CRC mismatch: expected 0x" ++ hexDigits 8 crc.toNat ++ ", got 0x" ++
        hexDigits 8 computedCrc.toNat)
    else .ok payload

end Daemon

/-! ### The envelope is exact -/

theorem readBe16_eq (data : List UInt8) (offset : Nat) :
    readBe16 data offset = readLe16 [byteAt data (offset + 1), byteAt data offset] 0 :=
  UInt16.or_comm ..

theorem readBe32_eq (data : List UInt8) (offset : Nat) :
    readBe32 data offset = readLe32 [byteAt data (offset + 3), byteAt data (offset + 2),
      byteAt data (offset + 1), byteAt data offset] 0 := by
  have hreverse (a b c d : UInt32) : a ||| b ||| c ||| d = d ||| c ||| b ||| a := by ac_rfl
  exact hreverse ..

/-- The top byte of a word needs no mask. -/
theorem writeBe16_eq (value : UInt16) : writeBe16 value = (writeLe16 value).reverse := by
  have htop : ((value >>> 8) &&& 0xFF).toUInt8 = (value >>> 8).toUInt8 := by
    rw [← UInt8.toNat_inj, UInt16.toNat_toUInt8, UInt16.toNat_toUInt8, UInt16.toNat_and]
    exact (congrArg (· % 2 ^ 8) (and_255 _)).trans (Nat.mod_mod _ _)
  rw [writeLe16, htop]
  rfl

theorem writeBe32_eq (value : UInt32) : writeBe32 value = (writeLe32 value).reverse := by
  have htop : ((value >>> 24) &&& 0xFF).toUInt8 = (value >>> 24).toUInt8 := by
    rw [← UInt8.toNat_inj, UInt32.toNat_toUInt8, UInt32.toNat_toUInt8, UInt32.toNat_and]
    exact (congrArg (· % 2 ^ 8) (and_255 _)).trans (Nat.mod_mod _ _)
  rw [writeLe32, htop]
  rfl

/-- A big-endian word is read where its bytes stand. -/
theorem readBe16_iff {data : List UInt8} {offset : Nat} {value : UInt16} :
    readBe16 data offset = value ↔
      [byteAt data offset, byteAt data (offset + 1)] = writeBe16 value := by
  rw [readBe16_eq, readLe16_iff, writeBe16_eq, ← List.reverse_inj]
  rfl

theorem readBe32_iff {data : List UInt8} {offset : Nat} {value : UInt32} :
    readBe32 data offset = value ↔
      [byteAt data offset, byteAt data (offset + 1), byteAt data (offset + 2),
        byteAt data (offset + 3)] = writeBe32 value := by
  rw [readBe32_eq, readLe32_iff, writeBe32_eq, ← List.reverse_inj]
  rfl

/-- The envelope around a payload. -/
def wrapped (payload : List UInt8) : List UInt8 :=
  buildSerialIntegrityHeader (.ofNat payload.length) (computeCrc32 payload) ++ payload

theorem wrapped_length (payload : List UInt8) : (wrapped payload).length = payload.length + 8 := by
  rw [wrapped, List.length_append, Nat.add_comm]
  rfl

theorem wrapped_drop (payload : List UInt8) :
    (wrapped payload).drop serialIntegrityHdrLen = payload := rfl

/-- What the receivers check is that the frame is the envelope of its payload. -/
theorem wrapped_iff {frame : List UInt8} (hlength : 8 ≤ frame.length)
    (hfits : frame.length < 8 + 2 ^ 16) :
    frame = wrapped (frame.drop 8) ↔
      readBe16 frame 0 = serialIntegrityMagic ∧ (readBe16 frame 2).toNat = frame.length - 8 ∧
        readBe32 frame 4 = computeCrc32 (frame.drop 8) := by
  have hhead : frame.take 8 = [byteAt frame 0, byteAt frame 1] ++
      [byteAt frame 2, byteAt frame 3] ++
      [byteAt frame 4, byteAt frame 5, byteAt frame 6, byteAt frame 7] := by
    obtain ⟨a, b, c, d, e, f, g, h, payload, rfl⟩ : ∃ a b c d e f g h payload,
        frame = a :: b :: c :: d :: e :: f :: g :: h :: payload := by
      match frame, hlength with
      | a :: b :: c :: d :: e :: f :: g :: h :: payload, _ =>
        exact ⟨a, b, c, d, e, f, g, h, payload, rfl⟩
    rfl
  have hlen : (frame.drop 8).length = frame.length - 8 := List.length_drop
  have hword : (readBe16 frame 2).toNat = frame.length - 8 ↔
      readBe16 frame 2 = .ofNat (frame.drop 8).length := by
    rw [← UInt16.toNat_inj, UInt16.toNat_ofNat', hlen, Nat.mod_eq_of_lt (by omega)]
  have hsplit : frame = wrapped (frame.drop 8) ↔ frame.take 8 =
      buildSerialIntegrityHeader (.ofNat (frame.drop 8).length) (computeCrc32 (frame.drop 8)) := by
    constructor
    · intro h
      rw [h]
      rfl
    · intro h
      rw [wrapped, ← h, List.take_append_drop]
  rw [hword, hsplit, hhead, readBe16_iff, readBe16_iff, readBe32_iff, buildSerialIntegrityHeader]
  constructor
  · intro h
    obtain ⟨h12, h3⟩ := List.append_inj h rfl
    obtain ⟨h1, h2⟩ := List.append_inj h12 rfl
    exact ⟨h1, h2, h3⟩
  · rintro ⟨h1, h2, h3⟩
    rw [← h1, ← h2, ← h3]

/-- What the receivers check before they take the payload is that the frame is its envelope. -/
theorem eq_wrapped_iff {frame payload : List UInt8} :
    frame = wrapped payload ∧ payload.length < 2 ^ 16 ↔
      serialIntegrityHdrLen ≤ frame.length ∧ readBe16 frame 0 = serialIntegrityMagic ∧
        (readBe16 frame 2).toNat = frame.length - serialIntegrityHdrLen ∧
        readBe32 frame 4 = computeCrc32 (frame.drop serialIntegrityHdrLen) ∧
        payload = frame.drop serialIntegrityHdrLen := by
  constructor
  · rintro ⟨rfl, hfits⟩
    have hlength := wrapped_length payload
    obtain ⟨hmagic, hlen, hcrc⟩ := (wrapped_iff (by omega) (by omega)).mp
      (congrArg wrapped (wrapped_drop payload)).symm
    exact ⟨hlength ▸ Nat.le_add_left .., hmagic, hlen, hcrc, rfl⟩
  · rintro ⟨hlength, hmagic, hlen, hcrc, rfl⟩
    have hword := (readBe16 frame 2).toNat_lt
    have hdrop : (frame.drop serialIntegrityHdrLen).length = frame.length - serialIntegrityHdrLen :=
      List.length_drop
    have hhdr : serialIntegrityHdrLen = 8 := rfl
    exact ⟨(wrapped_iff hlength (by omega)).mpr ⟨hmagic, hlen, hcrc⟩, by omega⟩

namespace Script

variable {zlibCrc32 : List UInt8 → Nat}

/-- The mask is of no effect. -/
theorem crc_mask (h : ∀ data, zlibCrc32 data = (computeCrc32 data).toNat) (data : List UInt8) :
    zlibCrc32 data &&& 0xFFFFFFFF = (computeCrc32 data).toNat := by
  rw [h, Nat.and_two_pow_sub_one_eq_mod _ 32]
  exact Nat.mod_eq_of_lt (computeCrc32 data).toNat_lt

theorem wrapPayload_eq (h : ∀ data, zlibCrc32 data = (computeCrc32 data).toNat)
    {payload : List UInt8} (hmax : payload.length ≤ serialIntegrityMaxPayloadLen) :
    wrapPayload zlibCrc32 payload = .ok (wrapped payload) := by
  rw [wrapPayload, if_neg (by omega)]
  simp only [crc_mask h, pack, UInt16.ofNat_toNat, UInt32.ofNat_toNat]
  rfl

theorem unwrapPayload_iff (h : ∀ data, zlibCrc32 data = (computeCrc32 data).toNat)
    {frame payload : List UInt8} :
    unwrapPayload zlibCrc32 frame = .ok payload ↔
      frame = wrapped payload ∧ payload.length ≤ serialIntegrityMaxPayloadLen := by
  have hmax : serialIntegrityMaxPayloadLen < 2 ^ 16 := by decide
  have hiff := @eq_wrapped_iff frame payload
  have hdrop : (frame.drop serialIntegrityHdrLen).length = frame.length - serialIntegrityHdrLen :=
    List.length_drop
  simp only [unwrapPayload, crc_mask h, ne_eq, ite_not, UInt16.toNat_inj, UInt32.toNat_inj]
  split_ifs with hshort hmagic hlen hlong hcrc
  all_goals simp only [false_iff, Except.ok.injEq]
  · rintro ⟨hframe, hle⟩
    have hlength := (hiff.mp ⟨hframe, by omega⟩).1
    omega
  · rintro ⟨hframe, hle⟩
    obtain ⟨-, -, -, -, rfl⟩ := hiff.mp ⟨hframe, by omega⟩
    omega
  · constructor
    · rintro rfl
      exact ⟨(hiff.mpr ⟨by omega, hmagic, hlen, hcrc.symm, rfl⟩).1, by omega⟩
    · rintro ⟨hframe, hle⟩
      exact (hiff.mp ⟨hframe, by omega⟩).2.2.2.2.symm
  · rintro ⟨hframe, hle⟩
    exact hcrc (hiff.mp ⟨hframe, by omega⟩).2.2.2.1.symm
  · rintro ⟨hframe, hle⟩
    exact hlen (hiff.mp ⟨hframe, by omega⟩).2.2.1
  · rintro ⟨hframe, hle⟩
    exact hmagic (hiff.mp ⟨hframe, by omega⟩).2.1

end Script

namespace Daemon

variable {crc32fast : List UInt8 → UInt32}

theorem wrapPayload_eq (h : ∀ data, crc32fast data = computeCrc32 data) (payload : List UInt8) :
    wrapPayload crc32fast payload = wrapped payload := by
  rw [wrapPayload, h]
  rfl

/-- The daemon has no cap of its own: the length field is the bound. -/
theorem unwrapPayload_iff (h : ∀ data, crc32fast data = computeCrc32 data)
    {frame payload : List UInt8} :
    unwrapPayload crc32fast frame = .ok payload ↔
      frame = wrapped payload ∧ payload.length < 2 ^ 16 := by
  rw [eq_wrapped_iff]
  simp only [unwrapPayload, h, ne_eq, ite_not]
  split_ifs with hshort hmagic hlen hcrc
  all_goals simp only [false_iff, Except.ok.injEq]
  · rintro ⟨hlength, _⟩
    omega
  · constructor
    · rintro rfl
      exact ⟨by omega, hmagic, hlen, hcrc.symm, rfl⟩
    · rintro ⟨_, _, _, _, rfl⟩
      rfl
  · rintro ⟨_, _, _, heq, _⟩
    exact hcrc heq.symm
  · rintro ⟨_, _, heq, _⟩
    exact hlen heq
  · rintro ⟨_, heq, _⟩
    exact hmagic heq

end Daemon

end FlrcTnc.Serial
