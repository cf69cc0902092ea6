import FlrcTnc.Framing.Exact
import FlrcTnc.Framing.Fragment
import FlrcTnc.Lib.Mask
import Mathlib.Algebra.BigOperators.Fin
import Mathlib.Algebra.Order.BigOperators.Group.Finset

/-! What fragmentation and reassembly do, in numbers: a datagram of `len` bytes has `fragments len`
fragments of `fragmentLen len k` bytes, and a reassembly is complete exactly when it has the bits of
all of them. -/

namespace FlrcTnc.Framing

open Mask

def fragments (len : Nat) : Nat := (len + 114) / 115

def fragmentLen (len k : Nat) : Nat := min 115 (len - 115 * k)

/-- Fragment `k` of a datagram. -/
def fragmentOf (data : List UInt8) (k : Nat) : List UInt8 := (data.drop (115 * k)).take 115

/-- The bits of all fragments of a datagram. -/
def fullMask (len : Nat) : UInt16 := below (fragments len)

theorem fragments_le {len : Nat} (h : len ≤ 1280) : fragments len ≤ 12 := by
  rw [fragments]; omega

theorem fragments_pos {len : Nat} (h : 0 < len) : 0 < fragments len := by
  rw [fragments]; omega

theorem covers_fullMask_iff {m : UInt16} {len : Nat} (h : len ≤ 1280) :
    Covers m (fullMask len) ↔ ∀ k < fragments len, hasBit m k :=
  covers_below_iff ((fragments_le h).trans (by decide))

theorem not_covers_fullMask_iff {m : UInt16} {len : Nat} (h : len ≤ 1280) :
    ¬ Covers m (fullMask len) ↔ ∃ k < fragments len, hasBit m k = false :=
  not_covers_below_iff ((fragments_le h).trans (by decide))

theorem fragmentBit_eq {index : UInt8} (h : index.toNat < 16) :
    fragmentBit index = bit index.toNat := by
  revert h
  revert index
  decide +kernel

theorem fragmentExpectedBitmap_eq {count : UInt8} (h0 : 0 < count.toNat) (h12 : count.toNat ≤ 12) :
    fragmentExpectedBitmap count = below count.toNat := by
  revert h0 h12
  revert count
  decide +kernel

theorem fragmentExpectedBitmap_expectedFragmentCount {len : UInt16} (h0 : len ≠ 0)
    (h1 : len ≤ v3MaxDatagram) :
    fragmentExpectedBitmap (expectedFragmentCount len) = fullMask len.toNat := by
  have hcount := expectedFragmentCount_toNat h0 h1
  have hpos : 0 < len.toNat := Nat.pos_of_ne_zero fun h => h0 (UInt16.toNat_inj.mp h)
  have hle : len.toNat ≤ 1280 := UInt16.le_iff_toNat_le.mp h1
  rw [← fragments] at hcount
  have hfrag := fragments_le hle
  have hfrag0 := fragments_pos hpos
  rw [fragmentExpectedBitmap_eq (by omega) (by omega), hcount, fullMask]

/-- The fields of a valid header, in numbers. -/
theorem validateDataHeader_toNat {header : DataHeader} (h : validateDataHeader header) :
    0 < header.datagramLength.toNat ∧ header.datagramLength.toNat ≤ 1280 ∧
      header.fragmentIndex.toNat < fragments header.datagramLength.toNat ∧
      header.payloadLen.toNat =
        fragmentLen header.datagramLength.toNat header.fragmentIndex.toNat := by
  obtain ⟨_, _, h0, h1, hcount, hindex, hlen⟩ := validateDataHeader_iff.mp h
  have hpos : 0 < header.datagramLength.toNat :=
    Nat.pos_of_ne_zero fun h => h0 (UInt16.toNat_inj.mp h)
  have hi := UInt8.lt_iff_toNat_lt.mp hindex
  rw [hcount] at hi hlen hindex
  rw [expectedFragmentCount_toNat h0 h1] at hi
  rw [hlen, expectedFragmentPayloadLen_toNat h0 h1 hindex]
  exact ⟨hpos, UInt16.le_iff_toNat_le.mp h1, hi, rfl⟩

/-! ### Buffers -/

@[simp] theorem Buffer.read_length (buffer : Buffer) (offset n : Nat) :
    (buffer.read offset n).length = n := by
  simp [Buffer.read]

theorem Buffer.byteAt_read (buffer : Buffer) {offset n k : Nat} (h : k < n) :
    byteAt (buffer.read offset n) k = buffer (offset + k) := by
  simp [byteAt, Buffer.read, h]

theorem Buffer.read_eq_iff (buffer : Buffer) (data : List UInt8) :
    buffer.read 0 data.length = data ↔ ∀ k < data.length, buffer k = byteAt data k := by
  constructor
  · intro h k hk
    rw [← h, Buffer.byteAt_read _ hk, Nat.zero_add]
  · intro h
    refine List.ext_getElem (by simp) fun k hk hk' => ?_
    have hb := h k hk'
    simpa [Buffer.read, byteAt, hk'] using hb

theorem Buffer.write_zero_read (buffer : Buffer) (data : List UInt8) :
    (buffer.write 0 data).read 0 data.length = data := by
  rw [Buffer.read_eq_iff]
  intro k hk
  simp [Buffer.write, hk]

/-- The bytes of fragment `k` as they stand in a buffer. -/
theorem fragmentOf_read (buffer : Buffer) (len k : Nat) :
    fragmentOf (buffer.read 0 len) k = buffer.read (115 * k) (fragmentLen len k) := by
  refine List.ext_getElem (by simp [fragmentOf, fragmentLen]) fun j hj hj' => ?_
  simp [fragmentOf, Buffer.read]

theorem fragmentOf_length (data : List UInt8) (k : Nat) :
    (fragmentOf data k).length = fragmentLen data.length k := by
  simp [fragmentOf, fragmentLen]

theorem byteAt_fragmentOf (data : List UInt8) {k j : Nat} (h : j < fragmentLen data.length k) :
    byteAt (fragmentOf data k) j = byteAt data (115 * k + j) := by
  have hj : j < 115 ∧ 115 * k + j < data.length := by
    rw [fragmentLen] at h; omega
  simp [byteAt, fragmentOf, List.getD_eq_getElem?_getD, List.getElem?_drop, hj.1]

/-! ### Fragmentation -/

/-- The header of fragment `i` of the datagram that `header` is about. -/
def DataHeader.ofFragment (header : DataHeader) (i : UInt8) : DataHeader :=
  { header with
    fragmentIndex := i
    payloadLen := expectedFragmentPayloadLen header.datagramLength i header.fragmentCount }

/-- Every fragment that `describeFragments` yields has the header of its index and begins where the
full fragments before it end. -/
theorem describeFragments_sound {datagram : Buffer} {header : DataHeader} {todo : Nat} {i : UInt8}
    {offset : UInt16} {l : List FragmentDescriptor}
    (h : describeFragments datagram header todo i offset = .ok l) (htodo : i.toNat + todo ≤ 12)
    {k : Nat} {d : FragmentDescriptor} (hd : l[k]? = some d) :
    k < todo ∧ d.header = header.ofFragment (i + UInt8.ofNat k) ∧ validateDataHeader d.header ∧
      (offset.toNat = 115 * i.toNat → d.payload = datagram.shift (115 * (i.toNat + k))) := by
  induction todo generalizing i offset l k with
  | zero =>
    cases h
    simp at hd
  | succ todo ih =>
    rw [describeFragments] at h
    split_ifs at h with hvalid
    change validateDataHeader (header.ofFragment i) at hvalid
    split at h
    · cases h
    · next rest hrest =>
      cases h
      cases k with
      | zero =>
        cases hd
        refine ⟨by omega, by simp [DataHeader.ofFragment], hvalid, fun hoffset => ?_⟩
        rw [hoffset, Nat.add_zero]
      | succ k =>
        have hsucc : (i + 1).toNat = i.toNat + 1 := by
          rw [UInt8.toNat_add]
          simp only [UInt8.reduceToNat]
          omega
        have hindex : i + 1 + UInt8.ofNat k = i + UInt8.ofNat (k + 1) := by
          rw [← UInt8.toNat_inj]
          simp only [UInt8.toNat_add, UInt8.toNat_ofNat', UInt8.reduceToNat]
          omega
        obtain ⟨hk, hheader, hd', hpayload⟩ := ih hrest (by omega) (by simpa using hd)
        rw [hindex] at hheader
        refine ⟨by omega, hheader, hd', fun hoffset => ?_⟩
        -- a fragment with a later one behind it is full
        obtain ⟨_, hmax, hlater, _⟩ := validateDataHeader_toNat hd'
        obtain ⟨_, _, _, hlen⟩ := validateDataHeader_toNat hvalid
        simp only [hheader, DataHeader.ofFragment, UInt8.toNat_add, UInt8.toNat_ofNat', fragments,
          fragmentLen] at hmax hlater hlen
        have hfull : (offset + (expectedFragmentPayloadLen header.datagramLength i
            header.fragmentCount).toUInt16).toNat = 115 * (i + 1).toNat := by
          rw [UInt16.toNat_add, UInt8.toNat_toUInt16, hlen, hsucc, hoffset]
          omega
        rw [hpayload hfull, hsucc, Nat.add_assoc, Nat.add_comm 1 k]

theorem describeFragments_length {datagram : Buffer} {header : DataHeader} {todo : Nat} {i : UInt8}
    {offset : UInt16} {l : List FragmentDescriptor}
    (h : describeFragments datagram header todo i offset = .ok l) : l.length = todo := by
  induction todo generalizing i offset l with
  | zero =>
    cases h
    rfl
  | succ todo ih =>
    rw [describeFragments] at h
    split_ifs at h
    split at h
    · cases h
    · next rest hrest =>
      cases h
      rw [List.length_cons, ih hrest]

/-- The fragments of a datagram as they go on the air. -/
theorem describeDatagram_sound {datagram : Buffer} {len id : UInt16} {flags hint capacity : UInt8}
    {l : List FragmentDescriptor}
    (h : describeDatagram (some datagram) len id flags hint (some capacity) = .ok l) {k : Nat}
    {d : FragmentDescriptor} (hd : l[k]? = some d) :
    validateDataHeader d.header ∧ d.header.datagramId = id ∧ d.header.datagramLength = len ∧
      d.header.flags = flags ∧ d.header.fragmentIndex.toNat = k ∧
      d.payload.read 0 d.header.payloadLen.toNat = fragmentOf (datagram.read 0 len.toNat) k := by
  rw [describeDatagram] at h
  split at h
  · cases h
  rename_i h0
  simp only [not_or, UInt16.not_lt, gt_iff_lt] at h0
  dsimp only at h
  split_ifs at h
  have hcount := expectedFragmentCount_toNat h0.1 h0.2
  have hmax := UInt16.le_iff_toNat_le.mp h0.2
  simp only [v3MaxDatagram, UInt16.reduceToNat] at hmax
  obtain ⟨hk, hheader, hvalid, hpayload⟩ := describeFragments_sound h (by simp; omega) hd
  have hindex : d.header.fragmentIndex.toNat = k := by
    rw [hheader]
    simp only [DataHeader.ofFragment, UInt8.toNat_add, UInt8.toNat_ofNat', UInt8.reduceToNat]
    omega
  obtain ⟨_, _, _, hlen⟩ := validateDataHeader_toNat hvalid
  rw [hindex] at hlen
  rw [hheader] at hlen
  refine ⟨hvalid, by rw [hheader]; rfl, by rw [hheader]; rfl, by rw [hheader]; rfl, hindex, ?_⟩
  rw [hpayload rfl, fragmentOf_read, hheader, hlen]
  simp [Buffer.read, Buffer.shift, DataHeader.ofFragment]

/-- The headers of the fragments of a datagram are valid. -/
theorem ofFragment_valid {header : DataHeader} (hflags : header.flags ≤ v3MaxNibble)
    (hhint : header.queueDepthHint ≤ v3MaxNibble) (h0 : header.datagramLength ≠ 0)
    (hmax : header.datagramLength ≤ v3MaxDatagram)
    (hcount : header.fragmentCount = expectedFragmentCount header.datagramLength) {i : UInt8}
    (hi : i < header.fragmentCount) : validateDataHeader (header.ofFragment i) :=
  validateDataHeader_iff.mpr ⟨hflags, hhint, h0, hmax, hcount, hi, rfl⟩

theorem describeFragments_ok (datagram : Buffer) (header : DataHeader)
    (hvalid : ∀ i < header.fragmentCount, validateDataHeader (header.ofFragment i)) (todo : Nat)
    (i : UInt8) (offset : UInt16) (htodo : i.toNat + todo = header.fragmentCount.toNat) :
    ∃ l, describeFragments datagram header todo i offset = .ok l := by
  induction todo generalizing i offset with
  | zero => exact ⟨[], rfl⟩
  | succ todo ih =>
    have hlt := header.fragmentCount.toNat_lt
    have hfirst := hvalid i (UInt8.lt_iff_toNat_lt.mpr (by omega))
    unfold DataHeader.ofFragment at hfirst
    have hsucc : (i + 1).toNat + todo = header.fragmentCount.toNat := by
      rw [UInt8.toNat_add, UInt8.toNat_one]
      omega
    obtain ⟨rest, hrest⟩ := ih (i + 1) (offset +
      (expectedFragmentPayloadLen header.datagramLength i header.fragmentCount).toUInt16) hsucc
    rw [describeFragments]
    rw [if_neg (not_not.mpr hfirst), hrest]
    exact ⟨_, rfl⟩

/-- `describeDatagram` refuses nothing that fits. -/
theorem describeDatagram_ok (datagram : Buffer) {len : UInt16} (id : UInt16)
    {flags hint capacity : UInt8} (h0 : len ≠ 0) (hmax : len ≤ v3MaxDatagram)
    (hflags : flags ≤ v3MaxNibble) (hhint : hint ≤ v3MaxNibble)
    (hcapacity : expectedFragmentCount len ≤ capacity) :
    ∃ l, describeDatagram (some datagram) len id flags hint (some capacity) = .ok l ∧
      l.length = fragments len.toNat := by
  have hcount := expectedFragmentCount_toNat h0 hmax
  have hpos : 0 < len.toNat := Nat.pos_of_ne_zero fun h => h0 (UInt16.toNat_inj.mp h)
  have hle : len.toNat ≤ 1280 := UInt16.le_iff_toNat_le.mp hmax
  rw [← fragments] at hcount
  have hfrag := fragments_le hle
  have hfrag0 := fragments_pos hpos
  obtain ⟨l, hl⟩ := describeFragments_ok datagram
    { flags, queueDepthHint := hint, datagramId := id, datagramLength := len,
      fragmentCount := expectedFragmentCount len }
    (fun i hi => ofFragment_valid hflags hhint h0 hmax rfl hi)
    (expectedFragmentCount len).toNat 0 0 (by simp)
  refine ⟨l, ?_, (describeFragments_length hl).trans hcount⟩
  unfold describeDatagram
  rw [if_neg (by simp [h0, hmax])]
  dsimp only
  rw [if_neg (by simp [hflags, hhint]), if_neg, if_neg (by simpa using hcapacity), hl]
  rw [not_or]
  refine ⟨fun h => ?_, ?_⟩
  · rw [h] at hcount
    simp at hcount
    omega
  · rw [gt_iff_lt, UInt8.lt_iff_toNat_lt, hcount]
    simp only [v3MaxFrags, UInt8.reduceToNat]
    omega

/-! ### Reassembly -/

/-- The bytes of the fragments in `bits`. -/
def bytesOf (len : Nat) (bits : UInt16) : Nat :=
  ∑ k ∈ Finset.range (fragments len), if hasBit bits k then fragmentLen len k else 0

theorem sum_fragmentLen (len n : Nat) :
    ∑ k ∈ Finset.range n, fragmentLen len k = min len (115 * n) := by
  induction n with
  | zero => simp
  | succ n ih =>
    rw [Finset.sum_range_succ, ih, fragmentLen]
    omega

theorem bytesOf_full {len : Nat} {bits : UInt16} (h : ∀ k < fragments len, hasBit bits k) :
    bytesOf len bits = len := by
  have hsum : bytesOf len bits = ∑ k ∈ Finset.range (fragments len), fragmentLen len k := by
    refine Finset.sum_congr rfl fun k hk => ?_
    rw [if_pos (h k (Finset.mem_range.mp hk))]
  rw [hsum, sum_fragmentLen, fragments]
  omega

theorem bytesOf_or_bit {len : Nat} {bits : UInt16} {k : Nat} (hk : k < fragments len)
    (h16 : k < 16) (hbit : hasBit bits k = false) :
    bytesOf len (bits ||| bit k) = bytesOf len bits + fragmentLen len k := by
  have hsplit (j : Nat) : (if hasBit (bits ||| bit k) j then fragmentLen len j else 0) =
      (if hasBit bits j then fragmentLen len j else 0) +
        (if j = k then fragmentLen len j else 0) := by
    rw [hasBit_or, hasBit_bit h16]
    by_cases hj : j = k
    · subst hj
      simp [hbit]
    · simp [hj, Ne.symm hj]
  simp only [bytesOf, hsplit, Finset.sum_add_distrib]
  rw [Finset.sum_ite_eq' (Finset.range (fragments len)) k, if_pos (Finset.mem_range.mpr hk)]

theorem bytesOf_le (len : Nat) (bits : UInt16) : bytesOf len bits ≤ len := by
  have hle : bytesOf len bits ≤ ∑ k ∈ Finset.range (fragments len), fragmentLen len k :=
    Finset.sum_le_sum fun k _ => by split <;> omega
  rw [sum_fragmentLen] at hle
  omega

namespace ReassemblyV3

/-- A reassembly that has received something is consistent. -/
structure Consistent (state : ReassemblyV3) : Prop where
  length_pos : state.datagramLength ≠ 0
  length_le : state.datagramLength ≤ v3MaxDatagram
  count : state.fragmentCount = expectedFragmentCount state.datagramLength
  bits : ∀ k, hasBit state.receivedBitmap k → k < fragments state.datagramLength.toNat
  lengths : ∀ k, hasBit state.receivedBitmap k → (state.fragmentLengths.toList.getD k 0).toNat =
    fragmentLen state.datagramLength.toNat k
  bytes : state.bytesReceived.toNat = bytesOf state.datagramLength.toNat state.receivedBitmap

/-- A reassembly with the whole buffer `ref` behind it. -/
structure Valid (state : ReassemblyV3) (ref : BufferRef) : Prop where
  output : state.output = some ref
  capacity : state.outputCapacity = v3MaxDatagram
  consistent : state.active → state.Consistent

theorem Consistent.length_toNat_le {state : ReassemblyV3} (h : state.Consistent) :
    state.datagramLength.toNat ≤ 1280 := UInt16.le_iff_toNat_le.mp h.length_le

/-- The byte count never matters: the bits decide. -/
theorem Consistent.isComplete_iff {state : ReassemblyV3} (h : state.Consistent)
    (hactive : state.active) :
    reassemblyIsComplete state ↔ Covers state.receivedBitmap
      (fullMask state.datagramLength.toNat) := by
  have hfull := fragmentExpectedBitmap_expectedFragmentCount h.length_pos h.length_le
  rw [← h.count] at hfull
  have hpos : 0 < state.datagramLength.toNat :=
    Nat.pos_of_ne_zero fun h0 => h.length_pos (UInt16.toNat_inj.mp h0)
  have hne : fullMask state.datagramLength.toNat ≠ 0 := by
    intro h0
    have hbit : hasBit (fullMask state.datagramLength.toNat) 0 := by
      rw [fullMask, hasBit_below ((fragments_le h.length_toNat_le).trans (by decide))]
      simpa using fragments_pos hpos
    rw [h0, hasBit_zero] at hbit
    exact absurd hbit (by decide)
  simp only [reassemblyIsComplete, hfull, hactive, decide_eq_true_eq]
  constructor
  · rintro ⟨_, _, hcovers, _⟩
    exact hcovers
  · intro hcovers
    refine ⟨trivial, hne, hcovers, UInt16.toNat_inj.mp ?_⟩
    rw [h.bytes, bytesOf_full ((covers_fullMask_iff h.length_toNat_le).mp hcovers)]

end ReassemblyV3

/-- The state of `openReassembly` before its fragment is stored. -/
theorem openReassembly_consistent {state state' : ReassemblyV3} {header : DataHeader}
    (hopen : openReassembly state header = some state') (hvalid : validateDataHeader header)
    (h : state.active → state.Consistent) :
    state'.active ∧ state'.Consistent ∧ reassemblyMetadataMatches state' header := by
  obtain ⟨_, _, h0, h1, hcount, _, _⟩ := validateDataHeader_iff.mp hvalid
  rw [openReassembly] at hopen
  by_cases hactive : state.active
  · by_cases hmatch : reassemblyMetadataMatches state header
    · rw [if_neg (by simpa using hactive), if_neg (by simpa using hmatch)] at hopen
      cases hopen
      exact ⟨hactive, h hactive, hmatch⟩
    · rw [if_neg (by simpa using hactive), if_pos hmatch] at hopen
      cases hopen
  · rw [if_pos hactive] at hopen
    cases hopen
    refine ⟨rfl, ⟨h0, h1, hcount, ?_, ?_, ?_⟩, by simp [reassemblyMetadataMatches]⟩
    · simp
    · simp
    · simp [bytesOf]

namespace ReassemblyV3

/-- The reassembly with one more fragment. -/
def store (state : ReassemblyV3) (header : DataHeader) : ReassemblyV3 :=
  { state with
    fragmentLengths :=
      state.fragmentLengths.setIfInBounds header.fragmentIndex.toNat header.payloadLen
    receivedBitmap := state.receivedBitmap ||| bit header.fragmentIndex.toNat
    bytesReceived := state.bytesReceived + header.payloadLen.toUInt16 }

theorem matches_iff {state : ReassemblyV3} {header : DataHeader} :
    reassemblyMetadataMatches state header ↔ state.datagramId = header.datagramId ∧
      state.datagramLength = header.datagramLength ∧
      state.fragmentCount = header.fragmentCount := by
  rw [reassemblyMetadataMatches, decide_eq_true_eq]

end ReassemblyV3

/-- Where a valid fragment is written; none of the sixteen-bit sums wraps. -/
theorem fragment_offset {header : DataHeader} (hvalid : validateDataHeader header) :
    (header.fragmentIndex.toUInt16 * v3FragmentPayloadMax.toUInt16).toNat =
        115 * header.fragmentIndex.toNat ∧
      (header.fragmentIndex.toUInt16 * v3FragmentPayloadMax.toUInt16 +
        header.payloadLen.toUInt16).toNat =
        115 * header.fragmentIndex.toNat + header.payloadLen.toNat ∧
      115 * header.fragmentIndex.toNat + header.payloadLen.toNat ≤
        header.datagramLength.toNat := by
  obtain ⟨_, hmax, hindex, hpayload⟩ := validateDataHeader_toNat hvalid
  simp only [fragmentLen, fragments] at hpayload hindex
  have hoffset : (header.fragmentIndex.toUInt16 * v3FragmentPayloadMax.toUInt16).toNat =
      115 * header.fragmentIndex.toNat := by
    rw [UInt16.toNat_mul, UInt8.toNat_toUInt16, UInt8.toNat_toUInt16]
    simp only [v3FragmentPayloadMax, UInt8.reduceToNat]
    omega
  refine ⟨hoffset, ?_, by omega⟩
  rw [UInt16.toNat_add, hoffset, UInt8.toNat_toUInt16]
  omega

section Consistent

variable {state : ReassemblyV3} {header : DataHeader}

theorem ReassemblyV3.Consistent.bytes_add (h : state.Consistent)
    (hvalid : validateDataHeader header) (hmatch : reassemblyMetadataMatches state header)
    (hbit : hasBit state.receivedBitmap header.fragmentIndex.toNat = false) :
    (state.bytesReceived + header.payloadLen.toUInt16).toNat =
      state.bytesReceived.toNat + header.payloadLen.toNat ∧
    (state.bytesReceived + header.payloadLen.toUInt16).toNat =
      bytesOf state.datagramLength.toNat
        (state.receivedBitmap ||| bit header.fragmentIndex.toNat) := by
  obtain ⟨_, hmax, hindex, hpayload⟩ := validateDataHeader_toNat hvalid
  rw [← (ReassemblyV3.matches_iff.mp hmatch).2.1] at hindex hpayload hmax
  have hfrag := fragments_le hmax
  have hle := bytesOf_le state.datagramLength.toNat
    (state.receivedBitmap ||| bit header.fragmentIndex.toNat)
  rw [bytesOf_or_bit hindex (by omega) hbit] at hle ⊢
  rw [UInt16.toNat_add, h.bytes, UInt8.toNat_toUInt16, hpayload]
  omega

theorem ReassemblyV3.Consistent.store (h : state.Consistent)
    (hvalid : validateDataHeader header) (hmatch : reassemblyMetadataMatches state header)
    (hbit : hasBit state.receivedBitmap header.fragmentIndex.toNat = false) :
    (state.store header).Consistent := by
  obtain ⟨_, hmax, hindex, hpayload⟩ := validateDataHeader_toNat hvalid
  rw [← (ReassemblyV3.matches_iff.mp hmatch).2.1] at hindex hpayload hmax
  have hfrag := fragments_le hmax
  have h16 : header.fragmentIndex.toNat < 16 := by omega
  have hkeep {k : Nat} (hk : hasBit (state.store header).receivedBitmap k) :
      hasBit state.receivedBitmap k ∨ header.fragmentIndex.toNat = k := by
    rwa [ReassemblyV3.store, hasBit_or, hasBit_bit h16, Bool.or_eq_true, decide_eq_true_eq] at hk
  refine ⟨h.length_pos, h.length_le, h.count, fun k hk => ?_, fun k hk => ?_,
    (h.bytes_add hvalid hmatch hbit).2⟩
  · rcases hkeep hk with hk | rfl
    · exact h.bits k hk
    · exact hindex
  · by_cases hkey : header.fragmentIndex.toNat = k
    · subst hkey
      simp [ReassemblyV3.store, List.getD_eq_getElem?_getD,
        show header.fragmentIndex.toNat < 12 by omega, hpayload]
    · have hold := h.lengths k ((hkeep hk).resolve_right hkey)
      simpa [ReassemblyV3.store, List.getD_eq_getElem?_getD, List.getElem?_set, hkey] using hold

/-- A fragment that is there already was there with this length. -/
theorem ReassemblyV3.Consistent.length_eq (h : state.Consistent)
    (hvalid : validateDataHeader header) (hmatch : reassemblyMetadataMatches state header)
    (hbit : hasBit state.receivedBitmap header.fragmentIndex.toNat) :
    state.fragmentLengths.toList.getD header.fragmentIndex.toNat 0 = header.payloadLen := by
  obtain ⟨_, _, _, hpayload⟩ := validateDataHeader_toNat hvalid
  rw [← UInt8.toNat_inj, h.lengths _ hbit, (ReassemblyV3.matches_iff.mp hmatch).2.1, hpayload]

/-- A fragment of the right datagram is stored, unless it is there already. -/
theorem ReassemblyV3.Consistent.storeFragment_eq (h : state.Consistent)
    (hvalid : validateDataHeader header) (hmatch : reassemblyMetadataMatches state header)
    (hroom : header.datagramLength ≤ state.outputCapacity) (memory : Buffer)
    {payload : List UInt8} (hlen : payload.length = header.payloadLen.toNat) :
    storeFragment state memory header payload =
      if hasBit state.receivedBitmap header.fragmentIndex.toNat then
        (.duplicate, { state with duplicateFragments := state.duplicateFragments + 1 }, memory)
      else (.ok, state.store header,
        memory.write (115 * header.fragmentIndex.toNat) payload) := by
  obtain ⟨_, hmax, hindex, _⟩ := validateDataHeader_toNat hvalid
  obtain ⟨hoffset, hend, hfits⟩ := fragment_offset hvalid
  have hfrag := fragments_le hmax
  have h16 : header.fragmentIndex.toNat < 16 := by omega
  unfold storeFragment
  simp only [fragmentBit_eq h16]
  by_cases hbit : hasBit state.receivedBitmap header.fragmentIndex.toNat
  · rw [if_pos (by rw [ne_eq, and_bit_eq_zero h16]; simp [hbit]), if_pos hbit,
      if_neg (by simpa using h.length_eq hvalid hmatch hbit)]
  · rw [if_neg (by rw [ne_eq, not_not, and_bit_eq_zero h16]; simpa using hbit), if_neg hbit,
      if_neg, hoffset, List.take_of_length_le (by omega)]
    · rfl
    · rw [UInt16.le_iff_toNat_le] at hroom
      simp only [gt_iff_lt, UInt16.lt_iff_toNat_lt, hoffset, hend]
      omega

end Consistent

/-- What is left of a reassembly with the whole buffer `ref` behind it. -/
theorem storeFragment_eq {state : ReassemblyV3} {ref : BufferRef} {memory : Buffer}
    {header : DataHeader} {payload : List UInt8} (hactive : state.active) (h : state.Valid ref)
    (hvalid : validateDataHeader header) (hmatch : reassemblyMetadataMatches state header)
    (hlen : payload.length = header.payloadLen.toNat) :
    ∃ result state' memory', storeFragment state memory header payload = (result, state', memory') ∧
      result ∈ [.ok, .duplicate] ∧ state'.active ∧ state'.Valid ref ∧
      state'.datagramId = state.datagramId ∧ state'.datagramLength = state.datagramLength ∧
      state'.receivedBitmap = state.receivedBitmap ||| bit header.fragmentIndex.toNat ∧
      memory' = if hasBit state.receivedBitmap header.fragmentIndex.toNat then memory
        else memory.write (115 * header.fragmentIndex.toNat) payload := by
  obtain ⟨_, hmax, hindex, _⟩ := validateDataHeader_toNat hvalid
  have hc := h.consistent hactive
  have hfrag := fragments_le hmax
  have h16 : header.fragmentIndex.toNat < 16 := by omega
  have hroom : header.datagramLength ≤ state.outputCapacity := by
    rw [h.capacity]
    exact UInt16.le_iff_toNat_le.mpr hmax
  rw [hc.storeFragment_eq hvalid hmatch hroom memory hlen]
  by_cases hbit : hasBit state.receivedBitmap header.fragmentIndex.toNat
  · have hor : state.receivedBitmap ||| bit header.fragmentIndex.toNat = state.receivedBitmap := by
      refine Mask.ext fun k => ?_
      rw [hasBit_or, hasBit_bit h16]
      by_cases hk : header.fragmentIndex.toNat = k
      · subst hk
        simp [hbit]
      · simp [hk]
    rw [if_pos hbit, if_pos hbit]
    refine ⟨_, _, _, rfl, by simp, hactive, ⟨h.output, h.capacity, fun _ => ?_⟩, rfl, rfl,
      hor.symm, rfl⟩
    exact ⟨hc.length_pos, hc.length_le, hc.count, hc.bits, hc.lengths, hc.bytes⟩
  · rw [if_neg hbit, if_neg hbit]
    exact ⟨_, _, _, rfl, by simp, hactive, ⟨h.output, h.capacity, fun _ =>
      hc.store hvalid hmatch (by simpa using hbit)⟩, rfl, rfl, rfl, rfl⟩

/-- What `acceptFragment` does with a valid fragment. -/
theorem acceptFragment_eq {state : ReassemblyV3} {ref : BufferRef} (memory : Buffer)
    {header : DataHeader} {payload : List UInt8} (h : state.Valid ref)
    (hvalid : validateDataHeader header) (hlen : payload.length = header.payloadLen.toNat) :
    (∃ state', acceptFragment state memory header (some payload) =
        (.metadataMismatch, state', memory) ∧ state.active ∧
        ¬ reassemblyMetadataMatches state header ∧ state' = { state with
          rejectedFragments := state'.rejectedFragments
          metadataMismatches := state'.metadataMismatches }) ∨
    ∃ opened result state' memory', openReassembly state header = some opened ∧
      acceptFragment state memory header (some payload) = (result, state', memory') ∧
      result ∈ [.ok, .duplicate] ∧ state'.active ∧ state'.Valid ref ∧
      state'.datagramId = header.datagramId ∧ state'.datagramLength = header.datagramLength ∧
      state'.receivedBitmap = opened.receivedBitmap ||| bit header.fragmentIndex.toNat ∧
      memory' = if hasBit opened.receivedBitmap header.fragmentIndex.toNat then memory
        else memory.write (115 * header.fragmentIndex.toNat) payload := by
  obtain ⟨hpos, hmax, hindex, hpayload⟩ := validateDataHeader_toNat hvalid
  have hcapacity : ¬ (state.output = none ∨ state.outputCapacity < header.datagramLength) := by
    rw [h.output, h.capacity, UInt16.lt_iff_toNat_lt]
    simpa [v3MaxDatagram] using hmax
  simp only [acceptFragment, hvalid, not_true, if_false, if_neg hcapacity]
  rw [if_neg (by simp)]
  cases hopen : openReassembly state header with
  | none =>
    left
    rw [openReassembly] at hopen
    split_ifs at hopen with hactive hmatch
    exact ⟨_, rfl, hactive, hmatch, rfl⟩
  | some opened =>
    right
    obtain ⟨hactive, hconsistent, hmatch⟩ :=
      openReassembly_consistent hopen hvalid h.consistent
    have hopened : opened.Valid ref := by
      rw [openReassembly] at hopen
      split_ifs at hopen <;> cases hopen
      · exact ⟨h.output, h.capacity, fun _ => hconsistent⟩
      · exact ⟨h.output, h.capacity, fun _ => hconsistent⟩
    obtain ⟨result, state', memory', heq, hresult, hactive', hvalid', hid, hlength, hbits, hmem⟩ :=
      storeFragment_eq hactive hopened hvalid hmatch hlen
    simp only [reassemblyMetadataMatches, decide_eq_true_eq] at hmatch
    exact ⟨opened, result, state', memory', rfl, heq, hresult, hactive', hvalid',
      hid.trans hmatch.1, hlength.trans hmatch.2.1, hbits, hmem⟩

end FlrcTnc.Framing
