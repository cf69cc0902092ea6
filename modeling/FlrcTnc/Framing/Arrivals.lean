import FlrcTnc.Framing.Reassembly

/-! Fragments arriving in any order, any number of times, with any headers. -/

namespace FlrcTnc.Framing

open Mask

/-- A fragment for `acceptFragment`, with as many bytes behind the payload pointer as its header
says; `none` is the null pointer. -/
structure Offer where
  header : DataHeader
  payload : Option (List UInt8)
  fits : ∀ bytes, payload = some bytes → bytes.length = header.payloadLen.toNat

/-- A reassembly with the memory that its output points to. -/
structure Assembly where
  state : ReassemblyV3
  memory : Buffer

namespace Assembly

/-- `resetReassembly`, whatever was there before. -/
def reset (state : ReassemblyV3) (memory : Buffer) (output : Option BufferRef)
    (outputCapacity : UInt16) : Assembly :=
  ⟨resetReassembly state output outputCapacity, memory⟩

def result (a : Assembly) (offer : Offer) : FragmentResult :=
  (acceptFragment a.state a.memory offer.header offer.payload).1

def accept (a : Assembly) (offer : Offer) : Assembly :=
  ⟨(acceptFragment a.state a.memory offer.header offer.payload).2.1,
    (acceptFragment a.state a.memory offer.header offer.payload).2.2⟩

def acceptAll (a : Assembly) (offers : List Offer) : Assembly := offers.foldl accept a

@[simp] theorem acceptAll_append_singleton (a : Assembly) (offers : List Offer) (offer : Offer) :
    a.acceptAll (offers ++ [offer]) = (a.acceptAll offers).accept offer := by
  unfold acceptAll
  rw [List.foldl_append, List.foldl_cons, List.foldl_nil]

/-- What every sequence of offers keeps. -/
structure Sound (a : Assembly) : Prop where
  consistent : a.state.active → a.state.Consistent
  room : a.state.datagramLength ≤ a.state.outputCapacity
  idle : ¬ a.state.active → a.state.receivedBitmap = 0 ∧ a.state.bytesReceived = 0

theorem reset_sound (state : ReassemblyV3) (memory : Buffer) (output : Option BufferRef)
    (outputCapacity : UInt16) : (reset state memory output outputCapacity).Sound := by
  refine ⟨nofun, ?_, fun _ => ⟨rfl, rfl⟩⟩
  exact UInt16.le_iff_toNat_le.mpr (Nat.zero_le _)

/-- `offer` comes past the checks of `acceptFragment`, which leave the reassembly `opened`. -/
structure Reaches (a : Assembly) (offer : Offer) (opened : ReassemblyV3) : Prop where
  header : validateDataHeader offer.header
  payload : ¬ (offer.header.payloadLen > 0 ∧ offer.payload = none)
  output : ¬ (a.state.output = none ∨ a.state.outputCapacity < offer.header.datagramLength)
  opened : openReassembly a.state offer.header = some opened

variable {a : Assembly} {offer : Offer} {opened : ReassemblyV3}

theorem Reaches.accept_eq (h : a.Reaches offer opened) :
    acceptFragment a.state a.memory offer.header offer.payload =
      storeFragment opened a.memory offer.header (offer.payload.getD []) := by
  unfold acceptFragment
  dsimp only
  rw [if_neg (not_not.mpr h.header), if_neg h.payload, if_neg h.output, h.opened]

/-- An offer that does not come past the checks only counts. -/
theorem accept_of_not_reaches (h : ¬ ∃ opened, a.Reaches offer opened) :
    a.result offer ∉ [FragmentResult.ok, .duplicate] ∧ (a.accept offer).memory = a.memory ∧
      ∃ mismatches rejected, (a.accept offer).state = { a.state with
        metadataMismatches := mismatches
        rejectedFragments := rejected } := by
  unfold result accept acceptFragment
  dsimp only
  split
  · exact ⟨by simp, rfl, _, _, rfl⟩
  · next hheader =>
    split
    · exact ⟨by simp, rfl, _, _, rfl⟩
    · next hpayload =>
      split
      · exact ⟨by simp, rfl, _, _, rfl⟩
      · next houtput =>
        cases hopen : openReassembly a.state offer.header with
        | none => exact ⟨by simp, rfl, _, _, rfl⟩
        | some opened => exact absurd ⟨opened, not_not.mp hheader, hpayload, houtput, hopen⟩ h

theorem Reaches.consistent (h : a.Reaches offer opened) (hsound : a.Sound) :
    opened.active ∧ opened.Consistent ∧ reassemblyMetadataMatches opened offer.header :=
  openReassembly_consistent h.opened h.header hsound.consistent

/-- The checks open a reassembly for this datagram or leave the one that is open. -/
theorem Reaches.opened_cases (h : a.Reaches offer opened) : a.state.active ∧ opened = a.state ∨
    ¬ a.state.active ∧ opened = { a.state with
      datagramId := offer.header.datagramId
      datagramLength := offer.header.datagramLength
      fragmentCount := offer.header.fragmentCount
      receivedBitmap := 0
      fragmentLengths := Vector.replicate 12 0
      bytesReceived := 0
      active := true } := by
  have hopen := h.opened
  unfold openReassembly at hopen
  split at hopen
  · next hidle => exact .inr ⟨hidle, (Option.some.inj hopen).symm⟩
  · next hactive =>
    split at hopen
    · cases hopen
    · exact .inl ⟨not_not.mp hactive, (Option.some.inj hopen).symm⟩

theorem Reaches.capacity_eq (h : a.Reaches offer opened) :
    opened.output = a.state.output ∧ opened.outputCapacity = a.state.outputCapacity := by
  rcases h.opened_cases with ⟨_, rfl⟩ | ⟨_, rfl⟩
  · exact ⟨rfl, rfl⟩
  · exact ⟨rfl, rfl⟩

/-- The bytes of an offer that comes past the checks. -/
theorem Reaches.bytes (h : a.Reaches offer opened) : ∃ bytes, offer.payload = some bytes ∧
    bytes.length = offer.header.payloadLen.toNat := by
  obtain ⟨_, _, hindex, hlen⟩ := validateDataHeader_toNat h.header
  cases hpayload : offer.payload with
  | none =>
    refine absurd ⟨?_, hpayload⟩ h.payload
    rw [gt_iff_lt, UInt8.lt_iff_toNat_lt, hlen]
    simp only [fragments, fragmentLen, UInt8.reduceToNat] at hindex ⊢
    omega
  | some bytes => exact ⟨bytes, rfl, offer.fits bytes hpayload⟩

/-- Past the checks, a fragment is stored unless it is there already. -/
theorem Reaches.stored (h : a.Reaches offer opened) (hsound : a.Sound) :
    ∃ bytes, offer.payload = some bytes ∧ bytes.length = offer.header.payloadLen.toNat ∧
      acceptFragment a.state a.memory offer.header offer.payload =
        if hasBit opened.receivedBitmap offer.header.fragmentIndex.toNat then
          (.duplicate, { opened with duplicateFragments := opened.duplicateFragments + 1 },
            a.memory)
        else (.ok, opened.store offer.header,
          a.memory.write (115 * offer.header.fragmentIndex.toNat) bytes) := by
  obtain ⟨_, hconsistent, hmatch⟩ := h.consistent hsound
  obtain ⟨bytes, hbytes, hlen⟩ := h.bytes
  refine ⟨bytes, hbytes, hlen, ?_⟩
  have hroom : offer.header.datagramLength ≤ opened.outputCapacity := by
    rw [h.capacity_eq.2]
    simpa using (not_or.mp h.output).2
  rw [h.accept_eq, hbytes, Option.getD_some]
  exact hconsistent.storeFragment_eq h.header hmatch hroom a.memory hlen

theorem Sound.accept (hsound : a.Sound) (offer : Offer) : (a.accept offer).Sound := by
  by_cases hreaches : ∃ opened, a.Reaches offer opened
  · obtain ⟨opened, h⟩ := hreaches
    obtain ⟨hactive, hconsistent, hmatch⟩ := h.consistent hsound
    obtain ⟨bytes, _, _, heq⟩ := h.stored hsound
    have hroom : opened.datagramLength ≤ opened.outputCapacity := by
      rw [(ReassemblyV3.matches_iff.mp hmatch).2.1, h.capacity_eq.2]
      simpa using (not_or.mp h.output).2
    unfold Assembly.accept
    rw [heq]
    split
    · exact ⟨fun _ => ⟨hconsistent.length_pos, hconsistent.length_le, hconsistent.count,
        hconsistent.bits, hconsistent.lengths, hconsistent.bytes⟩, hroom, absurd hactive⟩
    · next hbit =>
      exact ⟨fun _ => hconsistent.store h.header hmatch (by simpa using hbit), hroom,
        absurd hactive⟩
  · obtain ⟨_, _, mismatches, rejected, hstate⟩ := accept_of_not_reaches hreaches
    refine ⟨?_, ?_, ?_⟩
    · rw [hstate]
      intro hactive
      have h := hsound.consistent hactive
      exact ⟨h.length_pos, h.length_le, h.count, h.bits, h.lengths, h.bytes⟩
    · rw [hstate]
      exact hsound.room
    · rw [hstate]
      exact hsound.idle

theorem Sound.acceptAll (hsound : a.Sound) (offers : List Offer) : (a.acceptAll offers).Sound := by
  induction offers using List.reverseRecOn with
  | nil => exact hsound
  | append_singleton offers offer ih =>
    rw [acceptAll_append_singleton]
    exact ih.accept offer

/-! ### Any fragments -/

/-- The numbers of a reassembly stay within the datagram, and the datagram within the output. -/
structure WithinBounds (state : ReassemblyV3) : Prop where
  bits : state.receivedBitmap &&& ~~~ fragmentExpectedBitmap state.fragmentCount = 0
  bytes : state.bytesReceived.toNat = ∑ k ∈ Finset.range 12,
    if hasBit state.receivedBitmap k then (state.fragmentLengths.toList.getD k 0).toNat else 0
  bytes_le : state.bytesReceived ≤ state.datagramLength
  length_le : state.datagramLength ≤ state.outputCapacity

/-- What `acceptFragment` does with the next offer, whatever that is. `usedBefore` is about the
computation of the expected payload length, and the fields after it about the sums and the tests
behind the checks. -/
structure Robust (a : Assembly) (offer : Offer) : Prop where
  atomic : a.result offer ≠ .ok → (a.accept offer).memory = a.memory ∧
    (a.accept offer).state = { a.state with
      duplicateFragments := (a.accept offer).state.duplicateFragments
      metadataMismatches := (a.accept offer).state.metadataMismatches
      rejectedFragments := (a.accept offer).state.rejectedFragments }
  written : a.result offer = .ok → ∃ bytes, offer.payload = some bytes ∧
    (a.accept offer).memory = a.memory.write (115 * offer.header.fragmentIndex.toNat) bytes ∧
    115 * offer.header.fragmentIndex.toNat + bytes.length ≤
      (a.accept offer).state.datagramLength.toNat
  usedBefore : offer.header.datagramLength ≠ 0 → offer.header.datagramLength ≤ v3MaxDatagram →
    offer.header.fragmentCount = expectedFragmentCount offer.header.datagramLength →
    offer.header.fragmentIndex < offer.header.fragmentCount →
    (offer.header.fragmentIndex.toUInt16 * v3FragmentPayloadMax.toUInt16).toNat =
      offer.header.fragmentIndex.toNat * v3FragmentPayloadMax.toNat ∧
    offer.header.fragmentIndex.toUInt16 * v3FragmentPayloadMax.toUInt16 ≤
      offer.header.datagramLength
  noWrap : ∀ opened, a.Reaches offer opened →
    opened.receivedBitmap &&& fragmentBit offer.header.fragmentIndex = 0 →
    (offer.header.fragmentIndex.toUInt16 * v3FragmentPayloadMax.toUInt16).toNat =
      offer.header.fragmentIndex.toNat * v3FragmentPayloadMax.toNat ∧
    (offer.header.fragmentIndex.toUInt16 * v3FragmentPayloadMax.toUInt16 +
      offer.header.payloadLen.toUInt16).toNat =
      offer.header.fragmentIndex.toNat * v3FragmentPayloadMax.toNat +
        offer.header.payloadLen.toNat ∧
    (opened.bytesReceived + offer.header.payloadLen.toUInt16).toNat =
      opened.bytesReceived.toNat + offer.header.payloadLen.toNat
  sameLength : ∀ opened, a.Reaches offer opened →
    opened.receivedBitmap &&& fragmentBit offer.header.fragmentIndex ≠ 0 →
    ¬ opened.fragmentLengths.toList.getD offer.header.fragmentIndex.toNat 0 ≠
      offer.header.payloadLen
  noOverrun : ∀ opened, a.Reaches offer opened →
    opened.receivedBitmap &&& fragmentBit offer.header.fragmentIndex = 0 →
    ¬ (offer.header.fragmentIndex.toUInt16 * v3FragmentPayloadMax.toUInt16 >
        offer.header.datagramLength ∨
      offer.header.fragmentIndex.toUInt16 * v3FragmentPayloadMax.toUInt16 +
        offer.header.payloadLen.toUInt16 > offer.header.datagramLength ∨
      offer.header.fragmentIndex.toUInt16 * v3FragmentPayloadMax.toUInt16 +
        offer.header.payloadLen.toUInt16 > opened.outputCapacity)

theorem Sound.withinBounds (hsound : a.Sound) : WithinBounds a.state := by
  by_cases hactive : a.state.active
  · have h := hsound.consistent hactive
    have hfrag := fragments_le h.length_toNat_le
    have hexpected := fragmentExpectedBitmap_expectedFragmentCount h.length_pos h.length_le
    refine ⟨?_, ?_, ?_, hsound.room⟩
    · rw [h.count, hexpected, and_eq_zero_iff]
      intro k hk
      have hlt := h.bits k hk
      rw [hasBit_not (by omega), fullMask, hasBit_below (by omega)]
      simpa using hlt
    · rw [h.bytes, bytesOf]
      refine (Finset.sum_subset (Finset.range_subset_range.mpr hfrag) fun k _ hk => ?_).trans ?_
      · rw [if_neg fun hbit => hk (Finset.mem_range.mpr (h.bits k hbit))]
      · refine Finset.sum_congr rfl fun k _ => ?_
        split
        · next hbit => rw [h.lengths k hbit]
        · rfl
    · rw [UInt16.le_iff_toNat_le, h.bytes]
      exact bytesOf_le _ _
  · obtain ⟨hbits, hbytes⟩ := hsound.idle hactive
    refine ⟨?_, ?_, ?_, hsound.room⟩
    · rw [hbits, UInt16.zero_and]
    · simp [hbits, hbytes]
    · rw [hbytes]
      exact UInt16.le_iff_toNat_le.mpr (Nat.zero_le _)

theorem Sound.atomic (hsound : a.Sound) (hresult : a.result offer ≠ .ok) :
    (a.accept offer).memory = a.memory ∧ (a.accept offer).state = { a.state with
      duplicateFragments := (a.accept offer).state.duplicateFragments
      metadataMismatches := (a.accept offer).state.metadataMismatches
      rejectedFragments := (a.accept offer).state.rejectedFragments } := by
  by_cases hreaches : ∃ opened, a.Reaches offer opened
  · obtain ⟨opened, h⟩ := hreaches
    obtain ⟨bytes, _, _, heq⟩ := h.stored hsound
    unfold result at hresult
    unfold Assembly.accept
    rw [heq] at hresult ⊢
    split at hresult
    · next hbit =>
      rw [if_pos hbit]
      -- a new reassembly has nothing that could be there already
      rcases h.opened_cases with ⟨_, rfl⟩ | ⟨_, rfl⟩
      · exact ⟨rfl, rfl⟩
      · simp at hbit
    · exact absurd rfl hresult
  · obtain ⟨_, hmemory, mismatches, rejected, hstate⟩ := accept_of_not_reaches hreaches
    rw [hstate]
    exact ⟨hmemory, rfl⟩

theorem Sound.written (hsound : a.Sound) (hresult : a.result offer = .ok) :
    ∃ bytes, offer.payload = some bytes ∧
      (a.accept offer).memory = a.memory.write (115 * offer.header.fragmentIndex.toNat) bytes ∧
      115 * offer.header.fragmentIndex.toNat + bytes.length ≤
        (a.accept offer).state.datagramLength.toNat := by
  by_cases hreaches : ∃ opened, a.Reaches offer opened
  · obtain ⟨opened, h⟩ := hreaches
    obtain ⟨_, _, hmatch⟩ := h.consistent hsound
    obtain ⟨bytes, hbytes, hlen, heq⟩ := h.stored hsound
    refine ⟨bytes, hbytes, ?_⟩
    unfold result at hresult
    unfold Assembly.accept
    rw [heq] at hresult ⊢
    split at hresult
    · cases hresult
    · next hbit =>
      rw [if_neg hbit]
      refine ⟨rfl, ?_⟩
      change _ ≤ opened.datagramLength.toNat
      rw [(ReassemblyV3.matches_iff.mp hmatch).2.1, hlen]
      exact (fragment_offset h.header).2.2
  · have := (accept_of_not_reaches hreaches).1
    simp [hresult] at this

theorem Reaches.bit_iff (h : a.Reaches offer opened) :
    opened.receivedBitmap &&& fragmentBit offer.header.fragmentIndex = 0 ↔
      hasBit opened.receivedBitmap offer.header.fragmentIndex.toNat = false := by
  obtain ⟨_, hmax, hindex, _⟩ := validateDataHeader_toNat h.header
  have hfrag := fragments_le hmax
  rw [fragmentBit_eq (by omega), and_bit_eq_zero (by omega)]

theorem Sound.robust (hsound : a.Sound) (offer : Offer) : a.Robust offer where
  atomic := hsound.atomic
  written := hsound.written
  usedBefore h0 hmax hcount hindex := by
    have hlt := UInt8.lt_iff_toNat_lt.mp hindex
    rw [hcount, expectedFragmentCount_toNat h0 hmax] at hlt
    have hmax' := UInt16.le_iff_toNat_le.mp hmax
    simp only [v3MaxDatagram, UInt16.reduceToNat] at hmax'
    have hused : (offer.header.fragmentIndex.toUInt16 * v3FragmentPayloadMax.toUInt16).toNat =
        offer.header.fragmentIndex.toNat * v3FragmentPayloadMax.toNat := by
      rw [UInt16.toNat_mul, UInt8.toNat_toUInt16, UInt8.toNat_toUInt16]
      simp only [v3FragmentPayloadMax, UInt8.reduceToNat]
      omega
    refine ⟨hused, ?_⟩
    rw [UInt16.le_iff_toNat_le, hused]
    simp only [v3FragmentPayloadMax, UInt8.reduceToNat]
    omega
  noWrap opened h hbit := by
    obtain ⟨_, hconsistent, hmatch⟩ := h.consistent hsound
    obtain ⟨hoffset, hend, _⟩ := fragment_offset h.header
    rw [hoffset, hend, Nat.mul_comm 115]
    exact ⟨rfl, rfl, (hconsistent.bytes_add h.header hmatch (h.bit_iff.mp hbit)).1⟩
  sameLength opened h hbit := by
    obtain ⟨_, hconsistent, hmatch⟩ := h.consistent hsound
    rw [ne_eq, h.bit_iff, Bool.not_eq_false] at hbit
    exact not_not.mpr (hconsistent.length_eq h.header hmatch hbit)
  noOverrun opened h _ := by
    obtain ⟨hoffset, hend, hfits⟩ := fragment_offset h.header
    have hroom := (not_or.mp h.output).2
    rw [← h.capacity_eq.2, UInt16.lt_iff_toNat_lt] at hroom
    simp only [gt_iff_lt, UInt16.lt_iff_toNat_lt, hoffset, hend]
    omega

/-- Nothing that is offered after a reset, valid or not, does harm. -/
theorem reassembly_robust (state : ReassemblyV3) (memory : Buffer) (output : Option BufferRef)
    (outputCapacity : UInt16) (offers : List Offer) :
    WithinBounds ((reset state memory output outputCapacity).acceptAll offers).state ∧
      ∀ offer, ((reset state memory output outputCapacity).acceptAll offers).Robust offer :=
  have hsound := (reset_sound state memory output outputCapacity).acceptAll offers
  ⟨hsound.withinBounds, hsound.robust⟩

end Assembly

/-! ### The fragments of one datagram in any order -/

theorem FragmentDescriptor.offer_fits (d : FragmentDescriptor) (bytes : List UInt8)
    (h : some (d.payload.read 0 d.header.payloadLen.toNat) = some bytes) :
    bytes.length = d.header.payloadLen.toNat := by
  cases h
  exact Buffer.read_length ..

/-- A descriptor as it is handed to `acceptFragment`. -/
def FragmentDescriptor.offer (d : FragmentDescriptor) : Offer :=
  ⟨d.header, some (d.payload.read 0 d.header.payloadLen.toNat), d.offer_fits⟩

/-- `l` describes all fragments of the datagram `data`. -/
structure Describes (l : List FragmentDescriptor) (id len : UInt16) (data : List UInt8) : Prop where
  length : l.length = fragments len.toNat
  valid : ∀ k : Fin l.length, validateDataHeader (l.get k).header
  metadata : ∀ k : Fin l.length,
    (l.get k).header.datagramId = id ∧ (l.get k).header.datagramLength = len
  index : ∀ k : Fin l.length, (l.get k).header.fragmentIndex.toNat = k
  payload : ∀ k : Fin l.length,
    (l.get k).payload.read 0 (l.get k).header.payloadLen.toNat = fragmentOf data k
  size : data.length = len.toNat

theorem describes_of_describeDatagram {datagram : Buffer} {len id : UInt16}
    {flags hint capacity : UInt8} {l : List FragmentDescriptor}
    (h : describeDatagram (some datagram) len id flags hint (some capacity) = .ok l) :
    Describes l id len (datagram.read 0 len.toNat) ∧ 0 < len.toNat ∧ len.toNat ≤ 1280 := by
  have hsound (k : Fin l.length) := describeDatagram_sound h (List.getElem?_eq_getElem k.2)
  rw [describeDatagram] at h
  split at h
  · cases h
  rename_i h0
  simp only [not_or, UInt16.not_lt, gt_iff_lt] at h0
  dsimp only at h
  split_ifs at h
  refine ⟨⟨?_, fun k => (hsound k).1, fun k => ⟨(hsound k).2.1, (hsound k).2.2.1⟩,
    fun k => (hsound k).2.2.2.2.1, fun k => (hsound k).2.2.2.2.2, Buffer.read_length ..⟩,
    Nat.pos_of_ne_zero fun hzero => h0.1 (UInt16.toNat_inj.mp hzero),
    UInt16.le_iff_toNat_le.mp h0.2⟩
  rw [describeFragments_length h, expectedFragmentCount_toNat h0.1 h0.2, fragments]

namespace Assembly

variable {l : List FragmentDescriptor} {id len : UInt16} {data : List UInt8}
  {seen : List (Fin l.length)} {a : Assembly}

/-- The fragments `order` of the datagram arrive. -/
def feed (a : Assembly) (l : List FragmentDescriptor) (order : List (Fin l.length)) : Assembly :=
  a.acceptAll (order.map fun k => (l.get k).offer)

/-- The reassembly has the fragments `seen` of the datagram, and nothing else. -/
structure Fed (l : List FragmentDescriptor) (id len : UInt16) (data : List UInt8)
    (seen : List (Fin l.length)) (a : Assembly) : Prop where
  sound : a.Sound
  output : a.state.output ≠ none
  room : len ≤ a.state.outputCapacity
  idle : ¬ a.state.active → seen = []
  metadata : a.state.active → a.state.datagramId = id ∧ a.state.datagramLength = len
  bits : ∀ k, hasBit a.state.receivedBitmap k ↔ ∃ i ∈ seen, i.val = k
  content : ∀ i ∈ seen, ∀ j < fragmentLen len.toNat i,
    a.memory (115 * i + j) = byteAt data (115 * i + j)

/-- Every fragment of the datagram comes past the checks. -/
theorem Fed.reaches (h : Fed l id len data seen a) (hl : Describes l id len data)
    (k : Fin l.length) : ∃ opened, a.Reaches (l.get k).offer opened ∧
      (∀ j, hasBit opened.receivedBitmap j ↔ ∃ i ∈ seen, i.val = j) := by
  obtain ⟨hid, hlen⟩ := hl.metadata k
  obtain ⟨_, _, _, _, hcount, _⟩ := validateDataHeader_iff.mp (hl.valid k)
  have hpayload : ¬ ((l.get k).offer.header.payloadLen > 0 ∧ (l.get k).offer.payload = none) :=
    fun hnone => nomatch hnone.2
  have houtput : ¬ (a.state.output = none ∨
      a.state.outputCapacity < (l.get k).offer.header.datagramLength) := by
    rw [not_or, UInt16.not_lt]
    refine ⟨h.output, ?_⟩
    change (l.get k).header.datagramLength ≤ _
    rw [hlen]
    exact h.room
  obtain ⟨opened, hopen, hbits⟩ : ∃ opened,
      openReassembly a.state (l.get k).header = some opened ∧
        ∀ j, hasBit opened.receivedBitmap j ↔ ∃ i ∈ seen, i.val = j := by
    unfold openReassembly
    by_cases hactive : a.state.active
    · have hmatch : reassemblyMetadataMatches a.state (l.get k).header := by
        rw [ReassemblyV3.matches_iff, (h.metadata hactive).1, (h.metadata hactive).2,
          (h.sound.consistent hactive).count, hcount, hid, hlen, (h.metadata hactive).2]
        exact ⟨rfl, rfl, rfl⟩
      rw [if_neg (not_not.mpr hactive), if_neg (not_not.mpr hmatch)]
      exact ⟨a.state, rfl, h.bits⟩
    · rw [if_pos hactive]
      refine ⟨_, rfl, fun j => ?_⟩
      rw [h.idle hactive]
      simp
  exact ⟨opened, ⟨hl.valid k, hpayload, houtput, hopen⟩, hbits⟩

/-- The next fragment, new or not. -/
theorem Fed.accept (h : Fed l id len data seen a) (hl : Describes l id len data)
    (k : Fin l.length) : Fed l id len data (seen ++ [k]) (a.accept (l.get k).offer) ∧
      a.result (l.get k).offer = if k ∈ seen then .duplicate else .ok := by
  obtain ⟨opened, hreaches, hbits⟩ := h.reaches hl k
  obtain ⟨hactive, hconsistent, hmatch⟩ := hreaches.consistent h.sound
  obtain ⟨bytes, hbytes, hlen, heq⟩ := hreaches.stored h.sound
  have hsound := h.sound.accept (l.get k).offer
  have hindex : (l.get k).offer.header.fragmentIndex.toNat = k := hl.index k
  have hpayload : bytes = fragmentOf data k := by
    rw [← hl.payload k]
    exact (Option.some.inj hbytes).symm
  have hmetadata : opened.datagramId = id ∧ opened.datagramLength = len := by
    rw [ReassemblyV3.matches_iff] at hmatch
    exact ⟨hmatch.1.trans (hl.metadata k).1, hmatch.2.1.trans (hl.metadata k).2⟩
  have houtput : opened.output ≠ none := by
    rw [hreaches.capacity_eq.1]
    exact h.output
  have hroom : len ≤ opened.outputCapacity := by
    rw [hreaches.capacity_eq.2]
    exact h.room
  have hkey : hasBit opened.receivedBitmap k ↔ k ∈ seen := by
    rw [hbits]
    exact ⟨fun ⟨i, hi, hik⟩ => Fin.ext hik ▸ hi, fun hk => ⟨k, hk, rfl⟩⟩
  unfold Assembly.accept at hsound ⊢
  unfold result
  rw [heq, hindex] at hsound ⊢
  by_cases hk : k ∈ seen
  · rw [if_pos (hkey.mpr hk)] at hsound ⊢
    rw [if_pos hk]
    refine ⟨⟨hsound, houtput, hroom, absurd hactive, fun _ => hmetadata, fun j => ?_, ?_⟩, rfl⟩
    · rw [hbits]
      refine ⟨fun ⟨i, hi, hij⟩ => ⟨i, List.mem_append_left _ hi, hij⟩, fun ⟨i, hi, hij⟩ => ?_⟩
      rcases List.mem_append.mp hi with hi | hi
      · exact ⟨i, hi, hij⟩
      · exact ⟨k, hk, List.mem_singleton.mp hi ▸ hij⟩
    · intro i hi
      rcases List.mem_append.mp hi with hi | hi
      · exact h.content i hi
      · rw [List.mem_singleton.mp hi]
        exact h.content k hk
  · have hbit := mt hkey.mp hk
    rw [if_neg hbit] at hsound ⊢
    rw [if_neg hk]
    have h16 : k.val < 16 := by
      obtain ⟨_, hmax, hlt, _⟩ := validateDataHeader_toNat (hl.valid k)
      have hfrag := fragments_le hmax
      rw [hl.index k] at hlt
      omega
    refine ⟨⟨hsound, houtput, hroom, absurd hactive, fun _ => hmetadata, fun j => ?_, ?_⟩, rfl⟩
    · change hasBit (opened.receivedBitmap ||| bit _) j ↔ _
      rw [hindex, hasBit_or, hasBit_bit h16, Bool.or_eq_true, decide_eq_true_eq, hbits]
      simp only [List.mem_append, List.mem_singleton, or_and_right, exists_or, exists_eq_left]
    · intro i hi j hj
      change a.memory.write (115 * k.val) bytes (115 * i.val + j) = _
      have hlength : bytes.length = fragmentLen len.toNat k := by
        rw [hpayload, fragmentOf_length, hl.size]
      unfold Buffer.write
      by_cases hik : i = k
      · subst hik
        rw [if_pos (by omega), Nat.add_sub_cancel_left, hpayload,
          byteAt_fragmentOf data (by rwa [hl.size])]
      · -- the fragments of a datagram do not overlap
        have hne : i.val ≠ k.val := fun heq => hik (Fin.ext heq)
        rw [if_neg (by unfold fragmentLen at hj hlength; omega)]
        refine h.content i ?_ j hj
        rcases List.mem_append.mp hi with hi | hi
        · exact hi
        · exact absurd (List.mem_singleton.mp hi) hik

theorem reset_fed (state : ReassemblyV3) (memory : Buffer) {ref : BufferRef}
    {outputCapacity : UInt16} (hroom : len ≤ outputCapacity) :
    Fed l id len data [] (reset state memory (some ref) outputCapacity) :=
  ⟨reset_sound .., by simp [reset, resetReassembly], hroom, fun _ => rfl, nofun,
    by simp [reset, resetReassembly], nofun⟩

theorem Fed.feed (h : Fed l id len data [] a) (hl : Describes l id len data)
    (order : List (Fin l.length)) : Fed l id len data order (a.feed l order) := by
  induction order using List.reverseRecOn with
  | nil => exact h
  | append_singleton order k ih =>
    unfold Assembly.feed at ih ⊢
    rw [List.map_append, List.map_cons, List.map_nil, acceptAll_append_singleton]
    exact (ih.accept hl k).1

/-- What a reassembly is when the fragments `seen` have arrived. -/
structure Assembles (datagram : Buffer) (len : UInt16) (l : List FragmentDescriptor)
    (seen : List (Fin l.length)) (a : Assembly) : Prop where
  bits : ∀ k, hasBit a.state.receivedBitmap k ↔ ∃ i ∈ seen, i.val = k
  bytes : a.state.bytesReceived.toNat =
    ∑ i ∈ seen.toFinset, (l.get i).header.payloadLen.toNat
  result : ∀ i, a.result (l.get i).offer = if i ∈ seen then .duplicate else .ok
  complete : reassemblyIsComplete a.state ↔ ∀ i, i ∈ seen
  content : reassemblyIsComplete a.state → a.memory.read 0 len.toNat = datagram.read 0 len.toNat

theorem Fed.complete_iff (h : Fed l id len data seen a) (hl : Describes l id len data)
    (hpos : 0 < len.toNat) (hmax : len.toNat ≤ 1280) :
    reassemblyIsComplete a.state ↔ ∀ i, i ∈ seen := by
  have hlength := hl.length
  have hfrag := fragments_pos hpos
  by_cases hactive : a.state.active
  · rw [(h.sound.consistent hactive).isComplete_iff hactive, (h.metadata hactive).2,
      covers_fullMask_iff hmax, ← hlength]
    constructor
    · intro hall i
      obtain ⟨k, hk, hki⟩ := (h.bits i).mp (hall i i.2)
      exact Fin.ext hki ▸ hk
    · intro hall k hk
      exact (h.bits k).mpr ⟨⟨k, hk⟩, hall _, rfl⟩
  · rw [h.idle hactive]
    constructor
    · intro hcomplete
      rw [reassemblyIsComplete, decide_eq_true_eq] at hcomplete
      exact absurd hcomplete.1 hactive
    · intro hall
      exact absurd (hall ⟨0, by omega⟩) (by simp)

theorem Fed.bytes_eq (h : Fed l id len data seen a) (hl : Describes l id len data) :
    a.state.bytesReceived.toNat = ∑ i ∈ seen.toFinset, (l.get i).header.payloadLen.toNat := by
  by_cases hactive : a.state.active
  · rw [(h.sound.consistent hactive).bytes, (h.metadata hactive).2, bytesOf, ← hl.length,
      Finset.sum_range, ← Finset.sum_filter]
    refine Finset.sum_congr (Finset.ext fun i => ?_) fun i _ => ?_
    · rw [Finset.mem_filter, List.mem_toFinset, h.bits]
      constructor
      · rintro ⟨_, k, hk, hki⟩
        rwa [← Fin.ext hki]
      · exact fun hi => ⟨Finset.mem_univ i, i, hi, rfl⟩
    · obtain ⟨_, _, _, hlen⟩ := validateDataHeader_toNat (hl.valid i)
      rw [hlen, (hl.metadata i).2, hl.index i]
  · rw [h.idle hactive, (h.sound.idle hactive).2]
    simp

theorem Fed.assembles {datagram : Buffer} (h : Fed l id len (datagram.read 0 len.toNat) seen a)
    (hl : Describes l id len (datagram.read 0 len.toNat)) (hpos : 0 < len.toNat)
    (hmax : len.toNat ≤ 1280) : Assembles datagram len l seen a := by
  have hcomplete := h.complete_iff hl hpos hmax
  refine ⟨h.bits, h.bytes_eq hl, fun i => (h.accept hl i).2, hcomplete, fun hdone => ?_⟩
  have hread := (Buffer.read_eq_iff a.memory (datagram.read 0 len.toNat)).mpr fun k hk => ?_
  · rwa [Buffer.read_length] at hread
  · rw [Buffer.read_length] at hk
    have hlt : k / 115 < l.length := by
      rw [hl.length, fragments]
      omega
    have hin := h.content ⟨k / 115, hlt⟩ (hcomplete.mp hdone _) (k % 115)
      (by unfold fragmentLen; dsimp only; omega)
    rwa [Nat.div_add_mod] at hin

/-- The fragments of a datagram put it together again, whatever their order and however often each
of them arrives. -/
theorem reassembly_any_order {datagram : Buffer} {len id : UInt16} {flags hint capacity : UInt8}
    {l : List FragmentDescriptor}
    (hdescribe : describeDatagram (some datagram) len id flags hint (some capacity) = .ok l)
    (state : ReassemblyV3) (memory : Buffer) (ref : BufferRef) {outputCapacity : UInt16}
    (hroom : len ≤ outputCapacity) (seen : List (Fin l.length)) :
    Assembles datagram len l seen ((reset state memory (some ref) outputCapacity).feed l seen) := by
  obtain ⟨hl, hpos, hmax⟩ := describes_of_describeDatagram hdescribe
  exact ((reset_fed state memory hroom).feed hl seen).assembles hl hpos hmax

/-- The fragments of 116 bytes. -/
def twoFragments (datagram : Buffer) : List FragmentDescriptor :=
  [⟨⟨1, 15, 7, 0, 2, 116, 115⟩, datagram.shift 0⟩, ⟨⟨1, 15, 7, 1, 2, 116, 1⟩, datagram.shift 115⟩]

theorem reassembly_any_order_twoFragments :
    Assembles (fun _ => 0xA5) 116 (twoFragments fun _ => 0xA5) ([1, 1, 0] : List (Fin 2))
      ((reset {} (fun _ => 0) (some 3) 200).feed (twoFragments fun _ => 0xA5)
        ([1, 1, 0] : List (Fin 2))) := by
  have hdescribe : describeDatagram (some fun _ => 0xA5) 116 7 1 15 (some 2) =
      .ok (twoFragments fun _ => 0xA5) := rfl
  exact reassembly_any_order hdescribe {} _ 3 (by decide) _

end Assembly

end FlrcTnc.Framing
