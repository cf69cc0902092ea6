import FlrcTnc.Framing.Bursts
import FlrcTnc.Lib.CrcPolynomial
import FlrcTnc.Serial.Integrity

/-! The two implementations of CRC-32, in `framing/FramingV3.h` and in `framing/Crc32.h`, and the
division of polynomials that both of them carry out. -/

namespace FlrcTnc.Serial

open Framing Polynomial

/-- The generator polynomial of IEEE 802.3. -/
noncomputable def ieeePoly : (ZMod 2)[X] :=
  X ^ 32 + X ^ 26 + X ^ 23 + X ^ 22 + X ^ 16 + X ^ 12 + X ^ 11 + X ^ 10 + X ^ 8 + X ^ 7 + X ^ 5 +
    X ^ 4 + X ^ 2 + X + 1

/-- The bits of a message as they are sent: of each byte the lowest one first. -/
def sentBits (data : List UInt8) : List Bool :=
  data.flatMap fun byte => (List.range 8).map byte.toNat.testBit

/-- The remainder of the message, of which the first 32 bits are complemented, with 32 zeros behind
it. -/
noncomputable def ieeeRemainder (data : List UInt8) : (ZMod 2)[X] :=
  (X ^ (sentBits data).length * Crc.ofBits (List.replicate 32 true) +
    X ^ 32 * Crc.ofBits (sentBits data)) %ₘ ieeePoly

/-- The reflected CRC-32 of IEEE 802.3: the complement of the remainder, of which the highest
coefficient is the lowest bit. -/
noncomputable def ieeeCrc32 (data : List UInt8) : UInt32 :=
  let reflected := (List.range 32).map fun i => decide ((ieeeRemainder data).coeff (31 - i) = 1)
  ~~~ UInt32.ofBitVec ((BitVec.ofBoolListLE reflected).setWidth 32)

theorem generator_crc32Poly : Crc.generator crc32Poly = ieeePoly := by
  have hbits : Crc.bits crc32Poly = [false, false, false, false, false, true, false, false, true,
      true, false, false, false, false, false, true, false, false, false, true, true, true, false,
      true, true, false, true, true, false, true, true, true] := by
    decide
  rw [Crc.generator, Crc.toPoly, hbits, ieeePoly]
  simp only [Crc.ofBits, Bool.false_eq_true, if_false, if_true, List.length_cons, List.length_nil,
    zero_add, add_zero, Nat.reduceAdd, pow_zero, pow_one]
  ring

theorem messageBits_eq (data : List UInt8) :
    Crc.messageBits (data.map UInt8.toBitVec) = sentBits data := by
  rw [Crc.messageBits, List.flatMap_map]
  rfl

/-- The register behind the bytes is the remainder. -/
theorem toPoly_crc32UpdateBytes (data : List UInt8) :
    Crc.toPoly (crc32UpdateBytes 0xFFFFFFFF data).toBitVec = ieeeRemainder data := by
  have hones : Crc.bits (0xFFFFFFFF : UInt32).toBitVec = List.replicate 32 true := by decide
  rw [crc32UpdateBytes_toBitVec, Crc.toPoly_updates crc32Poly (by decide), generator_crc32Poly,
    messageBits_eq, Crc.toPoly, hones]
  rfl

theorem computeCrc32_eq (data : List UInt8) :
    computeCrc32 data = ~~~ crc32UpdateBytes 0xFFFFFFFF data := rfl

/-- `computeCrc32` is the CRC-32 of IEEE 802.3. -/
theorem computeCrc32_eq_ieeeCrc32 (data : List UInt8) : computeCrc32 data = ieeeCrc32 data := by
  obtain ⟨register, hregister⟩ : ∃ register, register = crc32UpdateBytes 0xFFFFFFFF data :=
    ⟨_, rfl⟩
  have hpoly : Crc.toPoly register.toBitVec = ieeeRemainder data := by
    rw [hregister]
    exact toPoly_crc32UpdateBytes data
  have hreflected : (BitVec.ofBoolListLE ((List.range 32).map fun i =>
      decide ((ieeeRemainder data).coeff (31 - i) = 1))).setWidth 32 = register.toBitVec := by
    apply BitVec.eq_of_getLsbD_eq
    intro i hi
    have hindex : 32 - 1 - (31 - i) = i := by omega
    rw [BitVec.getLsbD_setWidth, BitVec.getLsbD_ofBoolListLE,
      List.getD_eq_getElem _ _ (by simpa using hi), List.getElem_map, List.getElem_range, ← hpoly,
      Crc.coeff_toPoly, hindex]
    have hdegree : 31 - i < 32 := by omega
    cases register.toBitVec.getLsbD i <;> simp [hdegree, hi]
  rw [computeCrc32_eq, ← hregister, ieeeCrc32, hreflected]

/-- The data with zeros in the CRC field. -/
def zeroField (offset : Nat) (data : List UInt8) : List UInt8 :=
  data.mapIdx fun k byte => if offset ≤ k ∧ k < offset + 4 then 0 else byte

theorem zeroedBytes_eq {offset : Nat} {data : List UInt8} (h : offset + 4 ≤ data.length) :
    zeroedBytes offset data.length data = zeroField offset data := by
  have hoffset : (data.take offset).length = offset := by
    rw [List.length_take]
    omega
  have hrest : (data.drop (offset + v3CrcLen)).take (data.length - offset - v3CrcLen) =
      data.drop (offset + 4) := by
    apply List.take_of_length_le
    rw [List.length_drop]
    omega
  have hzeros : List.replicate v3CrcLen (0 : UInt8) = List.replicate 4 0 := rfl
  rw [zeroedBytes, zeroField, hrest, hzeros]
  apply List.ext_getElem?
  intro k
  rw [List.getElem?_mapIdx]
  by_cases hbefore : k < offset
  · rw [List.getElem?_append_left (by omega), List.getElem?_take, if_pos hbefore]
    cases data[k]? with
    | none => rfl
    | some byte => rw [Option.map_some, if_neg (by omega)]
  rw [List.getElem?_append_right (by omega), hoffset]
  by_cases hfield : k < offset + 4
  · rw [List.getElem?_append_left (by rw [List.length_replicate]; omega),
      List.getElem?_replicate_of_lt (by omega), List.getElem?_eq_getElem (by omega),
      Option.map_some, if_pos (by omega)]
  · have hindex : offset + 4 + (k - offset - 4) = k := by omega
    rw [List.getElem?_append_right (by rw [List.length_replicate]; omega), List.length_replicate,
      List.getElem?_drop, hindex]
    cases data[k]? with
    | none => rfl
    | some byte => rw [Option.map_some, if_neg (by omega)]

/-- The two implementations agree, and they compute the CRC-32 of IEEE 802.3. -/
theorem crc_agree {offset : Nat} {data : List UInt8} (h : offset + 4 ≤ data.length) :
    crcWithZeroedField data data.length offset = computeCrc32 (zeroField offset data) ∧
      computeCrc32 (zeroField offset data) = ieeeCrc32 (zeroField offset data) := by
  refine ⟨?_, computeCrc32_eq_ieeeCrc32 _⟩
  rw [crcWithZeroedField_eq, zeroedBytes_eq h, computeCrc32_eq]

theorem crc_agree_five :
    crcWithZeroedField [1, 2, 3, 4, 5] 5 1 = computeCrc32 (zeroField 1 [1, 2, 3, 4, 5]) ∧
      computeCrc32 (zeroField 1 [1, 2, 3, 4, 5]) = ieeeCrc32 (zeroField 1 [1, 2, 3, 4, 5]) :=
  @crc_agree 1 [1, 2, 3, 4, 5] (by decide)

end FlrcTnc.Serial
