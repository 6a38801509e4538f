import Mathlib.Data.Fintype.EquivFin
import AsDt1.Source.FrameData

/-!
# The points of a CDC payload

A payload is a sequence of 15-octet records in the order of the sensor's lines;
`line_order` sorts the lines. Every record becomes exactly one point, whatever
the octets are: three 20-bit numbers in two's complement, scaled and turned.
-/
namespace AsDt1.Guarantees
open AsDt1.Lib AsDt1.Source

/-! ## Records -/

/-- The 20 bits of two octets and the high half of a third. -/
def leading20 (a b c : BitVec 8) : BitVec 20 := a ++ b ++ c.extractLsb' 4 4

/-- The 20 bits of the low half of an octet and of two more. -/
def trailing20 (a b c : BitVec 8) : BitVec 20 := a.extractLsb' 0 4 ++ b ++ c

/-- The first peak of a record, in quarter millimetres of the sensor's axes. -/
def firstPeak (record : Octets) : Vec3 Int where
  x := (leading20 (record.getD 0 0) (record.getD 1 0) (record.getD 2 0)).toInt
  y := (trailing20 (record.getD 2 0) (record.getD 3 0) (record.getD 4 0)).toInt
  z := (leading20 (record.getD 5 0) (record.getD 6 0) (record.getD 7 0)).toInt

/-- The point of a record, in metres of the driver's axes; `none` where the peak is
at the origin. -/
def pointOf (record : Octets) : Option (Vec3 ℚ) :=
  let peak := firstPeak record
  if peak = ⟨0, 0, 0⟩ then none else some ⟨-peak.y / 4000, peak.x / 4000, peak.z / 4000⟩

example : firstPeak [0xff, 0xff, 0xe0, 0x00, 0x01, 0x00, 0x3e, 0x80] = ⟨-2, 1, 1000⟩ := by decide

theorem signed20_eq (bits : BitVec 20) : signed20 bits.toNat = bits.toInt := by
  have small := bits.isLt
  have bit : bits.toNat / 2 ^ 19 % 2 = 1 ↔ 2 ^ 19 ≤ bits.toNat := by omega
  have sign : bits.toNat &&& 0x80000 ≠ 0 ↔ 2 ^ 19 ≤ bits.toNat := by
    rw [show 0x80000 = 2 ^ 19 by rfl, Nat.and_two_pow, Nat.testBit_eq_decide_div_mod_eq]
    simp only [bit]
    simp
  unfold signed20
  rw [BitVec.toInt_eq_toNat_cond]
  by_cases negative : 2 ^ 19 ≤ bits.toNat
  · rw [if_pos (sign.mpr negative), if_neg (by omega)]
    omega
  · rw [if_neg (mt sign.mp negative), if_pos (by omega)]

theorem leading20_toNat (a b c : BitVec 8) :
    (leading20 a b c).toNat = a.toNat <<< 12 ||| b.toNat <<< 4 ||| c.toNat >>> 4 := by
  have low : c.toNat >>> 4 % 2 ^ 4 = c.toNat >>> 4 := by
    have := c.isLt
    rw [Nat.shiftRight_eq_div_pow]
    omega
  unfold leading20
  rw [BitVec.toNat_append, BitVec.toNat_append, BitVec.extractLsb'_toNat, low, Nat.shiftLeft_or_distrib,
    ← Nat.shiftLeft_add]

theorem trailing20_toNat (a b c : BitVec 8) :
    (trailing20 a b c).toNat = (a.toNat &&& 0x0f) <<< 16 ||| b.toNat <<< 8 ||| c.toNat := by
  unfold trailing20
  rw [BitVec.toNat_append, BitVec.toNat_append, BitVec.extractLsb'_toNat, Nat.shiftRight_zero,
    Nat.shiftLeft_or_distrib, ← Nat.shiftLeft_add, ← Nat.and_two_pow_sub_one_eq_mod]

/-- The scaling by 1/1000 and 1/4, and the test for the origin after it. -/
theorem scaled_eq (x y z : Int) :
    (if (⟨-y / 1000 * (1 / 4), x / 1000 * (1 / 4), z / 1000 * (1 / 4)⟩ : Vec3 ℚ) = 0 then none
      else some (⟨-y / 1000 * (1 / 4), x / 1000 * (1 / 4), z / 1000 * (1 / 4)⟩ : Vec3 ℚ)) =
    if (⟨x, y, z⟩ : Vec3 Int) = ⟨0, 0, 0⟩ then none else some ⟨-y / 4000, x / 4000, z / 4000⟩ := by
  have quarter (v : ℚ) : v / 1000 * (1 / 4) = v / 4000 := by ring
  have origin : (⟨-y / 4000, x / 4000, z / 4000⟩ : Vec3 ℚ) = 0 ↔ (⟨x, y, z⟩ : Vec3 Int) = ⟨0, 0, 0⟩ := by
    show (⟨-y / 4000, x / 4000, z / 4000⟩ : Vec3 ℚ) = ⟨0, 0, 0⟩ ↔ _
    simp only [Vec3.mk.injEq, div_eq_zero_iff, neg_eq_zero, Int.cast_eq_zero]
    norm_num
    tauto
  simp only [quarter, origin]

/-- What the code computes from a record is its point. -/
theorem extractFirstPeak_eq {data : Octets} {offset : Nat} (inside : offset + 15 ≤ data.length) :
    extractFirstPeak data offset = .ok (pointOf (window data offset 15)) := by
  unfold extractFirstPeak
  rw [load_eq_ok_iff.mpr ⟨inside, rfl⟩, ok_bind]
  simp only [← leading20_toNat, ← trailing20_toNat, signed20_eq]
  exact congrArg Except.ok (scaled_eq _ _ _)

/-! ## The order of the records -/

/-- The record of the point of a number. -/
def recordOf (mode : ModeInfo) (i : Nat) : Nat :=
  if mode.nbrPointsY = 24 then 24 * lineOrder.getD (i / 24) 0 + i % 24
  else 24 * lineOrder.getD (i / 24) 0 / 2 + i % 24

/-- `line_order` names every line once, and its first half every second line. -/
theorem recordOf_permutes {mode : ModeInfo} (listed : mode ∈ dt1ModesList) :
    (∀ i < mode.pointCount, recordOf mode i < mode.pointCount) ∧
      ∀ i < mode.pointCount, ∀ j < mode.pointCount, recordOf mode i = recordOf mode j → i = j := by
  have shapes : ∀ mode ∈ dt1ModesList,
      mode.nbrPointsX = 24 ∧ (mode.nbrPointsY = 24 ∨ mode.nbrPointsY = 12) := by decide
  have inside : ∀ row < 24, lineOrder.getD row 0 < 24 := by decide
  have once : ∀ row < 24, ∀ other < 24, lineOrder.getD row 0 = lineOrder.getD other 0 → row = other := by decide
  have even : ∀ row < 12, lineOrder.getD row 0 % 2 = 0 := by decide
  obtain ⟨columns, rows⟩ := shapes mode listed
  unfold recordOf ModeInfo.pointCount
  rw [columns]
  rcases rows with full | half
  · simp only [full, if_true]
    constructor
    · intro i below
      have row := inside (i / 24) (by omega)
      omega
    · intro i below j below' same
      have row := inside (i / 24) (by omega)
      have row' := inside (j / 24) (by omega)
      have same_row := once (i / 24) (by omega) (j / 24) (by omega) (by omega)
      omega
  · have not_full : ¬ (12 : Nat) = 24 := by decide
    simp only [half, not_full, if_false]
    constructor
    · intro i below
      have row := inside (i / 24) (by omega)
      have row_even := even (i / 24) (by omega)
      omega
    · intro i below j below' same
      have row := inside (i / 24) (by omega)
      have row' := inside (j / 24) (by omega)
      have row_even := even (i / 24) (by omega)
      have row_even' := even (j / 24) (by omega)
      have same_row := once (i / 24) (by omega) (j / 24) (by omega) (by omega)
      omega

theorem unpackPointCloud_eq {mode : ModeInfo} (listed : mode ∈ dt1ModesList) {receiveBuf : Octets}
    (sized : receiveBuf.length = mode.payloadSize) :
    unpackPointCloud mode receiveBuf =
      .ok ((List.range mode.pointCount).map fun i => pointOf (window receiveBuf (recordOf mode i * 15) 15)) := by
  unfold unpackPointCloud
  apply mapM_eq_ok
  intro i point
  have inside := (recordOf_permutes listed).1 i (List.mem_range.mp point)
  have same_offset : (if mode.nbrPointsY = 24 then getOffsetFullRes else getOffsetHalfRes) i =
      recordOf mode i * 15 := by
    unfold recordOf
    by_cases full : mode.nbrPointsY = 24
    · rw [if_pos full, if_pos full, getOffsetFullRes, Nat.mul_comm]
    · rw [if_neg full, if_neg full, getOffsetHalfRes, Nat.mul_comm]
  rw [same_offset]
  apply extractFirstPeak_eq
  rw [sized, ModeInfo.payloadSize]
  omega

/-- For every mode of the table and every content of a buffer of the size that
`start_impl` allocates, the loop succeeds, and its points are the records' points
in an order that depends on the mode alone: every record gives exactly one point. -/
theorem points_are_records {mode : ModeInfo} (listed : mode ∈ dt1ModesList) :
    ∃ order : Equiv.Perm (Fin mode.pointCount), ∀ receiveBuf : Octets, receiveBuf.length = mode.payloadSize →
      (records 15 receiveBuf).length = mode.pointCount ∧
        ∃ points, unpackPointCloud mode receiveBuf = .ok points ∧ points.length = mode.pointCount ∧
          ∀ i : Fin mode.pointCount, points[i.val]? = (records 15 receiveBuf)[(order i).val]?.map pointOf := by
  obtain ⟨inside, once⟩ := recordOf_permutes listed
  have injective : Function.Injective fun i : Fin mode.pointCount =>
      (⟨recordOf mode i, inside i i.isLt⟩ : Fin mode.pointCount) :=
    fun i j same => Fin.ext (once i i.isLt j j.isLt (Fin.mk.inj same))
  refine ⟨Equiv.ofBijective _ (Finite.injective_iff_bijective.mp injective), fun receiveBuf sized => ?_⟩
  have count : receiveBuf.length / 15 = mode.pointCount := by
    rw [sized, ModeInfo.payloadSize, Nat.mul_div_cancel _ (by decide)]
  refine ⟨by rw [records_length, count], _, unpackPointCloud_eq listed sized, by simp, fun i => ?_⟩
  rw [Equiv.ofBijective_apply]
  simp only [records, count, List.getElem?_map, List.getElem?_range i.isLt, List.getElem?_range (inside i i.isLt),
    Option.map_some]
  rfl

def mode30m30f : ModeInfo := ⟨"30m30f", 24, 12, 800, 126, 6, 32⟩

/-- A record whose first peak is at 1, -2 and `k + 1` counts. -/
def numberedRecord (k : Nat) : Octets :=
  [0x00, 0x00, 0x1f, 0xff, 0xfe] ++ [BitVec.ofNat 8 ((k + 1) / 4096), BitVec.ofNat 8 ((k + 1) / 16),
    BitVec.ofNat 8 ((k + 1) % 16 * 16)] ++ List.replicate 7 0

def numberedPayload : Octets := (List.range 288).flatMap numberedRecord

theorem numberedPayload_records : records 15 numberedPayload = (List.range 288).map numberedRecord := by
  have single (k : Nat) : records 15 (numberedRecord k) = [numberedRecord k] := records_single (by decide) rfl
  unfold numberedPayload
  rw [records_flatMap (by decide) fun k _ => ⟨1, rfl⟩]
  simp only [single, List.map_eq_flatMap]

theorem numberedRecord_point {k : Nat} (below : k < 288) :
    pointOf (numberedRecord k) = some ⟨1 / 2000, 1 / 4000, ((k + 1 : Nat) : ℚ) / 4000⟩ := by
  have peak : ∀ k < 288, firstPeak (numberedRecord k) = ⟨1, -2, ((k + 1 : Nat) : Int)⟩ := by decide +kernel
  unfold pointOf
  rw [peak k below, if_neg (by simp)]
  norm_num

/-- Of a half-resolution payload of distinct records, each is found again as the point
at its own distance. -/
theorem half_resolution_points : ∃ points, ∃ order : Equiv.Perm (Fin mode30m30f.pointCount),
    unpackPointCloud mode30m30f numberedPayload = .ok points ∧ points.length = 288 ∧
      ∀ i : Fin mode30m30f.pointCount,
        points[i.val]? = some (some ⟨1 / 2000, 1 / 4000, (((order i).val + 1 : Nat) : ℚ) / 4000⟩) := by
  have listed : mode30m30f ∈ dt1ModesList := by decide
  have sized : numberedPayload.length = mode30m30f.payloadSize := by
    have record (k : Nat) : (numberedRecord k).length = 15 := rfl
    unfold numberedPayload
    simp only [List.length_flatMap, record, List.map_const', List.length_range, List.sum_replicate]
    decide
  obtain ⟨order, decoded⟩ := points_are_records listed
  obtain ⟨-, points, unpacked, count, found⟩ := decoded numberedPayload sized
  refine ⟨points, order, unpacked, count, fun i => ?_⟩
  have below : (order i).val < 288 := (order i).isLt
  rw [found i, numberedPayload_records, List.getElem?_map, List.getElem?_range below, Option.map_some,
    Option.map_some, numberedRecord_point below]

end AsDt1.Guarantees
