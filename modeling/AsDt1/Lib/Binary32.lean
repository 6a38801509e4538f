import Mathlib

/-!
# Floats of 32 bits

Words read as IEEE binary32 numbers, with the arithmetic of the standard model. A
float that is only moved keeps its word, that of a NaN too; a NaN that is computed
is the canonical one. A conversion from a number rounds to nearest even; one to an
unsigned type truncates, and has no result outside the range of the type.
-/
namespace AsDt1.Lib
open Float.Model (Format UnpackedFloat totalExponent)
open Float.Model.UnpackedFloat

structure Binary32 where
  word : BitVec 32
  deriving DecidableEq, Repr

namespace Binary32

def unpack (f : Binary32) : UnpackedFloat := Float.Model.UnpackedFloat.unpack Format.binary32 f.word

def pack (u : UnpackedFloat) : Binary32 := ⟨Float.Model.UnpackedFloat.pack Format.binary32 u⟩

instance : NatCast Binary32 where
  natCast n := pack (ofNat Format.binary32 n)

instance : Neg Binary32 where
  neg a := pack a.unpack.neg

instance : Mul Binary32 where
  mul a b := pack (mul Format.binary32 a.unpack b.unpack)

instance : Div Binary32 where
  div a b := pack (div Format.binary32 a.unpack b.unpack)

instance : OfScientific Binary32 where
  ofScientific mantissa negative exponent :=
    pack (ofScientific Format.binary32 mantissa (if negative then -exponent else exponent))

instance : LT Binary32 where
  lt a b := a.unpack.lt b.unpack

instance : DecidableLT Binary32 := fun a b => inferInstanceAs (Decidable (a.unpack.lt b.unpack = true))

def isFinite (f : Binary32) : Bool := f.unpack.isFinite

/-- The number of a finite float. -/
def value (f : Binary32) : ℚ :=
  match f.unpack with
  | .finite sign mantissa exponent _ => (sign.apply mantissa : ℤ) * 2 ^ exponent
  | _ => 0

/-- A conversion to an unsigned type of `width` bits. -/
def toUnsigned (width : Nat) (f : Binary32) : Option (BitVec width) :=
  let n := f.unpack.toInt 0 0
  if f.isFinite ∧ 0 ≤ n ∧ n < 2 ^ width then some (BitVec.ofInt width n) else none

/-! ## Truncation -/

theorem shiftRight_mantissa (m : ExtendedMantissa) (k : Nat) : (m >>> k).mantissa = m.mantissa / 2 ^ k := by
  induction k with
  | zero =>
    rw [Nat.pow_zero, Nat.div_one]
    rfl
  | succ k ih =>
    have last : m >>> (k + 1) = (m >>> k).shiftRightOne := rfl
    rw [last, Nat.pow_succ, ← Nat.div_div_eq_div_mul, ← ih]
    rfl

/-- The bits behind the point are dropped. -/
theorem roundToInt_positive (mantissa : Nat) (exponent : Int) :
    roundToInt .positive mantissa exponent = (⌊(mantissa : ℚ) * 2 ^ exponent⌋₊ : Int) := by
  obtain ⟨k, rfl | rfl⟩ := exponent.eq_nat_or_neg
  · have raised : roundToInt .positive mantissa (k : Int) = ((mantissa <<< k : Nat) : Int) := by
      unfold roundToInt decreaseExponent shiftToExponent
      simp only [Sign.apply, shiftRight_mantissa, ExtendedMantissa.ofMantissaAndAccuracy]
      simp
    rw [raised, zpow_natCast, Nat.shiftLeft_eq]
    norm_cast
  · have lowered : roundToInt .positive mantissa (-k : Int) = ((mantissa / 2 ^ k : Nat) : Int) := by
      unfold roundToInt decreaseExponent shiftToExponent
      simp only [Sign.apply, shiftRight_mantissa, ExtendedMantissa.ofMantissaAndAccuracy]
      simp
    have split : (mantissa : ℚ) * 2 ^ (-k : Int) = (mantissa : ℚ) / ((2 ^ k : Nat) : ℚ) := by
      rw [zpow_neg, zpow_natCast, Nat.cast_pow, Nat.cast_ofNat, div_eq_mul_inv]
    rw [lowered, split, Nat.floor_div_eq_div]

theorem toInt_eq_floor {f : Binary32} (nonneg : 0 ≤ f.value) : f.unpack.toInt 0 0 = (⌊f.value⌋₊ : Int) := by
  unfold value at *
  cases unpacked : f.unpack with
  | notANumber => simp [toInt]
  | infinity sign => cases sign <;> simp [toInt]
  | zero sign => simp [toInt]
  | finite sign mantissa exponent positive =>
    rw [unpacked] at nonneg
    cases sign with
    | positive => exact roundToInt_positive mantissa exponent
    | negative =>
      have below : ((Sign.negative.apply mantissa : Int) : ℚ) * 2 ^ exponent < 0 := by
        apply mul_neg_of_neg_of_pos
        · have minus : -(mantissa : Int) < 0 := by omega
          exact_mod_cast minus
        · exact zpow_pos (by decide) exponent
      exact absurd nonneg (not_le.mpr below)

/-- A conversion of a number in the range drops its fraction. -/
theorem toUnsigned_eq {width : Nat} {f : Binary32} (finite : f.isFinite) (nonneg : 0 ≤ f.value)
    (below : f.value < 2 ^ width) : f.toUnsigned width = some (BitVec.ofNat width ⌊f.value⌋₊) := by
  have floor_below : ⌊f.value⌋₊ < 2 ^ width := by
    rw [Nat.floor_lt nonneg]
    exact_mod_cast below
  unfold toUnsigned
  rw [toInt_eq_floor nonneg]
  rw [if_pos ⟨finite, by omega, by exact_mod_cast floor_below⟩, BitVec.ofInt_natCast]

/-! ## Whole numbers -/

theorem unpackSign_packComponents {spec : Format} {sign : Sign} {exponent : BitVec spec.exponentBits}
    {mantissa : BitVec spec.mantissaBitsWithoutImplicit} :
    unpackSign (packComponents spec sign exponent mantissa) = sign.toBitVec := by
  ext i inside
  obtain rfl : i = 0 := by omega
  simp [unpackSign, packComponents, BitVec.getLsbD_eq_getElem, BitVec.getLsbD_append, BitVec.getElem_append]

theorem pack_normal {sign : Sign} {mantissa : Nat} {exponent : Int} (positive : 0 < mantissa)
    (normal : mantissa.log2 = 23) (upto : exponent ≤ 104) :
    pack (.finite sign mantissa exponent positive) =
      ⟨packComponents Format.binary32 sign (BitVec.ofNat 8 (exponent + 150).toNat)
        (BitVec.ofNat 23 mantissa)⟩ := by
  have biased : (exponent + Format.binary32.exponentBias + Format.binary32.mantissaBitsWithoutImplicit).toNat =
      (exponent + 150).toNat := by
    have bias : (Format.binary32.exponentBias : Int) +
        (Format.binary32.mantissaBitsWithoutImplicit : Nat) = 150 := by decide
    rw [add_assoc, bias]
  have room : ¬ 2 ^ Format.binary32.exponentBits ≤ (exponent + 150).toNat + 1 := by
    have size : 2 ^ Format.binary32.exponentBits = 256 := by decide
    omega
  have full : mantissa.log2 + 1 = Format.binary32.mantissaBits := by
    rw [normal]
    rfl
  unfold pack Float.Model.UnpackedFloat.pack
  simp only [biased, if_neg room, if_pos full]

/-- A normal float with its leading bit in front is what its word means. -/
theorem unpack_pack_normal {sign : Sign} {mantissa : Nat} {exponent : Int} (positive : 0 < mantissa)
    (normal : mantissa.log2 = 23) (from_least : -149 ≤ exponent) (upto : exponent ≤ 104) :
    (pack (.finite sign mantissa exponent positive)).unpack = .finite sign mantissa exponent positive := by
  obtain ⟨lower, upper⟩ := (Nat.log2_eq_iff (by omega)).mp normal
  have stored : (BitVec.ofNat 8 (exponent + 150).toNat).toNat = (exponent + 150).toNat := by
    rw [BitVec.toNat_ofNat]
    omega
  have not_special : BitVec.ofNat 8 (exponent + 150).toNat ≠ -1#8 := by
    intro same
    rw [same] at stored
    have all_ones : (-1#8).toNat = 255 := by decide
    omega
  have not_subnormal : BitVec.ofNat 8 (exponent + 150).toNat ≠ 0#8 := by
    intro same
    rw [same] at stored
    have none_set : (0#8).toNat = 0 := by decide
    omega
  have leading : (1#1 ++ BitVec.ofNat 23 mantissa).toNat = mantissa := by
    have rest : mantissa % 2 ^ 23 = mantissa - 2 ^ 23 := by omega
    rw [BitVec.toNat_append, BitVec.toNat_ofNat mantissa, rest, ← Nat.shiftLeft_add_eq_or_of_lt (by omega)]
    change 1 <<< 23 + (mantissa - 2 ^ 23) = mantissa
    omega
  rw [pack_normal positive normal upto]
  unfold unpack Float.Model.UnpackedFloat.unpack
  simp only [unpackMantissa_packComponents, unpackExponent_packComponents, unpackSign_packComponents]
  rw [if_neg not_special, if_neg not_subnormal]
  simp only [stored, leading]
  have signed : Sign.ofBitVec sign.toBitVec = sign := by cases sign <;> rfl
  have unbiased : ((exponent + 150).toNat : Int) - (Format.binary32.exponentBias + (23 : Nat)) = exponent := by
    have bias : (Format.binary32.exponentBias : Int) = 127 := by decide
    rw [bias]
    omega
  simp only [signed, unbiased]

/-- Nothing is rounded of a mantissa that has its exponent already. -/
theorem roundWithAccuracy_exact {spec : Format} {sign : Sign} {mantissa : Nat} {exponent : Int}
    (positive : 0 < mantissa) (settled : spec.targetExponent (totalExponent mantissa exponent) = exponent) :
    roundWithAccuracy spec sign mantissa exponent .exact = .finite sign mantissa exponent positive := by
  have unshifted : shiftToTargetExponent spec mantissa exponent .exact =
      (⟨mantissa, false, false⟩, exponent) := by
    unfold shiftToTargetExponent shiftToExponent
    simp only [settled, Int.sub_self, Int.toNat_zero, Nat.cast_zero, Int.add_zero]
    rfl
  have kept : (⟨mantissa, false, false⟩ : ExtendedMantissa).roundedMantissa = mantissa := rfl
  unfold roundWithAccuracy
  simp only [unshifted, kept, dif_neg (Nat.ne_of_gt positive)]

theorem targetExponent_binary32 (total : Int) :
    Format.binary32.targetExponent total = max (total - 24) (-149) := by
  unfold Format.targetExponent Format.minExponent Format.mantissaBits
  norm_num

/-- A number of at most 24 bits, shifted until its leading bit is in front. -/
theorem normalized_log2 {n : Nat} (positive : 0 < n) (exact : n < 2 ^ 24) :
    n.log2 ≤ 23 ∧ (n * 2 ^ (23 - n.log2)).log2 = 23 := by
  have upto : n.log2 ≤ 23 := Nat.le_of_lt_succ ((Nat.log2_lt (by omega)).mpr exact)
  obtain ⟨lower, upper⟩ := (Nat.log2_eq_iff (by omega)).mp (rfl : n.log2 = n.log2)
  refine ⟨upto, (Nat.log2_eq_iff (Nat.mul_pos positive (Nat.two_pow_pos _)).ne').mpr ⟨?_, ?_⟩⟩
  · calc 2 ^ 23 = 2 ^ n.log2 * 2 ^ (23 - n.log2) := by rw [← Nat.pow_add, Nat.add_sub_cancel' upto]
      _ ≤ n * 2 ^ (23 - n.log2) := Nat.mul_le_mul_right _ lower
  · calc n * 2 ^ (23 - n.log2) < 2 ^ (n.log2 + 1) * 2 ^ (23 - n.log2) :=
        Nat.mul_lt_mul_of_pos_right upper (Nat.two_pow_pos _)
      _ = 2 ^ (23 + 1) := by rw [← Nat.pow_add, show n.log2 + 1 + (23 - n.log2) = 23 + 1 by omega]

theorem unpack_natCast {n : Nat} (positive : 0 < n) (exact : n < 2 ^ 24) :
    ∃ shifted, (n : Binary32).unpack = .finite .positive (n * 2 ^ (23 - n.log2)) (n.log2 - 23) shifted := by
  obtain ⟨upto, normal⟩ := normalized_log2 positive exact
  have shifted : 0 < n * 2 ^ (23 - n.log2) := Nat.mul_pos positive (Nat.two_pow_pos _)
  have target : Format.binary32.targetExponent (totalExponent n 0) = n.log2 - 23 := by
    rw [targetExponent_binary32, totalExponent]
    omega
  have settled : Format.binary32.targetExponent (totalExponent (n * 2 ^ (23 - n.log2)) (n.log2 - 23)) =
      n.log2 - 23 := by
    rw [targetExponent_binary32, totalExponent, normal]
    omega
  have rounded : ofNat Format.binary32 n = .finite .positive (n * 2 ^ (23 - n.log2)) (n.log2 - 23) shifted := by
    have above : compare (n : Int) 0 = .gt := Int.compare_eq_gt.mpr (by omega)
    have amount : (0 - ((n.log2 : Int) - 23)).toNat = 23 - n.log2 := by omega
    have reached : (0 : Int) - ((23 - n.log2 : Nat) : Int) = n.log2 - 23 := by omega
    unfold ofNat ofInt UnpackedFloat.normalize UnpackedFloat.round decreaseExponent
    simp only [above, Int.toNat_natCast, target, amount, reached, Nat.shiftLeft_eq]
    exact roundWithAccuracy_exact shifted settled
  refine ⟨shifted, ?_⟩
  change (pack (ofNat Format.binary32 n)).unpack = _
  rw [rounded]
  exact unpack_pack_normal shifted normal (by omega) (by omega)

/-- A number of at most 24 bits is not rounded. -/
theorem natCast_exact {n : Nat} (exact : n < 2 ^ 24) : (n : Binary32).isFinite ∧ (n : Binary32).value = n := by
  rcases Nat.eq_zero_or_pos n with rfl | positive
  · have zeros : ((0 : Nat) : Binary32).unpack = .zero .positive := by rfl
    unfold isFinite value
    rw [zeros]
    exact ⟨rfl, rfl⟩
  · obtain ⟨shifted, unpacked⟩ := unpack_natCast positive exact
    obtain ⟨upto, -⟩ := normalized_log2 positive exact
    unfold isFinite value
    rw [unpacked]
    refine ⟨rfl, ?_⟩
    have split : (2 : ℚ) ^ ((n.log2 : Int) - 23) = (2 ^ (23 - n.log2))⁻¹ := by
      rw [← zpow_natCast, ← zpow_neg]
      congr 1
      omega
    change (((n * 2 ^ (23 - n.log2) : Nat) : Int) : ℚ) * 2 ^ ((n.log2 : Int) - 23) = n
    rw [split, Int.cast_natCast, Nat.cast_mul, Nat.cast_pow, Nat.cast_ofNat]
    exact mul_inv_cancel_right₀ (by positivity) _

example : ((16777217 : Nat) : Binary32) = ((16777216 : Nat) : Binary32) := by decide +kernel

/-- So it survives the conversion there and back. -/
theorem toUnsigned_natCast {width n : Nat} (exact : n < 2 ^ 24) (below : n < 2 ^ width) :
    (n : Binary32).toUnsigned width = some (BitVec.ofNat width n) := by
  obtain ⟨finite, value_eq⟩ := natCast_exact exact
  have converted := @toUnsigned_eq width _ finite (by rw [value_eq]; positivity)
    (by rw [value_eq]; exact_mod_cast below)
  rwa [value_eq, Nat.floor_natCast] at converted

end Binary32

end AsDt1.Lib
