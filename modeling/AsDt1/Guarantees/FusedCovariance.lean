import AsDt1.Lib.Covariance
import AsDt1.Source.ImuFusion

/-!
# Covariances of the fused IMU messages

A fused message averages the rotated vectors of all the messages, and takes its
covariances from the first message alone, divided by the number of messages. That is
the covariance of the averages exactly when the rotated covariances add up to that
many times the first, as those of the driver's own messages always do.
-/
namespace AsDt1.Guarantees
open AsDt1.Lib AsDt1.Source AsDt1.Source.Combiner Matrix

/-- The two vectors that are fused. -/
inductive Measured where
  | angularVelocity
  | linearAcceleration
  deriving DecidableEq, Repr

variable {n m : Nat} {K T : Type}

namespace Measured

def vector : Measured → Imu K → Vec3 K
  | angularVelocity => Imu.angularVelocity
  | linearAcceleration => Imu.linearAcceleration

def covariance : Measured → Imu K → Covariance K
  | angularVelocity => Imu.angularVelocityCovariance
  | linearAcceleration => Imu.linearAccelerationCovariance

end Measured

def coordinates (v : Vec3 K) : Fin 3 → K := ![v.x, v.y, v.z]

/-- `transform->rotation * source` -/
def rotateBy [NonUnitalNonAssocSemiring K] (rotation : T → Matrix (Fin 3) (Fin 3) K) (transform : T)
    (source : Vec3 K) : Vec3 K :=
  let rotated := rotation transform *ᵥ coordinates source
  ⟨rotated 0, rotated 1, rotated 2⟩

/-- The row-major matrix. -/
def rowMajor (covariance : Covariance K) : Matrix (Fin 3) (Fin 3) K :=
  of fun row column => covariance.get ⟨3 * row + column, by omega⟩

/-- A covariance that is not marked as unknown: `covariance[0] >= 0.0`. -/
def Available [Zero K] [LE K] (covariance : Covariance K) : Prop := covariance.head ≥ 0

/-! ## The averages -/

variable [Field K]

theorem coordinates_add (v w : Vec3 K) : coordinates (v + w) = coordinates v + coordinates w := by
  ext a
  fin_cases a <;> rfl

theorem coordinates_zero : coordinates (0 : Vec3 K) = 0 := by
  ext a
  fin_cases a <;> rfl

theorem coordinates_scaleDown (v : Vec3 K) (count : K) :
    coordinates (v.scaleDown count) = count⁻¹ • coordinates v := by
  ext a
  fin_cases a <;> exact div_eq_inv_mul _ _

theorem coordinates_rotateBy (rotation : T → Matrix (Fin 3) (Fin 3) K) (transform : T) (v : Vec3 K) :
    coordinates (rotateBy rotation transform v) = rotation transform *ᵥ coordinates v := by
  ext a
  fin_cases a <;> rfl

theorem coordinates_foldl (f : Fin m → Vec3 K) (start : Vec3 K) :
    coordinates ((List.ofFn f).foldl (· + ·) start) = coordinates start + ∑ k, coordinates (f k) := by
  induction m generalizing start with
  | zero => simp
  | succ m ih => rw [List.ofFn_succ, List.foldl_cons, ih, coordinates_add, Fin.sum_univ_succ, add_assoc]

variable {rotation : T → Matrix (Fin 3) (Fin 3) K} {s : Combiner n T} {transforms : Fin m → T}

/-- What a round publishes of either vector. -/
theorem fused_measured [LinearOrder K] {imus : Fin m → Imu K} {fused : Imu K}
    (cached : ∀ i : Fin m, s.cachedTransform i = some (transforms i))
    (published : tryPublishCombinedImu (rotateBy rotation) s (fun i => some (imus i)) = some fused)
    (positive : 0 < m) (q : Measured) :
    coordinates (q.vector fused) =
        mappedAverage (fun i => rotation (transforms i)) (fun i => coordinates (q.vector (imus i))) ∧
      q.covariance fused = fuseCovariance (q.covariance (imus ⟨0, positive⟩)) (m : K) := by
  obtain ⟨imus', _, av, la, in_slots, -, summed, rfl⟩ := tryPublishCombinedImu_spec published
  obtain rfl : imus = imus' := funext fun i => Option.some.inj (in_slots i)
  have from_zero : ∀ k : Fin m, s.cachedTransform (0 + k) = some (transforms k) := by
    intro k
    rw [Nat.zero_add]
    exact cached k
  obtain ⟨rfl, rfl⟩ := Prod.mk.inj (Option.some.inj (summed.symm.trans (sumImus_cached from_zero 0 0)))
  have average : ∀ f : Fin m → Vec3 K,
      coordinates
          (((List.ofFn fun k => rotateBy rotation (transforms k) (f k)).foldl (· + ·) 0).scaleDown (m : K)) =
        mappedAverage (fun i => rotation (transforms i)) (fun i => coordinates (f i)) := by
    intro f
    rw [coordinates_scaleDown, coordinates_foldl, coordinates_zero, zero_add]
    simp only [coordinates_rotateBy]
    rfl
  cases q with
  | angularVelocity => exact ⟨average _, rfl⟩
  | linearAcceleration => exact ⟨average _, rfl⟩

/-- Of messages with independent errors the published average has this covariance. -/
theorem published_average_covariance {Ω : Type} [MeasurableSpace Ω] {μ : MeasureTheory.Measure Ω}
    [MeasureTheory.IsProbabilityMeasure μ] {rotation : T → Matrix (Fin 3) (Fin 3) ℝ} {imus : Ω → Fin m → Imu ℝ}
    {fused : Ω → Imu ℝ} (cached : ∀ i : Fin m, s.cachedTransform i = some (transforms i))
    (published : ∀ ω, tryPublishCombinedImu (rotateBy rotation) s (fun i => some (imus ω i)) = some (fused ω))
    (positive : 0 < m) (q : Measured)
    (integrable : ∀ i a, MeasureTheory.MemLp (fun ω => coordinates (q.vector (imus ω i)) a) 2 μ)
    (independent : Pairwise fun i j => ProbabilityTheory.IndepFun (fun ω => coordinates (q.vector (imus ω i)))
      (fun ω => coordinates (q.vector (imus ω j))) μ) :
    covarianceMatrix μ (fun ω => coordinates (q.vector (fused ω))) =
      averageCovariance (fun i => rotation (transforms i))
        (fun i => covarianceMatrix μ fun ω => coordinates (q.vector (imus ω i))) := by
  rw [← covarianceMatrix_mappedAverage _ integrable independent]
  congr 1
  funext ω
  exact (fused_measured cached (published ω) positive q).1

/-! ## The covariances -/

theorem rowMajor_map_div (covariance : Covariance K) (count : K) :
    rowMajor (covariance.map (· / count)) = count⁻¹ • rowMajor covariance := by
  ext row column
  simp [rowMajor, div_eq_inv_mul]

theorem rowMajor_isotropic (variance : K) : rowMajor (isotropic variance) = variance • 1 := by
  ext row column
  fin_cases row <;> fin_cases column <;> simp [rowMajor, isotropic, List.Vector.get]

/-- The variance that the driver states. -/
def Measured.variance : Measured → K
  | angularVelocity => (643051 : Nat) / (100000000000 : Nat)
  | linearAcceleration => (325895 : Nat) / (100000000000 : Nat)

theorem driver_covariance (stampOf : BitVec 64 → Time) (frame : String) (timestamp : BitVec 64)
    (gyro accel : Vec3 K) (q : Measured) :
    rowMajor (q.covariance (imuMessage stampOf frame timestamp gyro accel)) = (q.variance : K) • 1 := by
  cases q with
  | angularVelocity => exact rowMajor_isotropic _
  | linearAcceleration => exact rowMajor_isotropic _

def driverMessage (gyro : Vec3 K) : Imu K :=
  imuMessage (fun _ => ⟨100, 0⟩) "asdt1_optical" 0 gyro 0

theorem driverMessage_covariance (gyro : Vec3 K) (q : Measured) :
    rowMajor (q.covariance (driverMessage gyro)) = (q.variance : K) • 1 := driver_covariance _ _ _ _ _ q

variable [LinearOrder K]

theorem available_iff {covariance : Covariance K} : Available covariance ↔ covariance.get 0 ≥ 0 := by
  unfold Available
  rw [List.Vector.get_zero]

theorem fuseCovariance_unknown {covariance : Covariance K} (unknown : ¬ Available covariance) (count : K) :
    (fuseCovariance covariance count).get 0 = -1 := by
  have marked : fuseCovariance covariance count = covariance.set 0 (-1) :=
    if_neg (mt available_iff.mpr unknown)
  rw [marked, List.Vector.get_set_same]

theorem fuseCovariance_known {covariance : Covariance K} (known : Available covariance) (count : K) :
    fuseCovariance covariance count = covariance.map (· / count) := if_pos (available_iff.mp known)

/-- Dividing the first of the matrices by their number gives the covariance of the
average if and only if they add up to that many times the first. -/
theorem first_divided_iff [IsStrictOrderedRing K] (positive : 0 < m)
    (maps covariances : Fin m → Matrix (Fin 3) (Fin 3) K) (first : Matrix (Fin 3) (Fin 3) K) :
    (m : K)⁻¹ • first = averageCovariance maps covariances ↔
      ∑ i, maps i * covariances i * (maps i)ᵀ = (m : K) • first := by
  have nonzero : (m : K) ≠ 0 := Nat.cast_ne_zero.mpr positive.ne'
  unfold averageCovariance
  rw [eq_inv_smul_iff₀ (pow_ne_zero 2 nonzero), smul_smul, pow_two, mul_assoc, mul_inv_cancel₀ nonzero, mul_one,
    eq_comm]

/-- The first message's covariance is unknown exactly when that of the fused message
is; otherwise it is divided by the number of messages, and that is the covariance of
the published average if and only if the rotated covariances add up to that many
times the first. They do when all are the same multiple of the identity. -/
theorem fused_covariance [IsStrictOrderedRing K] {imus : Fin m → Imu K} {fused : Imu K}
    (cached : ∀ i : Fin m, s.cachedTransform i = some (transforms i))
    (published : tryPublishCombinedImu (rotateBy rotation) s (fun i => some (imus i)) = some fused)
    (positive : 0 < m) (q : Measured) :
    let first := q.covariance (imus ⟨0, positive⟩)
    let rotations := fun i => rotation (transforms i)
    let covariances := fun i => rowMajor (q.covariance (imus i))
    (¬ Available first → (q.covariance fused).get 0 = -1) ∧
    (Available first → Available (q.covariance fused) ∧
      rowMajor (q.covariance fused) = (m : K)⁻¹ • rowMajor first ∧
      (rowMajor (q.covariance fused) = averageCovariance rotations covariances ↔
        ∑ i, rotations i * covariances i * (rotations i)ᵀ = (m : K) • rowMajor first)) ∧
    ∀ variance : K, 0 ≤ variance → (∀ i, covariances i = variance • 1) →
      (∀ i, rotations i * (rotations i)ᵀ = 1) →
      rowMajor (q.covariance fused) = averageCovariance rotations covariances := by
  intro first rotations covariances
  have taken : q.covariance fused = fuseCovariance first (m : K) := (fused_measured cached published positive q).2
  have divided : Available first → rowMajor (q.covariance fused) = (m : K)⁻¹ • rowMajor first := by
    intro known
    rw [taken, fuseCovariance_known known, rowMajor_map_div]
  refine ⟨fun unknown => ?_, fun known => ⟨?_, divided known, ?_⟩, ?_⟩
  · rw [taken]
    exact fuseCovariance_unknown unknown _
  · rw [taken, fuseCovariance_known known]
    rw [available_iff, List.Vector.get_map]
    exact div_nonneg (available_iff.mp known) (Nat.cast_nonneg m)
  · rw [divided known]
    exact first_divided_iff positive rotations covariances _
  · intro variance nonneg same orthogonal
    have first_same : rowMajor first = variance • 1 := same ⟨0, positive⟩
    have known : Available first := by
      have corner : first.get 0 = variance := by simpa [rowMajor] using congrFun (congrFun first_same 0) 0
      rw [available_iff, corner]
      exact nonneg
    rw [divided known]
    refine (first_divided_iff positive rotations covariances _).mpr ?_
    simp [same, orthogonal, first_same, Nat.cast_smul_eq_nsmul]

/-- Two messages with one stamp are fused. -/
theorem exists_published (rotation : T → Matrix (Fin 3) (Fin 3) K) {first second : Imu K} {transforms : Fin 2 → T}
    (cached : ∀ i : Fin 2, s.cachedTransform i = some (transforms i))
    (together : first.stampNs = second.stampNs) :
    ∃ fused, tryPublishCombinedImu (rotateBy rotation) s (fun i => some (![first, second] i)) = some fused := by
  have from_zero : ∀ k : Fin 2, s.cachedTransform (0 + k) = some (transforms k) := by
    intro k
    rw [Nat.zero_add]
    exact cached k
  obtain ⟨⟨av, la⟩, summed⟩ :
      ∃ sums, sumImus (rotateBy rotation) s 0 (List.ofFn ![first, second]) 0 0 = some sums :=
    ⟨_, sumImus_cached from_zero 0 0⟩
  refine ⟨fusedImu s.targetFrame first (2 : Nat) av la, ?_⟩
  have newest : newestImuStamp first [first, second] = second.stampNs := by
    simp [newestImuStamp, together]
  have in_time : ∀ imu : Imu K, imu.stampNs = second.stampNs → tooOldImu second.stampNs imu = false := by
    intro imu same
    unfold tooOldImu
    rw [same, Nat.sub_self]
    exact decide_eq_false (Nat.not_lt_zero _)
  have recent : [first, second].any (tooOldImu (newestImuStamp first [first, second])) = false := by
    simp [newest, in_time, together]
  have listed : (List.finRange 2).mapM (fun i => some (![first, second] i)) = some [first, second] :=
    mapM_finRange_eq_some_iff.mpr ⟨![first, second], fun _ => rfl, rfl⟩
  unfold tryPublishCombinedImu
  rw [listed]
  simp only [recent, Bool.false_eq_true, if_false]
  rw [show [first, second] = List.ofFn ![first, second] from rfl, summed]
  rfl

/-! ## Two cameras -/

/-- A combiner that has cached both transforms. -/
def mountedPair (front rear : T) : Combiner 2 T where
  targetFrame := "base_link"
  targetTransforms i := some (![front, rear] i)
  latestClouds _ := none

theorem mountedPair_cached (front rear : T) (i : Fin 2) :
    (mountedPair front rear).cachedTransform i = some (![front, rear] i) := by
  unfold cachedTransform
  rw [dif_pos i.isLt]
  rfl

/-- The messages of two drivers, the second camera upside down. -/
theorem driver_pair_covariance :
    ∃ fused : Imu ℚ, tryPublishCombinedImu (rotateBy id) (mountedPair 1 (diagonal ![1, -1, -1]))
        (fun i => some (![driverMessage ⟨1, 0, 0⟩, driverMessage ⟨0, 1, 0⟩] i)) = some fused ∧
      rowMajor fused.angularVelocityCovariance =
        averageCovariance (fun i => ![1, diagonal ![1, -1, -1]] i)
          (fun i => rowMajor (![driverMessage ⟨1, 0, 0⟩, driverMessage ⟨0, 1, 0⟩] i).angularVelocityCovariance) := by
  obtain ⟨fused, published⟩ := exists_published id (mountedPair_cached _ _)
    (show (driverMessage (⟨1, 0, 0⟩ : Vec3 ℚ)).stampNs = (driverMessage ⟨0, 1, 0⟩).stampNs from rfl)
  refine ⟨fused, published, ?_⟩
  refine (fused_covariance (mountedPair_cached _ _) published (by decide) .angularVelocity).2.2
    (Measured.variance .angularVelocity) (by unfold Measured.variance; norm_num) ?_ ?_
  · intro i
    fin_cases i
    · exact driverMessage_covariance ⟨1, 0, 0⟩ .angularVelocity
    · exact driverMessage_covariance ⟨0, 1, 0⟩ .angularVelocity
  · intro i
    fin_cases i
    all_goals simp [diagonal_mul_diagonal]
    ext row
    fin_cases row <;> simp

noncomputable def statingVariance (variance : ℝ) : Imu ℝ :=
  { driverMessage 0 with angularVelocityCovariance := isotropic variance }

theorem statingVariance_covariance (variance : ℝ) :
    rowMajor (Measured.angularVelocity.covariance (statingVariance variance)) = variance • 1 :=
  rowMajor_isotropic variance

/-- The second of two messages is the less accurate. -/
theorem second_covariance_ignored :
    ¬ ∀ (n m : ℕ) (s : Combiner n (specialOrthogonalGroup (Fin 3) ℝ)) (imus : Fin m → Imu ℝ)
      (transforms : Fin m → specialOrthogonalGroup (Fin 3) ℝ) (fused : Imu ℝ) (q : Measured),
      (∀ i : Fin m, s.cachedTransform i = some (transforms i)) →
      (∀ i, (rowMajor (q.covariance (imus i))).PosSemidef) →
      tryPublishCombinedImu (rotateBy Subtype.val) s (fun i => some (imus i)) = some fused →
      rowMajor (q.covariance fused) =
        averageCovariance (fun i => (transforms i).val) (fun i => rowMajor (q.covariance (imus i))) := by
  intro always
  obtain ⟨fused, published⟩ := exists_published Subtype.val
    (mountedPair_cached (1 : specialOrthogonalGroup (Fin 3) ℝ) 1)
    (show (statingVariance 1).stampNs = (statingVariance 3).stampNs from rfl)
  have valid : ∀ i, (rowMajor
      (Measured.angularVelocity.covariance (![statingVariance 1, statingVariance 3] i))).PosSemidef := by
    intro i
    fin_cases i
    · exact statingVariance_covariance 1 ▸ PosSemidef.one.smul (by norm_num)
    · exact statingVariance_covariance 3 ▸ PosSemidef.one.smul (by norm_num)
  have equal := always 2 2 _ _ _ fused .angularVelocity (mountedPair_cached _ _) valid published
  have known : Available (Measured.angularVelocity.covariance (statingVariance 1)) :=
    available_iff.mpr zero_le_one
  have taken : Measured.angularVelocity.covariance fused =
      fuseCovariance (Measured.angularVelocity.covariance (statingVariance 1)) (2 : Nat) :=
    (fused_measured (mountedPair_cached _ _) published two_pos .angularVelocity).2
  rw [taken, fuseCovariance_known known, rowMajor_map_div, first_divided_iff (by decide)] at equal
  have corner := congrFun (congrFun equal 0) 0
  simp [statingVariance_covariance] at corner
  norm_num at corner

end AsDt1.Guarantees
