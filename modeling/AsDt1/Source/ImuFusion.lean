import AsDt1.Lib.Lists
import AsDt1.Source.Combiner
import AsDt1.Source.ImuMessage

/-!
# Fusing IMU messages

`PointCloudCombiner` (point_cloud_combiner_node.cpp:81-86, 125-195, 322-341) for
the messages of `m` IMU topics beside the `n` point cloud topics. `K` is the type
of the doubles and `rotate` the product of a cached rotation and a vector.
Warnings are left out.
-/
namespace AsDt1.Source
open AsDt1.Lib

def imuSyncToleranceMs : Nat := 10

/-- The members that the IMU callbacks use besides the point cloud side. -/
abbrev LatestImus (m : Nat) (K : Type) := Fin m → Option (Imu K)

namespace Combiner

variable {n m : Nat} {K T : Type}

/-- The local variable `transform`: cached for the point cloud topic of this number. -/
def cachedTransform (s : Combiner n T) (imuIndex : Nat) : Option T :=
  if listed : imuIndex < n then s.targetTransforms ⟨imuIndex, listed⟩ else none

def transformImuVector (rotate : T → Vec3 K → Vec3 K) (s : Combiner n T) (imuIndex : Nat) (vector : Vec3 K) :
    Option (Vec3 K) :=
  (s.cachedTransform imuIndex).map fun transform => rotate transform vector

/-- The largest stamp, as the loop over the slots computes it. -/
def newestImuStamp (first : Imu K) (imus : List (Imu K)) : Nat :=
  imus.foldl (fun newest imu => if imu.stampNs > newest then imu.stampNs else newest) first.stampNs

/-- `age_ms > IMU_SYNC_TOLERANCE_MS`, exact as for the clouds. -/
def tooOldImu (newest : Nat) (imu : Imu K) : Bool :=
  newest - imu.stampNs > imuSyncToleranceMs * 1000000

variable [Zero K] [One K] [Add K] [Neg K] [Div K] [NatCast K] [LE K] [DecidableLE K]

/-- The loop over the slots from index `i` on; it ends at the first topic without a
cached transform. -/
def sumImus (rotate : T → Vec3 K → Vec3 K) (s : Combiner n T) :
    (i : Nat) → List (Imu K) → Vec3 K → Vec3 K → Option (Vec3 K × Vec3 K)
  | _, [], angularVelocity, linearAcceleration => some (angularVelocity, linearAcceleration)
  | i, imu :: rest, angularVelocity, linearAcceleration => do
    let av ← transformImuVector rotate s i imu.angularVelocity
    let la ← transformImuVector rotate s i imu.linearAcceleration
    sumImus rotate s (i + 1) rest (angularVelocity + av) (linearAcceleration + la)

/-- A known covariance divided by the number of messages; -1 marks an unknown one. -/
def fuseCovariance (covariance : Covariance K) (count : K) : Covariance K :=
  if covariance.get 0 ≥ 0 then covariance.map (· / count) else covariance.set 0 (-1)

/-- `fused` -/
def fusedImu (targetFrame : String) (first : Imu K) (count : K) (angularVelocity linearAcceleration : Vec3 K) :
    Imu K :=
  { first with
    header := { first.header with frameId := targetFrame }
    orientationCovariance := first.orientationCovariance.set 0 (-1)
    angularVelocity := angularVelocity.scaleDown count
    linearAcceleration := linearAcceleration.scaleDown count
    angularVelocityCovariance := fuseCovariance first.angularVelocityCovariance count
    linearAccelerationCovariance := fuseCovariance first.linearAccelerationCovariance count }

/-- The message that is published. There is no publisher without IMU topics. -/
def tryPublishCombinedImu (rotate : T → Vec3 K → Vec3 K) (s : Combiner n T) (latestImus : LatestImus m K) :
    Option (Imu K) :=
  match (List.finRange m).mapM latestImus with
  | none | some [] => none
  | some (first :: rest) =>
    let imus := first :: rest
    if imus.any (tooOldImu (newestImuStamp first imus)) then none
    else do
      let (angularVelocity, linearAcceleration) ← sumImus rotate s 0 imus 0 0
      return fusedImu s.targetFrame first m angularVelocity linearAcceleration

/-- The slots after the call, and the message it publishes. -/
def onImu (rotate : T → Vec3 K → Vec3 K) (s : Combiner n T) (latestImus : LatestImus m K) (index : Fin m)
    (msg : Imu K) : LatestImus m K × Option (Imu K) :=
  let latestImus := Function.update latestImus index (some msg)
  (latestImus, tryPublishCombinedImu rotate s latestImus)

/-- What a round that publishes went through. -/
theorem tryPublishCombinedImu_spec {rotate : T → Vec3 K → Vec3 K} {s : Combiner n T}
    {latestImus : LatestImus m K}
    {fused : Imu K} (published : tryPublishCombinedImu rotate s latestImus = some fused) :
    ∃ (imus : Fin m → Imu K) (positive : 0 < m) (angularVelocity linearAcceleration : Vec3 K),
      (∀ i, latestImus i = some (imus i)) ∧
      (List.ofFn imus).any (tooOldImu (newestImuStamp (imus ⟨0, positive⟩) (List.ofFn imus))) = false ∧
      sumImus rotate s 0 (List.ofFn imus) 0 0 = some (angularVelocity, linearAcceleration) ∧
      fused = fusedImu s.targetFrame (imus ⟨0, positive⟩) m angularVelocity linearAcceleration := by
  unfold tryPublishCombinedImu at published
  split at published
  · cases published
  · cases published
  · next first rest filled =>
    obtain ⟨imus, in_slots, all_imus⟩ := mapM_finRange_eq_some_iff.mp filled
    have sized := congrArg List.length all_imus
    rw [List.length_ofFn, List.length_cons] at sized
    have positive : 0 < m := by omega
    have first_imu : first = imus ⟨0, positive⟩ := by
      have heads := congrArg (·[0]?) all_imus
      simpa [positive] using heads
    subst first_imu
    simp only at published
    cases recent : (imus ⟨0, positive⟩ :: rest).any
        (tooOldImu (newestImuStamp (imus ⟨0, positive⟩) (imus ⟨0, positive⟩ :: rest))) with
    | true =>
      rw [if_pos recent] at published
      cases published
    | false =>
      rw [recent] at published
      obtain ⟨⟨angularVelocity, linearAcceleration⟩, summed, ends⟩ := Option.bind_eq_some_iff.mp published
      rw [all_imus] at recent summed
      exact ⟨imus, positive, angularVelocity, linearAcceleration, in_slots, recent, summed,
        (Option.some.inj ends).symm⟩

end Combiner

/-! ## The sums -/

namespace Combiner

variable {n m : Nat} {K T : Type} [Add K] {s : Combiner n T}

/-- Every summand is rotated by the cache of its number. -/
theorem sumImus_eq {rotate : T → Vec3 K → Vec3 K} {i : Nat} {imus : Fin m → Imu K}
    {av la av' la' : Vec3 K} (summed : sumImus rotate s i (List.ofFn imus) av la = some (av', la')) :
    ∃ transforms : Fin m → T, (∀ k : Fin m, s.cachedTransform (i + k) = some (transforms k)) ∧
      av' = (List.ofFn fun k => rotate (transforms k) (imus k).angularVelocity).foldl (· + ·) av ∧
      la' = (List.ofFn fun k => rotate (transforms k) (imus k).linearAcceleration).foldl (· + ·) la := by
  induction m generalizing i av la with
  | zero =>
    cases summed
    exact ⟨Fin.elim0, fun k => k.elim0, rfl, rfl⟩
  | succ m ih =>
    rw [List.ofFn_succ] at summed
    obtain ⟨a, rotated, summed⟩ := Option.bind_eq_some_iff.mp summed
    obtain ⟨l, rotated', summed⟩ := Option.bind_eq_some_iff.mp summed
    obtain ⟨transform, cached, rfl⟩ := Option.map_eq_some_iff.mp rotated
    obtain ⟨transform', cached', rfl⟩ := Option.map_eq_some_iff.mp rotated'
    obtain rfl : transform = transform' := Option.some.inj (cached.symm.trans cached')
    obtain ⟨transforms, all_cached, sum_av, sum_la⟩ := ih summed
    refine ⟨Fin.cons transform transforms, fun k => ?_, ?_, ?_⟩
    · refine Fin.cases cached (fun k => ?_) k
      rw [Fin.cons_succ, ← all_cached k, Fin.val_succ]
      congr 1
      omega
    · rw [sum_av, List.ofFn_succ, List.foldl_cons]
      rfl
    · rw [sum_la, List.ofFn_succ, List.foldl_cons]
      rfl

/-- Where every transform is cached, the loop runs through. -/
theorem sumImus_cached {rotate : T → Vec3 K → Vec3 K} {i : Nat} {imus : Fin m → Imu K} {transforms : Fin m → T}
    (cached : ∀ k : Fin m, s.cachedTransform (i + k) = some (transforms k)) (av la : Vec3 K) :
    sumImus rotate s i (List.ofFn imus) av la =
      some ((List.ofFn fun k => rotate (transforms k) (imus k).angularVelocity).foldl (· + ·) av,
        (List.ofFn fun k => rotate (transforms k) (imus k).linearAcceleration).foldl (· + ·) la) := by
  induction m generalizing i av la with
  | zero => rfl
  | succ m ih =>
    have first := cached 0
    rw [Fin.val_zero, Nat.add_zero] at first
    have rest : ∀ k : Fin m, s.cachedTransform (i + 1 + k) = some (transforms k.succ) := by
      intro k
      rw [← cached k.succ, Fin.val_succ, Nat.add_assoc, Nat.add_comm 1]
    simp only [List.ofFn_succ, sumImus, transformImuVector, first, List.foldl_cons]
    exact ih rest _ _

end Combiner
end AsDt1.Source
