import Mathlib

/-!
# Covariance matrices

Of random vectors that are mapped linearly, and of the average of several
independent ones. The covariance of the average is stated over any field, so that
exact computations can be compared with it.
-/
namespace AsDt1.Lib
open MeasureTheory ProbabilityTheory Matrix

variable {Ω ι : Type} {n : Nat} [MeasurableSpace Ω] {μ : Measure Ω}

noncomputable def covarianceMatrix (μ : Measure Ω) (X : Ω → ι → ℝ) : Matrix ι ι ℝ :=
  of fun a b => cov[fun ω => X ω a, fun ω => X ω b; μ]

theorem covarianceMatrix_smul (c : ℝ) (X : Ω → ι → ℝ) :
    covarianceMatrix μ (fun ω => c • X ω) = c ^ 2 • covarianceMatrix μ X := by
  ext a b
  simp only [covarianceMatrix, of_apply, Matrix.smul_apply, Pi.smul_apply, smul_eq_mul, covariance_const_mul_left,
    covariance_const_mul_right]
  ring

/-- The covariances of uncorrelated vectors add up. -/
theorem covarianceMatrix_sum [IsFiniteMeasure μ] {X : Fin n → Ω → ι → ℝ}
    (integrable : ∀ i a, MemLp (fun ω => X i ω a) 2 μ)
    (uncorrelated : ∀ i j a b, i ≠ j → cov[fun ω => X i ω a, fun ω => X j ω b; μ] = 0) :
    covarianceMatrix μ (fun ω => ∑ i, X i ω) = ∑ i, covarianceMatrix μ (X i) := by
  ext a b
  simp only [covarianceMatrix, of_apply, Finset.sum_apply, Matrix.sum_apply]
  rw [covariance_fun_sum_fun_sum (fun i => integrable i a) (fun i => integrable i b)]
  refine Finset.sum_congr rfl fun i _ => ?_
  rw [Finset.sum_eq_single i (fun j _ other => uncorrelated i j a b other.symm) (by simp)]

variable [Fintype ι]

theorem covarianceMatrix_mulVec [IsFiniteMeasure μ] (map : Matrix ι ι ℝ) {X : Ω → ι → ℝ}
    (integrable : ∀ a, MemLp (fun ω => X ω a) 2 μ) :
    covarianceMatrix μ (fun ω => map *ᵥ X ω) = map * covarianceMatrix μ X * mapᵀ := by
  ext a b
  have scaled : ∀ d c, MemLp (fun ω => map d c * X ω c) 2 μ := fun d c => (integrable c).const_mul _
  simp only [covarianceMatrix, of_apply, mulVec, dotProduct]
  rw [covariance_fun_sum_fun_sum (scaled a) (scaled b)]
  simp only [covariance_const_mul_left, covariance_const_mul_right, mul_apply, of_apply, transpose_apply,
    Finset.sum_mul]
  rw [Finset.sum_comm]
  refine Finset.sum_congr rfl fun c _ => Finset.sum_congr rfl fun d _ => ?_
  ring

/-- The average of mapped vectors. -/
def mappedAverage {K : Type} [Field K] (maps : Fin n → Matrix ι ι K) (vectors : Fin n → ι → K) : ι → K :=
  (n : K)⁻¹ • ∑ i, maps i *ᵥ vectors i

/-- The covariance that independent errors give to the average of the mapped vectors. -/
def averageCovariance {K : Type} [Field K] (maps covariances : Fin n → Matrix ι ι K) : Matrix ι ι K :=
  ((n : K) ^ 2)⁻¹ • ∑ i, maps i * covariances i * (maps i)ᵀ

theorem covarianceMatrix_mappedAverage [IsProbabilityMeasure μ] (maps : Fin n → Matrix ι ι ℝ)
    {X : Fin n → Ω → ι → ℝ} (integrable : ∀ i a, MemLp (fun ω => X i ω a) 2 μ)
    (independent : Pairwise fun i j => IndepFun (X i) (X j) μ) :
    covarianceMatrix μ (fun ω => mappedAverage maps fun i => X i ω) =
      averageCovariance maps fun i => covarianceMatrix μ (X i) := by
  have mapped : ∀ i a, MemLp (fun ω => (maps i *ᵥ X i ω) a) 2 μ := by
    intro i a
    exact memLp_finsetSum _ fun c _ => (integrable i c).const_mul _
  have uncorrelated : ∀ i j a b, i ≠ j →
      cov[fun ω => (maps i *ᵥ X i ω) a, fun ω => (maps j *ᵥ X j ω) b; μ] = 0 := by
    intro i j a b other
    have measurable : ∀ i a, Measurable fun v : ι → ℝ => (maps i *ᵥ v) a := by
      intro i a
      simp only [mulVec, dotProduct]
      fun_prop
    have apart := (independent other).comp (measurable i a) (measurable j b)
    exact apart.covariance_eq_zero (mapped i a) (mapped j b)
  unfold mappedAverage averageCovariance
  rw [covarianceMatrix_smul, covarianceMatrix_sum mapped uncorrelated, inv_pow]
  simp only [covarianceMatrix_mulVec _ (integrable _)]

end AsDt1.Lib
