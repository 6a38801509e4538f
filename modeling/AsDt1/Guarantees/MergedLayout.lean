import AsDt1.Guarantees.MergedPointTime

/-!
# The layout of a combined cloud

`build_combined_cloud` counts the points of its inputs by width and height and
appends their data whole. The two agree where no input pads its rows; the octets
of a padding shift all points behind it.
-/
namespace AsDt1.Guarantees
open AsDt1.Lib AsDt1.Source AsDt1.Source.Combiner

/-- A message whose data is its rows, each with room for its points. -/
structure ValidRows (cloud : PointCloud2) : Prop where
  sized : cloud.data.length = cloud.rowStep.toNat * cloud.height.toNat
  wide : cloud.width.toNat * cloud.pointStep.toNat ≤ cloud.rowStep.toNat

/-- The octets of each point, row by row. -/
def rowPoints (cloud : PointCloud2) : List Octets :=
  (List.range cloud.height.toNat).flatMap fun r => (List.range cloud.width.toNat).map fun c =>
    window cloud.data (r * cloud.rowStep.toNat + c * cloud.pointStep.toNat) cloud.pointStep.toNat

/-- The clouds with the layout of the first, their points end to end in one row. -/
structure Concatenates (clouds : List PointCloud2) (out : PointCloud2) : Prop where
  layout : ∀ base ∈ clouds.head?, out.fields = base.fields ∧ out.pointStep = base.pointStep
  height : out.height = 1
  width : out.width.toNat = ((merged clouds).map PointCloud2.pointCount).sum
  rowStep : out.rowStep.toNat = out.width.toNat * out.pointStep.toNat
  sized : out.data.length = out.rowStep.toNat
  points : rowPoints out = (merged clouds).flatMap rowPoints

/-- No octets follow the points of a row. -/
def Unpadded (cloud : PointCloud2) : Prop :=
  cloud.height = 0 ∨ cloud.rowStep.toNat = cloud.width.toNat * cloud.pointStep.toNat

/-! ## One cloud -/

theorem flatMap_rows {α : Type} (f : Nat → α) (rows cols : Nat) :
    ((List.range rows).flatMap fun r => (List.range cols).map fun c => f (r * cols + c)) =
      (List.range (rows * cols)).map f := by
  induction rows with
  | zero => simp
  | succ rows ih =>
    rw [List.range_succ, List.flatMap_append, ih, List.flatMap_singleton, Nat.succ_mul, List.range_add,
      List.map_append, List.map_map]
    rfl

section Cloud

variable {cloud : PointCloud2}

theorem points_fit (valid : ValidRows cloud) : cloud.pointCount * cloud.pointStep.toNat ≤ cloud.data.length := by
  rw [valid.sized, PointCloud2.pointCount, Nat.mul_right_comm]
  exact Nat.mul_le_mul_right _ valid.wide

/-- The data is as large as the points exactly if there is no padding. -/
theorem unpadded_iff (valid : ValidRows cloud) :
    Unpadded cloud ↔ cloud.data.length = cloud.pointCount * cloud.pointStep.toNat := by
  have no_rows : cloud.height = 0 ↔ cloud.height.toNat = 0 := by
    rw [← BitVec.toNat_inj]
    rfl
  unfold Unpadded
  rw [no_rows, valid.sized, PointCloud2.pointCount, Nat.mul_right_comm]
  rcases Nat.eq_zero_or_pos cloud.height.toNat with none_there | some_row
  · simp [none_there]
  · rw [Nat.mul_left_inj (by omega)]
    omega

/-- The points of a cloud without padding are its records. -/
theorem rowPoints_eq_points (valid : ValidRows cloud) (positive : 0 < cloud.pointStep.toNat)
    (unpadded : Unpadded cloud) : rowPoints cloud = cloud.points := by
  have whole := (unpadded_iff valid).mp unpadded
  unfold rowPoints PointCloud2.points records
  rw [whole, Nat.mul_div_cancel _ positive, PointCloud2.pointCount]
  rcases unpadded with no_rows | stride
  · rw [no_rows]
    simp
  · rw [Nat.mul_comm cloud.width.toNat, ← flatMap_rows]
    simp only [stride, Nat.add_mul, Nat.mul_assoc]
    rfl

end Cloud

/-! ## The loops -/

/-- The first loop counts the points of the merged clouds. -/
theorem totalPoints_eq (base : PointCloud2) (rest : List PointCloud2) :
    totalPoints base (base :: rest) = ((merged (base :: rest)).map PointCloud2.pointCount).sum % 2 ^ 64 := by
  have counted (clouds : List PointCloud2) (total : Nat) :
      clouds.foldl (fun total cloud => (total + cloud.pointCount) % 2 ^ 64) (total % 2 ^ 64) =
        (total + (clouds.map PointCloud2.pointCount).sum) % 2 ^ 64 := by
    induction clouds generalizing total with
    | nil => simp
    | cons cloud rest ih =>
      rw [List.foldl_cons, Nat.mod_add_mod, ih, List.map_cons, List.sum_cons, Nat.add_assoc]
  have from_zero := counted (merged (base :: rest)) 0
  rw [Nat.zero_mod, Nat.zero_add] at from_zero
  unfold totalPoints
  rw [← from_zero, merged_cons, List.foldl_filter]

theorem foldl_appendCloud_shape (clouds : List PointCloud2) (out : PointCloud2) :
    (clouds.foldl appendCloud out).height = out.height ∧ (clouds.foldl appendCloud out).width = out.width ∧
      (clouds.foldl appendCloud out).rowStep = out.rowStep := by
  induction clouds generalizing out with
  | nil => exact ⟨rfl, rfl, rfl⟩
  | cons cloud rest ih => exact ih (appendCloud out cloud)

theorem buildCombinedCloud_shape {targetFrame : String} {base out : PointCloud2} {rest : List PointCloud2}
    (built : buildCombinedCloud targetFrame (base :: rest) = some out) :
    out.height = 1 ∧ out.width = BitVec.ofNat 32 (totalPoints base (base :: rest)) ∧
      out.rowStep = base.pointStep * out.width ∧ out.data ≠ [] := by
  simp only [buildCombinedCloud, Option.ite_none_left_eq_some, Option.some.injEq] at built
  obtain ⟨-, some_data, same⟩ := built
  rw [← List.foldl_filter, ← merged_cons] at some_data same
  obtain ⟨height, width, row_step⟩ := foldl_appendCloud_shape (merged (base :: rest))
    (emptyCombined targetFrame base (totalPoints base (base :: rest)))
  rw [same] at height width row_step some_data
  refine ⟨height, width, ?_, ?_⟩
  · rw [row_step, width]
    rfl
  · simpa using some_data

/-! ## The combined cloud -/

theorem sum_points_mul (clouds : List PointCloud2) {step : Nat}
    (layout : ∀ cloud ∈ clouds, cloud.pointStep.toNat = step) :
    (clouds.map fun cloud => cloud.pointCount * cloud.pointStep.toNat).sum =
      (clouds.map PointCloud2.pointCount).sum * step := by
  induction clouds with
  | nil => simp
  | cons cloud rest ih =>
    rw [List.map_cons, List.sum_cons, ih fun other listed => layout other (List.mem_cons_of_mem _ listed),
      layout cloud List.mem_cons_self, List.map_cons, List.sum_cons, Nat.add_mul]

/-- The data of clouds with valid rows is as large as their points together exactly
if no row is padded. -/
theorem sum_sizes_eq_iff {clouds : List PointCloud2} (valid : ∀ cloud ∈ clouds, ValidRows cloud) :
    (clouds.map fun cloud => cloud.data.length).sum =
        (clouds.map fun cloud => cloud.pointCount * cloud.pointStep.toNat).sum ↔
      ∀ cloud ∈ clouds, Unpadded cloud := by
  constructor
  · intro same cloud listed
    rw [unpadded_iff (valid cloud listed)]
    by_contra padded
    have fits := points_fit (valid cloud listed)
    have smaller := List.sum_lt_sum (l := clouds) (fun cloud => cloud.pointCount * cloud.pointStep.toNat)
      (fun cloud => cloud.data.length) (fun other among => points_fit (valid other among))
      ⟨cloud, listed, by omega⟩
    omega
  · intro unpadded
    congr 1
    apply List.map_congr_left
    intro cloud listed
    exact (unpadded_iff (valid cloud listed)).mp (unpadded cloud listed)

/-- The combined cloud is the concatenation of the merged clouds if and only if
none of them has padded rows. -/
theorem combined_concatenates_iff {targetFrame : String} {clouds : List PointCloud2} {out : PointCloud2}
    (valid : ∀ cloud ∈ clouds, ValidRows cloud)
    (small : (clouds.map fun cloud => cloud.data.length).sum < 2 ^ 32)
    (built : buildCombinedCloud targetFrame clouds = some out) :
    Concatenates clouds out ↔ ∀ cloud ∈ merged clouds, Unpadded cloud := by
  obtain ⟨base, rest, rfl⟩ : ∃ base rest, clouds = base :: rest := by
    cases clouds with
    | nil => cases built
    | cons base rest => exact ⟨base, rest, rfl⟩
  obtain ⟨same_fields, same_step, data, -, -⟩ := buildCombinedCloud_spec built
  obtain ⟨height, width, row_step, some_data⟩ := buildCombinedCloud_shape built
  have valid_merged : ∀ cloud ∈ merged (base :: rest), ValidRows cloud :=
    fun cloud listed => valid cloud (merged_subset listed)
  have layout : ∀ cloud ∈ merged (base :: rest), cloud.pointStep.toNat = out.pointStep.toNat := by
    intro cloud listed
    rw [same_step, (sameLayout_iff.mp (mem_merged.mp listed).2).1]
  have sizes : out.data.length = ((merged (base :: rest)).map fun cloud => cloud.data.length).sum := by
    rw [data, List.length_flatMap]
  have unpadded_iff_whole := sum_sizes_eq_iff valid_merged
  rw [← sizes, sum_points_mul _ layout] at unpadded_iff_whole
  constructor
  · intro concatenates
    rw [← unpadded_iff_whole, concatenates.sized, concatenates.rowStep, concatenates.width]
  · intro unpadded
    have whole := unpadded_iff_whole.mpr unpadded
    have some_octet : 0 < out.data.length := List.length_pos_of_ne_nil some_data
    have positive : 0 < out.pointStep.toNat := Nat.pos_of_ne_zero fun no_step => by
      rw [no_step, Nat.mul_zero] at whole
      omega
    have small_out : out.data.length < 2 ^ 32 := by
      rw [sizes]
      refine lt_of_le_of_lt (List.Sublist.sum_le_sum ?_ fun _ _ => Nat.zero_le _) small
      exact List.Sublist.map _ List.filter_sublist
    have few : ((merged (base :: rest)).map PointCloud2.pointCount).sum ≤ out.data.length := by
      rw [whole]
      exact Nat.le_mul_of_pos_right _ positive
    have width_eq : out.width.toNat = ((merged (base :: rest)).map PointCloud2.pointCount).sum := by
      rw [width, BitVec.toNat_ofNat, totalPoints_eq, Nat.mod_eq_of_lt (by omega : _ < 2 ^ 64)]
      exact Nat.mod_eq_of_lt (by omega)
    have row_step_eq : out.rowStep.toNat = out.width.toNat * out.pointStep.toNat := by
      rw [row_step, BitVec.toNat_mul, ← same_step, Nat.mul_comm, width_eq, ← whole]
      exact Nat.mod_eq_of_lt small_out
    have sized : out.data.length = out.rowStep.toNat := by rw [row_step_eq, width_eq, whole]
    have valid_out : ValidRows out := ⟨by rw [sized, height]; exact (Nat.mul_one _).symm, row_step_eq.ge⟩
    have records_of : ∀ cloud ∈ merged (base :: rest), rowPoints cloud = cloud.points := fun cloud listed =>
      rowPoints_eq_points (valid_merged cloud listed) (layout cloud listed ▸ positive) (unpadded cloud listed)
    refine ⟨?_, height, width_eq, row_step_eq, sized, ?_⟩
    · rintro _ ⟨⟩
      exact ⟨same_fields, same_step⟩
    · rw [rowPoints_eq_points valid_out positive (Or.inr row_step_eq), List.flatMap_congr records_of]
      refine combined_points built (same_step ▸ positive) fun cloud listed => ?_
      exact ⟨_, ((unpadded_iff (valid_merged cloud listed)).mp (unpadded cloud listed)).trans (Nat.mul_comm _ _)⟩

/-! ## A padded cloud -/

/-- Two rows of one point each, every row with room for `rowStep` octets. -/
def twoRows (rowStep : BitVec 32) : PointCloud2 where
  header := ⟨⟨100, 0⟩, "dt1_depth_frame"⟩
  height := 2
  width := 1
  fields := xyzitrFields
  isBigendian := false
  pointStep := xyzitrPointStep
  rowStep
  data := List.replicate (rowStep.toNat * 2) 0
  isDense := false

/-- Two octets of padding per row: 48 octets in a message that announces 44. -/
theorem padded_rows_not_concatenated : ∃ out,
    buildCombinedCloud "base_link" [twoRows 24] = some out ∧ ValidRows (twoRows 24) ∧
      out.data.length = 48 ∧ out.rowStep = 44 ∧ ¬ Concatenates [twoRows 24] out := by
  refine ⟨_, rfl, ⟨by decide, by decide⟩, by decide, by decide, fun concatenates => ?_⟩
  exact absurd concatenates.sized (by decide)

theorem whole_rows_concatenated : ∃ out,
    buildCombinedCloud "base_link" [twoRows 22] = some out ∧ Concatenates [twoRows 22] out := by
  refine ⟨_, rfl, ?_⟩
  refine (combined_concatenates_iff ?_ (by decide) rfl).mpr ?_
  · exact List.forall_mem_singleton.mpr ⟨by decide, by decide⟩
  · exact List.forall_mem_singleton.mpr (Or.inr (by decide))

end AsDt1.Guarantees
