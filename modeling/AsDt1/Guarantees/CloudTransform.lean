import AsDt1.Source.PointLoop

/-!
# What the transform of a cloud touches

`transform_to_target_frame` on any message that may arrive: when its accesses lie
inside the message's data, and, for a contiguous cloud whose coordinates and ring
do not overlap, what becomes of every octet.
-/
namespace AsDt1.Guarantees
open AsDt1.Lib AsDt1.Source AsDt1.Source.Combiner

variable {n : Nat} {T : Type} {rigid : T → Point3 → Point3} {tf : TfBuffer n T} {s s' : Combiner n T}
  {topic : Fin n} {cloud : PointCloud2} {transform : T}

/-- The call returns true if the transform is available and the fields are found,
provided that the point loop stays inside the data; otherwise it returns false. -/
theorem transformToTargetFrame_ok_iff {ringOffset : Int} :
    (∃ result, transformToTargetFrame rigid tf s topic cloud ringOffset = .ok result) ↔
      (getTransformToTargetFrame tf s topic cloud).2 = none ∨ ∀ offsets, findOffsets cloud = some offsets →
        ∀ i, i < cloud.pointCount →
          offsets.InBounds (i * cloud.pointStep.toNat % 2 ^ 64) cloud.data.length := by
  unfold transformToTargetFrame
  rcases getTransformToTargetFrame tf s topic cloud with ⟨next, _ | transform⟩
  · exact iff_of_true ⟨_, rfl⟩ (Or.inl rfl)
  · cases found : findOffsets cloud with
    | none => exact iff_of_true ⟨_, rfl⟩ (Or.inr fun _ absurd_found => by cases absurd_found)
    | some offsets =>
      constructor
      · rintro ⟨result, moved⟩
        obtain ⟨⟨data, maxRing⟩, done, -⟩ := bind_eq_ok moved
        refine Or.inr fun _ same i below => ?_
        cases same
        exact transformPoints_ok_iff.mp ⟨_, done⟩ i (Nat.zero_le i) (by omega)
      · rintro (absurd_answer | inside)
        · cases absurd_answer
        · obtain ⟨⟨data, maxRing⟩, done⟩ : ∃ result, transformPoints (rigid transform) offsets
              cloud.pointStep.toNat ringOffset cloud.pointCount 0 cloud.data 0 = .ok result :=
            transformPoints_ok_iff.mpr fun i _ below => inside offsets rfl i (by omega)
          simp only [done, ok_bind]
          exact ⟨_, rfl⟩

/-- A field of `len` octets ends inside the data for the last point. -/
def EndsInside (cloud : PointCloud2) (offset : Int) (len : Nat) : Prop :=
  (cloud.pointCount - 1) * cloud.pointStep.toNat + offset.toNat + len ≤ cloud.data.length

instance (cloud : PointCloud2) (offset : Int) (len : Nat) : Decidable (EndsInside cloud offset len) :=
  inferInstanceAs (Decidable (_ ≤ _))

/-- So do the fields that the loop rewrites. -/
structure LastPointInside (cloud : PointCloud2) (offsets : Offsets) : Prop where
  x : EndsInside cloud offsets.x 4
  y : EndsInside cloud offsets.y 4
  z : EndsInside cloud offsets.z 4
  ring : 0 ≤ offsets.ring → EndsInside cloud offsets.ring 2

/-- Indices below the size of a vector do not wrap, and the first index to pass
it does not wrap either, so a field of all points is inside if the last one is. -/
theorem positions_inside_iff (len : Nat) {offset : Int} (nonneg : 0 ≤ offset) (small : offset < 2 ^ 31)
    (sized : cloud.data.length < 2 ^ 63) (some_point : 0 < cloud.pointCount) :
    (∀ i, i < cloud.pointCount →
      position (i * cloud.pointStep.toNat % 2 ^ 64) offset + len ≤ cloud.data.length) ↔
      EndsInside cloud offset len := by
  have step_small := cloud.pointStep.isLt
  unfold EndsInside
  generalize cloud.pointStep.toNat = step at *
  constructor
  · intro inside
    have reached : ∀ i, i < cloud.pointCount → i * step + offset.toNat + len ≤ cloud.data.length := by
      intro i
      induction i with
      | zero =>
        intro below
        have first := inside 0 below
        rwa [position_eq (0 * step) nonneg (by omega)] at first
      | succ i ih =>
        intro below
        have previous := ih (by omega)
        have here := inside (i + 1) below
        rw [Nat.succ_mul] at here ⊢
        rwa [position_eq (i * step + step) nonneg (by omega)] at here
    exact reached (cloud.pointCount - 1) (by omega)
  · intro last i below
    have before : i * step ≤ (cloud.pointCount - 1) * step := Nat.mul_le_mul_right step (by omega)
    rw [position_eq (i * step) nonneg (by omega)]
    omega

/-- For every message, the call returns false or stays inside the data if and only
if the transform or one of the coordinates is missing, or there are no points, or
the fields of the last point end inside the data. -/
theorem transform_stays_inside_iff {ringOffset : Int} (sized : cloud.data.length < 2 ^ 63) :
    (∃ result, transformToTargetFrame rigid tf s topic cloud ringOffset = .ok result) ↔
      (getTransformToTargetFrame tf s topic cloud).2 = none ∨ findOffsets cloud = none ∨
        cloud.pointCount = 0 ∨ ∃ offsets, findOffsets cloud = some offsets ∧ LastPointInside cloud offsets := by
  rw [transformToTargetFrame_ok_iff]
  apply or_congr_right
  cases found : findOffsets cloud with
  | none => simp
  | some offsets =>
    obtain ⟨⟨x_pos, x_small⟩, ⟨y_pos, y_small⟩, ⟨z_pos, z_small⟩, ring_small⟩ := findOffsets_bounds found
    rcases Nat.eq_zero_or_pos cloud.pointCount with none_listed | some_point
    · simp [none_listed]
    · have at_x := positions_inside_iff 4 x_pos x_small sized some_point
      have at_y := positions_inside_iff 4 y_pos y_small sized some_point
      have at_z := positions_inside_iff 4 z_pos z_small sized some_point
      constructor
      · intro inside
        refine Or.inr (Or.inr ⟨offsets, rfl, ?_, ?_, ?_, fun ringed => ?_⟩)
        · exact at_x.mp fun i below => (inside offsets rfl i below).x
        · exact at_y.mp fun i below => (inside offsets rfl i below).y
        · exact at_z.mp fun i below => (inside offsets rfl i below).z
        · exact (positions_inside_iff 2 ringed ring_small sized some_point).mp
            fun i below => (inside offsets rfl i below).ring ringed
      · rintro (absurd_found | none_listed | ⟨_, same, last⟩) _ same' i below
        · cases absurd_found
        · omega
        · cases same
          cases same'
          exact ⟨at_x.mpr last.x i below, at_y.mpr last.y i below, at_z.mpr last.z i below, fun ringed =>
            (positions_inside_iff 2 ringed ring_small sized some_point).mpr (last.ring ringed) i below⟩

/-! ## A message that is too short -/

def emptyBuffer : PointCloud2 where
  header := ⟨⟨100, 0⟩, "dt1_depth_frame"⟩
  height := 1
  width := 1
  fields := xyzitrFields
  isBigendian := false
  pointStep := xyzitrPointStep
  rowStep := xyzitrPointStep
  data := []
  isDense := false

def identityTf : TfBuffer 1 Unit := fun _ _ _ _ => some ()

/-- A cloud that announces one point and has no data is read outside its data. -/
theorem emptyBuffer_read_outside :
    ¬ ∃ result, transformToTargetFrame (fun _ point => point) identityTf (Combiner.initial "base_link")
      (Fin.last 0) emptyBuffer 0 = .ok result := by
  rintro ⟨result, moved⟩
  have outside : transformToTargetFrame (fun _ point => point) identityTf (Combiner.initial "base_link")
      (Fin.last 0) emptyBuffer 0 = .error ⟨0, 4, 0⟩ := rfl
  rw [outside] at moved
  cases moved

/-- With the octets of its point it is not. -/
theorem filled_buffer_inside : ∃ result, transformToTargetFrame (fun _ point => point) identityTf
    (Combiner.initial "base_link") (Fin.last 0) { emptyBuffer with data := List.replicate 22 0 } 0 = .ok result :=
  (transform_stays_inside_iff (by decide)).mpr
    (Or.inr (Or.inr (Or.inr
      ⟨⟨0, 4, 8, 12, 16, 20⟩, by decide, by decide, by decide, by decide, fun _ => by decide⟩)))

/-! ## What becomes of every octet -/

def fieldsOf (cloud : PointCloud2) (name : String) (datatype : BitVec 8) : List PointField :=
  cloud.fields.filter fun field => field.name = name ∧ field.datatype = datatype

/-- The fields that the combiner rewrites are listed once each, do not overlap and
lie inside the point step. -/
structure PointLayout (cloud : PointCloud2) where
  x : PointField
  y : PointField
  z : PointField
  ring : Option PointField
  x_listed : fieldsOf cloud "x" PointField.float32 = [x]
  y_listed : fieldsOf cloud "y" PointField.float32 = [y]
  z_listed : fieldsOf cloud "z" PointField.float32 = [z]
  ring_listed : fieldsOf cloud "ring" PointField.uint16 = ring.toList
  small : ∀ field ∈ x :: y :: z :: ring.toList, field.offset.toNat < 2 ^ 31
  inside : ∀ field ∈ [x, y, z], field.offset.toNat + 4 ≤ cloud.pointStep.toNat
  ring_inside : ∀ field ∈ ring, field.offset.toNat + 2 ≤ cloud.pointStep.toNat
  apart : [x, y, z].Pairwise fun field other =>
    field.offset.toNat + 4 ≤ other.offset.toNat ∨ other.offset.toNat + 4 ≤ field.offset.toNat
  ring_apart : ∀ field ∈ ring, ∀ other ∈ [x, y, z],
    field.offset.toNat + 2 ≤ other.offset.toNat ∨ other.offset.toNat + 4 ≤ field.offset.toNat

/-- The data holds all points, without row padding. -/
structure Contiguous (cloud : PointCloud2) : Prop where
  holds : cloud.pointCount * cloud.pointStep.toNat ≤ cloud.data.length
  sized : cloud.data.length < 2 ^ 63

namespace PointLayout

/-- The coordinates of point `i` of a buffer in the layout of the cloud, in the host's
(little-endian) order, in which the code copies them. -/
def coordinates (layout : PointLayout cloud) (data : Octets) (i : Nat) : Point3 :=
  ⟨floatAt data (i * cloud.pointStep.toNat + layout.x.offset.toNat),
    floatAt data (i * cloud.pointStep.toNat + layout.y.offset.toNat),
    floatAt data (i * cloud.pointStep.toNat + layout.z.offset.toNat)⟩

/-- The ring of point `i`, in the host's (little-endian) order too. -/
def ringOf (_ : PointLayout cloud) (field : PointField) (data : Octets) (i : Nat) : Nat :=
  ringAt data (i * cloud.pointStep.toNat + field.offset.toNat)

/-- Octet `p` belongs to the coordinates or the ring of a point. -/
def Covers (layout : PointLayout cloud) (p : Nat) : Prop :=
  ∃ i, i < cloud.pointCount ∧
    ((∃ field ∈ [layout.x, layout.y, layout.z], i * cloud.pointStep.toNat + field.offset.toNat ≤ p ∧
        p < i * cloud.pointStep.toNat + field.offset.toNat + 4) ∨
      ∃ field ∈ layout.ring, i * cloud.pointStep.toNat + field.offset.toNat ≤ p ∧
        p < i * cloud.pointStep.toNat + field.offset.toNat + 2)

/-- One more than the largest ring of the cloud, if it has rings. -/
def advance (layout : PointLayout cloud) : Nat :=
  match layout.ring with
  | none => 0
  | some field => ((List.range cloud.pointCount).map (layout.ringOf field cloud.data)).foldl max 0 + 1

theorem findOffsets_eq (layout : PointLayout cloud) : ∃ offsets, findOffsets cloud = some offsets ∧
    offsets.x = layout.x.offset.toNat ∧ offsets.y = layout.y.offset.toNat ∧
    offsets.z = layout.z.offset.toNat ∧
    offsets.ring = layout.ring.elim (-1) fun field => (field.offset.toNat : Int) := by
  obtain ⟨x_small, y_small, z_small, ring_small⟩ : _ ∧ _ ∧ _ ∧ ∀ field ∈ layout.ring, _ := by
    simpa using layout.small
  have at_x := offsetOf_single layout.x_listed x_small
  have at_y := offsetOf_single layout.y_listed y_small
  have at_z := offsetOf_single layout.z_listed z_small
  refine ⟨_, if_neg (by omega), at_x, at_y, at_z, ?_⟩
  have listed := layout.ring_listed
  cases ring : layout.ring with
  | none =>
    rw [ring] at listed
    exact offsetOf_absent listed
  | some field =>
    rw [ring] at listed
    exact offsetOf_single listed (ring_small field ring)

/-- The three sets of conditions of the point loop, from those of the fields. -/
theorem offsets_fit (layout : PointLayout cloud) {offsets : Offsets} (at_x : offsets.x = layout.x.offset.toNat)
    (at_y : offsets.y = layout.y.offset.toNat) (at_z : offsets.z = layout.z.offset.toNat)
    (at_ring : offsets.ring = layout.ring.elim (-1) fun field => (field.offset.toNat : Int)) :
    offsets.Fit cloud.pointStep.toNat ∧ offsets.FloatsApart ∧ (0 ≤ offsets.ring → offsets.RingApart) := by
  obtain ⟨in_x, in_y, in_z⟩ : _ ∧ _ ∧ _ := by simpa using layout.inside
  obtain ⟨⟨xy, xz⟩, yz⟩ : (_ ∧ _) ∧ _ := by simpa using layout.apart
  have in_ring := layout.ring_inside
  have ring_apart := layout.ring_apart
  refine ⟨⟨by omega, by omega, by omega, fun ringed => ?_⟩, ⟨by omega, by omega, by omega⟩, fun ringed => ?_⟩
  · cases ring : layout.ring with
    | none =>
      rw [at_ring, ring] at ringed
      exact absurd ringed (by decide)
    | some field =>
      have inside := in_ring field ring
      rw [ring, Option.elim_some] at at_ring
      omega
  · cases ring : layout.ring with
    | none =>
      rw [at_ring, ring] at ringed
      exact absurd ringed (by decide)
    | some field =>
      obtain ⟨from_x, from_y, from_z⟩ : _ ∧ _ ∧ _ := by simpa using ring_apart field ring
      rw [ring, Option.elim_some] at at_ring
      exact ⟨by omega, by omega, by omega⟩

/-- The loop body rewrites octets of the layout only. -/
theorem covers_of_rewrites (layout : PointLayout cloud) {offsets : Offsets} {i p : Nat}
    (fit : offsets.Fit cloud.pointStep.toNat) (at_x : offsets.x = layout.x.offset.toNat)
    (at_y : offsets.y = layout.y.offset.toNat) (at_z : offsets.z = layout.z.offset.toNat)
    (at_ring : offsets.ring = layout.ring.elim (-1) fun field => (field.offset.toNat : Int))
    (below : i < cloud.pointCount) (room : i * cloud.pointStep.toNat + cloud.pointStep.toNat ≤ 2 ^ 64)
    (rewrites : offsets.Rewrites (i * cloud.pointStep.toNat % 2 ^ 64) p) : layout.Covers p := by
  obtain ⟨⟨x_pos, x_in⟩, ⟨y_pos, y_in⟩, ⟨z_pos, z_in⟩, ring_in⟩ := fit
  have pos_x := position_eq (i * cloud.pointStep.toNat) x_pos (by omega)
  have pos_y := position_eq (i * cloud.pointStep.toNat) y_pos (by omega)
  have pos_z := position_eq (i * cloud.pointStep.toNat) z_pos (by omega)
  refine ⟨i, below, ?_⟩
  rcases rewrites with in_x | in_y | in_z | ⟨ringed, in_ring⟩
  · exact Or.inl ⟨layout.x, by simp, by omega, by omega⟩
  · exact Or.inl ⟨layout.y, by simp, by omega, by omega⟩
  · exact Or.inl ⟨layout.z, by simp, by omega, by omega⟩
  · have pos_ring := position_eq (i * cloud.pointStep.toNat) ringed (by have := ring_in ringed; omega)
    cases ring : layout.ring with
    | none =>
      rw [at_ring, ring] at ringed
      exact absurd ringed (by decide)
    | some field =>
      rw [ring, Option.elim_some] at at_ring
      exact Or.inr ⟨field, rfl, by omega, by omega⟩

end PointLayout

/-- Every point of a contiguous cloud becomes its transform, its ring the sum with
the offset as a `uint16`, and nothing else changes; the offset advances past the
largest ring of the cloud. -/
theorem points_transformed (layout : PointLayout cloud) (contiguous : Contiguous cloud)
    (available : getTransformToTargetFrame tf s topic cloud = (s', some transform)) (ringOffset : Int) :
    ∃ data, transformToTargetFrame rigid tf s topic cloud ringOffset =
        .ok (s', some ({ cloud with header := { cloud.header with frameId := s.targetFrame }, data },
          ringOffset + layout.advance)) ∧
      data.length = cloud.data.length ∧
      (∀ i, i < cloud.pointCount →
        layout.coordinates data i = rigid transform (layout.coordinates cloud.data i)) ∧
      (∀ field ∈ layout.ring, ∀ i, i < cloud.pointCount → (layout.ringOf field data i : Int) =
        (layout.ringOf field cloud.data i + ringOffset) % 2 ^ 16) ∧
      ∀ p, ¬ layout.Covers p → data[p]? = cloud.data[p]? := by
  obtain ⟨offsets, found, at_x, at_y, at_z, at_ring⟩ := layout.findOffsets_eq
  obtain ⟨fit, floats, ring_apart⟩ := layout.offsets_fit at_x at_y at_z at_ring
  obtain ⟨holds, sized⟩ := contiguous
  have inside : ∀ i, i < cloud.pointCount →
      i * cloud.pointStep.toNat + cloud.pointStep.toNat ≤ cloud.data.length := fun i below =>
    (Nat.succ_mul i _).symm.trans_le ((Nat.mul_le_mul_right _ below).trans holds)
  obtain ⟨⟨data, maxRing⟩, looped⟩ : ∃ result, transformPoints (rigid transform) offsets
      cloud.pointStep.toNat ringOffset cloud.pointCount 0 cloud.data 0 = .ok result := by
    rw [transformPoints_ok_iff]
    exact fun i _ below => fit.inBounds (inside i (by omega)) (by omega)
  have room : (0 + cloud.pointCount) * cloud.pointStep.toNat ≤ 2 ^ 64 := by
    rw [Nat.zero_add]
    omega
  refine ⟨data, ?_, (transformPoints_frame looped).1, fun i below => ?_, fun field ring i below => ?_,
    fun p uncovered => ?_⟩
  · have same_target := (getTransformToTargetFrame_keeps available).1
    have advanced : (if offsets.ring ≥ 0 then ringOffset + (maxRing + 1) else ringOffset) =
        ringOffset + layout.advance := by
      unfold PointLayout.advance
      cases ring : layout.ring with
      | none =>
        rw [ring, Option.elim_none] at at_ring
        rw [if_neg (by omega)]
        simp
      | some field =>
        rw [ring, Option.elim_some] at at_ring
        have largest := (transformPoints_rings fit (ring_apart (by omega)) (by omega) room looped).2
        simp only [Offsets.pointRing, at_ring, Int.toNat_natCast] at largest
        rw [if_pos (by omega), largest, List.range_eq_range']
        rfl
    unfold transformToTargetFrame
    simp only [available, found, looped, ok_bind, advanced, same_target]
    rfl
  · have moved := transformPoints_floats fit floats ring_apart room looped (Nat.zero_le i) (by omega)
    simp only [Offsets.pointAt, at_x, at_y, at_z, Int.toNat_natCast] at moved
    exact moved
  · rw [ring, Option.elim_some] at at_ring
    have moved := (transformPoints_rings fit (ring_apart (by omega)) (by omega) room looped).1 i
      (Nat.zero_le i) (by omega)
    simp only [Offsets.pointRing, at_ring, Int.toNat_natCast] at moved
    unfold PointLayout.ringOf
    rw [moved, shifted_eq]
  · refine (transformPoints_frame looped).2 p fun i _ below rewrites => uncovered ?_
    rw [Nat.zero_add] at below
    have room_i := inside i below
    exact layout.covers_of_rewrites fit at_x at_y at_z at_ring below (by omega) rewrites

/-! ## A cloud of two points -/

def twoPoints : PointCloud2 :=
  { emptyBuffer with
    width := 2
    data := littleEndian 22 (7 * 256 ^ 20) ++ littleEndian 22 (65535 * 256 ^ 20) }

def twoPointsLayout : PointLayout twoPoints where
  x := ⟨"x", 0, PointField.float32, 1⟩
  y := ⟨"y", 4, PointField.float32, 1⟩
  z := ⟨"z", 8, PointField.float32, 1⟩
  ring := some ⟨"ring", 20, PointField.uint16, 1⟩
  x_listed := by decide
  y_listed := by decide
  z_listed := by decide
  ring_listed := by decide
  small := by decide
  inside := by decide
  ring_inside := by decide
  apart := by decide
  ring_apart := by decide

/-- The offset advances by 65536 where a ring is 65535, whose sum wraps. -/
theorem twoPoints_transformed : ∃ data,
    transformToTargetFrame (fun _ point => point) identityTf (Combiner.initial "base_link") (Fin.last 0)
      twoPoints 3 = .ok ((getTransformToTargetFrame identityTf (Combiner.initial "base_link") (Fin.last 0)
        twoPoints).1, some ({ twoPoints with header := ⟨⟨100, 0⟩, "base_link"⟩, data }, 3 + 65536)) ∧
      (twoPointsLayout.ringOf ⟨"ring", 20, PointField.uint16, 1⟩ data 1 : Int) = 2 := by
  obtain ⟨data, moved, -, -, rings, -⟩ := @points_transformed 1 Unit (fun _ point => point) identityTf
    (Combiner.initial "base_link") _ (Fin.last 0) twoPoints () twoPointsLayout ⟨by decide, by decide⟩ rfl 3
  exact ⟨data, moved, (rings _ rfl 1 (by decide)).trans (by decide)⟩

end AsDt1.Guarantees
