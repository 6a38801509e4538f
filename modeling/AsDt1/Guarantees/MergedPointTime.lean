import AsDt1.Source.CombinerRounds

/-!
# Acquisition times in a combined cloud

A point's `time` counts nanoseconds from the stamp of its own cloud. A round of
the combiner replaces the stamp of every merged cloud by the newest one, and the
octets of `time` are in none of the fields it rewrites. So every merged point
keeps its distance from the stamp, and keeps its absolute time only where the
stamp did not change.
-/
namespace AsDt1.Guarantees
open AsDt1.Lib AsDt1.Source AsDt1.Source.Combiner

/-- The `time` of a point, when the point holds those octets. -/
def timeOf (offsets : Offsets) (point : Octets) : Option Nat :=
  (load point offsets.time.toNat 4).toOption.map ofLittleEndian

/-- The absolute acquisition times of points that belong to a cloud with this stamp. -/
def timesSince (stampNs : Nat) (offsets : Offsets) (points : List Octets) : List (Option Nat) :=
  points.map fun point => (timeOf offsets point).map (stampNs + ·)

/-- Header stamp plus `time`, point by point. -/
def absoluteTimes (cloud : PointCloud2) : List (Option Nat) :=
  match findOffsets cloud with
  | none => []
  | some offsets => timesSince cloud.stampNs offsets cloud.points

/-- A cloud of whole points with a `time` field that overlaps neither the
coordinates nor the ring. -/
structure Timed (cloud : PointCloud2) (offsets : Offsets) : Prop where
  found : findOffsets cloud = some offsets
  time : 0 ≤ offsets.time ∧ offsets.time + 4 ≤ cloud.pointStep.toNat
  x : 0 ≤ offsets.x ∧ offsets.x + 4 ≤ cloud.pointStep.toNat
  y : 0 ≤ offsets.y ∧ offsets.y + 4 ≤ cloud.pointStep.toNat
  z : 0 ≤ offsets.z ∧ offsets.z + 4 ≤ cloud.pointStep.toNat
  ring : 0 ≤ offsets.ring → offsets.ring + 2 ≤ cloud.pointStep.toNat
  apart_x : offsets.time + 4 ≤ offsets.x ∨ offsets.x + 4 ≤ offsets.time
  apart_y : offsets.time + 4 ≤ offsets.y ∨ offsets.y + 4 ≤ offsets.time
  apart_z : offsets.time + 4 ≤ offsets.z ∨ offsets.z + 4 ≤ offsets.time
  apart_ring : 0 ≤ offsets.ring → offsets.time + 4 ≤ offsets.ring ∨ offsets.ring + 2 ≤ offsets.time
  sized : cloud.data.length = cloud.pointCount * cloud.pointStep.toNat
  /-- `data.size()` is a `std::size_t`. -/
  fits : cloud.data.length < 2 ^ 64

/-- The clouds of the driver are of this kind. -/
theorem xyzitr_timed {cloud : PointCloud2} (fields : cloud.fields = xyzitrFields)
    (pointStep : cloud.pointStep = xyzitrPointStep)
    (sized : cloud.data.length = cloud.pointCount * xyzitrPointStep.toNat)
    (fits : cloud.data.length < 2 ^ 64) : Timed cloud ⟨0, 4, 8, 12, 16, 20⟩ := by
  have step : cloud.pointStep.toNat = 22 := by rw [pointStep]; rfl
  have found : findOffsets cloud = some ⟨0, 4, 8, 12, 16, 20⟩ := by
    unfold findOffsets
    rw [fields]
    decide
  have whole : cloud.data.length = cloud.pointCount * cloud.pointStep.toNat := by rw [pointStep]; exact sized
  refine ⟨found, ?_, ?_, ?_, ?_, ?_, ?_, ?_, ?_, ?_, whole, fits⟩ <;> simp [step]

/-! ## One cloud -/

namespace Timed

variable {cloud : PointCloud2} {offsets : Offsets}

theorem step_positive (timed : Timed cloud offsets) : 0 < cloud.pointStep.toNat := by
  have room := timed.time
  omega

/-- No octet of a point's `time` is rewritten, for this point or another. -/
theorem time_not_rewritten (timed : Timed cloud offsets) {i k q : Nat} (counted : i < cloud.pointCount)
    (from_time : offsets.time.toNat ≤ q) (upto : q < offsets.time.toNat + 4) :
    ¬ offsets.Rewrites (i * cloud.pointStep.toNat % 2 ^ 64) (k * cloud.pointStep.toNat + q) := by
  obtain ⟨time_pos, time_room⟩ := timed.time
  obtain ⟨x_pos, x_room⟩ := timed.x
  obtain ⟨y_pos, y_room⟩ := timed.y
  obtain ⟨z_pos, z_room⟩ := timed.z
  have room : (i + 1) * cloud.pointStep.toNat ≤ cloud.data.length := by
    rw [timed.sized]
    exact Nat.mul_le_mul_right _ counted
  have fits := timed.fits
  rw [Nat.succ_mul] at room
  have placed : ∀ offset : Int, 0 ≤ offset → offset < cloud.pointStep.toNat →
      position (i * cloud.pointStep.toNat % 2 ^ 64) offset = i * cloud.pointStep.toNat + offset.toNat := by
    intro offset nonneg inside
    unfold position
    omega
  have outside : ∀ (offset : Int) (len : Nat), 0 ≤ offset → offset + len ≤ cloud.pointStep.toNat → 0 < len →
      (offsets.time + 4 ≤ offset ∨ offset + len ≤ offsets.time) →
      ¬ (position (i * cloud.pointStep.toNat % 2 ^ 64) offset ≤ k * cloud.pointStep.toNat + q ∧
        k * cloud.pointStep.toNat + q < position (i * cloud.pointStep.toNat % 2 ^ 64) offset + len) := by
    intro offset len nonneg inside positive apart
    rw [placed offset nonneg (by omega)]
    have far : k * cloud.pointStep.toNat + q < i * cloud.pointStep.toNat + offset.toNat ∨
        i * cloud.pointStep.toNat + offset.toNat + len ≤ k * cloud.pointStep.toNat + q :=
      window_apart (by omega) (by omega) (by omega)
    omega
  rintro (x | y | z | ⟨ringed, ring⟩)
  · exact outside offsets.x 4 x_pos x_room (by omega) timed.apart_x x
  · exact outside offsets.y 4 y_pos y_room (by omega) timed.apart_y y
  · exact outside offsets.z 4 z_pos z_room (by omega) timed.apart_z z
  · exact outside offsets.ring 2 ringed (timed.ring ringed) (by omega) (timed.apart_ring ringed) ring

/-- A transformed cloud has the times of its input. -/
theorem times_rewritten (timed : Timed cloud offsets) {targetFrame : String} {out : PointCloud2}
    (rewritten : Rewritten targetFrame cloud out) (stampNs : Nat) :
    timesSince stampNs offsets out.points = timesSince stampNs offsets cloud.points := by
  obtain ⟨offsets', data, found, rfl, sized, frame⟩ := rewritten
  have same : offsets' = offsets := Option.some.inj (found.symm.trans timed.found)
  subst same
  have window : offsets'.time.toNat + 4 ≤ cloud.pointStep.toNat := by
    have room := timed.time
    omega
  have loads := records_map_load_congr timed.step_positive window sized
    fun k _ p from_time upto => frame _ fun i counted => timed.time_not_rewritten counted from_time upto
  have times := congrArg
    (List.map fun read : Option Octets => (read.map ofLittleEndian).map (stampNs + ·)) loads
  rw [List.map_map, List.map_map] at times
  exact times

theorem points_length (timed : Timed cloud offsets) : cloud.points.length = cloud.pointCount := by
  unfold PointCloud2.points
  rw [records_length, timed.sized, Nat.mul_div_cancel _ timed.step_positive]

/-- Every point has a readable time. -/
theorem time_readable (timed : Timed cloud offsets) {point : Octets} (listed : point ∈ cloud.points) :
    ∃ time, timeOf offsets point = some time := by
  obtain ⟨k, counted, rfl⟩ := List.mem_map.mp listed
  have below : k < cloud.data.length / cloud.pointStep.toNat := List.mem_range.mp counted
  have room : (k + 1) * cloud.pointStep.toNat ≤ cloud.data.length :=
    (Nat.le_div_iff_mul_le timed.step_positive).mp below
  rw [Nat.succ_mul] at room
  have window := timed.time
  unfold timeOf load
  rw [if_pos]
  · exact ⟨_, rfl⟩
  · simp only [List.length_take, List.length_drop]
    omega

/-- Replacing the stamp keeps the absolute times of a cloud with points only if
the stamp is the same. -/
theorem timesSince_eq_iff (timed : Timed cloud offsets) (newest : Nat) :
    timesSince newest offsets cloud.points = timesSince cloud.stampNs offsets cloud.points ↔
      (0 < cloud.pointCount → newest = cloud.stampNs) := by
  rw [← timed.points_length]
  unfold timesSince
  rw [List.map_inj_left]
  constructor
  · intro same some_point
    obtain ⟨point, listed⟩ := List.exists_mem_of_length_pos some_point
    obtain ⟨time, read⟩ := timed.time_readable listed
    have shifted := same point listed
    rw [read, Option.map_some, Option.map_some, Option.some.injEq] at shifted
    omega
  · intro same point listed
    rw [same (List.length_pos_of_mem listed)]

end Timed

/-! ## One round -/

theorem findOffsets_congr {cloud other : PointCloud2} (fields : cloud.fields = other.fields) :
    findOffsets cloud = findOffsets other := by
  unfold findOffsets
  rw [fields]

/-- Merging commutes with the transformation of the clouds. -/
theorem merged_rewritten {targetFrame : String} {clouds transformed : List PointCloud2}
    (rewritten : List.Forall₂ (Rewritten targetFrame) clouds transformed) :
    List.Forall₂ (Rewritten targetFrame) (merged clouds) (merged transformed) := by
  apply merged_related rewritten
  intro cloud out moved
  obtain ⟨offsets, data, -, rfl, -, -⟩ := moved
  exact sameLayout_iff.mpr ⟨rfl, rfl⟩

/-- The points of concatenated clouds of one point size. -/
theorem rewritten_stamps {targetFrame : String} {clouds transformed : List PointCloud2}
    (rewritten : List.Forall₂ (Rewritten targetFrame) clouds transformed) :
    transformed.map PointCloud2.stampNs = clouds.map PointCloud2.stampNs := by
  induction rewritten with
  | nil => rfl
  | cons first _ ih =>
    obtain ⟨offsets, data, -, rfl, -, -⟩ := first
    rw [List.map_cons, List.map_cons, ih]
    rfl

/-- Transformed clouds of one layout, end to end, have the times of their inputs. -/
theorem rewritten_times {targetFrame : String} {clouds transformed : List PointCloud2} {offsets : Offsets}
    (rewritten : List.Forall₂ (Rewritten targetFrame) clouds transformed)
    (timed : ∀ cloud ∈ clouds, Timed cloud offsets) (stampNs : Nat) :
    transformed.flatMap (fun out => timesSince stampNs offsets out.points) =
      clouds.flatMap fun cloud => timesSince stampNs offsets cloud.points := by
  induction rewritten with
  | nil => rfl
  | cons first _ ih =>
    have timed_rest := ih fun cloud listed => timed cloud (List.mem_cons_of_mem _ listed)
    have timed_first := (timed _ List.mem_cons_self).times_rewritten first stampNs
    rw [List.flatMap_cons, List.flatMap_cons, timed_rest, timed_first]

theorem rewritten_whole {targetFrame : String} {clouds transformed : List PointCloud2} {offsets : Offsets}
    (rewritten : List.Forall₂ (Rewritten targetFrame) clouds transformed)
    (timed : ∀ cloud ∈ clouds, Timed cloud offsets) :
    ∀ out ∈ transformed, out.pointStep.toNat ∣ out.data.length := by
  induction rewritten with
  | nil => simp
  | cons first _ ih =>
    have timed_rest := ih fun cloud listed => timed cloud (List.mem_cons_of_mem _ listed)
    have sized := (timed _ List.mem_cons_self).sized
    refine List.forall_mem_cons.mpr ⟨?_, timed_rest⟩
    obtain ⟨offsets', data, -, rfl, same_length, -⟩ := first
    exact ⟨_, same_length.trans (sized.trans (Nat.mul_comm _ _))⟩

/-- The merged clouds have their fields at the same places. -/
theorem merged_timed {first : PointCloud2} {rest : List PointCloud2}
    (timed : ∀ cloud ∈ first :: rest, ∃ offsets, Timed cloud offsets) :
    ∃ offsets, ∀ cloud ∈ merged (first :: rest), Timed cloud offsets := by
  obtain ⟨offsets, timed_first⟩ := timed first List.mem_cons_self
  refine ⟨offsets, fun cloud listed => ?_⟩
  obtain ⟨listed_cloud, layout⟩ := mem_merged.mp listed
  obtain ⟨offsets', timed_cloud⟩ := timed cloud listed_cloud
  have same_offsets : some offsets' = some offsets := by
    rw [← timed_cloud.found, ← timed_first.found]
    exact findOffsets_congr (sameLayout_iff.mp layout).2
  rw [← Option.some.inj same_offsets]
  exact timed_cloud

/-- The points of the combined cloud are those of the merged clouds in order. -/
theorem combined_points {targetFrame : String} {base out : PointCloud2} {rest : List PointCloud2}
    (built : buildCombinedCloud targetFrame (base :: rest) = some out) (positive : 0 < base.pointStep.toNat)
    (whole : ∀ cloud ∈ merged (base :: rest), cloud.pointStep.toNat ∣ cloud.data.length) :
    out.points = (merged (base :: rest)).flatMap PointCloud2.points := by
  obtain ⟨-, same_step, data, -, -⟩ := buildCombinedCloud_spec built
  have step_of_merged : ∀ cloud ∈ merged (base :: rest), cloud.pointStep = base.pointStep :=
    fun cloud listed => (sameLayout_iff.mp (mem_merged.mp listed).2).1
  unfold PointCloud2.points
  rw [data, same_step, records_flatMap positive]
  · apply List.flatMap_congr
    intro cloud listed
    rw [step_of_merged cloud listed]
  · intro cloud listed
    rw [← step_of_merged cloud listed]
    exact whole cloud listed

/-- The combined cloud has every merged point at its distance from the stamp, and
the newest stamp. -/
theorem combined_times {targetFrame : String} {first out : PointCloud2} {rest transformed : List PointCloud2}
    {offsets : Offsets} (timed : ∀ cloud ∈ merged (first :: rest), Timed cloud offsets)
    (rewritten : List.Forall₂ (Rewritten targetFrame) (first :: rest) transformed)
    (built : buildCombinedCloud targetFrame transformed = some out) :
    absoluteTimes out =
        (merged (first :: rest)).flatMap (fun cloud => timesSince out.stampNs offsets cloud.points) ∧
      out.stampNs ∈ (merged (first :: rest)).map PointCloud2.stampNs ∧
      ∀ stampNs ∈ (merged (first :: rest)).map PointCloud2.stampNs, stampNs ≤ out.stampNs := by
  have kept := merged_rewritten rewritten
  cases rewritten with
  | @cons _ base _ bases moved _ =>
    obtain ⟨same_fields, -, -, stamp⟩ := buildCombinedCloud_spec built
    rw [rewritten_stamps kept] at stamp
    refine ⟨?_, stamp⟩
    have timed_first := timed first (first_merged first rest)
    obtain ⟨base_fields, base_step⟩ : base.fields = first.fields ∧ base.pointStep = first.pointStep := by
      obtain ⟨_, _, -, rfl, -, -⟩ := moved
      exact ⟨rfl, rfl⟩
    have found : findOffsets out = some offsets := by
      rw [findOffsets_congr (same_fields.trans base_fields), timed_first.found]
    have points := combined_points built (base_step ▸ timed_first.step_positive) (rewritten_whole kept timed)
    have times := rewritten_times kept timed out.stampNs
    unfold absoluteTimes
    rw [found]
    simp only
    rw [← times, points]
    unfold timesSince
    rw [List.map_flatMap]

/-- A published combined cloud keeps the absolute time of every merged point if and
only if every merged cloud that has points carries the newest of the merged stamps. -/
theorem merged_times_kept_iff {n : Nat} {T : Type} {rigid : T → Point3 → Point3} {tf : TfBuffer n T}
    {s s' : Combiner n T} {clouds : List PointCloud2} {out : PointCloud2}
    (filled : s.filledSlots = some clouds) (timed : ∀ cloud ∈ clouds, ∃ offsets, Timed cloud offsets)
    (published : tryPublishCombined rigid tf s = .ok (s', some out)) :
    absoluteTimes out = (merged clouds).flatMap absoluteTimes ↔
      ∀ cloud ∈ merged clouds, 0 < cloud.pointCount →
        ∀ other ∈ merged clouds, other.stampNs ≤ cloud.stampNs := by
  obtain ⟨first, rest, transformed, filled_first, -, rewritten, built⟩ := tryPublishCombined_spec published
  have same_clouds : clouds = first :: rest := Option.some.inj (filled.symm.trans filled_first)
  subst same_clouds
  obtain ⟨offsets, timed_merged⟩ := merged_timed timed
  obtain ⟨times, attained, newest⟩ := combined_times timed_merged rewritten built
  have own_times : (merged (first :: rest)).flatMap absoluteTimes =
      (merged (first :: rest)).flatMap fun cloud => timesSince cloud.stampNs offsets cloud.points := by
    apply List.flatMap_congr
    intro cloud listed
    unfold absoluteTimes
    rw [(timed_merged cloud listed).found]
  rw [times, own_times, flatMap_eq_flatMap_iff fun cloud _ => by simp [timesSince]]
  constructor
  · intro same cloud listed some_point other other_listed
    have timed_cloud := timed_merged cloud listed
    have stamp_kept := (timed_cloud.timesSince_eq_iff out.stampNs).mp (same cloud listed) some_point
    rw [← stamp_kept]
    exact newest other.stampNs (List.mem_map_of_mem other_listed)
  · intro dominates cloud listed
    rw [(timed_merged cloud listed).timesSince_eq_iff]
    intro some_point
    obtain ⟨latest, latest_listed, latest_stamp⟩ := List.mem_map.mp attained
    have upper := newest cloud.stampNs (List.mem_map_of_mem listed)
    have lower := dominates cloud listed some_point latest latest_listed
    omega

/-! ## Two cameras -/

/-- A cloud of the driver with one point. -/
def onePoint (stamp : Time) (time : Nat) : PointCloud2 where
  header := ⟨stamp, "dt1_depth_frame"⟩
  height := 1
  width := 1
  fields := xyzitrFields
  isBigendian := false
  pointStep := xyzitrPointStep
  rowStep := xyzitrPointStep
  data := List.replicate 16 0 ++ littleEndian 4 time ++ littleEndian 2 3
  isDense := false

theorem onePoint_timed (stamp : Time) (time : Nat) :
    Timed (onePoint stamp time) ⟨0, 4, 8, 12, 16, 20⟩ := by
  refine xyzitr_timed rfl rfl ?_ ?_ <;> simp [onePoint, PointCloud2.pointCount, xyzitrPointStep]

def twoTopics (front rear : PointCloud2) : Combiner 2 Unit :=
  ⟨"base_link", fun _ => none, Fin.cases (some front) fun _ => some rear⟩

def publish (s : Combiner 2 Unit) : Except OutOfBounds (Combiner 2 Unit × Option PointCloud2) :=
  tryPublishCombined (fun _ point => point) (fun _ _ _ _ => some ()) s

/-- Two cameras that sample at the same instant. -/
theorem synchronous_times_kept : ∃ s' out,
    publish (twoTopics (onePoint ⟨100, 0⟩ 1000) (onePoint ⟨100, 0⟩ 2500)) = .ok (s', some out) ∧
    absoluteTimes out = [some 100000001000, some 100000002500] := by
  obtain ⟨s', out, published⟩ : ∃ s' out,
      publish (twoTopics (onePoint ⟨100, 0⟩ 1000) (onePoint ⟨100, 0⟩ 2500)) = .ok (s', some out) :=
    ⟨_, _, rfl⟩
  have filled : (twoTopics (onePoint ⟨100, 0⟩ 1000) (onePoint ⟨100, 0⟩ 2500)).filledSlots =
      some [onePoint ⟨100, 0⟩ 1000, onePoint ⟨100, 0⟩ 2500] := rfl
  have timed : ∀ cloud ∈ [onePoint ⟨100, 0⟩ 1000, onePoint ⟨100, 0⟩ 2500],
      ∃ offsets, Timed cloud offsets := by
    simp only [List.forall_mem_cons]
    exact ⟨⟨_, onePoint_timed _ _⟩, ⟨_, onePoint_timed _ _⟩, by simp⟩
  have kept := (merged_times_kept_iff filled timed published).mpr (by decide)
  refine ⟨s', out, published, ?_⟩
  rw [kept]
  decide

/-- With the front camera 10 ms ahead, its point is published 10 ms late: at
100.010001000 s instead of 100.000001000 s. -/
theorem front_point_moves_in_time : ∃ s' out,
    publish (twoTopics (onePoint ⟨100, 0⟩ 1000) (onePoint ⟨100, 10000000⟩ 2500)) = .ok (s', some out) ∧
    absoluteTimes out = [some 100010001000, some 100010002500] ∧
    (merged [onePoint ⟨100, 0⟩ 1000, onePoint ⟨100, 10000000⟩ 2500]).flatMap absoluteTimes =
      [some 100000001000, some 100010002500] := by
  refine ⟨_, _, rfl, ?_, ?_⟩
  · decide
  · decide

end AsDt1.Guarantees
