import AsDt1.Lib.Lists
import AsDt1.Source.Combiner

/-!
# What a round of the combiner does

One result for each function of `AsDt1.Source.Combiner`, bottom up: the octets
that the point loop may write, what a transformed cloud keeps of its input, and
the combined cloud as a function of the transformed ones.
-/
namespace AsDt1.Source
open AsDt1.Lib

/-! ## The octets written -/

/-- Octet `p` lies in a field that the loop body rewrites for the point at `base`. -/
def Offsets.Rewrites (offsets : Offsets) (base p : Nat) : Prop :=
  (position base offsets.x ≤ p ∧ p < position base offsets.x + 4) ∨
  (position base offsets.y ≤ p ∧ p < position base offsets.y + 4) ∨
  (position base offsets.z ≤ p ∧ p < position base offsets.z + 4) ∨
  (0 ≤ offsets.ring ∧ position base offsets.ring ≤ p ∧ p < position base offsets.ring + 2)

theorem storeFloat_frame {data out : Octets} {pos : Nat} {value : BitVec 32}
    (stored : storeFloat data pos value = .ok out) :
    out.length = data.length ∧ ∀ p, ¬ (pos ≤ p ∧ p < pos + 4) → out[p]? = data[p]? := by
  refine ⟨store_length stored, fun p outside => store_frame stored ?_⟩
  rw [littleEndian_length]
  omega

theorem shiftRing_frame {pos : Nat} {ringOffset maxRing maxRing' : Int} {data out : Octets}
    (shifted : shiftRing pos ringOffset data maxRing = .ok (out, maxRing')) :
    out.length = data.length ∧ ∀ p, ¬ (pos ≤ p ∧ p < pos + 2) → out[p]? = data[p]? := by
  obtain ⟨ring, -, shifted⟩ := bind_eq_ok shifted
  obtain ⟨stored, storing, ends⟩ := bind_eq_ok shifted
  cases ends
  refine ⟨store_length storing, fun p outside => store_frame storing ?_⟩
  rw [littleEndian_length]
  omega

/-- The loop body writes the fields of its own point only. -/
theorem transformPoint_frame {rigid : Point3 → Point3} {offsets : Offsets} {pointStep i : Nat}
    {ringOffset maxRing maxRing' : Int} {data out : Octets}
    (moved : transformPoint rigid offsets pointStep ringOffset i data maxRing = .ok (out, maxRing')) :
    out.length = data.length ∧
      ∀ p, ¬ offsets.Rewrites (i * pointStep % 2 ^ 64) p → out[p]? = data[p]? := by
  unfold transformPoint at moved
  obtain ⟨x, -, moved⟩ := bind_eq_ok moved
  obtain ⟨y, -, moved⟩ := bind_eq_ok moved
  obtain ⟨z, -, moved⟩ := bind_eq_ok moved
  obtain ⟨data_x, stored_x, moved⟩ := bind_eq_ok moved
  obtain ⟨data_y, stored_y, moved⟩ := bind_eq_ok moved
  obtain ⟨data_z, stored_z, moved⟩ := bind_eq_ok moved
  obtain ⟨sized_x, frame_x⟩ := storeFloat_frame stored_x
  obtain ⟨sized_y, frame_y⟩ := storeFloat_frame stored_y
  obtain ⟨sized_z, frame_z⟩ := storeFloat_frame stored_z
  have sized_floats : data_z.length = data.length := by omega
  have frame_floats : ∀ p, ¬ offsets.Rewrites (i * pointStep % 2 ^ 64) p → data_z[p]? = data[p]? := by
    intro p outside
    unfold Offsets.Rewrites at outside
    rw [frame_z p (by tauto), frame_y p (by tauto), frame_x p (by tauto)]
  by_cases ringed : offsets.ring ≥ 0
  · rw [if_pos ringed] at moved
    obtain ⟨sized_ring, frame_ring⟩ := shiftRing_frame moved
    refine ⟨by omega, fun p outside => ?_⟩
    rw [frame_ring p (by unfold Offsets.Rewrites at outside; tauto), frame_floats p outside]
  · rw [if_neg ringed] at moved
    cases moved
    exact ⟨sized_floats, frame_floats⟩

/-- The loop writes the fields of the points it visits only. -/
theorem transformPoints_frame {rigid : Point3 → Point3} {offsets : Offsets} {pointStep remaining i : Nat}
    {ringOffset maxRing maxRing' : Int} {data out : Octets}
    (moved : transformPoints rigid offsets pointStep ringOffset remaining i data maxRing =
      .ok (out, maxRing')) :
    out.length = data.length ∧
      ∀ p, (∀ j, i ≤ j → j < i + remaining → ¬ offsets.Rewrites (j * pointStep % 2 ^ 64) p) →
        out[p]? = data[p]? := by
  induction remaining generalizing i data maxRing with
  | zero =>
    cases moved
    exact ⟨rfl, fun p _ => rfl⟩
  | succ remaining ih =>
    obtain ⟨⟨next, nextMax⟩, one, rest⟩ := bind_eq_ok moved
    obtain ⟨sized_one, frame_one⟩ := transformPoint_frame one
    obtain ⟨sized_rest, frame_rest⟩ := ih rest
    refine ⟨by omega, fun p outside => ?_⟩
    have outside_rest : out[p]? = next[p]? :=
      frame_rest p fun j later upto => outside j (by omega) (by omega)
    rw [outside_rest, frame_one p (outside i (by omega) (by omega))]

/-! ## Transformed clouds -/

/-- `out` is `cloud` in the target frame: only the frame's name and octets of the
rewritten fields may differ. -/
def Rewritten (targetFrame : String) (cloud out : PointCloud2) : Prop :=
  ∃ offsets data, findOffsets cloud = some offsets ∧
    out = { cloud with header := { cloud.header with frameId := targetFrame }, data := data } ∧
    data.length = cloud.data.length ∧
    ∀ p, (∀ i, i < cloud.pointCount → ¬ offsets.Rewrites (i * cloud.pointStep.toNat % 2 ^ 64) p) →
      data[p]? = cloud.data[p]?

namespace Combiner

variable {n : Nat} {T : Type} {rigid : T → Point3 → Point3} {tf : TfBuffer n T} {s s' : Combiner n T}

theorem getTransformToTargetFrame_keeps {inputIndex : Fin n} {cloud : PointCloud2} {transform : Option T}
    (answered : getTransformToTargetFrame tf s inputIndex cloud = (s', transform)) :
    s'.targetFrame = s.targetFrame ∧ s'.latestClouds = s.latestClouds := by
  unfold getTransformToTargetFrame at answered
  split at answered
  · cases answered
    exact ⟨rfl, rfl⟩
  · split at answered <;> cases answered <;> exact ⟨rfl, rfl⟩

/-- A cloud is looked up, and if it can be, its points are moved. -/
theorem transformToTargetFrame_cases {inputIndex : Fin n} {cloud : PointCloud2} {ringOffset : Int}
    {result : Option (PointCloud2 × Int)}
    (moved : transformToTargetFrame rigid tf s inputIndex cloud ringOffset = .ok (s', result)) :
    ∃ answer, getTransformToTargetFrame tf s inputIndex cloud = (s', answer) ∧
      (result = none ∨ ∃ transform offsets data maxRing, findOffsets cloud = some offsets ∧
        transformPoints (rigid transform) offsets cloud.pointStep.toNat ringOffset cloud.pointCount 0
          cloud.data 0 = .ok (data, maxRing) ∧
        result = some ({ cloud with header := { cloud.header with frameId := s'.targetFrame }, data },
          if offsets.ring ≥ 0 then ringOffset + (maxRing + 1) else ringOffset)) := by
  unfold transformToTargetFrame at moved
  cases answered : getTransformToTargetFrame tf s inputIndex cloud with
  | mk next answer =>
    rw [answered] at moved
    refine ⟨answer, ?_⟩
    cases answer with
    | none =>
      cases moved
      exact ⟨rfl, Or.inl rfl⟩
    | some transform =>
      cases found : findOffsets cloud with
      | none =>
        simp only [found] at moved
        cases moved
        exact ⟨rfl, Or.inl rfl⟩
      | some offsets =>
        simp only [found] at moved
        obtain ⟨⟨data, maxRing⟩, looped, ends⟩ := bind_eq_ok moved
        cases ends
        exact ⟨rfl, Or.inr ⟨transform, offsets, data, maxRing, rfl, looped, rfl⟩⟩

theorem transformToTargetFrame_keeps {inputIndex : Fin n} {cloud : PointCloud2} {ringOffset : Int}
    {result : Option (PointCloud2 × Int)}
    (moved : transformToTargetFrame rigid tf s inputIndex cloud ringOffset = .ok (s', result)) :
    s'.targetFrame = s.targetFrame ∧ s'.latestClouds = s.latestClouds ∧
      ∀ out ringOffset', result = some (out, ringOffset') → Rewritten s.targetFrame cloud out := by
  obtain ⟨answer, answered, outcome⟩ := transformToTargetFrame_cases moved
  obtain ⟨same_target, same_slots⟩ := getTransformToTargetFrame_keeps answered
  refine ⟨same_target, same_slots, fun out ringOffset' same => ?_⟩
  rcases outcome with rfl | ⟨transform, offsets, data, maxRing, found, looped, rfl⟩
  · cases same
  · cases same
    obtain ⟨sized, frame⟩ := transformPoints_frame looped
    rw [← same_target]
    refine ⟨offsets, data, found, rfl, sized, fun p outside => ?_⟩
    exact frame p fun i _ below => outside i (by omega)

/-- Every cloud of a completed loop is its input in the target frame. -/
theorem transformClouds_keeps {slots : List (Fin n × PointCloud2)} {ringOffset : Int}
    {result : Option (List PointCloud2)}
    (moved : transformClouds rigid tf s ringOffset slots = .ok (s', result)) :
    s'.targetFrame = s.targetFrame ∧ s'.latestClouds = s.latestClouds ∧
      ∀ transformed, result = some transformed →
        List.Forall₂ (Rewritten s.targetFrame) (slots.map Prod.snd) transformed := by
  induction slots generalizing s ringOffset result with
  | nil =>
    cases moved
    refine ⟨rfl, rfl, fun transformed same => ?_⟩
    cases same
    exact List.Forall₂.nil
  | cons slot rest ih =>
    obtain ⟨inputIndex, cloud⟩ := slot
    obtain ⟨⟨next, one⟩, first, moved⟩ := bind_eq_ok moved
    obtain ⟨target_one, slots_one, rewritten_one⟩ := transformToTargetFrame_keeps first
    cases one with
    | none =>
      cases moved
      exact ⟨target_one, slots_one, fun transformed absurd_result => by cases absurd_result⟩
    | some one =>
      obtain ⟨out, ringOffset'⟩ := one
      obtain ⟨⟨last, others⟩, later, ends⟩ := bind_eq_ok moved
      cases ends
      obtain ⟨target_rest, slots_rest, rewritten_rest⟩ := ih later
      refine ⟨target_rest.trans target_one, slots_rest.trans slots_one, fun transformed same => ?_⟩
      obtain ⟨tail, tail_found, rfl⟩ := Option.map_eq_some_iff.mp same
      rw [target_one] at rewritten_rest
      exact List.Forall₂.cons (rewritten_one out ringOffset' rfl) (rewritten_rest tail tail_found)

/-! ## The combined cloud -/

/-- The clouds that are merged: those with the layout of the first. -/
def merged : List PointCloud2 → List PointCloud2
  | [] => []
  | base :: rest => (base :: rest).filter (sameLayout base)

theorem merged_cons (base : PointCloud2) (rest : List PointCloud2) :
    merged (base :: rest) = (base :: rest).filter (sameLayout base) := rfl

theorem merged_subset {clouds : List PointCloud2} {cloud : PointCloud2} (listed : cloud ∈ merged clouds) :
    cloud ∈ clouds := by
  cases clouds with
  | nil => exact listed
  | cons base rest => exact List.mem_of_mem_filter listed

theorem mem_merged {base cloud : PointCloud2} {rest : List PointCloud2} :
    cloud ∈ merged (base :: rest) ↔ cloud ∈ base :: rest ∧ sameLayout base cloud = true := List.mem_filter

theorem sameLayout_iff {base cloud : PointCloud2} :
    sameLayout base cloud = true ↔ cloud.pointStep = base.pointStep ∧ cloud.fields = base.fields := by
  simp [sameLayout]

/-- The first cloud is always merged. -/
theorem first_merged (base : PointCloud2) (rest : List PointCloud2) : base ∈ merged (base :: rest) :=
  mem_merged.mpr ⟨List.mem_cons_self, sameLayout_iff.mpr ⟨rfl, rfl⟩⟩

/-- Clouds that keep their layouts are merged from the same places. -/
theorem merged_related {R : PointCloud2 → PointCloud2 → Prop} {clouds others : List PointCloud2}
    (related : List.Forall₂ R clouds others)
    (same_layout : ∀ cloud other, R cloud other → sameLayout cloud other = true) :
    List.Forall₂ R (merged clouds) (merged others) := by
  cases related with
  | nil => exact List.Forall₂.nil
  | cons first rest =>
    refine List.rel_filter ?_ (List.Forall₂.cons first rest)
    intro cloud other relate
    obtain ⟨first_step, first_fields⟩ := sameLayout_iff.mp (same_layout _ _ first)
    obtain ⟨step, fields⟩ := sameLayout_iff.mp (same_layout _ _ relate)
    simp only [sameLayout_iff, first_step, first_fields, step, fields]

theorem foldl_appendCloud_data (clouds : List PointCloud2) (out : PointCloud2) :
    (clouds.foldl appendCloud out).data = out.data ++ clouds.flatMap PointCloud2.data := by
  induction clouds generalizing out with
  | nil => simp
  | cons cloud rest ih =>
    rw [List.foldl_cons, ih, List.flatMap_cons, ← List.append_assoc]
    rfl

theorem foldl_appendCloud_layout (clouds : List PointCloud2) (out : PointCloud2) :
    (clouds.foldl appendCloud out).fields = out.fields ∧
      (clouds.foldl appendCloud out).pointStep = out.pointStep := by
  induction clouds generalizing out with
  | nil => exact ⟨rfl, rfl⟩
  | cons cloud rest ih => exact ih (appendCloud out cloud)

theorem appendCloud_stampNs (out cloud : PointCloud2) :
    (appendCloud out cloud).stampNs = max out.stampNs cloud.stampNs := by
  unfold appendCloud PointCloud2.stampNs
  by_cases newer : cloud.header.stamp.nanoseconds > out.header.stamp.nanoseconds
  · simp only [newer, if_true]
    omega
  · simp only [newer, if_false]
    omega

/-- The stamp of the second loop is a running maximum. -/
theorem foldl_appendCloud_stampNs (clouds : List PointCloud2) (out : PointCloud2) :
    (clouds.foldl appendCloud out).stampNs =
      (out.stampNs :: clouds.map PointCloud2.stampNs).max (List.cons_ne_nil _ _) := by
  induction clouds generalizing out with
  | nil => rfl
  | cons cloud rest ih =>
    rw [List.foldl_cons, ih]
    simp only [appendCloud_stampNs, List.map_cons, List.max_cons_cons]

/-- The combined cloud has the layout of the first cloud, the octets of the merged
clouds end to end and the largest of their stamps. -/
theorem buildCombinedCloud_spec {targetFrame : String} {base out : PointCloud2} {rest : List PointCloud2}
    (built : buildCombinedCloud targetFrame (base :: rest) = some out) :
    out.fields = base.fields ∧ out.pointStep = base.pointStep ∧
      out.data = (merged (base :: rest)).flatMap PointCloud2.data ∧
      out.stampNs ∈ (merged (base :: rest)).map PointCloud2.stampNs ∧
      ∀ stampNs ∈ (merged (base :: rest)).map PointCloud2.stampNs, stampNs ≤ out.stampNs := by
  simp only [buildCombinedCloud, Option.ite_none_left_eq_some, Option.some.injEq] at built
  obtain ⟨-, -, rfl⟩ := built
  rw [← List.foldl_filter, ← merged_cons]
  obtain ⟨same_fields, same_step⟩ := foldl_appendCloud_layout (merged (base :: rest))
    (emptyCombined targetFrame base (totalPoints base (base :: rest)))
  have stamps := foldl_appendCloud_stampNs (merged (base :: rest))
    (emptyCombined targetFrame base (totalPoints base (base :: rest)))
  refine ⟨same_fields, same_step, foldl_appendCloud_data _ _, ?_, fun stampNs listed => ?_⟩
  · have attained := List.max_mem (List.cons_ne_nil (emptyCombined targetFrame base
      (totalPoints base (base :: rest))).stampNs ((merged (base :: rest)).map PointCloud2.stampNs))
    rw [stamps]
    rcases List.mem_cons.mp attained with start | listed
    · exact List.mem_map.mpr ⟨base, first_merged base rest, start.symm⟩
    · exact listed
  · rw [stamps]
    exact List.le_max_of_mem (List.mem_cons_of_mem _ listed)

/-! ## Rounds -/

theorem newestStamp_eq (first : PointCloud2) (clouds : List PointCloud2) :
    newestStamp first clouds =
      (first.stampNs :: clouds.map PointCloud2.stampNs).max (List.cons_ne_nil _ _) := by
  unfold newestStamp
  rw [List.max, List.foldl_map]
  congr 1
  funext newest cloud
  by_cases newer : cloud.stampNs > newest
  · rw [if_pos newer]
    omega
  · rw [if_neg newer]
    omega

theorem filledSlots_eq_some_iff {clouds : List PointCloud2} :
    s.filledSlots = some clouds ↔
      List.Forall₂ (fun inputIndex cloud => s.latestClouds inputIndex = some cloud) (List.finRange n)
        clouds :=
  mapM_eq_some_iff

theorem filledSlots_length {clouds : List PointCloud2} (filled : s.filledSlots = some clouds) :
    clouds.length = n := by
  have same_length := (filledSlots_eq_some_iff.mp filled).length_eq
  rw [List.length_finRange] at same_length
  exact same_length.symm

/-- Two clouds that pass the test of their age are stamped within the tolerance of each other. -/
theorem within_tolerance {first cloud other : PointCloud2} {clouds : List PointCloud2}
    (passed : clouds.any (tooOld (newestStamp first clouds)) = false) (cloud_listed : cloud ∈ clouds)
    (other_listed : other ∈ clouds) : cloud.stampNs - other.stampNs ≤ syncToleranceMs * 1000000 := by
  have newest : cloud.stampNs ≤ newestStamp first clouds := by
    rw [newestStamp_eq]
    exact List.le_max_of_mem (List.mem_cons_of_mem _ (List.mem_map_of_mem cloud_listed))
  have recent : tooOld (newestStamp first clouds) other = false := by
    have none_old := List.any_eq_false.mp passed other other_listed
    simpa using none_old
  unfold tooOld at recent
  have gap := of_decide_eq_false recent
  omega

theorem filledSlots_at {clouds : List PointCloud2} (filled : s.filledSlots = some clouds)
    (inputIndex : Fin n) : ∃ cloud ∈ clouds, s.latestClouds inputIndex = some cloud := by
  have answers := filledSlots_eq_some_iff.mp filled
  have listed : inputIndex.val < (List.finRange n).length := by
    rw [List.length_finRange]
    exact inputIndex.isLt
  have in_slot := answers.get listed (answers.length_eq ▸ listed)
  simp only [List.get_eq_getElem, List.getElem_finRange, Fin.cast_mk, Fin.eta] at in_slot
  exact ⟨_, List.getElem_mem _, in_slot⟩

/-- A round moves no slot. -/
theorem tryPublishCombined_keeps {result : Option PointCloud2}
    (ended : tryPublishCombined rigid tf s = .ok (s', result)) :
    s'.targetFrame = s.targetFrame ∧ s'.latestClouds = s.latestClouds := by
  unfold tryPublishCombined at ended
  split at ended
  · cases ended
    exact ⟨rfl, rfl⟩
  · cases ended
    exact ⟨rfl, rfl⟩
  · simp only at ended
    split at ended
    · cases ended
      exact ⟨rfl, rfl⟩
    · obtain ⟨⟨next, transformed⟩, moved, ended⟩ := bind_eq_ok ended
      obtain ⟨same_target, same_slots, -⟩ := transformClouds_keeps moved
      cases transformed <;> cases ended <;> exact ⟨same_target, same_slots⟩

/-- What a round that publishes went through. -/
theorem tryPublishCombined_steps {out : PointCloud2}
    (published : tryPublishCombined rigid tf s = .ok (s', some out)) :
    ∃ first rest transformed, s.filledSlots = some (first :: rest) ∧
      (first :: rest).any (tooOld (newestStamp first (first :: rest))) = false ∧
      transformClouds rigid tf s 0 ((List.finRange n).zip (first :: rest)) = .ok (s', some transformed) ∧
      buildCombinedCloud s'.targetFrame transformed = some out := by
  unfold tryPublishCombined at published
  cases filled : s.filledSlots with
  | none =>
    simp only [filled] at published
    cases published
  | some clouds =>
    cases clouds with
    | nil =>
      simp only [filled] at published
      cases published
    | cons first rest =>
      simp only [filled] at published
      cases recent : (first :: rest).any (tooOld (newestStamp first (first :: rest))) with
      | true =>
        rw [if_pos recent] at published
        cases published
      | false =>
        rw [recent] at published
        obtain ⟨⟨next, result⟩, moved, ends⟩ := bind_eq_ok published
        cases result with
        | none => cases ends
        | some transformed =>
          obtain ⟨rfl, built⟩ := Prod.mk.inj (Except.ok.inj ends)
          exact ⟨first, rest, transformed, rfl, recent, moved, built⟩

/-- Each of its clouds is an input in the target frame. -/
theorem tryPublishCombined_spec {out : PointCloud2}
    (published : tryPublishCombined rigid tf s = .ok (s', some out)) :
    ∃ first rest transformed, s.filledSlots = some (first :: rest) ∧
      (first :: rest).any (tooOld (newestStamp first (first :: rest))) = false ∧
      List.Forall₂ (Rewritten s.targetFrame) (first :: rest) transformed ∧
      buildCombinedCloud s.targetFrame transformed = some out := by
  obtain ⟨first, rest, transformed, filled, recent, moved, built⟩ := tryPublishCombined_steps published
  obtain ⟨same_target, -, rewritten⟩ := transformClouds_keeps moved
  have inputs := rewritten transformed rfl
  rw [List.map_snd_zip (by rw [filledSlots_length filled, List.length_finRange])] at inputs
  rw [same_target] at built
  exact ⟨first, rest, transformed, filled, recent, inputs, built⟩

end Combiner
end AsDt1.Source
