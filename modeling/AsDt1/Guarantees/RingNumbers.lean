import AsDt1.Guarantees.CombinedStamps
import AsDt1.Source.PointLoop

/-!
# Ring numbers in a combined cloud

A round shifts the rings of each topic past the largest ring seen on the topics
before it. With few enough clouds the numbers of two topics are disjoint and none
wraps. The shift follows the points of the frame, not the mode of the camera, so
two combined clouds may number the same scan line differently.
-/
namespace AsDt1.Guarantees
open AsDt1.Lib AsDt1.Source AsDt1.Source.Combiner

/-- A cloud of whole points whose fields lie inside the point step, the ring (if
there is one) apart from the coordinates. -/
structure WholePoints (cloud : PointCloud2) (offsets : Offsets) : Prop where
  found : findOffsets cloud = some offsets
  fit : offsets.Fit cloud.pointStep.toNat
  apart : 0 ≤ offsets.ring → offsets.RingApart
  whole : cloud.data.length = cloud.pointCount * cloud.pointStep.toNat
  /-- `data.size()` is a `std::size_t`. -/
  fits : cloud.data.length < 2 ^ 64

/-- The ring of each point, in order, of a cloud with rings. -/
def ringsAt (offsets : Offsets) (points : List Octets) : List Nat :=
  if 0 ≤ offsets.ring then points.map fun point => ringAt point offsets.ring.toNat else []

def rings (cloud : PointCloud2) : List Nat :=
  match findOffsets cloud with
  | none => []
  | some offsets => ringsAt offsets cloud.points

/-- How far a cloud moves the rings of the topics after it: one more than its
largest ring. -/
def advance (cloud : PointCloud2) : Nat :=
  match findOffsets cloud with
  | none => 0
  | some offsets => if 0 ≤ offsets.ring then (rings cloud).foldl max 0 + 1 else 0

/-- What the clouds of the topics before `topic` advance the rings by. -/
def ringBase (clouds : List PointCloud2) (topic : Nat) : Nat := ((clouds.take topic).map advance).sum

/-- The number of a ring of a topic in the round that merges these clouds. -/
def numberOf (clouds : List PointCloud2) (topic ring : Nat) : Nat := shifted ring (ringBase clouds topic)

/-! ## One cloud -/

namespace WholePoints

variable {cloud : PointCloud2} {offsets : Offsets}

theorem step_positive (points : WholePoints cloud offsets) : 0 < cloud.pointStep.toNat := by
  obtain ⟨nonneg, inside⟩ := points.fit.x
  omega

theorem rings_eq (points : WholePoints cloud offsets) (ringed : 0 ≤ offsets.ring) :
    rings cloud = (List.range cloud.pointCount).map fun i =>
      offsets.pointRing cloud.data (i * cloud.pointStep.toNat) := by
  have inside := points.fit.ring ringed
  unfold rings ringsAt PointCloud2.points records
  rw [points.found, points.whole, Nat.mul_div_cancel _ points.step_positive]
  simp only [ringed, if_true, List.map_map]
  apply List.map_congr_left
  intro i _
  exact congrArg ofLittleEndian (window_window cloud.data (by omega))

end WholePoints

variable {n : Nat} {T : Type} {rigid : T → Point3 → Point3} {tf : TfBuffer n T} {s s' : Combiner n T}

/-- The call shifts every ring by the offset, and advances the offset past the cloud. -/
theorem transformToTargetFrame_rings {topic : Fin n} {cloud out : PointCloud2} {offsets : Offsets}
    {ringOffset ringOffset' : Int} (points : WholePoints cloud offsets)
    (moved : transformToTargetFrame rigid tf s topic cloud ringOffset = .ok (s', some (out, ringOffset'))) :
    WholePoints out offsets ∧ rings out = (rings cloud).map (shifted · ringOffset) ∧
      ringOffset' = ringOffset + advance cloud := by
  obtain ⟨answer, -, outcome⟩ := transformToTargetFrame_cases moved
  rcases outcome with absurd_result | ⟨transform, offsets', data, maxRing, found, looped, same⟩
  · cases absurd_result
  · cases same
    obtain rfl : offsets = offsets' := Option.some.inj (points.found.symm.trans found)
    have sized := (transformPoints_frame looped).1
    have room : (0 + cloud.pointCount) * cloud.pointStep.toNat ≤ 2 ^ 64 := by
      have fits := points.fits
      rw [points.whole] at fits
      rw [Nat.zero_add]
      exact fits.le
    have points_out : WholePoints { cloud with
        header := { cloud.header with frameId := s'.targetFrame }, data } offsets :=
      ⟨found, points.fit, points.apart, sized.trans points.whole, sized.trans_lt points.fits⟩
    refine ⟨points_out, ?_⟩
    by_cases ringed : 0 ≤ offsets.ring
    · obtain ⟨shifts, largest⟩ := transformPoints_rings points.fit (points.apart ringed) ringed room looped
      constructor
      · rw [points_out.rings_eq ringed, points.rings_eq ringed, List.map_map]
        apply List.map_congr_left
        intro i listed
        have below : i < cloud.pointCount := List.mem_range.mp listed
        exact shifts i (Nat.zero_le i) (by omega)
      · unfold advance
        rw [found, if_pos ringed, largest, points.rings_eq ringed, List.range_eq_range']
        simp only [ringed, if_true]
        rfl
    · unfold rings ringsAt advance
      rw [points_out.found, found]
      simp [ringed]

/-! ## The clouds of a round -/

theorem ringBase_zero (clouds : List PointCloud2) : ringBase clouds 0 = 0 := rfl

theorem ringBase_succ (cloud : PointCloud2) (rest : List PointCloud2) (topic : Nat) :
    ringBase (cloud :: rest) (topic + 1) = advance cloud + ringBase rest topic := by
  unfold ringBase
  rw [List.take_succ_cons, List.map_cons, List.sum_cons]

/-- The loop over the slots numbers the rings of each cloud from the offset on. -/
theorem transformClouds_rings {slots : List (Fin n × PointCloud2)} {start : Nat} {transformed : List PointCloud2}
    (points : ∀ slot ∈ slots, ∃ offsets, WholePoints slot.2 offsets)
    (moved : transformClouds rigid tf s start slots = .ok (s', some transformed)) :
    (∀ out ∈ transformed, ∃ offsets, WholePoints out offsets) ∧
      transformed.map rings = (slots.map Prod.snd).mapIdx fun topic cloud =>
        (rings cloud).map fun ring => shifted ring (start + ringBase (slots.map Prod.snd) topic : Nat) := by
  induction slots generalizing s start transformed with
  | nil =>
    cases moved
    exact ⟨by simp, rfl⟩
  | cons slot rest ih =>
    obtain ⟨topic, cloud⟩ := slot
    obtain ⟨⟨next, one⟩, first, moved⟩ := bind_eq_ok moved
    cases one with
    | none => cases moved
    | some one =>
      obtain ⟨out, ringOffset'⟩ := one
      obtain ⟨⟨last, others⟩, later, ends⟩ := bind_eq_ok moved
      cases others with
      | none => cases ends
      | some others =>
        cases ends
        obtain ⟨offsets, points_first⟩ := points _ List.mem_cons_self
        obtain ⟨points_out, rings_out, rfl⟩ := transformToTargetFrame_rings points_first first
        obtain ⟨points_rest, rings_rest⟩ :=
          ih (fun slot listed => points slot (List.mem_cons_of_mem _ listed)) later
        refine ⟨List.forall_mem_cons.mpr ⟨⟨_, points_out⟩, points_rest⟩, ?_⟩
        rw [List.map_cons, rings_out, rings_rest, List.map_cons, List.mapIdx_cons]
        simp only [ringBase_succ, ringBase_zero, Nat.add_zero, Nat.add_assoc]

/-- The rings of merged clouds, end to end. -/
theorem combined_rings {targetFrame : String} {clouds : List PointCloud2} {out : PointCloud2}
    (points : ∀ cloud ∈ clouds, ∃ offsets, WholePoints cloud offsets)
    (built : buildCombinedCloud targetFrame clouds = some out) : rings out = (merged clouds).flatMap rings := by
  obtain ⟨base, rest, rfl⟩ : ∃ base rest, clouds = base :: rest := by
    cases clouds with
    | nil => cases built
    | cons base rest => exact ⟨base, rest, rfl⟩
  obtain ⟨offsets, points_base⟩ := points base List.mem_cons_self
  have same_points := combined_points built points_base.step_positive fun cloud listed => by
    obtain ⟨_, points_cloud⟩ := points cloud (merged_subset listed)
    exact ⟨_, points_cloud.whole.trans (Nat.mul_comm _ _)⟩
  have found_out : findOffsets out = some offsets :=
    (findOffsets_congr (buildCombinedCloud_spec built).1).trans points_base.found
  have found_merged : ∀ cloud ∈ merged (base :: rest), rings cloud = ringsAt offsets cloud.points := by
    intro cloud listed
    unfold rings
    rw [findOffsets_congr (sameLayout_iff.mp (mem_merged.mp listed).2).2, points_base.found]
  rw [List.flatMap_congr found_merged]
  unfold rings ringsAt
  rw [found_out, same_points]
  by_cases ringed : 0 ≤ offsets.ring
  · simp only [ringed, if_true, List.map_flatMap]
  · simp [ringed]

/-- Merging picks the same topics from all families of clouds with these layouts. -/
theorem merged_map {α : Type} {f g : α → PointCloud2} {topics : List α}
    (same : ∀ topic ∈ topics, sameLayout (g topic) (f topic) = true) :
    merged (topics.map f) = (topics.filter fun topic => g topic ∈ merged (topics.map g)).map f := by
  cases topics with
  | nil => rfl
  | cons first rest =>
    rw [List.map_cons, merged_cons, ← List.map_cons, List.filter_map]
    congr 1
    apply List.filter_congr
    intro topic listed
    obtain ⟨first_step, first_fields⟩ := sameLayout_iff.mp (same first List.mem_cons_self)
    obtain ⟨step, fields⟩ := sameLayout_iff.mp (same topic listed)
    have among : g topic ∈ g first :: rest.map g := by
      rw [← List.map_cons]
      exact List.mem_map_of_mem listed
    simp only [Function.comp_apply, List.map_cons, mem_merged, among, true_and, Bool.decide_coe]
    rw [Bool.eq_iff_iff, sameLayout_iff, sameLayout_iff, step, fields, first_step, first_fields]

/-- The topics whose clouds are merged. -/
def mergedTopics (latest : Fin n → PointCloud2) : List (Fin n) :=
  (List.finRange n).filter fun topic => latest topic ∈ merged (List.ofFn latest)

/-- The rings of each topic in the merged cloud. -/
def numbersOf (latest : Fin n → PointCloud2) (topic : Fin n) : List Nat :=
  (rings (latest topic)).map (numberOf (List.ofFn latest) topic)

/-- The rings of the combined cloud, topic by topic. -/
theorem round_rings {latest : Fin n → PointCloud2} {out : PointCloud2}
    (filled : s.filledSlots = some (List.ofFn latest))
    (points : ∀ topic, ∃ offsets, WholePoints (latest topic) offsets)
    (published : tryPublishCombined rigid tf s = .ok (s', some out)) :
    rings out = (mergedTopics latest).flatMap (numbersOf latest) := by
  obtain ⟨first, rest, transformed, filled', -, moved, built⟩ := tryPublishCombined_steps published
  rw [← Option.some.inj (filled.symm.trans filled')] at moved
  have topics : ((List.finRange n).zip (List.ofFn latest)).map Prod.snd = List.ofFn latest :=
    List.map_snd_zip (by simp)
  obtain ⟨-, -, rewritten⟩ := transformClouds_keeps moved
  have kept := rewritten transformed rfl
  have points_slots : ∀ slot ∈ (List.finRange n).zip (List.ofFn latest),
      ∃ offsets, WholePoints slot.2 offsets := by
    intro slot listed
    have among := List.mem_map_of_mem (f := Prod.snd) listed
    rw [topics] at among
    obtain ⟨topic, found⟩ := List.mem_ofFn.mp among
    rw [← found]
    exact points topic
  have from_zero : transformClouds rigid tf s (0 : Nat) ((List.finRange n).zip (List.ofFn latest)) =
      .ok (s', some transformed) := moved
  obtain ⟨points_out, rings_out⟩ := transformClouds_rings points_slots from_zero
  rw [topics] at kept rings_out
  obtain ⟨outs, rfl⟩ : ∃ outs : Fin n → PointCloud2, transformed = List.ofFn outs := by
    have sized : transformed.length = n := by rw [← kept.length_eq, List.length_ofFn]
    subst sized
    exact ⟨transformed.get, (List.ofFn_get transformed).symm⟩
  have same : ∀ topic ∈ List.finRange n, sameLayout (latest topic) (outs topic) = true := by
    rw [List.ofFn_eq_map, List.ofFn_eq_map, List.forall₂_map_left_iff, List.forall₂_map_right_iff,
      List.forall₂_same] at kept
    intro topic listed
    obtain ⟨_, _, -, moved_topic, -, -⟩ := kept topic listed
    rw [moved_topic]
    exact sameLayout_iff.mpr ⟨rfl, rfl⟩
  have numbers : ∀ topic, rings (outs topic) = numbersOf latest topic := by
    intro topic
    have at_topic := congrArg (·[topic.val]?) rings_out
    simp only [List.getElem?_map, List.getElem?_mapIdx, List.getElem?_ofFn, topic.isLt, dif_pos, Option.map_some,
      Fin.eta, Option.some.injEq, Nat.zero_add] at at_topic
    exact at_topic
  rw [combined_rings points_out built, List.ofFn_eq_map, merged_map same, ← List.ofFn_eq_map, List.flatMap_map]
  exact List.flatMap_congr fun topic _ => numbers topic

/-! ## Few clouds -/

/-- The rings of one input are all moved by one number and none wraps: equal rings
stay equal, and the order is kept. -/
structure RingsKept (before after : List Nat) : Prop where
  sized : after.length = before.length
  kept : ∀ p ∈ before.zip after, ∀ q ∈ before.zip after, (p.2 = q.2 ↔ p.1 = q.1) ∧ (p.2 < q.2 ↔ p.1 < q.1)
  unwrapped : ∃ base, after = before.map (· + base) ∧ ∀ ring ∈ after, ring < 2 ^ 16

theorem shifted_eq_add {ring base : Nat} (below : ring + base < 2 ^ 16) : shifted ring base = ring + base := by
  have value := shifted_eq ring base
  omega

theorem ringsKept_of_add {before : List Nat} {base : Nat} (below : ∀ ring ∈ before, ring + base < 2 ^ 16) :
    RingsKept before (before.map fun ring => shifted ring base) := by
  have same : (before.map fun ring => shifted ring base) = before.map (· + base) :=
    List.map_congr_left fun ring listed => shifted_eq_add (below ring listed)
  rw [same]
  have moved : ∀ p ∈ before.zip (before.map (· + base)), p.2 = p.1 + base := by
    intro p listed
    have pairs : (before.map id).zip (before.map (· + base)) = before.map fun ring => (id ring, ring + base) :=
      List.zip_map'
    rw [List.map_id] at pairs
    rw [pairs] at listed
    obtain ⟨ring, -, rfl⟩ := List.mem_map.mp listed
    rfl
  refine ⟨List.length_map .., fun p listed q listed' => ?_, base, rfl, ?_⟩
  · have := moved p listed
    have := moved q listed'
    omega
  · intro ring listed
    obtain ⟨ring', among, rfl⟩ := List.mem_map.mp listed
    exact below ring' among

theorem advance_of_rings {cloud : PointCloud2} {ring : Nat} (listed : ring ∈ rings cloud) :
    advance cloud = (rings cloud).foldl max 0 + 1 := by
  unfold advance
  cases found : findOffsets cloud with
  | none =>
    unfold rings at listed
    rw [found] at listed
    cases listed
  | some offsets =>
    by_cases ringed : 0 ≤ offsets.ring
    · exact if_pos ringed
    · unfold rings ringsAt at listed
      rw [found] at listed
      simp [ringed] at listed

theorem ring_lt_advance {cloud : PointCloud2} {ring : Nat} (listed : ring ∈ rings cloud) :
    ring < advance cloud := by
  rw [advance_of_rings listed]
  exact Nat.lt_succ_of_le ((foldl_max_le_iff.mp (Nat.le_refl _)).2 ring listed)

theorem advance_le {cloud : PointCloud2} {bound : Nat} (positive : 0 < bound)
    (below : ∀ ring ∈ rings cloud, ring < bound) : advance cloud ≤ bound := by
  have largest : (rings cloud).foldl max 0 ≤ bound - 1 :=
    foldl_max_le_iff.mpr ⟨Nat.zero_le _, fun ring listed => Nat.le_sub_one_of_lt (below ring listed)⟩
  unfold advance
  split
  · omega
  · split
    · omega
    · omega

/-- The numbers of a topic end before those of the topics after it. -/
theorem ringBase_add_le {clouds : List PointCloud2} {topic later : Nat} {cloud : PointCloud2}
    (at_topic : clouds[topic]? = some cloud) (before : topic < later) :
    ringBase clouds topic + advance cloud ≤ ringBase clouds later := by
  induction clouds generalizing topic later with
  | nil => cases at_topic
  | cons first rest ih =>
    obtain ⟨later, rfl⟩ : ∃ k, later = k + 1 := ⟨later - 1, by omega⟩
    rw [ringBase_succ]
    cases topic with
    | zero =>
      cases at_topic
      rw [ringBase_zero]
      omega
    | succ topic =>
      have kept := ih at_topic (by omega : topic < later)
      rw [ringBase_succ]
      omega

theorem ringBase_le {clouds : List PointCloud2} {topic bound : Nat}
    (small : ∀ cloud ∈ clouds, advance cloud ≤ bound) : ringBase clouds topic ≤ topic * bound := by
  unfold ringBase
  refine (List.sum_le_card_nsmul _ bound ?_).trans ?_
  · intro width listed
    obtain ⟨cloud, among, rfl⟩ := List.mem_map.mp listed
    exact small cloud (List.mem_of_mem_take among)
  · rw [List.length_map, List.length_take, smul_eq_mul]
    exact Nat.mul_le_mul_right bound (Nat.min_le_left ..)

/-- With at most 2730 clouds of one layout and rings below 24, the numbers of two
topics are disjoint, and each topic keeps its rings apart and in order without
wrapping. -/
theorem merged_rings_disjoint {latest : Fin n → PointCloud2} {out : PointCloud2} (few : n ≤ 2730)
    (filled : ∀ topic, s.latestClouds topic = some (latest topic))
    (points : ∀ topic, ∃ offsets, WholePoints (latest topic) offsets)
    (layout : ∀ topic other, sameLayout (latest topic) (latest other) = true)
    (small : ∀ topic, ∀ ring ∈ rings (latest topic), ring < 24)
    (published : tryPublishCombined rigid tf s = .ok (s', some out)) :
    ∃ parts : Fin n → List Nat, rings out = (List.finRange n).flatMap parts ∧
      (∀ topic, RingsKept (rings (latest topic)) (parts topic)) ∧
      ∀ topic other, topic ≠ other → (parts topic).Disjoint (parts other) := by
  have numbered := round_rings (mapM_finRange_eq_some_iff.mpr ⟨latest, filled, rfl⟩) points published
  have all_topics : mergedTopics latest = List.finRange n := by
    unfold mergedTopics
    rw [List.filter_eq_self]
    intro topic _
    have listed : latest topic ∈ List.ofFn latest := List.mem_ofFn.mpr ⟨topic, rfl⟩
    cases all : List.ofFn latest with
    | nil =>
      rw [all] at listed
      cases listed
    | cons base rest =>
      have base_listed : base ∈ List.ofFn latest := all ▸ List.mem_cons_self
      obtain ⟨first, rfl⟩ := List.mem_ofFn.mp base_listed
      rw [all] at listed
      exact decide_eq_true (mem_merged.mpr ⟨listed, layout first topic⟩)
  rw [all_topics] at numbered
  have below : ∀ topic, ∀ ring ∈ rings (latest topic), ring + ringBase (List.ofFn latest) topic < 2 ^ 16 := by
    intro topic ring among
    have bound := small topic ring among
    have base : ringBase (List.ofFn latest) topic ≤ topic * 24 := ringBase_le fun cloud listed => by
      obtain ⟨other, rfl⟩ := List.mem_ofFn.mp listed
      exact advance_le (by decide) (small other)
    omega
  have apart : ∀ topic other, topic < other → (numbersOf latest topic).Disjoint (numbersOf latest other) := by
    intro topic other before number here there
    obtain ⟨ring, among, rfl⟩ := List.mem_map.mp here
    obtain ⟨ring', among', same⟩ := List.mem_map.mp there
    unfold numberOf at same
    rw [shifted_eq_add (below topic ring among), shifted_eq_add (below other ring' among')] at same
    have inside := ring_lt_advance among
    have at_topic : (List.ofFn latest)[topic.val]? = some (latest topic) := by simp
    have next := ringBase_add_le at_topic before
    omega
  refine ⟨numbersOf latest, numbered, fun topic => ringsKept_of_add (below topic),
    fun topic other different => ?_⟩
  rcases lt_or_gt_of_ne different with before | behind
  · exact apart topic other before
  · exact (apart other topic behind).symm

/-! ## Two combined clouds of one run -/

/-- The latest clouds of all topics when arrival `m` is handled. -/
def LatestAt (arrivals : List (Arrival n T)) (m : Nat) (latest : Fin n → PointCloud2) : Prop :=
  ∀ topic, (slots Arrival.topic (arrivals.take (m + 1)) topic).map Arrival.cloud = some (latest topic)

theorem published_rings {targetFrame : String} {arrivals : List (Arrival n T)} {m : Nat} {out : PointCloud2}
    {latest : Fin n → PointCloud2} (points : ∀ a ∈ arrivals, ∃ offsets, WholePoints a.cloud offsets)
    (at_m : LatestAt arrivals m latest) (published : PublishedAt rigid targetFrame arrivals m out) :
    rings out = (mergedTopics latest).flatMap (numbersOf latest) := by
  obtain ⟨s, trigger, ran, arrived, round⟩ := published
  obtain ⟨s', ended⟩ := publishes_spec round
  have in_slots : ∀ topic, (s.hold trigger.topic trigger.cloud).latestClouds topic = some (latest topic) := by
    intro topic
    rw [combiner_slots_at arrived ran]
    exact at_m topic
  refine round_rings (mapM_finRange_eq_some_iff.mpr ⟨latest, in_slots, rfl⟩) (fun topic => ?_) ended
  obtain ⟨received, in_bank, same⟩ := Option.map_eq_some_iff.mp (at_m topic)
  obtain ⟨k, found, -, -⟩ := held_of_slot in_bank
  rw [← same]
  exact points received (List.mem_of_mem_take (List.mem_of_getElem? found))

/-- In every run, the number of a ring in a combined cloud is the ring plus, for
each topic before its own, one more than the largest ring of that topic's cloud in
this round. So a ring of a topic has the same number in two combined clouds if and
only if these sums agree, as numbers of sixteen bits. -/
theorem scan_line_number_iff {targetFrame : String} {arrivals : List (Arrival n T)} {m m' : Nat}
    {out out' : PointCloud2} {latest latest' : Fin n → PointCloud2}
    (points : ∀ a ∈ arrivals, ∃ offsets, WholePoints a.cloud offsets)
    (at_m : LatestAt arrivals m latest) (published : PublishedAt rigid targetFrame arrivals m out)
    (at_m' : LatestAt arrivals m' latest') (published' : PublishedAt rigid targetFrame arrivals m' out') :
    rings out = (mergedTopics latest).flatMap (numbersOf latest) ∧
      rings out' = (mergedTopics latest').flatMap (numbersOf latest') ∧
      ∀ (topic : Fin n) (ring : Nat),
        numberOf (List.ofFn latest) topic ring = numberOf (List.ofFn latest') topic ring ↔
          ringBase (List.ofFn latest) topic % 2 ^ 16 = ringBase (List.ofFn latest') topic % 2 ^ 16 := by
  refine ⟨published_rings points at_m published, published_rings points at_m' published', fun topic ring => ?_⟩
  unfold numberOf
  have number := shifted_eq ring (ringBase (List.ofFn latest) topic)
  have number' := shifted_eq ring (ringBase (List.ofFn latest') topic)
  omega

/-! ## Two cameras -/

/-- A cloud of the driver whose points have these rings. -/
def ringCloud (stamp : Time) (rings : List Nat) : PointCloud2 where
  header := ⟨stamp, "dt1_depth_frame"⟩
  height := 1
  width := BitVec.ofNat 32 rings.length
  fields := xyzitrFields
  isBigendian := false
  pointStep := xyzitrPointStep
  rowStep := xyzitrPointStep * BitVec.ofNat 32 rings.length
  data := rings.flatMap fun ring => List.replicate 20 0 ++ littleEndian 2 ring
  isDense := false

theorem ringCloud_points (stamp : Time) (rings : List Nat) (small : rings.length < 2 ^ 32) :
    WholePoints (ringCloud stamp rings) ⟨0, 4, 8, 12, 16, 20⟩ := by
  have sized : (ringCloud stamp rings).data.length = rings.length * 22 := by
    simp [ringCloud, List.length_flatMap]
  have count : (ringCloud stamp rings).pointCount = rings.length := by
    simpa [PointCloud2.pointCount, ringCloud] using small
  have timed : Timed (ringCloud stamp rings) ⟨0, 4, 8, 12, 16, 20⟩ :=
    xyzitr_timed rfl rfl (by rw [sized, count]; rfl) (by omega)
  exact ⟨timed.found, ⟨timed.x, timed.y, timed.z, timed.ring⟩, fun _ => ⟨by decide, by decide, by decide⟩,
    timed.sized, timed.fits⟩

def ringArrival (topic : Fin 2) (nanosec : Nat) (rings : List Nat) : Arrival 2 Unit :=
  ⟨topic, ringCloud ⟨100, nanosec⟩ rings, fun _ _ _ _ => some ()⟩

/-- Two frames of two cameras; in the second the front camera has no point on its
line 5. -/
def changingScene : List (Arrival 2 Unit) :=
  [ringArrival frontTopic 0 [0, 5], ringArrival rearTopic 0 [3],
    ringArrival frontTopic 33333333 [0], ringArrival rearTopic 33333333 [3]]

def firstScan (topic : Fin 2) : PointCloud2 := ringCloud ⟨100, 0⟩ (if topic = frontTopic then [0, 5] else [3])

def secondScan (topic : Fin 2) : PointCloud2 :=
  ringCloud ⟨100, 33333333⟩ (if topic = frontTopic then [0] else [3])

theorem firstScan_at : LatestAt changingScene 1 firstScan := by
  rw [LatestAt, Fin.forall_fin_two]
  exact ⟨rfl, rfl⟩

theorem secondScan_at : LatestAt changingScene 3 secondScan := by
  rw [LatestAt, Fin.forall_fin_two]
  exact ⟨rfl, rfl⟩

theorem changingScene_points : ∀ a ∈ changingScene, ∃ offsets, WholePoints a.cloud offsets := by
  intro a listed
  simp only [changingScene, List.mem_cons, List.not_mem_nil, or_false] at listed
  rcases listed with rfl | rfl | rfl | rfl <;> exact ⟨_, ringCloud_points _ _ (by decide)⟩

theorem changingScene_published : (∃ out, PublishedAt (fun _ point => point) "base_link" changingScene 1 out) ∧
    ∃ out, PublishedAt (fun _ point => point) "base_link" changingScene 3 out :=
  ⟨⟨_, _, _, rfl, rfl, rfl⟩, ⟨_, _, _, rfl, rfl, rfl⟩⟩

theorem frames_merged : mergedTopics firstScan = [frontTopic, rearTopic] ∧
    mergedTopics secondScan = [frontTopic, rearTopic] ∧ rings (firstScan frontTopic) = [0, 5] ∧
    rings (firstScan rearTopic) = [3] ∧ rings (secondScan frontTopic) = [0] ∧
    rings (secondScan rearTopic) = [3] := by decide

/-- Line 3 of the rear camera has number 9 in one combined cloud and 4 in the
next: no numbering by topic and ring gives both. -/
theorem rear_line_renumbered : ¬ ∃ number : Fin 2 → Nat → Nat, ∀ m out latest,
    LatestAt changingScene m latest → PublishedAt (fun _ point => point) "base_link" changingScene m out →
    rings out = (mergedTopics latest).flatMap fun topic => (rings (latest topic)).map (number topic) := by
  rintro ⟨number, depends⟩
  obtain ⟨⟨out, published⟩, out', published'⟩ := changingScene_published
  obtain ⟨topics, topics', front, rear, front', rear'⟩ := frames_merged
  have first := depends 1 out firstScan firstScan_at published
  have second := depends 3 out' secondScan secondScan_at published'
  rw [published_rings changingScene_points firstScan_at published, topics] at first
  rw [published_rings changingScene_points secondScan_at published', topics'] at second
  simp only [List.flatMap_cons, List.flatMap_nil, numbersOf, front, rear, front', rear', List.map_cons, List.map_nil,
    List.cons_append, List.nil_append, List.append_nil, List.cons.injEq, and_true] at first second
  obtain ⟨-, -, nine⟩ := first
  obtain ⟨-, four⟩ := second
  have different : numberOf (List.ofFn firstScan) rearTopic 3 ≠
      numberOf (List.ofFn secondScan) rearTopic 3 := by
    decide
  exact different (nine.trans four.symm)

/-- The rear camera's line has the number that the front camera's lines leave. -/
theorem rear_line_number :
    numberOf (List.ofFn firstScan) rearTopic 3 ≠ numberOf (List.ofFn secondScan) rearTopic 3 := by
  obtain ⟨⟨out, published⟩, out', published'⟩ := changingScene_published
  obtain ⟨-, -, same_iff⟩ :=
    scan_line_number_iff changingScene_points firstScan_at published secondScan_at published'
  rw [Ne, same_iff]
  decide

/-- The two topics of the first frame: 0 and 5, then 9. -/
theorem first_frame_disjoint : ∃ s' out parts,
    publish (twoTopics (firstScan frontTopic) (firstScan rearTopic)) = .ok (s', some out) ∧
      rings out = (List.finRange 2).flatMap parts ∧ (parts frontTopic).Disjoint (parts rearTopic) := by
  obtain ⟨s', out, published⟩ : ∃ s' out,
      publish (twoTopics (firstScan frontTopic) (firstScan rearTopic)) = .ok (s', some out) := ⟨_, _, rfl⟩
  have filled : ∀ topic, (twoTopics (firstScan frontTopic) (firstScan rearTopic)).latestClouds topic =
      some (firstScan topic) := by
    rw [Fin.forall_fin_two]
    exact ⟨rfl, rfl⟩
  obtain ⟨parts, numbered, -, disjoint⟩ := merged_rings_disjoint (by decide) filled
    (fun topic => ⟨_, ringCloud_points _ _ (by revert topic; decide)⟩) (by decide) (by decide) published
  exact ⟨s', out, parts, published, numbered, disjoint frontTopic rearTopic (by decide)⟩

end AsDt1.Guarantees
