import AsDt1.Guarantees.CloudReuse
import AsDt1.Source.NodeRuns

/-!
# Transforms and the frames they were looked up for

Over a static TF tree the cache of a point cloud topic is the transform of the
frame it was filled for. It is used for every later cloud of the topic, and for
the IMU messages of the IMU topic of the same number, whatever their own frames.
-/
namespace AsDt1.Guarantees
open AsDt1.Lib AsDt1.Source AsDt1.Source.Combiner

variable {n m : Nat} {K T : Type}

/-- A lookup that succeeds answers by the two frame names alone. -/
def StaticTf (tree : (target source : String) → T) (tf : TfBuffer n T) : Prop :=
  ∀ topic target source time transform, tf topic target source time = some transform →
    transform = tree target source

/-- Every listener of a run answers from the tree. -/
def OnStaticTree (tree : (target source : String) → T) (_ : CombinerNode n m K T) :
    NodeArrival n m K T → Prop
  | .cloud a => StaticTf tree a.tf
  | .imu _ _ => True

/-! ## What a round leaves in the cache -/

variable {tree : (target source : String) → T} {rigid : T → Point3 → Point3} {tf : TfBuffer n T}
  {s s' : Combiner n T}

/-- One lookup fills an empty cache from the cloud's own frame. -/
theorem getTransform_fills (static : StaticTf tree tf) {inputIndex : Fin n} {cloud : PointCloud2}
    {transform : Option T} (answered : getTransformToTargetFrame tf s inputIndex cloud = (s', transform)) :
    s'.targetTransforms = s.targetTransforms ∨
      (s.targetTransforms inputIndex = none ∧ s'.targetTransforms =
        Function.update s.targetTransforms inputIndex (some (tree s.targetFrame cloud.header.frameId))) := by
  unfold getTransformToTargetFrame at answered
  split at answered
  · cases answered
    exact Or.inl rfl
  · next empty =>
    split at answered
    · cases answered
      exact Or.inl rfl
    · next found looked =>
      cases answered
      rw [static _ _ _ _ _ looked]
      exact Or.inr ⟨empty, rfl⟩

/-- A round changes an empty cache only, to the transform of the cloud in its topic's slot. -/
theorem transformClouds_fills (static : StaticTf tree tf) {slots : List (Fin n × PointCloud2)}
    {ringOffset : Int}
    {result : Option (List PointCloud2)}
    (moved : transformClouds rigid tf s ringOffset slots = .ok (s', result)) (topic : Fin n) :
    s'.targetTransforms topic = s.targetTransforms topic ∨
      (s.targetTransforms topic = none ∧ ∃ cloud, (topic, cloud) ∈ slots ∧
        s'.targetTransforms topic = some (tree s.targetFrame cloud.header.frameId)) := by
  induction slots generalizing s ringOffset result with
  | nil =>
    cases moved
    exact Or.inl rfl
  | cons slot rest ih =>
    obtain ⟨inputIndex, cloud⟩ := slot
    obtain ⟨⟨next, one⟩, first, moved⟩ := bind_eq_ok moved
    obtain ⟨answer, answered, -⟩ := transformToTargetFrame_cases first
    obtain ⟨same_target, -⟩ := getTransformToTargetFrame_keeps answered
    have by_first : next.targetTransforms topic = s.targetTransforms topic ∨
        (s.targetTransforms topic = none ∧ topic = inputIndex ∧
          next.targetTransforms topic = some (tree s.targetFrame cloud.header.frameId)) := by
      rcases getTransform_fills static answered with same | ⟨empty, filled⟩
      · exact Or.inl (by rw [same])
      · by_cases here : topic = inputIndex
        · subst here
          exact Or.inr ⟨empty, rfl, by rw [filled, Function.update_self]⟩
        · exact Or.inl (by rw [filled, Function.update_of_ne here])
    have by_rest : s'.targetTransforms topic = next.targetTransforms topic ∨
        (next.targetTransforms topic = none ∧ ∃ cloud, (topic, cloud) ∈ rest ∧
          s'.targetTransforms topic = some (tree s.targetFrame cloud.header.frameId)) := by
      cases one with
      | none =>
        cases moved
        exact Or.inl rfl
      | some one =>
        obtain ⟨⟨last, others⟩, later, ends⟩ := bind_eq_ok moved
        cases ends
        rw [← same_target]
        exact ih later
    rcases by_first with kept | ⟨empty, rfl, filled⟩
    · rcases by_rest with kept_rest | ⟨empty, other, listed, filled⟩
      · exact Or.inl (kept_rest.trans kept)
      · exact Or.inr ⟨kept ▸ empty, other, List.mem_cons_of_mem _ listed, filled⟩
    · rcases by_rest with kept_rest | ⟨not_empty, -⟩
      · exact Or.inr ⟨empty, cloud, List.mem_cons_self, kept_rest.trans filled⟩
      · rw [filled] at not_empty
        cases not_empty

theorem slot_of_zip {clouds : List PointCloud2} (filled : s.filledSlots = some clouds) {topic : Fin n}
    {cloud : PointCloud2} (listed : (topic, cloud) ∈ (List.finRange n).zip clouds) :
    s.latestClouds topic = some cloud :=
  List.forall₂_iff_zip.mp (filledSlots_eq_some_iff.mp filled) |>.2 listed

theorem tryPublishCombined_fills (static : StaticTf tree tf) {result : Option PointCloud2}
    (ended : tryPublishCombined rigid tf s = .ok (s', result)) (topic : Fin n) :
    s'.targetTransforms topic = s.targetTransforms topic ∨
      (s.targetTransforms topic = none ∧ ∃ cloud, s.latestClouds topic = some cloud ∧
        s'.targetTransforms topic = some (tree s.targetFrame cloud.header.frameId)) := by
  unfold tryPublishCombined at ended
  split at ended
  · cases ended
    exact Or.inl rfl
  · cases ended
    exact Or.inl rfl
  · next first rest filled =>
    simp only at ended
    split at ended
    · cases ended
      exact Or.inl rfl
    · obtain ⟨⟨next, transformed⟩, moved, ended⟩ := bind_eq_ok ended
      have same_end : s' = next := by cases transformed <;> cases ended <;> rfl
      subst same_end
      rcases transformClouds_fills static moved topic with kept | ⟨empty, cloud, listed, cached⟩
      · exact Or.inl kept
      · exact Or.inr ⟨empty, cloud, slot_of_zip filled listed, cached⟩

/-! ## Runs -/

/-- Each cache is empty, or the tree's transform for the frame it was filled for. -/
structure CachedForFrame (tree : (target source : String) → T) (targetFrame : String)
    (s : CombinerNode n m K T) : Prop where
  target : s.clouds.targetFrame = targetFrame
  cached : ∀ topic, s.clouds.targetTransforms topic = (s.lookedUp topic).map (tree targetFrame)

theorem cachedForFrame_kept {targetFrame : String} {before after : CombinerNode n m K T}
    {a : NodeArrival n m K T} (holds : CachedForFrame tree targetFrame before)
    (static : OnStaticTree tree before a)
    (taken : (combinerNode rigid targetFrame).step before a = some after) :
    CachedForFrame tree targetFrame after := by
  cases a with
  | imu topic msg =>
    obtain ⟨-, same⟩ := Option.ite_none_left_eq_some.mp taken
    cases same
    exact ⟨holds.target, holds.cached⟩
  | cloud a =>
    obtain ⟨clouds, round, rfl⟩ := Option.map_eq_some_iff.mp taken
    obtain ⟨result, ended⟩ := combiner_step round
    obtain ⟨same_target, same_slots⟩ := tryPublishCombined_keeps ended
    refine ⟨same_target.trans holds.target, fun topic => ?_⟩
    have was_cached := holds.cached topic
    have fills := tryPublishCombined_fills static ended topic
    simp only [hold, holds.target] at fills same_slots
    simp only [noteLookups]
    cases looked : before.lookedUp topic with
    | some frame =>
      rw [looked] at was_cached
      rcases fills with kept | ⟨empty, -⟩
      · exact kept.trans was_cached
      · rw [was_cached] at empty
        cases empty
    | none =>
      rw [looked] at was_cached
      rcases fills with kept | ⟨-, cloud, in_slot, filled⟩
      · rw [kept, was_cached]
        rfl
      · rw [filled, same_slots, in_slot]
        rfl

theorem cachedForFrame_reached {targetFrame : String} {s : CombinerNode n m K T}
    (reached : (combinerNode rigid targetFrame).Reached (OnStaticTree tree) s) :
    CachedForFrame tree targetFrame s :=
  reached.invariant ⟨rfl, fun _ => rfl⟩ fun _ _ _ holds static taken => cachedForFrame_kept holds static taken

/-! ## The transform of a cloud -/

/-- The loop over the slots applies a transform to the cloud of a topic. -/
inductive Applies (rigid : T → Point3 → Point3) (tf : TfBuffer n T) :
    Combiner n T → Int → List (Fin n × PointCloud2) → Fin n → PointCloud2 → T → Prop
  | here {s s' : Combiner n T} {ringOffset : Int} {rest : List (Fin n × PointCloud2)} {topic : Fin n}
      {cloud : PointCloud2} {transform : T}
      (answered : getTransformToTargetFrame tf s topic cloud = (s', some transform)) :
      Applies rigid tf s ringOffset ((topic, cloud) :: rest) topic cloud transform
  | later {s s' : Combiner n T} {ringOffset ringOffset' : Int} {rest : List (Fin n × PointCloud2)}
      {earlier topic : Fin n} {first out cloud : PointCloud2} {transform : T}
      (moved : transformToTargetFrame rigid tf s earlier first ringOffset = .ok (s', some (out, ringOffset')))
      (applied : Applies rigid tf s' ringOffset' rest topic cloud transform) :
      Applies rigid tf s ringOffset ((earlier, first) :: rest) topic cloud transform

/-- The round of a cloud that arrives applies a transform to the cloud of a topic. -/
def AppliedIn (rigid : T → Point3 → Point3) (s : Combiner n T) (a : Arrival n T) (topic : Fin n)
    (cloud : PointCloud2) (transform : T) : Prop :=
  ∃ first rest, (s.hold a.topic a.cloud).filledSlots = some (first :: rest) ∧
    (first :: rest).any (tooOld (newestStamp first (first :: rest))) = false ∧
    Applies rigid a.tf (s.hold a.topic a.cloud) 0 ((List.finRange n).zip (first :: rest)) topic cloud transform

/-- What is applied is the cached transform, or the answer for the cloud's own frame. -/
theorem applies_cases (static : StaticTf tree tf) {ringOffset : Int} {slots : List (Fin n × PointCloud2)}
    {topic : Fin n} {cloud : PointCloud2} {transform : T} (distinct : (slots.map Prod.fst).Nodup)
    (applied : Applies rigid tf s ringOffset slots topic cloud transform) :
    (topic, cloud) ∈ slots ∧ (s.targetTransforms topic = some transform ∨
      (s.targetTransforms topic = none ∧ transform = tree s.targetFrame cloud.header.frameId)) := by
  induction applied with
  | here answered =>
    refine ⟨List.mem_cons_self, ?_⟩
    unfold getTransformToTargetFrame at answered
    split at answered
    · next cached =>
      cases answered
      exact Or.inl cached
    · next empty =>
      split at answered
      · cases answered
      · next found looked =>
        cases answered
        exact Or.inr ⟨empty, static _ _ _ _ _ looked⟩
  | @later s s' _ _ rest earlier topic first _ cloud _ moved _ ih =>
    rw [List.map_cons, List.nodup_cons] at distinct
    obtain ⟨fresh, distinct_rest⟩ := distinct
    obtain ⟨listed, applied_as⟩ := ih distinct_rest
    have other_topic : topic ≠ earlier := by
      rintro rfl
      exact fresh (List.mem_map.mpr ⟨_, listed, rfl⟩)
    obtain ⟨answer, answered, -⟩ := transformToTargetFrame_cases moved
    obtain ⟨same_target, -⟩ := getTransformToTargetFrame_keeps answered
    have same_cache : s'.targetTransforms topic = s.targetTransforms topic := by
      rcases getTransform_fills static answered with same | ⟨-, filled⟩
      · rw [same]
      · rw [filled, Function.update_of_ne other_topic]
    rw [same_cache, same_target] at applied_as
    exact ⟨List.mem_cons_of_mem _ listed, applied_as⟩

/-- In every run over a static tree, the transform applied to a cloud is that of its
own frame if and only if the cache of its topic is empty or was filled for a frame
with the same transform. -/
theorem applied_own_frame_iff {targetFrame : String} {s : CombinerNode n m K T}
    (reached : (combinerNode rigid targetFrame).Reached (OnStaticTree tree) s) {a : Arrival n T}
    (static : StaticTf tree a.tf) {topic : Fin n} {cloud : PointCloud2} {transform : T}
    (applied : AppliedIn rigid s.clouds a topic cloud transform) :
    transform = tree targetFrame cloud.header.frameId ↔
      ∀ frame, s.lookedUp topic = some frame →
        tree targetFrame frame = tree targetFrame cloud.header.frameId := by
  obtain ⟨target, cached⟩ := cachedForFrame_reached reached
  obtain ⟨first, rest, filled, -, applied⟩ := applied
  have distinct : (((List.finRange n).zip (first :: rest)).map Prod.fst).Nodup := by
    rw [List.map_fst_zip (by rw [filledSlots_length filled, List.length_finRange])]
    exact List.nodup_finRange n
  obtain ⟨-, applied_as⟩ := applies_cases static distinct applied
  simp only [hold, target, cached topic] at applied_as
  cases looked : s.lookedUp topic with
  | none =>
    rw [looked] at applied_as
    rcases applied_as with absurd_cache | ⟨-, own⟩
    · cases absurd_cache
    · exact iff_of_true own fun frame absurd_frame => by cases absurd_frame
  | some frame =>
    rw [looked] at applied_as
    rcases applied_as with from_cache | ⟨absurd_cache, -⟩
    · cases from_cache
      simp
    · cases absurd_cache

/-! ## The rotations of the fused messages -/

variable [Zero K] [One K] [Add K] [Neg K] [Div K] [NatCast K] [LE K] [DecidableLE K]

def averageOf (vectors : Fin m → Vec3 K) : Vec3 K := ((List.ofFn vectors).foldl (· + ·) 0).scaleDown m

/-- In every run over a static tree, a fused message averages the vectors of the
latest messages, each rotated by one transform; and every vector is rotated from
its own frame if and only if, for each IMU topic, the frame that the point cloud
topic of the same number was looked up for has the rotation of the message's frame. -/
theorem fused_own_frame_iff {rotate : T → Vec3 K → Vec3 K} {targetFrame : String} {s : CombinerNode n m K T}
    (reached : (combinerNode rigid targetFrame).Reached (OnStaticTree tree) s) {topic : Fin m}
    {msg fused : Imu K}
    (published : publishesImu rotate s (.imu topic msg) = some fused) :
    ∃ (imus : Fin m → Imu K) (transforms : Fin m → T),
      (∀ i, Function.update s.latestImus topic (some msg) i = some (imus i)) ∧
      (∀ i : Fin m, s.clouds.cachedTransform i = some (transforms i)) ∧
      fused.angularVelocity = averageOf (fun i => rotate (transforms i) (imus i).angularVelocity) ∧
      fused.linearAcceleration = averageOf (fun i => rotate (transforms i) (imus i).linearAcceleration) ∧
      ((∀ i, rotate (transforms i) = rotate (tree targetFrame (imus i).header.frameId)) ↔
        ∀ (i : Fin m) (listed : i.val < n) (frame : String), s.lookedUp ⟨i, listed⟩ = some frame →
          rotate (tree targetFrame frame) = rotate (tree targetFrame (imus i).header.frameId)) := by
  obtain ⟨-, cached⟩ := cachedForFrame_reached reached
  obtain ⟨imus, positive, av, la, in_slots, -, summed, rfl⟩ := tryPublishCombinedImu_spec published
  obtain ⟨transforms, from_cache, rfl, rfl⟩ := sumImus_eq summed
  simp only [Nat.zero_add] at from_cache
  -- each transform is the tree's, for the frame that filled the cache of that number
  have looked_up : ∀ i : Fin m, ∃ (listed : i.val < n) (frame : String), s.lookedUp ⟨i, listed⟩ = some frame ∧
      transforms i = tree targetFrame frame := by
    intro i
    have taken := from_cache i
    unfold cachedTransform at taken
    split at taken
    · next listed =>
      rw [cached] at taken
      obtain ⟨frame, filled, same⟩ := Option.map_eq_some_iff.mp taken
      exact ⟨listed, frame, filled, same.symm⟩
    · cases taken
  refine ⟨imus, transforms, in_slots, from_cache, rfl, rfl, ?_⟩
  constructor
  · intro own i listed frame filled
    obtain ⟨_, frame', filled', same⟩ := looked_up i
    obtain rfl : frame = frame' := Option.some.inj (filled.symm.trans filled')
    rw [← same]
    exact own i
  · intro aligned i
    obtain ⟨listed, frame, filled, same⟩ := looked_up i
    rw [same]
    exact aligned i listed frame filled

/-! ## Two cameras -/

/-- A tree in which every frame has a transform of its own. -/
def framesApart (_ source : String) : String := source

def cloudIn (topic : Fin 2) (frameId : String) (nanosec : Nat) : Arrival 2 String where
  topic
  cloud := {
    header := ⟨⟨100, nanosec⟩, frameId⟩
    height := 1
    width := 1
    fields := xyzitrFields
    isBigendian := false
    pointStep := xyzitrPointStep
    rowStep := xyzitrPointStep
    data := List.replicate 22 0
    isDense := false }
  tf := fun _ target source _ => some (framesApart target source)

def imuIn (topic : Fin 2) (frameId : String) (angularVelocity : Vec3 Int) : NodeArrival 2 2 Int String :=
  .imu topic {
    header := ⟨⟨100, 0⟩, frameId⟩
    orientation := ⟨0, 0, 0, 0⟩
    orientationCovariance := List.Vector.replicate 9 (-1)
    angularVelocity
    angularVelocityCovariance := List.Vector.replicate 9 0
    linearAcceleration := ⟨0, 0, 0⟩
    linearAccelerationCovariance := List.Vector.replicate 9 0 }

/-- The rear camera looks the other way. -/
def turn (transform : String) (vector : Vec3 Int) : Vec3 Int :=
  if transform = "rear" then ⟨-vector.x, -vector.y, vector.z⟩ else vector

theorem static_cloudIn (topic : Fin 2) (frameId : String) (nanosec : Nat) :
    StaticTf framesApart (cloudIn topic frameId nanosec).tf := by
  intro _ target source _ transform found
  exact (Option.some.inj found).symm

/-- The combiner of two cameras; the identity stands for the motion of the points. -/
abbrev twoCameras : Machine (CombinerNode 2 2 Int String) (NodeArrival 2 2 Int String) :=
  combinerNode (fun _ point => point) "base_link"

/-- The clouds that each camera delivers first. -/
def firstClouds : List (NodeArrival 2 2 Int String) :=
  [.cloud (cloudIn frontTopic "front" 0), .cloud (cloudIn rearTopic "rear" 1000000)]

/-- The node after a cloud of each camera. -/
def lookedUpNode : CombinerNode 2 2 Int String :=
  (twoCameras.run twoCameras.start firstClouds).getD twoCameras.start

theorem lookedUpNode_reached : twoCameras.Reached (OnStaticTree framesApart) lookedUpNode := by
  have ran : twoCameras.run twoCameras.start firstClouds = some lookedUpNode := rfl
  refine Machine.reached_of_run _ .start (Machine.meets_of_forall _ ?_ _) ran
  intro a listed _
  rcases List.mem_pair.mp listed with rfl | rfl
  · exact static_cloudIn frontTopic "front" 0
  · exact static_cloudIn rearTopic "rear" 1000000

/-- The front camera comes back under another frame: its cloud is moved by the
transform of the old one. -/
theorem renamed_frame_not_applied :
    twoCameras.Reached (OnStaticTree framesApart) lookedUpNode ∧
      StaticTf framesApart (cloudIn frontTopic "front_left" 2000000).tf ∧
      ∃ cloud transform, AppliedIn (fun _ point => point) lookedUpNode.clouds
        (cloudIn frontTopic "front_left" 2000000) frontTopic cloud transform ∧
        transform ≠ framesApart "base_link" cloud.header.frameId :=
  ⟨lookedUpNode_reached, static_cloudIn frontTopic _ _, _, _, ⟨_, _, rfl, by decide, Applies.here rfl⟩,
    by decide⟩

/-- While it keeps its frame, its clouds get their own transform. -/
theorem kept_frame_applied : ∃ cloud transform,
    AppliedIn (fun _ point => point) lookedUpNode.clouds (cloudIn frontTopic "front" 2000000) frontTopic cloud
        transform ∧
      transform = framesApart "base_link" cloud.header.frameId := by
  have applied : AppliedIn (fun _ point => point) lookedUpNode.clouds (cloudIn frontTopic "front" 2000000)
      frontTopic (cloudIn frontTopic "front" 2000000).cloud "front" := ⟨_, _, rfl, by decide, Applies.here rfl⟩
  refine ⟨_, _, applied, (applied_own_frame_iff lookedUpNode_reached (static_cloudIn frontTopic "front" 2000000)
    applied).mpr fun frame filled => ?_⟩
  cases filled
  rfl

/-! ## IMU topics beside point cloud topics -/

/-- The node after a cloud of each camera and a message of its first IMU topic. -/
def firstImuNode (frameId : String) : CombinerNode 2 2 Int String :=
  (twoCameras.step lookedUpNode (imuIn frontTopic frameId ⟨1, 0, 0⟩)).getD lookedUpNode

theorem firstImuNode_reached (frameId : String) :
    twoCameras.Reached (OnStaticTree framesApart) (firstImuNode frameId) :=
  .step (a := imuIn frontTopic frameId ⟨1, 0, 0⟩) lookedUpNode_reached trivial rfl

/-- Point clouds listed front first, IMUs rear first: the rear IMU's vector is
rotated by the front camera's rotation. -/
theorem crossed_lists_rotate_wrong :
    twoCameras.Reached (OnStaticTree framesApart) (firstImuNode "rear") ∧
      ∃ fused imu transform,
        publishesImu turn (firstImuNode "rear") (imuIn rearTopic "front" ⟨1, 0, 0⟩) = some fused ∧
        (firstImuNode "rear").latestImus frontTopic = some imu ∧
        (firstImuNode "rear").clouds.cachedTransform 0 = some transform ∧
        turn transform imu.angularVelocity ≠
          turn (framesApart "base_link" imu.header.frameId) imu.angularVelocity :=
  ⟨firstImuNode_reached "rear", _, _, _, rfl, rfl, rfl, by decide⟩

/-- With the lists in one order every vector is rotated from its own frame. -/
theorem aligned_lists_rotate_right : ∃ fused, ∃ (imus : Fin 2 → Imu Int) (transforms : Fin 2 → String),
    publishesImu turn (firstImuNode "front") (imuIn rearTopic "rear" ⟨1, 0, 0⟩) = some fused ∧
      fused.angularVelocity = averageOf (fun i => turn (transforms i) (imus i).angularVelocity) ∧
      ∀ i, turn (transforms i) = turn (framesApart "base_link" (imus i).header.frameId) := by
  obtain ⟨fused, published⟩ : ∃ fused,
      publishesImu turn (firstImuNode "front") (imuIn rearTopic "rear" ⟨1, 0, 0⟩) = some fused := ⟨_, rfl⟩
  obtain ⟨imus, transforms, in_slots, -, average, -, own⟩ :=
    fused_own_frame_iff (firstImuNode_reached "front") published
  refine ⟨fused, imus, transforms, published, average, own.mpr fun i listed frame filled => ?_⟩
  have in_slot := in_slots i
  match i with
  | ⟨0, _⟩ =>
    rw [← Option.some.inj in_slot]
    cases filled
    rfl
  | ⟨1, _⟩ =>
    rw [← Option.some.inj in_slot]
    cases filled
    rfl

end AsDt1.Guarantees
