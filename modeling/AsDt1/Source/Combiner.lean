import AsDt1.Source.PointCloud2

/-!
# Combining point clouds

`PointCloudCombiner` (point_cloud_combiner_node.cpp:74-123, 197-320, 343-393) for
the clouds of `n` input topics. `T` is the type of `target_transform` and
`rigid` what a transform does to a point, given and returned as the words of
three floats. The transform listener is an argument of each round. Warnings, and
the exceptions of allocation, are left out.
-/
namespace AsDt1.Source
open AsDt1.Lib

def syncToleranceMs : Nat := 25

/-! ## Fields -/

structure Offsets where
  x : Int
  y : Int
  z : Int
  intensity : Int
  time : Int
  ring : Int
  deriving DecidableEq, Repr

/-- One of the six variables of the loop: -1, then the offset of each field of that
name and type, stored as an `int`. -/
def offsetOf (name : String) (datatype : BitVec 8) (fields : List PointField) : Int :=
  fields.foldl (fun offset field =>
    if field.name = name ∧ field.datatype = datatype then field.offset.toInt else offset) (-1)

def findOffsets (cloud : PointCloud2) : Option Offsets :=
  let x := offsetOf "x" PointField.float32 cloud.fields
  let y := offsetOf "y" PointField.float32 cloud.fields
  let z := offsetOf "z" PointField.float32 cloud.fields
  let intensity := offsetOf "intensity" PointField.uint32 cloud.fields
  let time := offsetOf "time" PointField.uint32 cloud.fields
  let ring := offsetOf "ring" PointField.uint16 cloud.fields
  if x < 0 ∨ y < 0 ∨ z < 0 then none else some ⟨x, y, z, intensity, time, ring⟩

/-! ## Points -/

structure Point3 where
  x : BitVec 32
  y : BitVec 32
  z : BitVec 32
  deriving DecidableEq, Repr

/-- `base + offset` as `std::size_t`. -/
def position (base : Nat) (offset : Int) : Nat := ((base + offset) % 2 ^ 64).toNat

def loadFloat (data : Octets) (pos : Nat) : Except OutOfBounds (BitVec 32) := do
  return BitVec.ofNat 32 (ofLittleEndian (← load data pos 4))

def storeFloat (data : Octets) (pos : Nat) (value : BitVec 32) : Except OutOfBounds Octets :=
  store data pos (littleEndian 4 value.toNat)

/-- The ring part of the loop body; the sum wraps as `uint16_t`. -/
def shiftRing (pos : Nat) (ringOffset : Int) (data : Octets) (maxRing : Int) :
    Except OutOfBounds (Octets × Int) := do
  let ring : Int := ofLittleEndian (← load data pos 2)
  let maxRing := if ring > maxRing then ring else maxRing
  let r := BitVec.ofInt 16 (ring + ringOffset)
  return (← store data pos (littleEndian 2 r.toNat), maxRing)

/-- The body of the loop over the points, for point `i`. -/
def transformPoint (rigid : Point3 → Point3) (offsets : Offsets) (pointStep : Nat) (ringOffset : Int)
    (i : Nat) (data : Octets) (maxRing : Int) : Except OutOfBounds (Octets × Int) := do
  let base := i * pointStep % 2 ^ 64
  let x ← loadFloat data (position base offsets.x)
  let y ← loadFloat data (position base offsets.y)
  let z ← loadFloat data (position base offsets.z)
  let transformed := rigid ⟨x, y, z⟩
  let data ← storeFloat data (position base offsets.x) transformed.x
  let data ← storeFloat data (position base offsets.y) transformed.y
  let data ← storeFloat data (position base offsets.z) transformed.z
  if offsets.ring ≥ 0 then shiftRing (position base offsets.ring) ringOffset data maxRing
  else return (data, maxRing)

/-- The loop from point `i` on, with `remaining` points to go. -/
def transformPoints (rigid : Point3 → Point3) (offsets : Offsets) (pointStep : Nat) (ringOffset : Int) :
    (remaining i : Nat) → Octets → Int → Except OutOfBounds (Octets × Int)
  | 0, _, data, maxRing => .ok (data, maxRing)
  | remaining + 1, i, data, maxRing => do
    let (data, maxRing) ← transformPoint rigid offsets pointStep ringOffset i data maxRing
    transformPoints rigid offsets pointStep ringOffset remaining (i + 1) data maxRing

/-! ## Clouds -/

/-- What `lookupTransform(target, source, time)` answers in one round; `none` is a
`tf2::TransformException`. It may answer two topics differently. -/
abbrev TfBuffer (n : Nat) (T : Type) := Fin n → (target source : String) → Time → Option T

/-- The members that the point cloud callbacks use. -/
structure Combiner (n : Nat) (T : Type) where
  targetFrame : String
  targetTransforms : Fin n → Option T
  latestClouds : Fin n → Option PointCloud2

variable {n : Nat} {T : Type}

namespace Combiner

def initial (targetFrame : String) : Combiner n T := ⟨targetFrame, fun _ => none, fun _ => none⟩

def getTransformToTargetFrame (tf : TfBuffer n T) (s : Combiner n T) (inputIndex : Fin n)
    (inCloud : PointCloud2) : Combiner n T × Option T :=
  match s.targetTransforms inputIndex with
  | some transform => (s, some transform)
  | none =>
    match tf inputIndex s.targetFrame inCloud.header.frameId inCloud.header.stamp with
    | none => (s, none)
    | some transform =>
      ({ s with targetTransforms := Function.update s.targetTransforms inputIndex (some transform) },
        some transform)

/-- The node after the call, and the cloud with the new `ring_offset` when the call
returns true. -/
def transformToTargetFrame (rigid : T → Point3 → Point3) (tf : TfBuffer n T) (s : Combiner n T)
    (inputIndex : Fin n) (inCloud : PointCloud2) (ringOffset : Int) :
    Except OutOfBounds (Combiner n T × Option (PointCloud2 × Int)) :=
  match getTransformToTargetFrame tf s inputIndex inCloud with
  | (s, none) => .ok (s, none)
  | (s, some transform) =>
    match findOffsets inCloud with
    | none => .ok (s, none)
    | some offsets => do
      let (data, maxRing) ← transformPoints (rigid transform) offsets inCloud.pointStep.toNat ringOffset
        inCloud.pointCount 0 inCloud.data 0
      let ringOffset := if offsets.ring ≥ 0 then ringOffset + (maxRing + 1) else ringOffset
      let header := { inCloud.header with frameId := s.targetFrame }
      return (s, some ({ inCloud with header, data }, ringOffset))

/-- The loop of `try_publish_combined` over the slots; it ends at the first cloud
that cannot be transformed. -/
def transformClouds (rigid : T → Point3 → Point3) (tf : TfBuffer n T) :
    Combiner n T → Int → List (Fin n × PointCloud2) →
      Except OutOfBounds (Combiner n T × Option (List PointCloud2))
  | s, _, [] => .ok (s, some [])
  | s, ringOffset, (inputIndex, cloud) :: rest => do
    match ← transformToTargetFrame rigid tf s inputIndex cloud ringOffset with
    | (s, none) => return (s, none)
    | (s, some (out, ringOffset)) =>
      let (s, transformed) ← transformClouds rigid tf s ringOffset rest
      return (s, transformed.map (out :: ·))

/-! ## The combined cloud -/

/-- The test that both loops of `build_combined_cloud` make. -/
def sameLayout (base cloud : PointCloud2) : Bool :=
  cloud.pointStep = base.pointStep ∧ cloud.fields = base.fields

/-- The second loop's update of `out_msg`. -/
def appendCloud (out cloud : PointCloud2) : PointCloud2 :=
  { out with
    data := out.data ++ cloud.data
    isDense := out.isDense && cloud.isDense
    header := if cloud.stampNs > out.stampNs then { out.header with stamp := cloud.header.stamp }
      else out.header }

/-- `total_points` of the first loop. -/
def totalPoints (base : PointCloud2) (clouds : List PointCloud2) : Nat :=
  clouds.foldl (fun total cloud =>
    if sameLayout base cloud then (total + cloud.pointCount) % 2 ^ 64 else total) 0

/-- `out_msg` when the second loop starts. -/
def emptyCombined (targetFrame : String) (base : PointCloud2) (total : Nat) : PointCloud2 where
  header := { base.header with frameId := targetFrame }
  height := 1
  width := BitVec.ofNat 32 total
  fields := base.fields
  isBigendian := base.isBigendian
  pointStep := base.pointStep
  rowStep := base.pointStep * BitVec.ofNat 32 total
  data := []
  isDense := true

def buildCombinedCloud (targetFrame : String) (clouds : List PointCloud2) : Option PointCloud2 :=
  match clouds with
  | [] => none
  | base :: _ =>
    let total := totalPoints base clouds
    if total = 0 then none
    else
      let out := clouds.foldl (fun out cloud => if sameLayout base cloud then appendCloud out cloud else out)
        (emptyCombined targetFrame base total)
      if out.data.isEmpty then none else some out

/-! ## Rounds -/

/-- The largest stamp, as the loop over the slots computes it. -/
def newestStamp (first : PointCloud2) (clouds : List PointCloud2) : Nat :=
  clouds.foldl (fun newest cloud => if cloud.stampNs > newest then cloud.stampNs else newest) first.stampNs

/-- `age_ms > SYNC_TOLERANCE_MS`: the double of a whole number of nanoseconds exceeds
25.0 exactly if that number exceeds 25 million. -/
def tooOld (newest : Nat) (cloud : PointCloud2) : Bool :=
  newest - cloud.stampNs > syncToleranceMs * 1000000

/-- The slots in topic order, when all are filled. -/
def filledSlots (s : Combiner n T) : Option (List PointCloud2) := (List.finRange n).mapM s.latestClouds

/-- The node after the call, and the cloud it publishes. -/
def tryPublishCombined (rigid : T → Point3 → Point3) (tf : TfBuffer n T) (s : Combiner n T) :
    Except OutOfBounds (Combiner n T × Option PointCloud2) :=
  match s.filledSlots with
  | none | some [] => .ok (s, none)
  | some (first :: rest) =>
    let clouds := first :: rest
    let newest := newestStamp first clouds
    if clouds.any (tooOld newest) then .ok (s, none)
    else do
      match ← transformClouds rigid tf s 0 ((List.finRange n).zip clouds) with
      | (s, none) => return (s, none)
      | (s, some transformed) => return (s, buildCombinedCloud s.targetFrame transformed)

/-- `_latest_clouds[index] = std::move(msg)` -/
def hold (s : Combiner n T) (index : Fin n) (msg : PointCloud2) : Combiner n T :=
  { s with latestClouds := Function.update s.latestClouds index (some msg) }

def onPointCloud (rigid : T → Point3 → Point3) (tf : TfBuffer n T) (s : Combiner n T) (index : Fin n)
    (msg : PointCloud2) : Except OutOfBounds (Combiner n T × Option PointCloud2) :=
  tryPublishCombined rigid tf (s.hold index msg)

end Combiner
end AsDt1.Source
