import AsDt1.Lib.Binary32
import AsDt1.Source.HistFrame
import AsDt1.Source.PointCloud2

/-!
# The driver's point clouds

`ASDT1_Driver::on_point_cloud` (asdt1_driver_node.cpp:239-310) and the field table
of the constructor (151-191), with floats as words and the packed structure as
positions in the data. A write outside the data, and the conversion of a float
outside the range of the integer, are undefined and an error here. The stamp of a
time is rclcpp's and a parameter; the log is left out.
-/
namespace AsDt1.Source
open AsDt1.Lib

/-! ## The field table -/

/-- `_msg_fields` -/
def msgFields (pcType : String) : List PointField :=
  let offset : BitVec 32 := 0
  let x : PointField := ⟨"x", offset, PointField.float32, 1⟩
  let offset := offset + 4
  let y : PointField := ⟨"y", offset, PointField.float32, 1⟩
  let offset := offset + 4
  let z : PointField := ⟨"z", offset, PointField.float32, 1⟩
  let offset := offset + 4
  if pcType = "XYZITR" then
    let intensity : PointField := ⟨"intensity", offset, PointField.uint32, 1⟩
    let offset := offset + 4
    let time : PointField := ⟨"time", offset, PointField.uint32, 1⟩
    let offset := offset + 4
    let ring : PointField := ⟨"ring", offset, PointField.uint16, 1⟩
    [x, y, z, intensity, time, ring]
  else [x, y, z]

theorem msgFields_xyzitr : msgFields "XYZITR" = xyzitrFields := rfl

/-! ## The packed structure -/

inductive Undefined where
  | access (outside : OutOfBounds)
  | conversion (value : Binary32)
  deriving DecidableEq, Repr

/-- An assignment through the structure pointer. -/
def assign (data : Octets) (pos : Nat) (octets : Octets) : Except Undefined Octets :=
  match store data pos octets with
  | .ok data => .ok data
  | .error outside => .error (.access outside)

/-- `static_cast<uint32_t>` and `static_cast<uint16_t>` -/
def convert (width : Nat) (value : Binary32) : Except Undefined (BitVec width) :=
  match value.toUnsigned width with
  | some n => .ok n
  | none => .error (.conversion value)

/-- The loop body, with `pos` as the position of the `xyzitr` it points to. -/
def storePoint (data : Octets) (pos : Nat) (p : Vector6f Binary32) : Except Undefined Octets := do
  let data ← assign data pos (littleEndian 4 p.x.word.toNat)
  let data ← assign data (pos + 4) (littleEndian 4 p.y.word.toNat)
  let data ← assign data (pos + 8) (littleEndian 4 p.z.word.toNat)
  let i ← convert 32 p.height
  let data ← assign data (pos + 12) (littleEndian 4 i.toNat)
  let t ← convert 32 p.ts
  let data ← assign data (pos + 16) (littleEndian 4 t.toNat)
  let r ← convert 16 p.ring
  assign data (pos + 20) (littleEndian 2 r.toNat)

/-- The loop over `point_data`; `pos++` goes 22 octets on. -/
def storePoints : (data : Octets) → (pos : Nat) → List (Vector6f Binary32) → Except Undefined Octets
  | data, _, [] => .ok data
  | data, pos, p :: rest => do
    let data ← storePoint data pos p
    storePoints data (pos + 22) rest

/-! ## The message -/

/-- `points_data` -/
inductive PointsData where
  | xyz (points : List (Vec3 Binary32))
  | xyzitr (points : List (Vector6f Binary32))
  deriving DecidableEq, Repr

/-- The members that `on_point_cloud` uses. -/
structure CloudPublisher where
  /-- Whether `_pcloud_publisher` is set. -/
  advertised : Bool
  depthFrameId : String
  msgFields : List PointField
  deriving DecidableEq, Repr

/-- `Eigen::Vector3f` in memory. -/
def vector3fOctets (p : Vec3 Binary32) : Octets :=
  littleEndian 4 p.x.word.toNat ++ littleEndian 4 p.y.word.toNat ++ littleEndian 4 p.z.word.toNat

/-- `sizeof(Eigen::Vector3f)` -/
def xyzPointStep : BitVec 32 := 12

/-- `std::memcpy` of `count` octets to the start of `data`. -/
def copyOctets (data source : Octets) (count : Nat) : Except Undefined Octets :=
  match load source 0 count with
  | .ok octets => assign data 0 octets
  | .error outside => .error (.access outside)

/-- The message that is published, if any. -/
def onPointCloud (stampOf : BitVec 64 → Time) (driver : CloudPublisher) (frameTs : BitVec 64)
    (points : PointsData) : Except Undefined (Option PointCloud2) :=
  if ¬driver.advertised then .ok none
  else
    let header : Header := ⟨stampOf frameTs, driver.depthFrameId⟩
    let height : BitVec 32 := 1
    match points with
    | .xyz points => do
      let width := BitVec.ofNat 32 points.length
      let rowStep := xyzPointStep * width
      let byteCount := (rowStep * height).toNat
      let data ← copyOctets (List.replicate byteCount 0) (points.flatMap vector3fOctets) byteCount
      return some { header, height, width, fields := driver.msgFields, isBigendian := false,
                    pointStep := xyzPointStep, rowStep, data, isDense := false }
    | .xyzitr points => do
      let width := BitVec.ofNat 32 points.length
      let rowStep := xyzitrPointStep * width
      let byteCount := (rowStep * height).toNat
      let data ← storePoints (List.replicate byteCount 0) 0 points
      return some { header, height, width, fields := driver.msgFields, isBigendian := false,
                    pointStep := xyzitrPointStep, rowStep, data, isDense := false }

end AsDt1.Source
