import Mathlib
import AsDt1.Lib.Octets

/-!
# Point cloud messages

`sensor_msgs::msg::PointCloud2` as the driver fills it and the combiner reads it.
Stamps have a non-negative `sec`: `rclcpp::Time` throws on any other.
-/
namespace AsDt1.Source
open AsDt1.Lib

/-- `builtin_interfaces::msg::Time` -/
structure Time where
  sec : Nat
  nanosec : Nat
  deriving DecidableEq, Repr

/-- `rclcpp::Time(stamp).nanoseconds()` -/
def Time.nanoseconds (t : Time) : Nat := 1000000000 * t.sec + t.nanosec

structure Header where
  stamp : Time
  frameId : String
  deriving DecidableEq, Repr

structure PointField where
  name : String
  offset : BitVec 32
  datatype : BitVec 8
  count : BitVec 32
  deriving DecidableEq, Repr

namespace PointField

def uint16 : BitVec 8 := 4
def uint32 : BitVec 8 := 6
def float32 : BitVec 8 := 7

end PointField

structure PointCloud2 where
  header : Header
  height : BitVec 32
  width : BitVec 32
  fields : List PointField
  isBigendian : Bool
  pointStep : BitVec 32
  rowStep : BitVec 32
  data : Octets
  isDense : Bool
  deriving DecidableEq, Repr

namespace PointCloud2

def stampNs (cloud : PointCloud2) : Nat := cloud.header.stamp.nanoseconds

/-- `static_cast<std::size_t>(width) * static_cast<std::size_t>(height)`; it fits 64 bits. -/
def pointCount (cloud : PointCloud2) : Nat := cloud.width.toNat * cloud.height.toNat

/-- The octets of each point, of a cloud without row padding. -/
def points (cloud : PointCloud2) : List Octets := records cloud.pointStep.toNat cloud.data

end PointCloud2

/-! ## The driver's layout -/

/-- `_msg_fields` for point cloud type XYZITR (asdt1_driver_node.cpp:151-189). -/
def xyzitrFields : List PointField :=
  [⟨"x", 0, PointField.float32, 1⟩, ⟨"y", 4, PointField.float32, 1⟩, ⟨"z", 8, PointField.float32, 1⟩,
   ⟨"intensity", 12, PointField.uint32, 1⟩, ⟨"time", 16, PointField.uint32, 1⟩,
   ⟨"ring", 20, PointField.uint16, 1⟩]

/-- `sizeof(Vector3f) + 2 * sizeof(uint32_t) + sizeof(uint16_t)` -/
def xyzitrPointStep : BitVec 32 := 22

end AsDt1.Source
