import AsDt1.Source.PointCloud2

/-!
# IMU messages

`sensor_msgs::msg::Imu` as the driver fills it and the combiner fuses it. `K` is
the type of the doubles.
-/
namespace AsDt1.Source

structure Vec3 (K : Type) where
  x : K
  y : K
  z : K
  deriving DecidableEq, Repr

namespace Vec3

variable {K : Type}

instance [Zero K] : Zero (Vec3 K) := ⟨⟨0, 0, 0⟩⟩
instance [Add K] : Add (Vec3 K) := ⟨fun v w => ⟨v.x + w.x, v.y + w.y, v.z + w.z⟩⟩

def scaleDown [Div K] (v : Vec3 K) (count : K) : Vec3 K := ⟨v.x / count, v.y / count, v.z / count⟩

end Vec3

structure Quaternion (K : Type) where
  x : K
  y : K
  z : K
  w : K
  deriving DecidableEq, Repr

/-- A `std::array<double, 9>` -/
abbrev Covariance (K : Type) := List.Vector K 9

/-- `sensor_msgs::msg::Imu` -/
structure Imu (K : Type) where
  header : Header
  orientation : Quaternion K
  orientationCovariance : Covariance K
  angularVelocity : Vec3 K
  angularVelocityCovariance : Covariance K
  linearAcceleration : Vec3 K
  linearAccelerationCovariance : Covariance K
  deriving DecidableEq

namespace Imu

variable {K : Type}

def stampNs (imu : Imu K) : Nat := imu.header.stamp.nanoseconds

end Imu

/-! ## The driver's messages -/

variable {K : Type} [Zero K] [One K] [Neg K] [Div K] [NatCast K]

/-- `{v, 0.0, 0.0, 0.0, v, 0.0, 0.0, 0.0, v}` -/
def isotropic (v : K) : Covariance K := ⟨[v, 0, 0, 0, v, 0, 0, 0, v], rfl⟩

/-- The body of the loop of `ASDT1_Driver::on_imu_samples` (asdt1_driver_node.cpp:316-339),
with the readings of the sample. The stamp of a time is rclcpp's and a parameter. -/
def imuMessage (stampOf : BitVec 64 → Time) (depthFrameId : String) (timestamp : BitVec 64)
    (gyro accel : Vec3 K) : Imu K where
  header := ⟨stampOf timestamp, depthFrameId⟩
  orientation := ⟨0, 0, 0, 1⟩
  orientationCovariance := ⟨[-1, 0, 0, 0, 0, 0, 0, 0, 0], rfl⟩
  linearAccelerationCovariance := isotropic ((325895 : Nat) / (100000000000 : Nat))
  angularVelocityCovariance := isotropic ((643051 : Nat) / (100000000000 : Nat))
  angularVelocity := gyro
  linearAcceleration := accel

end AsDt1.Source
