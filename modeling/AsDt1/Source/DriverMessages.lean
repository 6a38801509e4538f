import Mathlib.Algebra.Field.Defs
import AsDt1.Source.CalibrationParser
import AsDt1.Source.DriverCloud
import AsDt1.Source.SerialPort

/-!
# What the driver node publishes

The callbacks that `ASDT1_Driver` hands to the device: `on_cam_connection`
(asdt1_driver_node.cpp:198-237), `on_point_cloud` (251-310) and `on_imu_samples`
(312-341), on the members they share. `K` is the type of the numbers outside clouds;
the conversions of IMU readings and Eigen's quaternion are parameters. Log messages are left out.
-/
namespace AsDt1.Source
open AsDt1.Lib

variable {τ K : Type}

/-- `DEPTH_FRAME_ID` -/
def depthFrame : String := "asdt1_optical"

/-- `COLOR_CAMERA_FRAME_ID` -/
def colorCameraFrame : String := "camera_system_optical"

/-! ## Messages -/

/-- `geometry_msgs::msg::TransformStamped` -/
structure TransformStamped (K : Type) where
  header : Header
  childFrameId : String
  translation : Fin 3 → K
  rotation : Quaternion K

/-- What leaves the node. -/
inductive Publication (K : Type) where
  | transform (ts : TransformStamped K)
  | pointCloud (msg : PointCloud2)
  | imu (msg : Imu K)

/-- What the callbacks find set by the constructor, and what they leave to others. -/
structure NodeSettings (K : Type) where
  /-- `calibration_parser::get()` -/
  cameras : List (CameraCalibration K)
  /-- The `output_format` of `_msg_fields`. -/
  pcType : String
  /-- The node's clock behind so many messages. -/
  clock : Nat → Time
  /-- `rclcpp::Time` of nanoseconds. -/
  stampOf : BitVec 64 → Time
  /-- `Eigen::Quaternionf` of a rotation matrix. -/
  quaternionOf : (Fin 3 → Fin 3 → K) → Quaternion K
  /-- `ACCEL_SCALE` and `GYRO_SCALE` applied to a reading in counts. -/
  accelOf : Vec3 Int → Vec3 K
  gyroOf : Vec3 Int → Vec3 K

/-- The members that the callbacks change, and what has been published so far. -/
structure NodeState (K : Type) where
  depthFrameId : String := depthFrame
  parentFrameId : String := colorCameraFrame
  published : List (Publication K) := []

def NodeState.publish (node : NodeState K) (messages : List (Publication K)) : NodeState K :=
  { node with published := node.published ++ messages }

/-! ## Callbacks -/

/-- A `std::string` of one character per byte. -/
def byteText (octets : Octets) : String := String.ofList (octets.map fun c => Char.ofNat c.toNat)

section Callbacks

variable [Field K]

/-- `camera_calibration calibration;` -/
def CameraCalibration.unset : CameraCalibration K where
  hwId := ""
  description := ""
  frameId := ""
  parentFrameId := ""
  extrinsics := { rotation := fun row col => if row = col then 1 else 0, translation := fun _ => 0 }

/-- `calibration.extrinsics.get_translation() * mm_to_m` -/
def inMetres (translation : Fin 3 → K) : Fin 3 → K :=
  let mmToM : K := ((1000 : Nat) : K)⁻¹
  fun axis => translation axis * mmToM

variable (settings : NodeSettings K)

def onCamConnection (isConnected : Bool) (info : DeviceInfo) (node : NodeState K) : NodeState K :=
  if isConnected then
    let found := CalibrationParser.getCalibration settings.cameras (byteText info.hwId)
    let node :=
      match found with
      | some calibration =>
        { node with
          depthFrameId := if calibration.frameId = "" then depthFrame else calibration.frameId
          parentFrameId :=
            if calibration.parentFrameId = "" then colorCameraFrame else calibration.parentFrameId }
      | none => { node with depthFrameId := depthFrame, parentFrameId := colorCameraFrame }
    let calibration := found.getD .unset
    node.publish [.transform
      { header := ⟨settings.clock node.published.length, node.parentFrameId⟩
        childFrameId := node.depthFrameId
        translation := inMetres calibration.extrinsics.translation
        rotation := settings.quaternionOf calibration.extrinsics.rotation }]
  else node

/-- The float of a coordinate, a whole number of quarter millimetres: `v / 1000.f * 0.25f`. -/
def coordinateFloat (coordinate : ℚ) : Binary32 :=
  let v := (4000 * coordinate).num
  let float : Binary32 := v.natAbs
  (if v < 0 then -float else float) / (1000 : Nat) * 0.25

/-- A point of `_point_cloud` -/
def pointFloats : Option (Vec3 ℚ) → Vec3 Binary32
  | some p => ⟨coordinateFloat p.x, coordinateFloat p.y, coordinateFloat p.z⟩
  | none => ⟨⟨0x7fc00000⟩, ⟨0x7fc00000⟩, ⟨0x7fc00000⟩⟩

/-- What `on_point_cloud` publishes; the publisher is there before the device is started. -/
def pointCloudMessages (frameId : String) (frameTs : BitVec 64) (points : List (Option (Vec3 ℚ))) :
    List (Publication K) :=
  match onPointCloud settings.stampOf ⟨true, frameId, msgFields settings.pcType⟩ frameTs
      (.xyz (points.map pointFloats)) with
  | .ok (some msg) => [.pointCloud msg]
  | .ok none | .error _ => []

/-- The loop of `on_imu_samples`; with no samples it does nothing. -/
def imuMessages (frameId : String) (samples : List ImuSample) : List (Publication K) :=
  samples.map fun sample => .imu (imuMessage settings.stampOf frameId sample.timestamp (settings.gyroOf sample.gyro)
    (settings.accelOf sample.accel))

def publishPointCloud (frameTs : BitVec 64) (points : List (Option (Vec3 ℚ))) (node : NodeState K) : NodeState K :=
  node.publish (pointCloudMessages settings node.depthFrameId frameTs points)

def publishImuSamples (samples : List ImuSample) (node : NodeState K) : NodeState K :=
  node.publish (imuMessages settings node.depthFrameId samples)

/-! ## The node around a device -/

/-- Surroundings in which the callbacks are the node's; all else is answered by `host`. -/
def driverHost (host : Environment τ) : Environment (τ × NodeState K) where
  answer
    | .connectCb isConnected info, s => (.ok (), (s.1, onCamConnection settings isConnected info s.2))
    | .pointCloudCb timestamp points, s => (.ok (), (s.1, publishPointCloud settings timestamp points s.2))
    | .imuCb samples, s => (.ok (), (s.1, publishImuSamples settings samples s.2))
    | .findPort, s => ((host.answer .findPort s.1).1, ((host.answer .findPort s.1).2, s.2))
    | .openPort port, s => ((host.answer (.openPort port) s.1).1, ((host.answer (.openPort port) s.1).2, s.2))
    | .readline, s => ((host.answer .readline s.1).1, ((host.answer .readline s.1).2, s.2))
    | .read size, s => ((host.answer (.read size) s.1).1, ((host.answer (.read size) s.1).2, s.2))
    | .write data, s => ((host.answer (.write data) s.1).1, ((host.answer (.write data) s.1).2, s.2))
    | .available, s => ((host.answer .available s.1).1, ((host.answer .available s.1).2, s.2))
    | .flush, s => ((host.answer .flush s.1).1, ((host.answer .flush s.1).2, s.2))
    | .flushInput, s => ((host.answer .flushInput s.1).1, ((host.answer .flushInput s.1).2, s.2))
    | .close, s => ((host.answer .close s.1).1, ((host.answer .close s.1).2, s.2))
  stops s := ((host.stops s.1).1, ((host.stops s.1).2, s.2))
  now s := ((host.now s.1).1, ((host.now s.1).2, s.2))
  syncMode s := ((host.syncMode s.1).1, ((host.syncMode s.1).2, s.2))
  frameRateHz s := ((host.frameRateHz s.1).1, ((host.frameRateHz s.1).2, s.2))
  read_size := by
    intro size s t data answered
    apply host.read_size (s := s.1) (t := t.1)
    obtain ⟨returned, rfl⟩ := Prod.mk.inj answered
    exact Prod.ext returned rfl

end Callbacks
end AsDt1.Source
