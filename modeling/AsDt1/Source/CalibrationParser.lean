import AsDt1.Lib.Yaml

/-!
# The calibration file

`calibration_parser::load` and `get_calibration` (calibration_parser.cpp:41-143) on a
document of any shape. `N` is the type of its nodes and `F` that of the numbers. A
member that the source looks up several times is looked up once. Log messages are
left out.
-/
namespace AsDt1.Source
open AsDt1.Lib

/-- `extrinsic_matrix` less its last row, which stays that of the identity. -/
structure CameraExtrinsics (F : Type) where
  rotation : Fin 3 → Fin 3 → F
  translation : Fin 3 → F

structure CameraCalibration (F : Type) where
  hwId : String
  description : String
  frameId : String
  parentFrameId : String
  extrinsics : CameraExtrinsics F

/-- What opening and `YAML::LoadFile` make of the path. -/
inductive CalibrationFile (N : Type) where
  | missing
  | malformed
  | document (root : N)

namespace CalibrationParser

variable {N F : Type} (yaml : YamlReader N F)

/-- `if (!node) { throw ... }` -/
def require (field : String) (node : Option N) : Except YamlException Unit :=
  if node.isNone then .error (.runtimeError ("missing required field '" ++ field ++ "'")) else .ok ()

def readRotation (node : Option N) : Except YamlException (Fin 3 → Fin 3 → F) :=
  yaml.readTuple 3 "rotation_matrix must be 3x3"
    (fun row => yaml.readTuple 3 "rotation_matrix must be 3x3" yaml.number row) node

def readTranslation (node : Option N) : Except YamlException (Fin 3 → F) :=
  yaml.readTuple 3 "translation_vector must have 3 values" yaml.number node

/-- The `try` block of one entry. -/
def readEntry (cam : N) : Except YamlException (CameraCalibration F) := do
  let id ← yaml.subscript (some cam) "id"
  require "id" id
  let extrinsics ← yaml.subscript (some cam) "extrinsics"
  require "extrinsics" extrinsics
  let rotationMatrix ← yaml.subscript extrinsics "rotation_matrix"
  require "extrinsics.rotation_matrix" rotationMatrix
  let translationVector ← yaml.subscript extrinsics "translation_vector"
  require "extrinsics.translation_vector" translationVector
  let hwId ← yaml.text id
  let description ← yaml.optionalText "" (← yaml.subscript (some cam) "description")
  let frameId ← yaml.optionalText "" (← yaml.subscript (some cam) "frame_id")
  let parentFrameId ← yaml.optionalText "" (← yaml.subscript (some cam) "parent_frame_id")
  let frameId ← yaml.optionalText frameId (← yaml.subscript extrinsics "frame_id")
  let parentFrameId ← yaml.optionalText parentFrameId (← yaml.subscript extrinsics "parent_frame_id")
  let rotation ← readRotation yaml rotationMatrix
  let translation ← readTranslation yaml translationVector
  return { hwId, description, frameId, parentFrameId, extrinsics := { rotation, translation } }

/-- One pass of the loop: an exception ends the entry only. -/
def addEntry (cameras : List (CameraCalibration F)) (cam : N) : List (CameraCalibration F) :=
  match readEntry yaml cam with
  | .ok calib => cameras ++ [calib]
  | .error _ => cameras

/-- The outcome and `_cameras`. Only the entries are read within a `try` block. -/
def load (cameras : List (CameraCalibration F)) :
    CalibrationFile N → Except YamlException Unit × List (CameraCalibration F)
  | .missing | .malformed => (.ok (), cameras)
  | .document root =>
    match yaml.subscript (some root) "cameras" with
    | .error failure => (.error failure, [])
    | .ok node =>
      match node.map yaml.content with
      | some (.sequence entries) => (.ok (), entries.foldl (addEntry yaml) [])
      | _ => (.ok (), [])

/-- `none` is the return value `false`. -/
def getCalibration (cameras : List (CameraCalibration F)) (hardwareId : String) : Option (CameraCalibration F) :=
  cameras.find? fun c => c.hwId = hardwareId

end CalibrationParser
end AsDt1.Source
