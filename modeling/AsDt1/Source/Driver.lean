import AsDt1.Lib.Machine
import AsDt1.Source.Parameters
import AsDt1.Source.SerialWorker

/-!
# The driver node and its parameters

The constructor of `ASDT1_Driver` (asdt1_driver_node.cpp:60-119) and
`dt1_device::create` (dt1_device.cpp:117-136): which values the driver works with
when it starts, and how calls of `on_parameters_set` move them. The calibration
file's contents are left out.
-/
namespace AsDt1.Source
open AsDt1.Lib

/-- What `get_parameter` answers in the constructor; the defaults are the declared ones. -/
structure Configuration where
  calibrationFile : String := "config/calibration.yml"
  serialNumber : BitVec 64 := -1
  mode : String := "30MSTD"
  framerate : BitVec 64 := 30
  syncMode : String := "none"
  outputFormat : String := "XYZ"
  deriving DecidableEq, Repr

def declaredParameters : List String :=
  ["calibration_file", "serial_number", "mode", "framerate", "sync_mode", "output_format"]

/-- `dt1_device::create`; `none` is its `std::invalid_argument`. -/
def createDevice : String → Option Kind
  | "XYZ" => some .cdc
  | "XYZITR" => some .hist
  | _ => none

structure Driver where
  configured : Configuration
  kind : Kind
  device : Device
  deriving DecidableEq, Repr

/-- The constructor up to `start()`. A rate outside 1..30 leaves the device's own
30 Hz; an unknown sync mode or sensor mode is replaced. -/
def Driver.construct (configured : Configuration) : Option Driver := do
  let kind ← createDevice configured.outputFormat
  let settings : Settings := {}
  let settings := settings.setFrameRate (asInt configured.framerate)
  let sync := (stringToSyncMode configured.syncMode).getD .none
  let settings := settings.setSyncMode sync
  let modeIdx := getModeNbr configured.mode
  let modeIdx := if modeIdx < 0 then getModeNbr "30MSTD" else modeIdx
  let settings := (settings.setMode modeIdx).2
  return { configured, kind, device := { settings } }

/-! ## Calls -/

inductive DriverCall where
  | setParameters (parameters : List Parameter)
  /-- `start()`, `stop()`, `reboot()` and the workers move the flag and none of the settings. -/
  | streaming (running : Bool)
  deriving DecidableEq, Repr

def Driver.setParameters (driver : Driver) (parameters : List Parameter) : Driver :=
  { driver with device := (onParametersSet driver.device parameters).device }

def driverNode (start : Driver) : Machine Driver DriverCall where
  start
  step driver
    | .setParameters parameters => some (driver.setParameters parameters)
    | .streaming running => some { driver with device := { driver.device with running } }

end AsDt1.Source
