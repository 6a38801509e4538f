import AsDt1.Source.Modes

/-!
# Runtime parameters of the driver node

`ASDT1_Driver::on_parameters_set` (asdt1_driver_node.cpp:345-433) with the device
setters it calls (dt1_device.cpp:548-578). Each iteration of the source's loop
first validates one parameter and then acts on the device; a name selects at
most one of the three branches. `checkParameter` is the validation and
`Device.serve` the action, so that the node's loop (`scanParameters`) and the
interleaved model of the device share both.
-/
namespace AsDt1.Source

inductive SyncMode where
  | none | master | slave
  deriving DecidableEq, Repr

/-- `rclcpp::ParameterValue`; integers are the 64-bit words ROS transports. -/
inductive ParameterValue where
  | notSet
  | bool (value : Bool)
  | integer (value : BitVec 64)
  | double (bits : BitVec 64)
  | string (value : String)
  | byteArray (value : List (BitVec 8))
  | boolArray (value : List Bool)
  | integerArray (value : List (BitVec 64))
  | doubleArray (bits : List (BitVec 64))
  | stringArray (value : List String)
  deriving DecidableEq, Repr

structure Parameter where
  name : String
  value : ParameterValue
  deriving DecidableEq, Repr

/-- The members of `dt1_device` that the callback can change, less the workers. -/
structure Settings where
  mode : Int := 0
  frameRateHz : Int := 30
  syncMode : SyncMode := .none
  deriving DecidableEq, Repr

/-- `dt1_device::set_mode`: an unknown row is refused and nothing changes. -/
def Settings.setMode (s : Settings) (newMode : Int) : Bool × Settings :=
  if newMode < 0 ∨ newMode ≥ dt1ModesList.length then (false, s)
  else (true, { s with mode := newMode })

/-- `dt1_device::set_frame_rate` silently ignores rates outside 1..30. -/
def Settings.setFrameRate (s : Settings) (frameRateHz : Int) : Settings :=
  if frameRateHz ≥ 1 ∧ frameRateHz ≤ 30 then { s with frameRateHz := frameRateHz } else s

def Settings.setSyncMode (s : Settings) (syncMode : SyncMode) : Settings :=
  { s with syncMode := syncMode }

/-- `string_to_sync_mode`; `none` is the `std::out_of_range` of `map::at`. -/
def stringToSyncMode : String → Option SyncMode
  | "none" => some .none
  | "master" => some .master
  | "slave" => some .slave
  | _ => none

/-- `static_cast<int>(parameter.as_int())` keeps the low 32 bits. -/
def asInt (value : BitVec 64) : Int := (value.truncate 32).toInt

/-- What an accepted parameter asks of the device. -/
inductive Request where
  | nothing
  | mode (modeIdx : Int)
  | frameRate (hz : Int)
  | sync (syncMode : SyncMode)
  deriving DecidableEq, Repr

/-- The local flag `reboot` is set by every branch that acts on the device. -/
def Request.reboots : Request → Bool
  | .nothing => false
  | _ => true

/-- The seven rejection exits of one iteration, and what it does otherwise. -/
def checkParameter (parameter : Parameter) : Except String Request :=
  if parameter.name = "calibration_file" ∨ parameter.name = "serial_number" then
    .error ("Parameter '" ++ parameter.name ++ "' cannot be changed at runtime")
  else if parameter.name = "mode" then
    match parameter.value with
    | .string value =>
      if getModeNbr value < 0 then
        .error ("Parameter 'mode' must be one of: " ++ getAvailableModesStr)
      else .ok (.mode (getModeNbr value))
    | _ => .error "Parameter 'mode' must be an string"
  else if parameter.name = "framerate" then
    match parameter.value with
    | .integer value =>
      if asInt value < 0 ∨ asInt value > 30 then .error "Parameter 'framerate' must be >= 0"
      else .ok (.frameRate (asInt value))
    | _ => .error "Parameter 'framerate' must be an integer"
  else if parameter.name = "sync_mode" then
    match parameter.value with
    | .string value =>
      match stringToSyncMode value with
      | some sync => .ok (.sync sync)
      | none => .error "Parameter 'sync_mode' must be one of: master, slave, none"
    | _ => .error "Parameter 'sync_mode' must be a string"
  else .ok .nothing

/-- The device as its caller sees it between two calls. -/
structure Device where
  settings : Settings := {}
  running : Bool := false
  deriving DecidableEq, Repr

/-- `dt1_device::stop` seen by its caller: the workers are joined and the flag is down. -/
def Device.stop (d : Device) : Device :=
  if !d.running then d else { d with running := false }

def Settings.serve (s : Settings) : Request → Settings
  | .nothing => s
  | .mode modeIdx => (s.setMode modeIdx).2
  | .frameRate hz => s.setFrameRate hz
  | .sync syncMode => s.setSyncMode syncMode

/-- The mode branch stops the device before it stores the mode. -/
def Device.serve (d : Device) (r : Request) : Device :=
  match r with
  | .mode _ => { d.stop with settings := d.settings.serve r }
  | _ => { d with settings := d.settings.serve r }

/-- `rcl_interfaces::msg::SetParametersResult`. -/
structure SetParametersResult where
  successful : Bool
  reason : String := ""
  deriving DecidableEq, Repr

/-- Where the loop leaves the device, and whether `reboot()` is called next. -/
structure ScanOutcome where
  result : SetParametersResult
  device : Device
  reboot : Bool
  deriving DecidableEq, Repr

/-- The loop of `on_parameters_set`: an early return reports the first rejected
parameter, and only a vector without one reaches `if (reboot)`. -/
def scanParameters (d : Device) (reboot : Bool) : List Parameter → ScanOutcome
  | [] => ⟨{ successful := true }, d, reboot⟩
  | parameter :: rest =>
    match checkParameter parameter with
    | .error reason => ⟨{ successful := false, reason := reason }, d, false⟩
    | .ok r => scanParameters (d.serve r) (reboot || r.reboots) rest

/-- The callback's result and what it left of the device before any reboot. -/
def onParametersSet (d : Device) (parameters : List Parameter) : ScanOutcome :=
  scanParameters d false parameters

/-- The code's own validity test of one parameter. -/
def accepts (parameter : Parameter) : Bool :=
  (checkParameter parameter).isOk

/-- Requests of the accepted parameters of a vector, in order. -/
def requests (parameters : List Parameter) : List Request :=
  parameters.filterMap fun parameter => (checkParameter parameter).toOption

/-- What an accepted parameter is, and asks for. -/
theorem checkParameter_cases {parameter : Parameter} {r : Request}
    (checked : checkParameter parameter = .ok r) :
    (parameter.name = "mode" ∧ ∃ modeStr, parameter.value = .string modeStr ∧ 0 ≤ getModeNbr modeStr ∧
      r = .mode (getModeNbr modeStr)) ∨
    (parameter.name = "framerate" ∧ ∃ value, parameter.value = .integer value ∧ 0 ≤ asInt value ∧
      asInt value ≤ 30 ∧ r = .frameRate (asInt value)) ∨
    (parameter.name = "sync_mode" ∧ ∃ modeStr sync, parameter.value = .string modeStr ∧
      stringToSyncMode modeStr = some sync ∧ r = .sync sync) ∨
    (parameter.name ∉ ["calibration_file", "serial_number", "mode", "framerate", "sync_mode"] ∧
      r = .nothing) := by
  unfold checkParameter at checked
  split at checked
  · cases checked
  · next changeable =>
    split at checked
    · next named =>
      refine Or.inl ⟨named, ?_⟩
      split at checked
      · next modeStr isString =>
        split at checked
        · cases checked
        · cases checked
          exact ⟨modeStr, isString, by omega, rfl⟩
      · cases checked
    · split at checked
      · next named =>
        refine Or.inr (Or.inl ⟨named, ?_⟩)
        split at checked
        · next value isInteger =>
          split at checked
          · cases checked
          · cases checked
            exact ⟨value, isInteger, by omega, by omega, rfl⟩
        · cases checked
      · split at checked
        · next named =>
          refine Or.inr (Or.inr (Or.inl ⟨named, ?_⟩))
          split at checked
          · next modeStr isString =>
            split at checked
            · next sync known =>
              cases checked
              exact ⟨modeStr, sync, isString, known, rfl⟩
            · cases checked
          · cases checked
        · cases checked
          refine Or.inr (Or.inr (Or.inr ⟨?_, rfl⟩))
          simp_all

/-- Every rejection names the parameter it rejects. -/
theorem checkParameter_names (parameter : Parameter) (reason : String)
    (rejected : checkParameter parameter = .error reason) :
    ∃ text, reason = "Parameter '" ++ parameter.name ++ "'" ++ text := by
  unfold checkParameter at rejected
  split at rejected
  · cases rejected
    exact ⟨" cannot be changed at runtime", by simp [String.append_assoc]⟩
  · split at rejected
    · next named =>
      rw [named]
      repeat' split at rejected
      all_goals cases rejected
      · exact ⟨" must be one of: " ++ getAvailableModesStr, by decide⟩
      · exact ⟨" must be an string", by decide⟩
    · split at rejected
      · next named =>
        rw [named]
        repeat' split at rejected
        all_goals cases rejected
        · exact ⟨" must be >= 0", by decide⟩
        · exact ⟨" must be an integer", by decide⟩
      · split at rejected
        · next named =>
          rw [named]
          repeat' split at rejected
          all_goals cases rejected
          · exact ⟨" must be one of: master, slave, none", by decide⟩
          · exact ⟨" must be a string", by decide⟩
        · cases rejected

end AsDt1.Source
