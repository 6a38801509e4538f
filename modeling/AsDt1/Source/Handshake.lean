import AsDt1.Source.SerialReader

/-!
# The serial worker's thread

`dt1_device::run` (dt1_device.cpp:165-284) with the functions it calls up to the
main loop (dt1_device.cpp:73-107, 286-430, 602-621): discovery, connection, the
checks of start mode, version and mode, the streaming setup, the main loop and
the shutdown. Sleeps and log messages are left out.
-/
namespace AsDt1.Source
open AsDt1.Lib Routine

/-! ## What is read from the replies -/

def Kind.expectedFlstartMode : Kind → String
  | .cdc => "cdc"
  | .hist => "hist"

/-- The word behind the first colon that a digit follows. -/
def getHwId : Octets → Octets
  | [] => []
  | c :: rest =>
    if c = 0x3A ∧ (rest.head?.any isDigit) = true then rest.takeWhile fun c => !isSpace c else getHwId rest

/-- `std::stof` of digits and points, as a numerator over a power of ten: the
number ends at its second point. -/
def decimalNumber (num : Octets) : Nat × Nat :=
  let whole := num.takeWhile isDigit
  let fraction := ((num.dropWhile isDigit).drop 1).takeWhile isDigit
  (decimal (whole ++ fraction), 10 ^ fraction.length)

/-- `v >= 1.01f` for the nearest `float`. A number outside the range of `float`
throws; one below it is only refused here, which ends the handshake alike. -/
def isSupportedDevice (version : Octets) : Except Failure Bool :=
  let num := (version.dropWhile fun c => !isDigit c).takeWhile fun c => isDigit c || c = 0x2E
  let (n, d) := decimalNumber num
  if (2 ^ 128 - 2 ^ 103) * d ≤ n then .error .outOfRange
  else .ok (16944987 * d ≤ n * 2 ^ 24)

/-- Row of the first mode that the reply names. -/
def reportedMode (modeResp : Octets) : Option Nat :=
  dt1ModesList.findIdx? fun mode => decide (ascii mode.modeStr <:+: modeResp)

/-- `"fsync %.2f"` of the period in milliseconds, to the nearest hundredth. -/
def fsyncCommand (hz : FrameRate) : String :=
  let hundredths := (200000 + hz.val) / (2 * hz.val)
  "fsync " ++ (toString (hundredths / 100) ++ "." ++
    toString (hundredths % 100 / 10) ++ toString (hundredths % 10))

variable {σ : Type} (E : Environment σ) (config : WorkerConfig) (fuel : Nat)

/-! ## Commands -/

def sendAndReceiveAck (cmd : Octets) : SerialRoutine σ Bool := do
  write E (cmd ++ [0x0D])
  readToPrompt E fuel

def sendAndReceive (command : Octets) : SerialRoutine σ Unit := do
  write E (command ++ [0x0D])
  let _ ← readLineUntil E fuel command

/-! ## The handshake -/

/-- The new port replaces the old one even if the `flush()` behind it fails. -/
def connect (port : Octets) : SerialRoutine σ Bool :=
  tryCatch
    (do
      call E (.openPort port)
      modify fun w => { w with serial := true }
      note .opened
      call E .flush
      return true)
    fun _ => return false

def stopIfStreaming : SerialRoutine σ Unit := do
  let bytesAvailable ← call E .available
  if 0 < bytesAvailable then write E (ascii "fsync 0\r")
  call E .flush

/-- Sets the mode and closes the connection to a device that reboots. -/
def rebootWith (command : Octets) : SerialRoutine σ Unit := do
  sendAndReceive E fuel command
  sendAndReceive E fuel (ascii "reboot")
  close E

def verifyDeviceMode : SerialRoutine σ Bool := do
  sendAndReceive E fuel (ascii "flstart")
  let modeResp ← readLine E
  let _ ← readToPrompt E fuel
  if ascii config.kind.expectedFlstartMode <:+: modeResp then return true
  else
    rebootWith E fuel (ascii ("flstart " ++ config.kind.expectedFlstartMode))
    return false

/-- `is_supported_device`, with the error of `get_device_info` -/
def requireSupported (version : Octets) : SerialRoutine σ Unit :=
  match isSupportedDevice version with
  | .error failure => throw failure
  | .ok supported => if supported then return () else throw .unsupportedDevice

def requireKnown (mode : Option Nat) : SerialRoutine σ Nat :=
  match mode with
  | some i => return i
  | none => throw (.exception "Unknown mode")

def getDeviceInfo : SerialRoutine σ DeviceInfo := do
  call E .flush
  let _ ← sendAndReceiveAck E fuel (ascii "\r")
  call E .flushInput
  sendAndReceive E fuel (ascii "ver")
  let version ← readLine E
  let _settings ← readLine E
  let devInfo ← readLine E
  let _dummy ← readLine E
  requireSupported version
  let _ ← readToPrompt E fuel
  sendAndReceive E fuel (ascii "flmode")
  let modeResp ← readLine E
  let mode ← requireKnown (reportedMode modeResp)
  let _ ← readToPrompt E fuel
  return { deviceVersion := version, hwId := getHwId devInfo, mode }

/-- One pass of the inner `while (_running)` -/
def connectRound (port : Octets) : SerialRoutine σ (Unit ⊕ Unit) := do
  let running ← isRunning E
  if running then
    let connected ← connect E port
    return if connected then .inr () else .inl ()
  else return .inr ()

/-- The rest of a pass behind `if (!_running) break`: 191-207. -/
def checkDevice : SerialRoutine σ (Unit ⊕ Unit) := do
  stopIfStreaming E
  let verified ← verifyDeviceMode E config fuel
  if verified then
    let info ← getDeviceInfo E fuel
    modify fun w => { w with deviceInfo := info }
    if info.mode ≠ config.mode.val then
      rebootWith E fuel (ascii ("flmode " ++ config.modeInfo.modeStr))
      return .inl ()
    else return .inr ()
  else return .inl ()

/-- One pass of the outer `while (_running)` -/
def discoverRound : SerialRoutine σ (Unit ⊕ Unit) := do
  let running ← isRunning E
  if running then
    let port ← call E .findPort
    if port = [] then return .inl ()
    else
      loop (fun _ => connectRound E port) fuel ()
      let running ← isRunning E
      if running then checkDevice E config fuel else return .inr ()
  else return .inr ()

/-! ## Streaming -/

def setDefaults : SerialRoutine σ Unit := do
  let _ ← sendAndReceiveAck E fuel (ascii "flformat binary imu")
  let _ ← sendAndReceiveAck E fuel (ascii "fltrgout disable")
  let _ ← sendAndReceiveAck E fuel (ascii "fltrgin disable")
  let _ ← sendAndReceiveAck E fuel (ascii "flfsync 0")
  let _ ← sendAndReceiveAck E fuel (ascii "format binary imu")
  let _ ← sendAndReceiveAck E fuel (ascii "fltrgout riselast")

def setMaster : SerialRoutine σ Unit := do
  let hz ← frameRateHz E
  let _ ← sendAndReceiveAck E fuel (ascii "trgin disable")
  let _ ← sendAndReceiveAck E fuel (ascii (fsyncCommand hz))

def setSlave : SerialRoutine σ Unit := do
  let _ ← sendAndReceiveAck E fuel (ascii "trgin rise")
  let _ ← sendAndReceiveAck E fuel (ascii "fsync 0")

/-- `while (skip_frames-- > 0)` -/
def skipFrames : Nat → SerialRoutine σ Unit
  | 0 => return ()
  | frames + 1 => do
    let _ ← readLineUntil E fuel (ascii "END")
    skipFrames frames

def setupStreaming : SerialRoutine σ Unit := do
  let w ← get
  call E (.connectCb true w.deviceInfo)
  setDefaults E fuel
  let mode ← syncMode E
  match mode with
  | .master | .none => setMaster E fuel
  | .slave => setSlave E fuel
  let hz ← frameRateHz E
  skipFrames E fuel hz.val

/-- One pass of the main loop -/
def mainRound : SerialRoutine σ (Unit ⊕ Unit) := do
  let running ← isRunning E
  if running then
    note .processing
    processSerialData E config fuel
    return .inl ()
  else return .inr ()

/-! ## The thread -/

/-- Parts 1 to 3, the body of the try block. -/
def session : SerialRoutine σ Unit := do
  loop (fun _ => discoverRound E config fuel) fuel ()
  let running ← isRunning E
  if running then
    enter .setup
    setupStreaming E fuel
  enter .streaming
  loop (fun _ => mainRound E config fuel) fuel ()

def stopStreaming : SerialRoutine σ Unit := do
  let running ← isRunning E
  let w ← get
  if !running && w.serial then
    let _ ← sendAndReceiveAck E fuel (ascii "fsync 0")
    let _ ← sendAndReceiveAck E fuel (ascii "trgin disable")

def disconnect : SerialRoutine σ Unit := do
  let w ← get
  call E (.connectCb false w.deviceInfo)
  if w.serial then close E

/-- Behind the try block; what is thrown here leaves the thread. -/
def shutdown : SerialRoutine σ Unit := do
  stopStreaming E fuel
  disconnect E
  modify fun w => { w with running := false }

def run : SerialRoutine σ Unit := do
  enter .connecting
  tryCatch (session E config fuel) fun _ => return ()
  enter .closing
  shutdown E fuel

end AsDt1.Source
