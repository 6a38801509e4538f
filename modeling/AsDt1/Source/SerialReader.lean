import AsDt1.Source.SerialPort
import Mathlib.Data.List.DropRight
import Mathlib.Data.List.Infix

/-!
# The blocking reads and the frames

dt1_device.cpp:420-504 and the two `process_serial_data` (dt1_device_cdc.cpp:68-113,
dt1_device_hist.cpp:86-109), loop for loop. All loops of one routine get the same
fuel.
-/
namespace AsDt1.Source
open AsDt1.Lib Routine

/-! ## The numbers in a line -/

def isDigit (c : BitVec 8) : Bool := 0x30 ≤ c && c ≤ 0x39

/-- `isspace` in the "C" locale -/
def isSpace (c : BitVec 8) : Bool := c = 0x20 || (0x09 ≤ c && c ≤ 0x0D)

def decimal (digits : Octets) : Nat := digits.foldl (fun n c => 10 * n + (c.toNat - 0x30)) 0

/-- `%lu` of `sscanf`: blanks, a sign, digits; the result saturates. -/
def scanUnsigned (text : Octets) : BitVec 64 :=
  let text := text.dropWhile isSpace
  let unsigned := if text.head? = some 0x2D ∨ text.head? = some 0x2B then text.tail else text
  let magnitude := decimal (unsigned.takeWhile isDigit)
  if 2 ^ 64 ≤ magnitude then BitVec.allOnes 64
  else if text.head? = some 0x2D then -BitVec.ofNat 64 magnitude
  else BitVec.ofNat 64 magnitude

/-- `sscanf(line.c_str(), "tm=%lu", &timestamp)` with `timestamp` 0 before -/
def scanTimestamp (line : Octets) : BitVec 64 :=
  let text := line.takeWhile (· ≠ 0)
  if ascii "tm=" <+: text then scanUnsigned (text.drop 3) else 0

/-! ## Reads -/

variable {σ : Type} (E : Environment σ) (config : WorkerConfig) (fuel : Nat)

def eraseLineEnd (line : Octets) : Octets := line.rdropWhile fun c => c = 0x0D || c = 0x0A

def readLine : SerialRoutine σ Octets := do
  let line ← readline E
  return eraseLineEnd line

/-- One pass of the loop in `read_line_until`. -/
def lineRound (findStr : Octets) : SerialRoutine σ (Unit ⊕ Octets) := do
  let line ← readline E
  if findStr <:+: line then return .inr line
  else
    let running ← isRunning E
    return if running then .inl () else .inr line

def readLineUntil (findStr : Octets) : SerialRoutine σ Octets := loop (fun _ => lineRound E findStr) fuel ()

/-- The loop in `read_to_prompt` does not test `_running`. -/
def promptRound : SerialRoutine σ (Unit ⊕ Bool) := do
  let resp ← read E 1
  return if resp.head? = some 0x3E then .inr true else .inl ()

def readToPrompt : SerialRoutine σ Bool :=
  tryCatch (loop (fun _ => promptRound E) fuel ()) fun
    | .outOfRange => return false
    | failure => throw failure

/-- One pass of `while (read_count < size)`, which does not test `_running` either. -/
def fillRound (size : Nat) (got : Octets) : SerialRoutine σ (Octets ⊕ Octets) := do
  if got.length < size then
    let data ← read E (size - got.length)
    return .inl (got ++ data)
  else return .inr got

def fill (size : Nat) (got : Octets) : SerialRoutine σ Octets := loop (fillRound E size) fuel got

/-- One record of which `got` has been read; `none` is the end mark. -/
def imuRecord (got : Octets) : SerialRoutine σ (Option Octets) := do
  let head ← fill E fuel 3 got
  if head.take 3 = ascii "END" then return none
  else
    let record ← fill E fuel 16 head
    return some record

/-- What the loop of `read_imu` does with a record. -/
def keepRecord : Option Octets → SerialRoutine σ (Unit ⊕ Unit)
  | none => return .inr ()
  | some record => do
    modify fun w => { w with imuData := w.imuData ++ [record] }
    return .inl ()

/-- One pass of `while (_running)` in `read_imu` -/
def imuRound : SerialRoutine σ (Unit ⊕ Unit) := do
  let running ← isRunning E
  if running then
    let record ← imuRecord E fuel []
    keepRecord record
  else return .inr ()

def imuRecords : SerialRoutine σ Unit := loop (fun _ => imuRound E fuel) fuel ()

def readImu : SerialRoutine σ Unit := do
  modify fun w => { w with imuData := [] }
  let _ ← readLineUntil E fuel (ascii "BEGIN IMU")
  imuRecords E fuel

/-- `serial->read(buf.data() + n, ...)` -/
def overwrite (buf : Octets) (n : Nat) (data : Octets) : Octets :=
  buf.take n ++ data ++ buf.drop (n + data.length)

/-- One pass of `while (n < _receive_buf.size())` -/
def pointCloudRound (n : Nat) : SerialRoutine σ (Nat ⊕ Unit) := do
  let w ← get
  if n < w.receiveBuf.length then
    let data ← read E (w.receiveBuf.length - n)
    modify fun w => { w with receiveBuf := overwrite w.receiveBuf n data }
    let running ← isRunning E
    return if running then .inl (n + data.length) else .inr ()
  else return .inr ()

def pointCloudOctets (n : Nat) : SerialRoutine σ Unit := loop (pointCloudRound E) fuel n

def readSerialPointCloud : SerialRoutine σ Unit := do
  let _ ← readLineUntil E fuel (ascii "BEGIN MP")
  pointCloudOctets E fuel 0

def readTimestamp : SerialRoutine σ (BitVec 64) := do
  let line ← readLineUntil E fuel (ascii "tm=")
  return if line = [] then 0 else scanTimestamp line

/-! ## Frames -/

def setClockOffset (endTs : BitVec 64) : SerialRoutine σ Unit := do
  let receiveTs ← now E
  modify fun w => { w with clockOffset := receiveTs - endTs }

def unpackPoints : SerialRoutine σ (List (Option (Vec3 ℚ))) := do
  let w ← get
  match unpackPointCloud config.modeInfo w.receiveBuf with
  | .ok points => return points
  | .error _ => throw .outOfRange

def unpackImu (frameTs : BitVec 64) : SerialRoutine σ Unit :=
  modify fun w =>
    let unpacked := unpackImuData frameTs w.clockOffset w.latestImuSampleTs w.imuData
    { w with latestImuSampleTs := unpacked.1, imuSamples := unpacked.2 }

def deliverPointCloud (frameTs : BitVec 64) (points : List (Option (Vec3 ℚ))) : SerialRoutine σ Unit := do
  let running ← isRunning E
  let w ← get
  if running && config.hasPointCloudCb then
    note (.pointCloud (frameTs + w.clockOffset) points)
    call E (.pointCloudCb (frameTs + w.clockOffset) points)

def deliverImu : SerialRoutine σ Unit := do
  let running ← isRunning E
  let w ← get
  if running && config.hasImuCb && !w.imuSamples.isEmpty then
    note (.imuSamples w.imuSamples)
    call E (.imuCb w.imuSamples)

/-- `_receive_buf` and `_imu_data` as they are when the end timestamp has been read. -/
def noteParsed (frameTs endTs : BitVec 64) : SerialRoutine σ Unit := do
  let w ← get
  note (.parsed frameTs endTs w.receiveBuf w.imuData)

/-- A frame of `dt1_device_cdc` behind its end timestamp. -/
def finishCdcFrame (frameTs endTs : BitVec 64) : SerialRoutine σ Unit := do
  setClockOffset E endTs
  noteParsed frameTs endTs
  let points ← unpackPoints config
  unpackImu frameTs
  deliverPointCloud E config frameTs points
  deliverImu E config

/-- A frame of `dt1_device_cdc` behind its start timestamp. -/
def cdcFrame (frameTs : BitVec 64) : SerialRoutine σ Unit := do
  readSerialPointCloud E fuel
  readImu E fuel
  let endMs ← readTimestamp E fuel
  finishCdcFrame E config frameTs (endMs * 1000000)

/-- A frame of `dt1_device_hist`; its timestamp is computed from the end timestamp. -/
def histFrame : SerialRoutine σ Unit := do
  readImu E fuel
  let endMs ← readTimestamp E fuel
  let endTs := endMs * 1000000
  let frameTs := endTs - BitVec.ofNat 64 config.modeInfo.totExposure * 1000000
  setClockOffset E endTs
  noteParsed frameTs endTs
  unpackImu frameTs
  deliverImu E config

def processSerialData : SerialRoutine σ Unit := do
  match config.kind with
  | .cdc =>
    let startMs ← readTimestamp E fuel
    let running ← isRunning E
    if running then cdcFrame E config fuel (startMs * 1000000)
  | .hist =>
    let running ← isRunning E
    if running then histFrame E config fuel

/-- Successive calls of `process_serial_data`. -/
def processFrames : (calls : Nat) → SerialRoutine σ Unit
  | 0 => return ()
  | calls + 1 => do
    processSerialData E config fuel
    processFrames calls

end AsDt1.Source
