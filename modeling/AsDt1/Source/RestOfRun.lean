import AsDt1.Source.CdcStream
import AsDt1.Source.Handshake
import AsDt1.Source.SerialReads

/-!
# What is left of the worker's thread

A serial port to which octets arrive whenever they like, the places of
`dt1_device::run` at which the worker can be in a read or in front of a test of the
flag that is in no read, and the rest of the thread from each of them: the rest of
the read routine, of the handshake, the setup or the frame that it is part of, of the
loops around it, and the shutdown (dt1_device.cpp:183-284). Elsewhere the thread goes
on to the next of these places, whatever the flag is.
-/
namespace AsDt1.Source
open AsDt1.Lib Routine

/-! ## The device -/

/-- Octets that have arrived and have not been read, and how many reads there were. -/
structure CameraPort where
  queue : Octets
  reads : Nat
  isOpen : Bool

/-- What arrives up to the end of a read, nothing on a timeout. -/
abbrev Arrivals := Nat → Octets

/-- What the host's clock and the settings are, between two reads. -/
structure HostAnswers where
  now : Nat → BitVec 64
  syncMode : Nat → SyncMode
  frameRateHz : Nat → FrameRate

namespace CameraPort

variable (arrivals : Arrivals)

/-- A line ends at its newline or at a timeout. -/
def lineOf (s : CameraPort) : Octets := nextLine (s.queue ++ arrivals s.reads)

def afterLine (s : CameraPort) : CameraPort :=
  { s with queue := (s.queue ++ arrivals s.reads).drop (s.lineOf arrivals).length, reads := s.reads + 1 }

def afterLines : Nat → CameraPort → CameraPort
  | 0, s => s
  | lines + 1, s => afterLines lines (s.afterLine arrivals)

/-- What a read of that size returns. -/
def taken (size : Nat) (s : CameraPort) : Octets := (s.queue ++ arrivals s.reads).take size

def afterRead (size : Nat) (s : CameraPort) : CameraPort :=
  { s with queue := (s.queue ++ arrivals s.reads).drop size, reads := s.reads + 1 }

/-- `flushInput()` -/
def discarded (s : CameraPort) : CameraPort := { s with queue := [] }

def closed (s : CameraPort) : CameraPort := { s with isOpen := false }

@[simp] theorem afterLine_isOpen (s : CameraPort) : (s.afterLine arrivals).isOpen = s.isOpen := rfl

@[simp] theorem afterRead_isOpen (size : Nat) (s : CameraPort) : (s.afterRead arrivals size).isOpen = s.isOpen := rfl

@[simp] theorem discarded_isOpen (s : CameraPort) : s.discarded.isOpen = s.isOpen := rfl

end CameraPort

/-- `serial::PortNotOpenedException` -/
def notOpened : Failure := .exception "PortNotOpenedException"

/-- The port of such a device. The flag is down wherever it is tested, and the
callbacks return. -/
def deviceEnvironment (arrivals : Arrivals) (host : HostAnswers) : Environment CameraPort where
  answer
    | .readline, s => if s.isOpen then (.ok (s.lineOf arrivals), s.afterLine arrivals) else (.error notOpened, s)
    | .read size, s =>
      if s.isOpen then (.ok (s.taken arrivals size), s.afterRead arrivals size) else (.error notOpened, s)
    | .write _, s | .flush, s => (if s.isOpen then .ok () else .error notOpened, s)
    | .flushInput, s => if s.isOpen then (.ok (), s.discarded) else (.error notOpened, s)
    | .available, s => (.ok (if s.isOpen then s.queue.length else 0), s)
    | .findPort, s => (.ok [], s)
    | .openPort _, s => (.ok (), { s with isOpen := true })
    | .close, s => (.ok (), s.closed)
    | .connectCb _ _, s | .pointCloudCb _ _, s | .imuCb _, s => (.ok (), s)
  stops s := (true, s)
  now s := (host.now s.reads, s)
  syncMode s := (host.syncMode s.reads, s)
  frameRateHz s := (host.frameRateHz s.reads, s)
  read_size := by
    intro size s t data answered
    cases opened : s.isOpen with
    | false => simp [opened] at answered
    | true =>
      simp only [opened, if_true, Prod.mk.injEq, Except.ok.injEq] at answered
      rw [← answered.1, CameraPort.taken, List.length_take]
      omega

/-! ## Where the worker can be -/

/-- What a frame has been begun with: in CDC mode its timestamp. -/
inductive FrameStart where
  | cdc (frameTs : BitVec 64)
  | hist

inductive FramePlace where
  | startTimestamp                              -- cdc 90: read_timestamp
  | cloudMark (frameTs : BitVec 64)             -- cdc 71: read_line_until("BEGIN MP")
  | cloudOctets (frameTs : BitVec 64) (n : Nat)  -- cdc 74-80: n octets have been read
  | imuMark (start : FrameStart)                -- 476: read_line_until("BEGIN IMU")
  | imuRecord (start : FrameStart) (got : Octets)  -- 482-490: got has been read of a record
  | endTimestamp (start : FrameStart)           -- cdc 96, hist 95: read_timestamp

/-- In the try block; the places of a handshake hold what has been read before. -/
inductive TryPlace where
  | connected                                   -- 188, 213: behind connect, or behind the outer loop
  | startModeEcho                               -- 288
  | startModeReply                              -- 289
  | startModePrompt (modeResp : Octets)         -- 291
  | infoPrompt                                  -- 345
  | versionEcho                                 -- 348
  | versionReply                                -- 349
  | settingsLine (version : Octets)             -- 350
  | devInfoLine (version : Octets)              -- 351
  | dummyLine (version devInfo : Octets)        -- 352
  | versionPrompt (version devInfo : Octets)    -- 373
  | modeEcho (version devInfo : Octets)         -- 375
  | modeReply (version devInfo : Octets)        -- 376
  | modePrompt (info : DeviceInfo)              -- 393
  | rebootEcho (command : Octets)               -- 299, 200: the echo of the mode command
  | rebootReply                                 -- 300, 201: the echo of "reboot"
  | defaults (left : List String)               -- 224-230: in the acknowledgement of one, some are left
  | trigger (left : List String)                -- 232-245
  | skipping (frames : Nat)                     -- 250: some frames are left
  | frame (place : FramePlace)
  | betweenFrames                               -- 257

inductive Place where
  | inTry (place : TryPlace)
  | firstAck                                    -- 273
  | secondAck                                   -- 274

/-! ## What follows -/

section Rest

variable {σ : Type} (E : Environment σ) (config : WorkerConfig) (fuel : Nat)

/-- 257-260 -/
def mainLoop : SerialRoutine σ Unit := loop (fun _ => mainRound E config fuel) fuel ()

def streaming : SerialRoutine σ Unit := do
  enter .streaming
  mainLoop E config fuel

/-- 213-260, behind the discovery. -/
def setupAndStream : SerialRoutine σ Unit := do
  let running ← isRunning E
  if running then
    enter .setup
    setupStreaming E fuel
  enter .streaming
  mainLoop E config fuel

/-- What a pass of the outer loop is followed by. -/
def discovered : Unit ⊕ Unit → SerialRoutine σ Unit
  | .inl () => do
    loop (fun _ => discoverRound E config fuel) fuel ()
    setupAndStream E config fuel
  | .inr () => setupAndStream E config fuel

/-! ### The handshake -/

def rebootReplyRest : SerialRoutine σ Unit := do
  let _ ← readLineUntil E fuel (ascii "reboot")
  close E
  discovered E config fuel (.inl ())

def rebootEchoRest (command : Octets) : SerialRoutine σ Unit := do
  let _ ← readLineUntil E fuel command
  write E (ascii "reboot" ++ [0x0D])
  rebootReplyRest E config fuel

/-- `rebootWith` and what follows it. -/
def rebootRest (command : Octets) : SerialRoutine σ Unit := do
  write E (command ++ [0x0D])
  rebootEchoRest E config fuel command

/-- 196-207 -/
def infoRest (info : DeviceInfo) : SerialRoutine σ Unit := do
  modify fun w => { w with deviceInfo := info }
  if info.mode ≠ config.mode.val then rebootRest E config fuel (ascii ("flmode " ++ config.modeInfo.modeStr))
  else discovered E config fuel (.inr ())

def modePromptRest (info : DeviceInfo) : SerialRoutine σ Unit := do
  let _ ← readToPrompt E fuel
  infoRest E config fuel info

def modeReplyRest (version devInfo : Octets) : SerialRoutine σ Unit := do
  let modeResp ← readLine E
  let mode ← requireKnown (reportedMode modeResp)
  modePromptRest E config fuel { deviceVersion := version, hwId := getHwId devInfo, mode }

def modeEchoRest (version devInfo : Octets) : SerialRoutine σ Unit := do
  let _ ← readLineUntil E fuel (ascii "flmode")
  modeReplyRest E config fuel version devInfo

def versionPromptRest (version devInfo : Octets) : SerialRoutine σ Unit := do
  let _ ← readToPrompt E fuel
  write E (ascii "flmode" ++ [0x0D])
  modeEchoRest E config fuel version devInfo

def dummyLineRest (version devInfo : Octets) : SerialRoutine σ Unit := do
  let _ ← readLine E
  requireSupported version
  versionPromptRest E config fuel version devInfo

def devInfoLineRest (version : Octets) : SerialRoutine σ Unit := do
  let devInfo ← readLine E
  dummyLineRest E config fuel version devInfo

def settingsLineRest (version : Octets) : SerialRoutine σ Unit := do
  let _ ← readLine E
  devInfoLineRest E config fuel version

def versionReplyRest : SerialRoutine σ Unit := do
  let version ← readLine E
  settingsLineRest E config fuel version

def versionEchoRest : SerialRoutine σ Unit := do
  let _ ← readLineUntil E fuel (ascii "ver")
  versionReplyRest E config fuel

def infoPromptRest : SerialRoutine σ Unit := do
  let _ ← readToPrompt E fuel
  call E .flushInput
  write E (ascii "ver" ++ [0x0D])
  versionEchoRest E config fuel

def startModePromptRest (modeResp : Octets) : SerialRoutine σ Unit := do
  let _ ← readToPrompt E fuel
  if ascii config.kind.expectedFlstartMode <:+: modeResp then
    call E .flush
    write E (ascii "\r" ++ [0x0D])
    infoPromptRest E config fuel
  else rebootRest E config fuel (ascii ("flstart " ++ config.kind.expectedFlstartMode))

def startModeReplyRest : SerialRoutine σ Unit := do
  let modeResp ← readLine E
  startModePromptRest E config fuel modeResp

def startModeEchoRest : SerialRoutine σ Unit := do
  let _ ← readLineUntil E fuel (ascii "flstart")
  startModeReplyRest E config fuel

/-! ### The setup -/

def acks : List String → SerialRoutine σ Unit
  | [] => return ()
  | cmd :: left => do
    let _ ← sendAndReceiveAck E fuel (ascii cmd)
    acks left

/-- 224-230 -/
def startupCommands : List String :=
  ["flformat binary imu", "fltrgout disable", "fltrgin disable", "flfsync 0", "format binary imu",
    "fltrgout riselast"]

/-- 248-252 and the main loop. -/
def skipRest : SerialRoutine σ Unit := do
  let hz ← frameRateHz E
  skipFrames E fuel hz.val
  streaming E config fuel

def triggerRest (left : List String) : SerialRoutine σ Unit := do
  let _ ← readToPrompt E fuel
  acks E fuel left
  skipRest E config fuel

/-- 232-252 and the main loop. -/
def syncRest : SerialRoutine σ Unit := do
  let mode ← syncMode E
  match mode with
  | .master | .none => do
    setMaster E fuel
    skipRest E config fuel
  | .slave => do
    setSlave E fuel
    skipRest E config fuel

def defaultsRest (left : List String) : SerialRoutine σ Unit := do
  let _ ← readToPrompt E fuel
  acks E fuel left
  syncRest E config fuel

/-! ### A frame -/

/-- From `read_timestamp` on, behind the IMU records. -/
def endTimestampRest (start : FrameStart) : SerialRoutine σ Unit := do
  let endMs ← readTimestamp E fuel
  match start with
  | .cdc frameTs => finishCdcFrame E config frameTs (endMs * 1000000)
  | .hist => finishHistFrame E config (endMs * 1000000)

def imuMarkRest (start : FrameStart) : SerialRoutine σ Unit := do
  let _ ← readLineUntil E fuel (ascii "BEGIN IMU")
  imuRecords E fuel
  endTimestampRest E config fuel start

/-- From `read_imu` on. -/
def imuRest (start : FrameStart) : SerialRoutine σ Unit := do
  modify fun w => { w with imuData := [] }
  imuMarkRest E config fuel start

def imuRecordRest (start : FrameStart) (got : Octets) : SerialRoutine σ Unit := do
  let record ← imuRecord E fuel got
  let next ← keepRecord record
  match next with
  | .inl () => do
    imuRecords E fuel
    endTimestampRest E config fuel start
  | .inr () => endTimestampRest E config fuel start

def frameRest : FramePlace → SerialRoutine σ Unit
  | .startTimestamp => do
    let startMs ← readTimestamp E fuel
    let running ← isRunning E
    if running then cdcFrame E config fuel (startMs * 1000000)
  | .cloudMark frameTs => do
    let _ ← readLineUntil E fuel (ascii "BEGIN MP")
    pointCloudOctets E fuel 0
    imuRest E config fuel (.cdc frameTs)
  | .cloudOctets frameTs n => do
    pointCloudOctets E fuel n
    imuRest E config fuel (.cdc frameTs)
  | .imuMark start => imuMarkRest E config fuel start
  | .imuRecord start got => imuRecordRest E config fuel start got
  | .endTimestamp start => endTimestampRest E config fuel start

/-! ### The thread -/

def tryRest : TryPlace → SerialRoutine σ Unit
  | .connected => discovered E config fuel (.inr ())
  | .startModeEcho => startModeEchoRest E config fuel
  | .startModeReply => startModeReplyRest E config fuel
  | .startModePrompt modeResp => startModePromptRest E config fuel modeResp
  | .infoPrompt => infoPromptRest E config fuel
  | .versionEcho => versionEchoRest E config fuel
  | .versionReply => versionReplyRest E config fuel
  | .settingsLine version => settingsLineRest E config fuel version
  | .devInfoLine version => devInfoLineRest E config fuel version
  | .dummyLine version devInfo => dummyLineRest E config fuel version devInfo
  | .versionPrompt version devInfo => versionPromptRest E config fuel version devInfo
  | .modeEcho version devInfo => modeEchoRest E config fuel version devInfo
  | .modeReply version devInfo => modeReplyRest E config fuel version devInfo
  | .modePrompt info => modePromptRest E config fuel info
  | .rebootEcho command => rebootEchoRest E config fuel command
  | .rebootReply => rebootReplyRest E config fuel
  | .defaults left => defaultsRest E config fuel left
  | .trigger left => triggerRest E config fuel left
  | .skipping frames => do
    skipFrames E fuel (frames + 1)
    streaming E config fuel
  | .frame place => do
    frameRest E config fuel place
    mainLoop E config fuel
  | .betweenFrames => mainLoop E config fuel

/-- 263-284, behind the try block. -/
def closing : SerialRoutine σ Unit := do
  enter .closing
  shutdown E fuel

def leaveTry (rest : SerialRoutine σ Unit) : SerialRoutine σ Unit := do
  tryCatch rest fun _ => return ()
  closing E fuel

def secondAckRest : SerialRoutine σ Unit := do
  let _ ← readToPrompt E fuel
  disconnect E
  modify fun w => { w with running := false }

def firstAckRest : SerialRoutine σ Unit := do
  let _ ← readToPrompt E fuel
  write E (ascii "trgin disable" ++ [0x0D])
  secondAckRest E fuel

def restOfRun : Place → SerialRoutine σ Unit
  | .inTry place => leaveTry E fuel (tryRest E config fuel place)
  | .firstAck => firstAckRest E fuel
  | .secondAck => secondAckRest E fuel

/-! ## The same code -/

theorem run_eq : run E config fuel = enter .connecting >>= fun _ => leaveTry E fuel (session E config fuel) := rfl

theorem session_eq : session E config fuel =
    loop (fun _ => discoverRound E config fuel) fuel () >>= fun _ => setupAndStream E config fuel := rfl

theorem rebootWith_eq (command : Octets) :
    (rebootWith E fuel command >>= fun _ => discovered E config fuel (.inl ())) =
      rebootRest E config fuel command := by
  simp only [rebootWith, sendAndReceive, rebootRest, rebootEchoRest, rebootReplyRest, bind_assoc,
    pure_bind]

theorem getDeviceInfo_eq :
    (getDeviceInfo E fuel >>= infoRest E config fuel) =
      call E .flush >>= fun _ => write E (ascii "\r" ++ [0x0D]) >>= fun _ => infoPromptRest E config fuel := by
  simp only [getDeviceInfo, sendAndReceiveAck, sendAndReceive, infoPromptRest, versionEchoRest, versionReplyRest,
    settingsLineRest, devInfoLineRest, dummyLineRest, versionPromptRest, modeEchoRest, modeReplyRest, modePromptRest,
    bind_assoc, pure_bind]

/-- The places of the handshake follow one another as the reads of the functions do. -/
theorem checkDevice_eq :
    (checkDevice E config fuel >>= discovered E config fuel) =
      stopIfStreaming E >>= fun _ => write E (ascii "flstart" ++ [0x0D]) >>= fun _ =>
        startModeEchoRest E config fuel := by
  simp only [checkDevice, verifyDeviceMode, sendAndReceive, startModeEchoRest, startModeReplyRest,
    startModePromptRest, bind_assoc, pure_bind]
  refine congrArg _ (funext fun _ => congrArg _ (funext fun _ => congrArg _ (funext fun _ => ?_)))
  refine congrArg _ (funext fun modeResp => congrArg _ (funext fun _ => ?_))
  split
  · rw [← getDeviceInfo_eq]
    simp only [pure_bind, bind_assoc, if_true]
    refine congrArg _ (funext fun info => ?_)
    unfold infoRest
    refine congrArg _ (funext fun _ => ?_)
    split
    · rw [← rebootWith_eq]
      simp only [bind_assoc, pure_bind]
    · rfl
  · rw [← rebootWith_eq]
    simp only [bind_assoc, pure_bind]
    rfl

theorem acks_eq : setDefaults E fuel = acks E fuel startupCommands := rfl

theorem setMaster_eq :
    (setMaster E fuel >>= fun _ => skipRest E config fuel) =
      frameRateHz E >>= fun hz => write E (ascii "trgin disable" ++ [0x0D]) >>= fun _ =>
        triggerRest E config fuel [fsyncCommand hz] := by
  simp only [setMaster, sendAndReceiveAck, triggerRest, acks, bind_assoc, pure_bind]

theorem setSlave_eq :
    (setSlave E fuel >>= fun _ => skipRest E config fuel) =
      write E (ascii "trgin rise" ++ [0x0D]) >>= fun _ => triggerRest E config fuel ["fsync 0"] := by
  simp only [setSlave, sendAndReceiveAck, triggerRest, acks, bind_assoc, pure_bind]

theorem setupStreaming_eq :
    (setupStreaming E fuel >>= fun _ => streaming E config fuel) =
      get >>= fun w => call E (.connectCb true w.deviceInfo) >>= fun _ =>
        write E (ascii "flformat binary imu" ++ [0x0D]) >>= fun _ =>
          defaultsRest E config fuel startupCommands.tail := by
  have first : (acks E fuel startupCommands >>= fun _ => syncRest E config fuel) =
      write E (ascii "flformat binary imu" ++ [0x0D]) >>= fun _ =>
        defaultsRest E config fuel startupCommands.tail := by
    simp only [startupCommands, acks, sendAndReceiveAck, defaultsRest, List.tail_cons, bind_assoc]
  rw [← first, ← acks_eq]
  unfold setupStreaming syncRest skipRest
  simp only [bind_assoc]
  refine congrArg _ (funext fun w => congrArg _ (funext fun _ => congrArg _ (funext fun _ => ?_)))
  refine congrArg _ (funext fun mode => ?_)
  cases mode with
  | _ => simp only [bind_assoc]

theorem cdcFrame_eq (frameTs : BitVec 64) :
    cdcFrame E config fuel frameTs = frameRest E config fuel (.cloudMark frameTs) := by
  simp only [cdcFrame, readSerialPointCloud, readImu, frameRest, imuRest, imuMarkRest, endTimestampRest, bind_assoc]

/-- The shutdown of a worker that was told to stop and has a port object. -/
theorem shutdown_eq {w : World σ} (down : w.running = false) (connected : w.serial = true) :
    shutdown E fuel w = (write E (ascii "fsync 0" ++ [0x0D]) >>= fun _ => firstAckRest E fuel) w := by
  unfold shutdown stopStreaming
  simp only [bind_assoc]
  rw [bind_ok (isRunning_down down), bind_ok (get_apply w)]
  simp only [connected, Bool.not_false, Bool.and_self, if_true, sendAndReceiveAck, firstAckRest, secondAckRest,
    bind_assoc, pure_bind]

theorem histFrame_eq : histFrame E config fuel = imuRest E config fuel .hist := by
  simp only [histFrame, readImu, imuRest, imuMarkRest, endTimestampRest, bind_assoc]
  rfl

end Rest

end AsDt1.Source
