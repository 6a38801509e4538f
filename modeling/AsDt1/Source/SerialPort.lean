import AsDt1.Lib.Routine
import AsDt1.Source.FrameData
import AsDt1.Source.Parameters
import AsDt1.Source.SerialWorker

/-!
# The serial worker's surroundings

What `dt1_device::run` and the routines it calls see: the members they use, and
an environment that answers every call. The environment is any state machine, so
it stands for every device, every host and every moment at which `stop()` or a
setter is called. The members `log` and `phase` are history variables.
-/
namespace AsDt1.Source
open AsDt1.Lib

/-- The bytes of a text of ASCII characters. -/
def ascii (text : String) : Octets := text.toList.map fun c => BitVec.ofNat 8 c.toNat

inductive Failure where
  | unsupportedDevice
  | outOfRange
  | exception (what : String)
  deriving DecidableEq, Repr

structure DeviceInfo where
  deviceVersion : Octets
  hwId : Octets
  mode : Nat
  deriving DecidableEq, Repr

/-- `get_device_info` leaves other members of `device_info` alone; these are never read. -/
def DeviceInfo.unset : DeviceInfo := ⟨[], [], 0⟩

/-- Calls that another party answers, and that may throw. -/
inductive HostCall : Type → Type
  /-- `find_port`; empty if there is no device -/
  | findPort : HostCall Octets
  /-- the constructor of `serial::Serial` -/
  | openPort (port : Octets) : HostCall Unit
  | readline : HostCall Octets
  | read (size : Nat) : HostCall Octets
  | write (data : Octets) : HostCall Unit
  | available : HostCall Nat
  | flush : HostCall Unit
  | flushInput : HostCall Unit
  | close : HostCall Unit
  | connectCb (isConnected : Bool) (info : DeviceInfo) : HostCall Unit
  | pointCloudCb (timestamp : BitVec 64) (points : List (Option (Vec3 ℚ))) : HostCall Unit
  | imuCb (samples : List ImuSample) : HostCall Unit

/-- What `set_frame_rate` lets through. -/
abbrev FrameRate := { hz : Nat // 1 ≤ hz ∧ hz ≤ 30 }

/-- The rate a device is created with. -/
def FrameRate.initial : FrameRate := ⟨30, by decide⟩

structure Environment (σ : Type) where
  answer : {α : Type} → HostCall α → σ → Except Failure α × σ
  /-- `true` once `stop()` has been called. -/
  stops : σ → Bool × σ
  /-- `high_resolution_clock::now()` in nanoseconds -/
  now : σ → BitVec 64 × σ
  syncMode : σ → SyncMode × σ
  frameRateHz : σ → FrameRate × σ
  /-- A read returns what there is, up to the size asked for. -/
  read_size : ∀ {size : Nat} {s t : σ} {data : Octets},
    answer (.read size) s = (.ok data, t) → data.length ≤ size

/-- The part of `run` that the worker is in. -/
inductive Phase where
  | connecting | setup | streaming | closing
  deriving DecidableEq, Repr

inductive Event where
  | opened
  | closed
  | wrote (data : Octets)
  | line (text : Octets)
  | octets (data : Octets)
  /-- `process_serial_data()` is called. -/
  | processing
  /-- A frame was read: the timestamps in it, the payload and the IMU records. -/
  | parsed (frameTs endTs : BitVec 64) (receiveBuf : Octets) (imuData : List Octets)
  | pointCloud (timestamp : BitVec 64) (points : List (Option (Vec3 ℚ)))
  | imuSamples (samples : List ImuSample)
  deriving DecidableEq

/-- What is fixed while a worker runs. -/
structure WorkerConfig where
  kind : Kind
  /-- `_mode` -/
  mode : Fin dt1ModesList.length
  hasPointCloudCb : Bool
  hasImuCb : Bool

def WorkerConfig.modeInfo (config : WorkerConfig) : ModeInfo := dt1ModesList.get config.mode

structure World (σ : Type) where
  env : σ
  running : Bool
  /-- `_serial != nullptr` -/
  serial : Bool
  deviceInfo : DeviceInfo
  receiveBuf : Octets
  imuData : List Octets
  imuSamples : List ImuSample
  latestImuSampleTs : Int
  clockOffset : BitVec 64
  phase : Phase
  log : List (Phase × Event)

abbrev SerialRoutine (σ α : Type) := Routine (World σ) Failure α

variable {σ α : Type}

def note (event : Event) : SerialRoutine σ Unit :=
  Routine.modify fun w => { w with log := w.log ++ [(w.phase, event)] }

def enter (phase : Phase) : SerialRoutine σ Unit := Routine.modify fun w => { w with phase }

section Calls

variable (E : Environment σ)

def call (hostCall : HostCall α) : SerialRoutine σ α := fun w =>
  match E.answer hostCall w.env with
  | (.ok a, env) => (.ok a, { w with env })
  | (.error failure, env) => (.error (.thrown failure), { w with env })

/-- A test of `_running`: once it is down it stays down. -/
def isRunning : SerialRoutine σ Bool := fun w =>
  if w.running then
    let stopped := (E.stops w.env).1
    (.ok !stopped, { w with env := (E.stops w.env).2, running := !stopped })
  else (.ok false, w)

def now : SerialRoutine σ (BitVec 64) := fun w => (.ok (E.now w.env).1, { w with env := (E.now w.env).2 })

def syncMode : SerialRoutine σ SyncMode :=
  fun w => (.ok (E.syncMode w.env).1, { w with env := (E.syncMode w.env).2 })

def frameRateHz : SerialRoutine σ FrameRate :=
  fun w => (.ok (E.frameRateHz w.env).1, { w with env := (E.frameRateHz w.env).2 })

/-! ## The port -/

def readline : SerialRoutine σ Octets := do
  let text ← call E .readline
  note (.line text)
  return text

def read (size : Nat) : SerialRoutine σ Octets := do
  let data ← call E (.read size)
  note (.octets data)
  return data

def write (data : Octets) : SerialRoutine σ Unit := do
  call E (.write data)
  note (.wrote data)

def close : SerialRoutine σ Unit := do
  call E .close
  note .closed

/-! ## One call -/

variable {E} {w : World σ} {env : σ} {text data : Octets} {failure : Failure} {size : Nat}

theorem call_ok {c : HostCall α} {a : α} (answered : E.answer c w.env = (.ok a, env)) :
    call E c w = (.ok a, { w with env }) := by
  unfold call
  rw [answered]

theorem call_throws {c : HostCall α} (answered : E.answer c w.env = (.error failure, env)) :
    call E c w = (.error (.thrown failure), { w with env }) := by
  unfold call
  rw [answered]

theorem readline_ok (answered : E.answer .readline w.env = (.ok text, env)) :
    readline E w = (.ok text, { w with env, log := w.log ++ [(w.phase, .line text)] }) := by
  unfold readline
  rw [Routine.bind_ok (call_ok answered)]
  rfl

theorem read_ok (answered : E.answer (.read size) w.env = (.ok data, env)) :
    read E size w = (.ok data, { w with env, log := w.log ++ [(w.phase, .octets data)] }) := by
  unfold read
  rw [Routine.bind_ok (call_ok answered)]
  rfl

theorem isRunning_up (running : w.running = true) (up : (E.stops w.env).1 = false) :
    isRunning E w = (.ok true, { w with env := (E.stops w.env).2 }) := by
  have kept : { w with env := (E.stops w.env).2, running := true } = { w with env := (E.stops w.env).2 } := by
    rw [← running]
  unfold isRunning
  rw [if_pos running, up]
  exact congrArg _ kept

theorem isRunning_stopped (running : w.running = true) (down : (E.stops w.env).1 = true) :
    isRunning E w = (.ok false, { w with env := (E.stops w.env).2, running := false }) := by
  unfold isRunning
  rw [if_pos running, down]
  rfl

theorem isRunning_down (down : w.running = false) : isRunning E w = (.ok false, w) := by
  unfold isRunning
  rw [if_neg (by rw [down]; decide)]

end Calls

end AsDt1.Source
