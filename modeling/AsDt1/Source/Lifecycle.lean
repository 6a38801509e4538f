import AsDt1.Lib.Ledger
import AsDt1.Lib.Machine
import AsDt1.Lib.Worker
import AsDt1.Source.Parameters
import AsDt1.Source.V4l2Worker

/-!
# The device with its workers, step by step

`dt1_device` (dt1_device.cpp:138-163, 580-600), the overrides of `dt1_device_hist`
(dt1_device_hist.cpp:64-84, 367-379) and `dt1_device_cdc`, and the calls the node
makes: start, stop, reboot, a parameter callback and the destructor. The node's
callbacks share one mutually exclusive group, so calls come one after another;
each of them is interleaved with the two workers. `session`, `offsetFrom`,
`quiet` and `ledger` are history that the code does not store.
-/
namespace AsDt1.Source
open AsDt1.Lib

/-- Where control goes when a call of `stop()` returns. -/
inductive StopReturn where
  | caller
  | reboot           -- dt1_device.cpp:588
  | parameters (modeIdx : Int) (rest : List Parameter)  -- asdt1_driver_node.cpp:378
  | derived          -- ~dt1_device_hist, ~dt1_device_cdc
  | base             -- ~dt1_device
  deriving DecidableEq, Repr

inductive ApiPc where
  | idle
  | stopTest (r : StopReturn)        -- 158: if (!_running) return
  | stopLower (r : StopReturn)       -- 160: _running = false
  | stopJoinV4l2 (r : StopReturn)    -- hist 78
  | stopRelease (r : StopReturn)     -- hist 79-83
  | stopJoinSerial (r : StopReturn)  -- 162
  | startTest                        -- 146: if (_running) return
  | startJoinSerial                  -- 148
  | startRaise                       -- 150: _running = true
  | startSpawnSerial                 -- 152
  | implJoin                         -- hist 71
  | implSpawn                        -- hist 73
  | rebootTest                       -- 582: if (_serial == nullptr)
  | rebootOpen | rebootFlush | rebootSend | rebootClose  -- 590-596
  | scan (rest : List Parameter) (reboot : Bool)  -- loop of on_parameters_set
  | dropV4l2                         -- destruction of _v4l2_thread
  | baseJoin                         -- 141
  | dropSerial                       -- destruction of _serial_thread
  | destroyed
  deriving DecidableEq, Repr

/-- Control points that a step reaches without joining or starting a worker and
without destroying a thread object. -/
def ApiPc.plain : ApiPc → Bool
  | .idle | .stopTest _ | .stopLower _ | .startJoinSerial | .rebootTest | .rebootOpen
  | .rebootFlush | .rebootSend | .rebootClose | .scan _ _ => true
  | _ => false

/-- Inside `stop()`, behind its write to the flag. -/
def ApiPc.stopping : ApiPc → Bool
  | .stopJoinV4l2 _ | .stopRelease _ | .stopJoinSerial _ => true
  | _ => false

/-- At a serial port operation of `reboot()`. -/
def ApiPc.usesPort : ApiPc → Bool
  | .rebootOpen | .rebootFlush | .rebootSend | .rebootClose => true
  | _ => false

/-- Inside a call of `start()`. -/
def ApiPc.starting : ApiPc → Bool
  | .startTest | .startJoinSerial | .startRaise | .startSpawnSerial | .implJoin
  | .implSpawn => true
  | _ => false

/-- Inside `~dt1_device`, behind the destruction of `_v4l2_thread`. -/
def ApiPc.inBase : ApiPc → Bool
  | .stopTest .base | .stopLower .base | .stopJoinSerial .base | .baseJoin | .dropSerial
  | .destroyed => true
  | _ => false

inductive Call where
  | start | stop | reboot
  | setParameters (parameters : List Parameter)
  | destroy
  deriving DecidableEq, Repr

/-- Ways the process ends early. -/
inductive Abort where
  | joinableDestroyed
  | uncaughtException
  deriving DecidableEq, Repr

structure State where
  running : Bool := false
  settings : Settings := {}
  serialPort : SerialPort := .null
  clockOffset : BitVec 64 := 0
  /-- The session whose frame gave `clockOffset`, if a frame did. -/
  offsetFrom : Option Nat := none
  fd : Option Nat := none
  buffers : List BufferStart := []
  ledger : Ledger := {}
  serial : Worker SerialPc := .absent
  v4l2 : Worker V4l2Pc := .absent
  /-- How often `start()` has raised the flag. -/
  session : Nat := 0
  api : ApiPc := .idle
  /-- A call of `stop()` has returned and no `start()` has begun since. -/
  quiet : Bool := false
  halted : Option Abort := none
  deriving DecidableEq, Repr

/-- `std::terminate`; the rest of the state stays as it was. -/
def State.abort (s : State) (a : Abort) : State := { s with halted := some a }

/-- An API step succeeds, or the port operation it makes throws. -/
inductive ApiOutcome where
  | proceed | throwing
  deriving DecidableEq, Repr

inductive Action where
  | call (c : Call)
  | api (o : ApiOutcome)
  | serial (o : SerialOutcome)
  | v4l2 (o : V4l2Outcome)
  deriving DecidableEq, Repr

/-! ## Steps of the workers -/

def applySerial (s : State) (n : Nat) : SerialMove → State
  | .goto pc => { s with serial := .live n pc }
  | .setPort port pc => { s with serialPort := port, serial := .live n pc }
  | .storeOffset value measured pc =>
    { s with
      clockOffset := value
      offsetFrom := if measured then some n else none
      serial := .live n pc }
  | .lowerAndReturn => { s with running := false, serial := .finished n }
  | .terminate => s.abort .uncaughtException

def serialStep (k : Kind) (s : State) (o : SerialOutcome) : Option State :=
  match s.serial with
  | .live n pc => (serialMove k s.running s.serialPort pc o).map (applySerial s n)
  | _ => none

def applyV4l2 (s : State) (n : Nat) : V4l2Move → State
  | .goto pc => { s with v4l2 := .live n pc }
  | .probeOpen => { s with ledger := s.ledger.openOne, v4l2 := .live n (.probing s.ledger.opened) }
  | .probeClose descriptor =>
    { s with ledger := s.ledger.close descriptor, v4l2 := .live n .searching }
  | .openVideo =>
    { s with
      fd := some s.ledger.opened
      ledger := s.ledger.openOne
      v4l2 := .live n .openedCheck }
  | .openFailed => { s with fd := none, v4l2 := .live n .openLoop }
  | .resetBuffers count =>
    { s with buffers := List.replicate count .null, v4l2 := .live n (.mapping 0 count) }
  | .mapBuffer i count =>
    { s with
      buffers := s.buffers.set i (.mapped s.ledger.mapped)
      ledger := s.ledger.mapOne
      v4l2 := .live n (.mapping (i + 1) count) }
  | .mapFailed i => { s with buffers := s.buffers.set i .failed, v4l2 := .live n .streamFailed }
  | .lower => { s with running := false, v4l2 := .live n .captureLoop }
  | .leave => { s with v4l2 := .finished n }
  | .lowerAndReturn => { s with running := false, v4l2 := .finished n }
  | .terminate => s.abort .uncaughtException

def v4l2Step (s : State) (o : V4l2Outcome) : Option State :=
  match s.v4l2 with
  | .live n pc => (v4l2Move s.running s.fd.isSome s.clockOffset s.offsetFrom pc o).map (applyV4l2 s n)
  | _ => none

/-! ## Steps of the calling thread -/

/-- `stop_impl()` is the override of dt1_device_hist except in `~dt1_device`. -/
def stopsVideo (k : Kind) (r : StopReturn) : Bool :=
  k == .hist && r != .base

/-- The mappings that `v4l2_stream_off` unmaps. -/
def mappings (buffers : List BufferStart) : List Nat :=
  buffers.filterMap fun
    | .mapped mapping => some mapping
    | _ => none

/-- `v4l2_stream_off()` and `_fd = -1`, under `if (_fd >= 0)`. -/
def releaseVideo (s : State) : State :=
  match s.fd with
  | some descriptor =>
    { s with
      fd := none
      buffers := []
      ledger := (s.ledger.unmapAll (mappings s.buffers)).close descriptor }
  | none => s

/-- `stop()` returns; the mode branch of the callback goes on with `set_mode`. -/
def returnStop (k : Kind) (s : State) : StopReturn → State
  | .caller => { s with quiet := true, api := .idle }
  | .reboot => { s with quiet := true, api := .rebootOpen }
  | .parameters modeIdx rest =>
    { s with
      quiet := true
      settings := s.settings.serve (.mode modeIdx)
      api := .scan rest true }
  | .derived =>
    { s with quiet := true, api := if k = .hist then .dropV4l2 else .stopTest .base }
  | .base => { s with quiet := true, api := .baseJoin }

/-- `start()` begins. -/
def beginStart (s : State) : State := { s with quiet := false, api := .startTest }

def begin (s : State) : Call → State
  | .start => beginStart s
  | .stop => { s with api := .stopTest .caller }
  | .reboot => { s with api := .rebootTest }
  | .setParameters parameters => { s with api := .scan parameters false }
  | .destroy => { s with api := .stopTest .derived }

/-- One step of the calling thread whose operation succeeds. -/
def apiProceed (k : Kind) (s : State) : Option State :=
  match s.api with
  | .idle | .destroyed => none
  | .stopTest r => some (if s.running then { s with api := .stopLower r } else returnStop k s r)
  | .stopLower r =>
    some { s with
      running := false
      api := if stopsVideo k r then .stopJoinV4l2 r else .stopJoinSerial r }
  | .stopJoinV4l2 r => s.v4l2.join.map fun w => { s with v4l2 := w, api := .stopRelease r }
  | .stopRelease r => some { releaseVideo s with api := .stopJoinSerial r }
  | .stopJoinSerial r => s.serial.join.map fun w => returnStop k { s with serial := w } r
  | .startTest => some { s with api := if s.running then .idle else .startJoinSerial }
  | .startJoinSerial => s.serial.join.map fun w => { s with serial := w, api := .startRaise }
  | .startRaise =>
    some { s with running := true, session := s.session + 1, api := .startSpawnSerial }
  | .startSpawnSerial =>
    if s.serial.joinable then some (s.abort .joinableDestroyed)
    else some { s with
      serial := .live s.session .discover
      api := if k = .hist then .implJoin else .idle }
  | .implJoin => s.v4l2.join.map fun w => { s with v4l2 := w, api := .implSpawn }
  | .implSpawn =>
    if s.v4l2.joinable then some (s.abort .joinableDestroyed)
    else some { s with v4l2 := .live s.session .openLoop, api := .idle }
  | .rebootTest => some { s with api := if s.serialPort = .null then .idle else .stopTest .reboot }
  -- open() throws on an open port, the other operations on a closed one
  | .rebootOpen =>
    if s.serialPort = .opened then none
    else some { s with serialPort := .opened, api := .rebootFlush }
  | .rebootFlush => if s.serialPort = .opened then some { s with api := .rebootSend } else none
  | .rebootSend => if s.serialPort = .opened then some { s with api := .rebootClose } else none
  | .rebootClose => some (beginStart { s with serialPort := .closed })
  | .scan [] reboot => some { s with api := if reboot then .rebootTest else .idle }
  | .scan (parameter :: rest) reboot =>
    match checkParameter parameter with
    | .error _ => some { s with api := .idle }
    | .ok (.mode modeIdx) => some { s with api := .stopTest (.parameters modeIdx rest) }
    | .ok r => some { s with settings := s.settings.serve r, api := .scan rest (reboot || r.reboots) }
  | .dropV4l2 =>
    if s.v4l2.joinable then some (s.abort .joinableDestroyed)
    else some { s with api := .stopTest .base }
  | .baseJoin => s.serial.join.map fun w => { s with serial := w, api := .dropSerial }
  | .dropSerial =>
    if s.serial.joinable then some (s.abort .joinableDestroyed)
    else some { s with api := .destroyed }

/-- A port operation of `reboot()` throws; nothing is undone on the way out. -/
def apiThrow (s : State) : Option State :=
  if s.api.usesPort then some { s with api := .idle } else none

def apiStep (k : Kind) (s : State) : ApiOutcome → Option State
  | .proceed => apiProceed k s
  | .throwing => apiThrow s

/-! ## The machine -/

def step (k : Kind) (s : State) (a : Action) : Option State :=
  if s.halted.isSome then none
  else match a with
    | .call c => if s.api = .idle then some (begin s c) else none
    | .api o => apiStep k s o
    | .serial o => serialStep k s o
    | .v4l2 o => v4l2Step s o

/-- A freshly constructed device of one class. -/
def deviceMachine (k : Kind) : Machine State Action where
  start := {}
  step := step k

/-! ## What a step does, read off its control point -/

/-- Session and kind of the flag access that a worker's step makes. -/
def flagAccess (s : State) : Action → Option (Nat × FlagAccess)
  | .serial o =>
    match s.serial with
    | .live n pc => (serialAccess pc o).map (n, ·)
    | _ => none
  | .v4l2 o =>
    match s.v4l2 with
    | .live n pc => (v4l2Access pc o).map (n, ·)
    | _ => none
  | _ => none

/-- The step invokes the point cloud or the IMU callback. -/
def invokesCallback (s : State) : Action → Bool
  | .serial _ =>
    match s.serial with
    | .live _ pc => pc.callsBack
    | _ => false
  | .v4l2 _ =>
    match s.v4l2 with
    | .live _ pc => pc.callsBack
    | _ => false
  | _ => false

/-- Origin of the offset in the stamp of the cloud that a hist step publishes. -/
def publishedOffset (s : State) : Action → Option (Option Nat)
  | .v4l2 _ =>
    match s.v4l2 with
    | .live _ (.cloudCall _ offsetFrom) => some offsetFrom
    | _ => none
  | _ => none

/-- The step opens a video device node. -/
def opensVideo (s : State) : Action → Bool
  | .v4l2 o =>
    match s.v4l2 with
    | .live _ pc =>
      match v4l2Move s.running s.fd.isSome s.clockOffset s.offsetFrom pc o with
      | some move => move.opensVideo
      | none => false
    | _ => false
  | _ => false

/-! ## Inversion: everything a step can do -/

theorem step_call {k : Kind} {s t : State} {c : Call} (taken : step k s (.call c) = some t) :
    s.api = .idle ∧ t = begin s c := by
  simp only [step] at taken
  split at taken
  · cases taken
  · split at taken
    · next idle => exact ⟨idle, (Option.some.inj taken).symm⟩
    · cases taken

theorem step_serial {k : Kind} {s t : State} {o : SerialOutcome}
    (taken : step k s (.serial o) = some t) :
    ∃ n pc move, s.serial = .live n pc ∧ serialMove k s.running s.serialPort pc o = some move ∧
      t = applySerial s n move := by
  simp only [step] at taken
  split at taken
  · cases taken
  · unfold serialStep at taken
    split at taken
    · next n pc live =>
      obtain ⟨move, made, result⟩ := Option.map_eq_some_iff.mp taken
      exact ⟨n, pc, move, live, made, result.symm⟩
    · cases taken

theorem step_v4l2 {k : Kind} {s t : State} {o : V4l2Outcome}
    (taken : step k s (.v4l2 o) = some t) :
    ∃ n pc move, s.v4l2 = .live n pc ∧
      v4l2Move s.running s.fd.isSome s.clockOffset s.offsetFrom pc o = some move ∧ t = applyV4l2 s n move := by
  simp only [step] at taken
  split at taken
  · cases taken
  · unfold v4l2Step at taken
    split at taken
    · next n pc live =>
      obtain ⟨move, made, result⟩ := Option.map_eq_some_iff.mp taken
      exact ⟨n, pc, move, live, made, result.symm⟩
    · cases taken

theorem step_api {k : Kind} {s t : State} {o : ApiOutcome} (taken : step k s (.api o) = some t) :
    apiStep k s o = some t := by
  simp only [step] at taken
  split at taken
  · cases taken
  · exact taken

/-- The step of the calling thread by what it does to the shared members: most
steps only move control, and each constructor that does more names where the
call stands. -/
inductive ApiTaken (k : Kind) (s : State) : State → Prop
  | control (pc : ApiPc) (settings : Settings) (port : SerialPort) (plain : pc.plain = true)
      (free : s.api.stopping = false)
      (set : port = s.serialPort ∨ s.api.usesPort = true ∧ port ≠ .null)
      (within : pc.starting = true → s.api.starting = true)
      (based : pc.inBase = true → s.api.inBase = true) :
      ApiTaken k s { s with api := pc, settings := settings, serialPort := port }
  | begun (at_ : s.api = .rebootClose) :
      ApiTaken k s (beginStart { s with serialPort := .closed })
  | returned (r : StopReturn) (at_ : s.api = .stopTest r) (down : s.running = false) :
      ApiTaken k s (returnStop k s r)
  | lowered (r : StopReturn) (at_ : s.api = .stopLower r) :
      ApiTaken k s { s with
        running := false
        api := if stopsVideo k r then .stopJoinV4l2 r else .stopJoinSerial r }
  | joinedInStop (r : StopReturn) (at_ : s.api = .stopJoinV4l2 r) (gone : s.v4l2.isLive = false) :
      ApiTaken k s { s with v4l2 := .absent, api := .stopRelease r }
  | joinedInStart (at_ : s.api = .implJoin) (gone : s.v4l2.isLive = false) :
      ApiTaken k s { s with v4l2 := .absent, api := .implSpawn }
  | released (r : StopReturn) (at_ : s.api = .stopRelease r) :
      ApiTaken k s { releaseVideo s with api := .stopJoinSerial r }
  | stopped (r : StopReturn) (at_ : s.api = .stopJoinSerial r) (gone : s.serial.isLive = false) :
      ApiTaken k s (returnStop k { s with serial := .absent } r)
  | joinedSerial (pc : ApiPc) (gone : s.serial.isLive = false)
      (at_ : s.api = .startJoinSerial ∧ pc = .startRaise ∨ s.api = .baseJoin ∧ pc = .dropSerial) :
      ApiTaken k s { s with serial := .absent, api := pc }
  | raised (at_ : s.api = .startRaise) :
      ApiTaken k s { s with running := true, session := s.session + 1, api := .startSpawnSerial }
  | spawnedSerial (at_ : s.api = .startSpawnSerial) :
      ApiTaken k s { s with
        serial := .live s.session .discover
        api := if k = .hist then .implJoin else .idle }
  | spawnedV4l2 (at_ : s.api = .implSpawn) :
      ApiTaken k s { s with v4l2 := .live s.session .openLoop, api := .idle }
  | droppedV4l2 (at_ : s.api = .dropV4l2) (free : s.v4l2 = .absent) :
      ApiTaken k s { s with api := .stopTest .base }
  | droppedSerial (at_ : s.api = .dropSerial) (free : s.serial = .absent) :
      ApiTaken k s { s with api := .destroyed }
  | aborted (at_ : s.serial.joinable = true ∧ (s.api = .startSpawnSerial ∨ s.api = .dropSerial) ∨
        s.v4l2.joinable = true ∧ (s.api = .implSpawn ∨ s.api = .dropV4l2)) :
      ApiTaken k s (s.abort .joinableDestroyed)

/-- Only the port operations of `reboot()` throw in the calling thread. -/
theorem api_proceeds {k : Kind} {s t : State} {o : ApiOutcome} (taken : step k s (.api o) = some t)
    (off : s.api.usesPort = false) : o = .proceed := by
  cases o with
  | proceed => rfl
  | throwing =>
    have thrown : apiThrow s = some t := step_api taken
    simp [apiThrow, off] at thrown

/-- Most steps leave the calls that start or destroy workers. -/
theorem ApiTaken.moved {k : Kind} {s : State} (pc : ApiPc) (settings : Settings) (port : SerialPort)
    (plain : pc.plain = true) (free : s.api.stopping = false)
    (set : port = s.serialPort ∨ s.api.usesPort = true ∧ port ≠ .null) (aside : pc.starting = false)
    (outside : pc.inBase = false) :
    ApiTaken k s { s with api := pc, settings := settings, serialPort := port } :=
  .control pc settings port plain free set (fun h => by simp [aside] at h)
    (fun h => by simp [outside] at h)

theorem usesPort_not_stopping {pc : ApiPc} (port : pc.usesPort = true) : pc.stopping = false := by
  cases pc <;> first | rfl | cases port

theorem api_throw_taken {k : Kind} {s t : State} (taken : apiThrow s = some t) :
    ApiTaken k s t := by
  unfold apiThrow at taken
  split at taken
  · cases taken
    exact .moved .idle s.settings s.serialPort rfl (usesPort_not_stopping ‹_›) (Or.inl rfl) rfl rfl
  · cases taken

theorem api_proceed_taken {k : Kind} {s t : State} (taken : apiProceed k s = some t) :
    ApiTaken k s t := by
  obtain ⟨pc, at_⟩ : ∃ pc, s.api = pc := ⟨_, rfl⟩
  cases pc with
  | idle | destroyed => simp [apiProceed, at_] at taken
  | stopTest r =>
    simp only [apiProceed, at_, Option.some.injEq] at taken
    split at taken
    · cases taken
      refine .control (.stopLower r) s.settings s.serialPort rfl (by rw [at_]; rfl) (Or.inl rfl)
        (fun h => (by cases h)) fun h => ?_
      rw [at_]
      cases r <;> first | rfl | cases h
    · next down =>
      cases taken
      exact .returned r at_ (by simpa using down)
  | stopLower r =>
    simp only [apiProceed, at_, Option.some.injEq] at taken
    exact taken ▸ .lowered r at_
  | stopJoinV4l2 r =>
    simp only [apiProceed, at_] at taken
    obtain ⟨rfl, gone⟩ := Worker.join_map_eq_some taken
    exact .joinedInStop r at_ gone
  | stopRelease r =>
    simp only [apiProceed, at_, Option.some.injEq] at taken
    exact taken ▸ .released r at_
  | stopJoinSerial r =>
    simp only [apiProceed, at_] at taken
    obtain ⟨rfl, gone⟩ := Worker.join_map_eq_some taken
    exact .stopped r at_ gone
  | startTest =>
    simp only [apiProceed, at_, Option.some.injEq] at taken
    subst taken
    refine .control _ s.settings s.serialPort ?_ (by rw [at_]; rfl) (Or.inl rfl) (fun _ => (by rw [at_]; rfl))
      fun h => ?_
    · split <;> rfl
    · split at h <;> cases h
  | startJoinSerial =>
    simp only [apiProceed, at_] at taken
    obtain ⟨rfl, gone⟩ := Worker.join_map_eq_some taken
    exact .joinedSerial .startRaise gone (Or.inl ⟨at_, rfl⟩)
  | startRaise =>
    simp only [apiProceed, at_, Option.some.injEq] at taken
    exact taken ▸ .raised at_
  | startSpawnSerial =>
    simp only [apiProceed, at_] at taken
    split at taken
    · next held =>
      cases taken
      exact .aborted (Or.inl ⟨held, Or.inl at_⟩)
    · cases taken
      exact .spawnedSerial at_
  | implJoin =>
    simp only [apiProceed, at_] at taken
    obtain ⟨rfl, gone⟩ := Worker.join_map_eq_some taken
    exact .joinedInStart at_ gone
  | implSpawn =>
    simp only [apiProceed, at_] at taken
    split at taken
    · next held =>
      cases taken
      exact .aborted (Or.inr ⟨held, Or.inl at_⟩)
    · cases taken
      exact .spawnedV4l2 at_
  | rebootTest =>
    simp only [apiProceed, at_, Option.some.injEq] at taken
    subst taken
    refine .control _ s.settings s.serialPort ?_ (by rw [at_]; rfl) (Or.inl rfl) (fun h => ?_) (fun h => ?_)
    · split <;> rfl
    all_goals split at h <;> cases h
  | rebootOpen =>
    simp only [apiProceed, at_] at taken
    split at taken
    · cases taken
    · cases taken
      exact .moved .rebootFlush s.settings .opened rfl (by rw [at_]; rfl)
        (Or.inr ⟨by rw [at_]; rfl, by simp⟩) rfl rfl
  | rebootFlush =>
    simp only [apiProceed, at_] at taken
    split at taken
    · cases taken
      exact .moved .rebootSend s.settings s.serialPort rfl (by rw [at_]; rfl) (Or.inl rfl) rfl rfl
    · cases taken
  | rebootSend =>
    simp only [apiProceed, at_] at taken
    split at taken
    · cases taken
      exact .moved .rebootClose s.settings s.serialPort rfl (by rw [at_]; rfl) (Or.inl rfl) rfl rfl
    · cases taken
  | rebootClose =>
    simp only [apiProceed, at_, Option.some.injEq] at taken
    exact taken ▸ .begun at_
  | scan rest reboot =>
    cases rest with
    | nil =>
      simp only [apiProceed, at_, Option.some.injEq] at taken
      subst taken
      refine .control _ s.settings s.serialPort ?_ (by rw [at_]; rfl) (Or.inl rfl) (fun h => ?_) (fun h => ?_)
      · split <;> rfl
      all_goals split at h <;> cases h
    | cons parameter rest =>
      simp only [apiProceed, at_] at taken
      split at taken
      · cases taken
        exact .moved .idle s.settings s.serialPort rfl (by rw [at_]; rfl) (Or.inl rfl) rfl rfl
      · next modeIdx _ =>
        cases taken
        exact .moved (.stopTest (.parameters modeIdx rest)) s.settings s.serialPort rfl
          (by rw [at_]; rfl) (Or.inl rfl) rfl rfl
      · next r _ _ =>
        cases taken
        exact .moved (.scan rest (reboot || r.reboots)) (s.settings.serve r) s.serialPort rfl
          (by rw [at_]; rfl) (Or.inl rfl) rfl rfl
  | dropV4l2 =>
    simp only [apiProceed, at_] at taken
    split at taken
    · next held =>
      cases taken
      exact .aborted (Or.inr ⟨held, Or.inr at_⟩)
    · next free =>
      cases taken
      exact .droppedV4l2 at_ (Worker.absent_of_not_joinable (by simpa using free))
  | baseJoin =>
    simp only [apiProceed, at_] at taken
    obtain ⟨rfl, gone⟩ := Worker.join_map_eq_some taken
    exact .joinedSerial .dropSerial gone (Or.inr ⟨at_, rfl⟩)
  | dropSerial =>
    simp only [apiProceed, at_] at taken
    split at taken
    · next held =>
      cases taken
      exact .aborted (Or.inl ⟨held, Or.inr at_⟩)
    · next free =>
      cases taken
      exact .droppedSerial at_ (Worker.absent_of_not_joinable (by simpa using free))

theorem api_taken {k : Kind} {s t : State} {o : ApiOutcome} (taken : step k s (.api o) = some t) :
    ApiTaken k s t := by
  cases o with
  | proceed => exact api_proceed_taken (step_api taken)
  | throwing => exact api_throw_taken (step_api taken)

end AsDt1.Source
