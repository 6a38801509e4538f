import AsDt1.Source.Lifecycle

/-!
Which members a worker's step can touch, and what the calling thread knows about
the two thread objects at each point of a call. Both hold in every run of the
device, so every later invariant starts from them.
-/
namespace AsDt1.Source
open AsDt1.Lib

section Frames

variable (s : State) (n : Nat) (m : SerialMove) (v : V4l2Move)

@[simp] theorem applySerial_api : (applySerial s n m).api = s.api := by cases m <;> rfl
@[simp] theorem applySerial_v4l2 : (applySerial s n m).v4l2 = s.v4l2 := by cases m <;> rfl
@[simp] theorem applySerial_session : (applySerial s n m).session = s.session := by cases m <;> rfl
@[simp] theorem applySerial_quiet : (applySerial s n m).quiet = s.quiet := by cases m <;> rfl
@[simp] theorem applySerial_fd : (applySerial s n m).fd = s.fd := by cases m <;> rfl
@[simp] theorem applySerial_buffers : (applySerial s n m).buffers = s.buffers := by cases m <;> rfl
@[simp] theorem applySerial_ledger : (applySerial s n m).ledger = s.ledger := by cases m <;> rfl
@[simp] theorem applySerial_settings : (applySerial s n m).settings = s.settings := by
  cases m <;> rfl

@[simp] theorem applyV4l2_api : (applyV4l2 s n v).api = s.api := by cases v <;> rfl
@[simp] theorem applyV4l2_serial : (applyV4l2 s n v).serial = s.serial := by cases v <;> rfl
@[simp] theorem applyV4l2_session : (applyV4l2 s n v).session = s.session := by cases v <;> rfl
@[simp] theorem applyV4l2_quiet : (applyV4l2 s n v).quiet = s.quiet := by cases v <;> rfl
@[simp] theorem applyV4l2_serialPort : (applyV4l2 s n v).serialPort = s.serialPort := by
  cases v <;> rfl
@[simp] theorem applyV4l2_clockOffset : (applyV4l2 s n v).clockOffset = s.clockOffset := by
  cases v <;> rfl
@[simp] theorem applyV4l2_offsetFrom : (applyV4l2 s n v).offsetFrom = s.offsetFrom := by
  cases v <;> rfl
@[simp] theorem applyV4l2_settings : (applyV4l2 s n v).settings = s.settings := by cases v <;> rfl

end Frames

/-- A worker's step never changes the session it was created for. -/
theorem applySerial_live {s : State} {n n' : Nat} {pc pc' : SerialPc} {m : SerialMove}
    (before : s.serial = .live n pc) (after : (applySerial s n m).serial = .live n' pc') :
    n' = n := by
  cases m with
  | terminate =>
    have same : s.serial = .live n' pc' := after
    rw [before] at same
    cases same
    rfl
  | lowerAndReturn => cases after
  | _ =>
    cases after
    rfl

theorem applyV4l2_live {s : State} {n n' : Nat} {pc pc' : V4l2Pc} {m : V4l2Move}
    (before : s.v4l2 = .live n pc) (after : (applyV4l2 s n m).v4l2 = .live n' pc') :
    n' = n := by
  cases m with
  | terminate =>
    have same : s.v4l2 = .live n' pc' := after
    rw [before] at same
    cases same
    rfl
  | leave | lowerAndReturn => cases after
  | _ =>
    cases after
    rfl

/-- The only write of a worker to the flag lowers it; the serial worker's is its
last step. -/
theorem applySerial_running {s : State} {n : Nat} {m : SerialMove} :
    (applySerial s n m).running = s.running ∨
      (applySerial s n m).running = false ∧ (applySerial s n m).serial.isLive = false := by
  cases m with
  | lowerAndReturn => exact Or.inr ⟨rfl, rfl⟩
  | _ => exact Or.inl rfl

theorem applySerial_stays_down {s : State} {n : Nat} {m : SerialMove} (down : s.running = false) :
    (applySerial s n m).running = false := by
  rcases @applySerial_running s n m with same | ⟨lowered, -⟩
  · rw [same, down]
  · exact lowered

theorem applyV4l2_stays_down {s : State} {n : Nat} {m : V4l2Move} (down : s.running = false) :
    (applyV4l2 s n m).running = false := by
  cases m with
  | lower | lowerAndReturn => rfl
  | _ => exact down

/-- `stop()` changes nothing but control, the history flag and, in the parameter
callback, the mode it was called for. -/
theorem returnStop_eq (k : Kind) (s : State) (r : StopReturn) :
    ∃ settings pc, returnStop k s r = { s with quiet := true, settings := settings, api := pc } := by
  cases r <;> exact ⟨_, _, rfl⟩

theorem releaseVideo_eq (s : State) :
    ∃ fd buffers ledger,
      releaseVideo s = { s with fd := fd, buffers := buffers, ledger := ledger } := by
  unfold releaseVideo
  split
  · exact ⟨none, [], _, rfl⟩
  · exact ⟨s.fd, s.buffers, s.ledger, rfl⟩

/-- The call has joined the serial worker and not yet started another. -/
def ApiPc.serialJoined : ApiPc → Bool
  | .startRaise | .startSpawnSerial | .dropSerial | .destroyed => true
  | _ => false

/-- The call has joined the video worker and not yet started another, or the
object that held it is gone. -/
def ApiPc.v4l2Joined (pc : ApiPc) : Bool :=
  pc.inBase || match pc with
    | .implSpawn | .stopRelease _ | .stopJoinSerial _ => true
    | _ => false

/-- What the calling thread knows about the two thread objects, and the serial
worker's session: `start()` joins the old one before it raises the flag. -/
structure JoinedHandles (k : Kind) (s : State) : Prop where
  serial_session : ∀ n pc, s.serial = .live n pc → n = s.session
  serial_absent : s.api.serialJoined = true → s.serial = .absent
  v4l2_absent : s.api.v4l2Joined = true → s.v4l2 = .absent
  cdc_absent : k = .cdc → s.v4l2 = .absent
  cdc_calls : k = .cdc → s.api ≠ .implJoin ∧ s.api ≠ .implSpawn

theorem returnStop_pc (k : Kind) (s : State) (r : StopReturn) :
    (returnStop k s r).api.serialJoined = false ∧
      (returnStop k s r).api ≠ .implJoin ∧ (returnStop k s r).api ≠ .implSpawn := by
  cases r with
  | derived => cases k <;> exact ⟨rfl, by simp [returnStop], by simp [returnStop]⟩
  | caller | reboot | parameters | base => exact ⟨rfl, by simp [returnStop], by simp [returnStop]⟩

/-- Only the destructors go on without a video worker after `stop()`. -/
theorem returnStop_v4l2Joined {k : Kind} {s : State} {r : StopReturn}
    (joined : (returnStop k s r).api.v4l2Joined = true) : k = .cdc ∨ r = .base := by
  cases r with
  | derived =>
    cases k with
    | cdc => exact Or.inl rfl
    | hist => cases joined
  | base => exact Or.inr rfl
  | caller | reboot | parameters => cases joined

theorem plain_pc {pc : ApiPc} (plain : pc.plain = true) :
    pc.serialJoined = false ∧ pc.v4l2Joined = pc.inBase ∧ pc ≠ .implJoin ∧ pc ≠ .implSpawn := by
  cases pc <;> simp_all [ApiPc.plain, ApiPc.serialJoined, ApiPc.v4l2Joined]

theorem inBase_v4l2Joined {pc : ApiPc} (based : pc.inBase = true) : pc.v4l2Joined = true := by
  simp [ApiPc.v4l2Joined, based]

theorem handles_serial {k : Kind} {s t : State} {o : SerialOutcome} (h : JoinedHandles k s)
    (taken : step k s (.serial o) = some t) : JoinedHandles k t := by
  obtain ⟨n, pc, move, live, -, rfl⟩ := step_serial taken
  constructor
  · intro n' pc' after
    rw [applySerial_live live after, applySerial_session]
    exact h.serial_session n pc live
  · intro joined
    rw [h.serial_absent (by simpa using joined)] at live
    cases live
  · simpa using h.v4l2_absent
  · simpa using h.cdc_absent
  · simpa using h.cdc_calls

theorem handles_v4l2 {k : Kind} {s t : State} {o : V4l2Outcome} (h : JoinedHandles k s)
    (taken : step k s (.v4l2 o) = some t) : JoinedHandles k t := by
  obtain ⟨n, pc, move, live, -, rfl⟩ := step_v4l2 taken
  constructor
  · simpa using h.serial_session
  · simpa using h.serial_absent
  · intro joined
    rw [h.v4l2_absent (by simpa using joined)] at live
    cases live
  · intro cdc
    rw [h.cdc_absent cdc] at live
    cases live
  · simpa using h.cdc_calls

theorem handles_api {k : Kind} {s t : State} {o : ApiOutcome} (h : JoinedHandles k s)
    (taken : step k s (.api o) = some t) : JoinedHandles k t := by
  cases api_taken taken with
  | control pc settings port plain free set within based =>
    obtain ⟨noSerial, sameV4l2, noJoin, noSpawn⟩ := plain_pc plain
    refine ⟨h.serial_session, fun j => ?_, fun j => ?_, h.cdc_absent,
      fun _ => ⟨noJoin, noSpawn⟩⟩
    · simp [noSerial] at j
    · exact h.v4l2_absent (inBase_v4l2Joined (based (sameV4l2.symm.trans j)))
  | begun at_ =>
    exact ⟨h.serial_session, fun j => (by cases j), fun j => (by cases j), h.cdc_absent,
      fun _ => ⟨by simp [beginStart], by simp [beginStart]⟩⟩
  | returned r at_ down =>
    obtain ⟨noSerial, noJoin, noSpawn⟩ := returnStop_pc k s r
    obtain ⟨settings, pc, same⟩ := returnStop_eq k s r
    refine ⟨?_, fun j => ?_, fun j => ?_, ?_, fun _ => ⟨noJoin, noSpawn⟩⟩
    · rw [same]
      exact h.serial_session
    · simp [noSerial] at j
    · have absent : s.v4l2 = .absent := by
        rcases returnStop_v4l2Joined j with cdc | rfl
        · exact h.cdc_absent cdc
        · exact h.v4l2_absent (by rw [at_]; rfl)
      rw [same]
      exact absent
    · rw [same]
      exact h.cdc_absent
  | lowered r at_ =>
    refine ⟨h.serial_session, fun j => ?_, fun j => ?_, h.cdc_absent, fun _ => ?_⟩
    · dsimp only at j
      split at j <;> cases j
    · dsimp only at j
      split at j
      · cases r <;> cases j
      · next skips =>
        by_cases base : r = .base
        · exact h.v4l2_absent (by rw [at_, base]; rfl)
        · refine h.cdc_absent ?_
          cases k with
          | cdc => rfl
          | hist => simp [stopsVideo, base] at skips
    · dsimp only
      split <;> simp
  | joinedInStop r at_ gone =>
    exact ⟨h.serial_session, fun j => (by cases j), fun _ => rfl, fun _ => rfl, by simp⟩
  | joinedInStart at_ gone =>
    exact ⟨h.serial_session, fun j => (by cases j), fun _ => rfl, fun _ => rfl,
      fun cdc => absurd at_ (h.cdc_calls cdc).1⟩
  | released r at_ =>
    have absent : s.v4l2 = .absent := h.v4l2_absent (by rw [at_]; cases r <;> rfl)
    obtain ⟨fd, buffers, ledger, same⟩ := releaseVideo_eq s
    rw [same]
    exact ⟨h.serial_session, fun j => (by cases j), fun _ => absent, fun _ => absent, by simp⟩
  | stopped r at_ gone =>
    have absent : s.v4l2 = .absent := h.v4l2_absent (by rw [at_]; cases r <;> rfl)
    obtain ⟨noSerial, noJoin, noSpawn⟩ := returnStop_pc k { s with serial := .absent } r
    obtain ⟨settings, pc, same⟩ := returnStop_eq k { s with serial := .absent } r
    refine ⟨?_, fun j => ?_, fun _ => ?_, fun _ => ?_, fun _ => ⟨noJoin, noSpawn⟩⟩
    · rw [same]
      exact fun n pc live => (by cases live)
    · simp [noSerial] at j
    all_goals
      rw [same]
      exact absent
  | joinedSerial pc gone at_ =>
    rcases at_ with ⟨-, rfl⟩ | ⟨base, rfl⟩
    · exact ⟨fun n pc live => (by cases live), fun _ => rfl, fun j => (by cases j), h.cdc_absent,
        by simp⟩
    · exact ⟨fun n pc live => (by cases live), fun _ => rfl,
        fun _ => h.v4l2_absent (by rw [base]; rfl), h.cdc_absent, by simp⟩
  | raised at_ =>
    have absent : s.serial = .absent := h.serial_absent (by rw [at_]; rfl)
    refine ⟨fun n pc live => ?_, fun _ => absent, fun j => (by cases j), h.cdc_absent, by simp⟩
    simp [absent] at live
  | spawnedSerial at_ =>
    refine ⟨fun n pc live => ?_, fun j => ?_, fun j => ?_, h.cdc_absent, fun cdc => ?_⟩
    · cases live
      rfl
    · dsimp only at j
      split at j <;> cases j
    · dsimp only at j
      split at j <;> cases j
    · simp [cdc]
  | spawnedV4l2 at_ =>
    exact ⟨h.serial_session, fun j => (by cases j), fun j => (by cases j),
      fun cdc => absurd at_ (h.cdc_calls cdc).2, by simp⟩
  | droppedV4l2 at_ free =>
    exact ⟨h.serial_session, fun j => (by cases j), fun _ => free, fun _ => free, by simp⟩
  | droppedSerial at_ free =>
    exact ⟨h.serial_session, fun _ => free, fun _ => h.v4l2_absent (by rw [at_]; rfl), h.cdc_absent, by simp⟩
  | aborted at_ =>
    exact ⟨h.serial_session, h.serial_absent, h.v4l2_absent, h.cdc_absent, h.cdc_calls⟩

theorem handles_kept {k : Kind} {s t : State} {a : Action} (h : JoinedHandles k s)
    (taken : step k s a = some t) : JoinedHandles k t := by
  cases a with
  | call c =>
    obtain ⟨idle, rfl⟩ := step_call taken
    have absent := h.cdc_absent
    cases c <;>
      exact ⟨h.serial_session, fun j => (by cases j), fun j => (by cases j), absent,
        fun _ => ⟨by simp [begin, beginStart], by simp [begin, beginStart]⟩⟩
  | serial o => exact handles_serial h taken
  | v4l2 o => exact handles_v4l2 h taken
  | api o => exact handles_api h taken

theorem handles_start (k : Kind) : JoinedHandles k (deviceMachine k).start :=
  ⟨fun n pc live => (by cases live), fun j => (by cases j), fun j => (by cases j), fun _ => rfl,
    fun _ => ⟨by simp [deviceMachine], by simp [deviceMachine]⟩⟩

/-- In every run of the device, with no condition on its steps. -/
theorem handles_of_reached {k : Kind} {ok : State → Action → Prop} {s : State}
    (reached : (deviceMachine k).Reached ok s) : JoinedHandles k s :=
  reached.invariant (handles_start k) fun _ _ _ h _ taken => handles_kept h taken

/-! ## Pieces of runs of a hist device -/

/-- The calling thread of a `start()` that begins a session of a hist device. -/
def startSession : List Action :=
  .call .start :: List.replicate 6 (.api .proceed)

/-- A `stop()` of a hist device: the video worker ends after `v4l2Steps` steps,
the serial worker after `serialSteps`. -/
def stopSession (v4l2Steps serialSteps : Nat) : List Action :=
  [.call .stop, .api .proceed, .api .proceed] ++ List.replicate v4l2Steps (.v4l2 .proceed) ++
    [.api .proceed, .api .proceed] ++ List.replicate serialSteps (.serial .proceed) ++
    [.api .proceed]

/-- `find_port` throws in the serial worker, which ends and lowers the flag. -/
def serialWorkerFails : List Action :=
  [.serial .proceed, .serial .throwing, .serial .proceed, .serial .proceed, .serial .proceed]

/-- The serial worker connects, sets the camera up, reads one frame and stores
the clock offset 1 measured from it. -/
def firstFrame : List Action :=
  List.replicate 11 (.serial .proceed) ++ [.serial (.offset 1)]

/-- The video worker opens the device, fails to start streaming and lowers the flag. -/
def streamOnFails : List Action :=
  List.replicate 3 (.v4l2 .proceed) ++ [.v4l2 .refuse, .v4l2 .proceed]

/-- The video worker opens the device, maps one buffer and unpacks one frame, up
to the invocation of the callback. -/
def videoFrame : List Action :=
  List.replicate 3 (.v4l2 .proceed) ++ [.v4l2 (.buffers 1)] ++ List.replicate 8 (.v4l2 .proceed)

end AsDt1.Source
