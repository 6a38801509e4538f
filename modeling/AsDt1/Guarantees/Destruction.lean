import AsDt1.Source.WorkerHandles

/-!
# Thread objects at destruction

A thread object that still holds a thread terminates the process when it is
destroyed. `~dt1_device` joins the serial worker whatever `stop()` did, but
`~dt1_device_hist` relies on `stop()` alone for the video worker, and `stop()`
returns at once where a worker has already lowered the flag.
-/
namespace AsDt1.Guarantees
open AsDt1.Lib AsDt1.Source

/-- No thread object was destroyed or overwritten with its thread unjoined, and
a destroyed device has joined both. -/
structure ThreadsJoined (s : State) : Prop where
  not_terminated : s.halted ≠ some .joinableDestroyed
  serial_joined : s.api = .destroyed → s.serial = .absent
  v4l2_joined : s.api = .destroyed → s.v4l2 = .absent

/-- When `~dt1_device_hist` tests the flag, it is still up or `_v4l2_thread`
holds no thread. -/
def DestructorStops (k : Kind) (s : State) (a : Action) : Prop :=
  k = .hist → a = .api .proceed → s.api = .stopTest .derived →
    s.running = true ∨ s.v4l2.joinable = false

instance (k : Kind) (s : State) (a : Action) : Decidable (DestructorStops k s a) :=
  inferInstanceAs (Decidable (_ → _ → _ → _))

/-- The invariant behind `ThreadsJoined`: the destructor that drops the video
thread object has joined it. -/
structure DropsJoined (s : State) : Prop where
  not_terminated : s.halted ≠ some .joinableDestroyed
  v4l2_absent : s.api = .dropV4l2 → s.v4l2 = .absent

/-- A worker leaves `DropsJoined` alone: only the calling thread destroys. -/
theorem applySerial_halted {s : State} (n : Nat) (m : SerialMove)
    (alive : s.halted ≠ some .joinableDestroyed) :
    (applySerial s n m).halted ≠ some .joinableDestroyed := by
  cases m <;> simp_all [applySerial, State.abort]

theorem applyV4l2_halted {s : State} (n : Nat) (m : V4l2Move)
    (alive : s.halted ≠ some .joinableDestroyed) :
    (applyV4l2 s n m).halted ≠ some .joinableDestroyed := by
  cases m <;> simp_all [applyV4l2, State.abort]

/-- Which calls of `stop()` lead to the destruction of `_v4l2_thread`. -/
theorem returnStop_dropV4l2 {k : Kind} {s : State} {r : StopReturn}
    (drops : (returnStop k s r).api = .dropV4l2) : k = .hist ∧ r = .derived := by
  cases r with
  | derived =>
    cases k with
    | hist => exact ⟨rfl, rfl⟩
    | cdc => cases drops
  | caller | reboot | parameters | base => cases drops

theorem drops_joined_kept {k : Kind} {s t : State} {a : Action} (handles : JoinedHandles k s)
    (h : DropsJoined s) (met : DestructorStops k s a) (taken : step k s a = some t) :
    DropsJoined t := by
  cases a with
  | call c =>
    obtain ⟨-, rfl⟩ := step_call taken
    cases c <;> exact ⟨h.not_terminated, fun drops => (by cases drops)⟩
  | serial o =>
    obtain ⟨n, pc, move, -, -, rfl⟩ := step_serial taken
    exact ⟨applySerial_halted n move h.not_terminated, by simpa using h.v4l2_absent⟩
  | v4l2 o =>
    obtain ⟨n, pc, move, live, -, rfl⟩ := step_v4l2 taken
    refine ⟨applyV4l2_halted n move h.not_terminated, fun drops => ?_⟩
    rw [h.v4l2_absent (by simpa using drops)] at live
    cases live
  | api o =>
    cases api_taken taken with
    | control pc settings port plain =>
      refine ⟨h.not_terminated, fun drops => ?_⟩
      rw [show pc = .dropV4l2 from drops] at plain
      cases plain
    | returned r at_ down =>
      obtain ⟨settings, pc, same⟩ := returnStop_eq k s r
      refine ⟨by rw [same]; exact h.not_terminated, fun drops => ?_⟩
      obtain ⟨rfl, rfl⟩ := returnStop_dropV4l2 drops
      have proceeds : o = .proceed := api_proceeds taken (by rw [at_]; rfl)
      rcases met rfl (by rw [proceeds]) at_ with up | free
      · rw [down] at up
        cases up
      · rw [same]
        exact Worker.absent_of_not_joinable free
    | stopped r at_ gone =>
      have absent : s.v4l2 = .absent := handles.v4l2_absent (by rw [at_]; cases r <;> rfl)
      obtain ⟨settings, pc, same⟩ := returnStop_eq k { s with serial := .absent } r
      rw [same]
      exact ⟨h.not_terminated, fun _ => absent⟩
    | released r at_ =>
      obtain ⟨fd, buffers, ledger, same⟩ := releaseVideo_eq s
      rw [same]
      exact ⟨h.not_terminated, fun drops => (by cases drops)⟩
    | lowered r at_ =>
      refine ⟨h.not_terminated, fun drops => ?_⟩
      dsimp only at drops
      split at drops <;> cases drops
    | spawnedSerial at_ =>
      refine ⟨h.not_terminated, fun drops => ?_⟩
      dsimp only at drops
      split at drops <;> cases drops
    | joinedSerial pc gone at_ =>
      refine ⟨h.not_terminated, fun drops => ?_⟩
      rcases at_ with ⟨-, rfl⟩ | ⟨-, rfl⟩ <;> cases drops
    | begun | joinedInStop | joinedInStart | raised | spawnedV4l2 | droppedV4l2 | droppedSerial =>
      exact ⟨h.not_terminated, fun drops => (by cases drops)⟩
    | aborted at_ =>
      rcases at_ with ⟨held, at_ | at_⟩ | ⟨held, at_ | at_⟩
      · simp [handles.serial_absent (by rw [at_]; rfl)] at held
      · simp [handles.serial_absent (by rw [at_]; rfl)] at held
      · simp [handles.v4l2_absent (by rw [at_]; rfl)] at held
      · simp [h.v4l2_absent at_] at held

theorem drops_joined_start (k : Kind) : DropsJoined (deviceMachine k).start :=
  ⟨by simp [deviceMachine], fun drops => (by cases drops)⟩

/-- In every run in which `~dt1_device_hist` never finds the flag down with a
video thread unjoined, destruction joins every thread before its object goes.
For `dt1_device_cdc` the condition is void. -/
theorem destruction_joins_threads {k : Kind} {s : State}
    (reached : (deviceMachine k).Reached (DestructorStops k) s) : ThreadsJoined s := by
  have handles : JoinedHandles k s := handles_of_reached reached
  have drops : DropsJoined s :=
    reached.invariant_with (fun _ r => handles_of_reached r) (drops_joined_start k)
      fun _ _ _ handles h met taken => drops_joined_kept handles h met taken
  refine ⟨drops.not_terminated, fun gone => ?_, fun gone => ?_⟩
  · exact handles.serial_absent (by rw [gone]; rfl)
  · exact handles.v4l2_absent (by rw [gone]; rfl)

/-- A hist device destroyed in the middle of a session: the flag is still up. -/
theorem destruction_joins_running_session :
    ∃ s, (deviceMachine .hist).Reached (DestructorStops .hist) s ∧ ThreadsJoined s ∧
      (s.api == .destroyed && s.session == 1) = true := by
  obtain ⟨s, reached, gone⟩ := (deviceMachine .hist).exists_of_guardedRun (DestructorStops .hist)
    (startSession ++ .call .destroy :: (stopSession 2 6).tail ++ List.replicate 4 (.api .proceed))
    (fun s => s.api == .destroyed && s.session == 1) (by decide)
  exact ⟨s, reached, destruction_joins_threads reached, gone⟩

/-- The serial worker fails and lowers the flag; the destructor's `stop()` then
joins nothing and `_v4l2_thread` is destroyed while the video worker runs. -/
theorem destruction_terminates_after_failure :
    ¬ ∀ k s, (deviceMachine k).Reached Machine.Unrestricted s → ThreadsJoined s := by
  intro always
  obtain ⟨s, reached, seen⟩ := (deviceMachine .hist).exists_of_guardedRun Machine.Unrestricted
    (startSession ++ serialWorkerFails ++ [.call .destroy, .api .proceed, .api .proceed])
    (fun s => s.halted == some .joinableDestroyed) (by decide)
  exact (always .hist s reached).not_terminated (by simpa using seen)

end AsDt1.Guarantees
