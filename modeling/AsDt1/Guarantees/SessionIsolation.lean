import AsDt1.Source.WorkerHandles

/-!
# Sessions and the workers of earlier sessions

`start()` joins the old serial worker before it raises `_running`, but the old
video worker only afterwards, in `start_impl`. A video worker that outlived its
session (the serial worker lowered the flag) therefore sees the flag of the next
session. This is the only way for a worker of an earlier session to touch the
flag of a later one.
-/
namespace AsDt1.Guarantees
open AsDt1.Lib AsDt1.Source

/-- No worker created by an earlier `start()` tests `_running` in a loop or
writes false to it. -/
def SessionsIsolated (k : Kind) (s : State) : Prop :=
  ∀ a t n access, step k s a = some t → flagAccess s a = some (n, access) →
    access ≠ .branchTest → n = s.session

/-- When a call of `start()` raises the flag, the video worker of the session
before it has returned. -/
def VideoWorkerOver (s : State) (a : Action) : Prop :=
  a = .api .proceed → s.api = .startRaise → s.v4l2.isLive = false

instance (s : State) (a : Action) : Decidable (VideoWorkerOver s a) :=
  inferInstanceAs (Decidable (_ → _ → _))

/-- A running video worker belongs to the session of the last raised flag. -/
def VideoWorkerCurrent (s : State) : Prop :=
  ∀ n pc, s.v4l2 = .live n pc → n = s.session

theorem video_worker_kept {k : Kind} {s t : State} {a : Action} (h : VideoWorkerCurrent s)
    (met : VideoWorkerOver s a) (taken : step k s a = some t) : VideoWorkerCurrent t := by
  cases a with
  | call c =>
    obtain ⟨-, rfl⟩ := step_call taken
    cases c <;> exact h
  | serial o =>
    obtain ⟨n, pc, move, live, -, rfl⟩ := step_serial taken
    simpa [VideoWorkerCurrent] using h
  | v4l2 o =>
    obtain ⟨n, pc, move, live, -, rfl⟩ := step_v4l2 taken
    intro n' pc' after
    rw [applyV4l2_live live after, applyV4l2_session]
    exact h n pc live
  | api o =>
    cases api_taken taken with
    | raised at_ =>
      -- the only step that begins a session; the condition is about this one
      have proceeds : o = .proceed := api_proceeds taken (by rw [at_]; rfl)
      have gone : s.v4l2.isLive = false := met (by rw [proceeds]) at_
      intro n pc live
      simp [show s.v4l2 = .live n pc from live] at gone
    | spawnedV4l2 at_ =>
      intro n pc live
      cases live
      rfl
    | control | begun | lowered | joinedSerial | spawnedSerial | droppedV4l2 | droppedSerial
    | aborted => exact h
    | joinedInStop | joinedInStart => exact fun n pc live => (by cases live)
    | returned r at_ down =>
      obtain ⟨settings, pc, same⟩ := returnStop_eq k s r
      rw [same]
      exact h
    | released r at_ =>
      obtain ⟨fd, buffers, ledger, same⟩ := releaseVideo_eq s
      rw [same]
      exact h
    | stopped r at_ gone =>
      obtain ⟨settings, pc, same⟩ := returnStop_eq k { s with serial := .absent } r
      rw [same]
      exact h

theorem isolated_of_current {k : Kind} {s : State} (handles : JoinedHandles k s)
    (h : VideoWorkerCurrent s) : SessionsIsolated k s := by
  intro a t n access taken touched _
  cases a with
  | call c => cases touched
  | api o => cases touched
  | serial o =>
    obtain ⟨n', pc, move, live, -, -⟩ := step_serial taken
    simp only [flagAccess, live, Option.map_eq_some_iff, Prod.mk.injEq] at touched
    obtain ⟨_, _, rfl, _⟩ := touched
    exact handles.serial_session n' pc live
  | v4l2 o =>
    obtain ⟨n', pc, move, live, -, -⟩ := step_v4l2 taken
    simp only [flagAccess, live, Option.map_eq_some_iff, Prod.mk.injEq] at touched
    obtain ⟨_, _, rfl, _⟩ := touched
    exact h n' pc live

/-- In every run of a hist device in which each `start()` finds the previous
video worker returned by the time it raises the flag, every state reached is
isolated from the workers of earlier sessions. -/
theorem sessions_isolated {s : State}
    (reached : (deviceMachine .hist).Reached VideoWorkerOver s) : SessionsIsolated .hist s := by
  have current : VideoWorkerCurrent s := by
    refine reached.invariant ?_ fun _ _ _ h met taken => video_worker_kept h met taken
    exact fun n pc live => (by cases live)
  exact isolated_of_current (handles_of_reached reached) current

/-- A second session after an orderly `stop()`: both workers see the flag down,
`stop()` joins them, and the second `start()` meets the condition. -/
theorem sessions_isolated_restart :
    ∃ s, (deviceMachine .hist).Reached VideoWorkerOver s ∧ SessionsIsolated .hist s ∧
      (s.session == 2 && s.v4l2.isLive) = true := by
  obtain ⟨s, reached, second⟩ := (deviceMachine .hist).exists_of_guardedRun VideoWorkerOver
    (startSession ++ stopSession 2 6 ++ startSession) (fun s => s.session == 2 && s.v4l2.isLive)
    (by decide)
  exact ⟨s, reached, sessions_isolated reached, second⟩

/-- The serial worker of session 1 fails before the video worker has tested the
flag once; the next `start()` raises it again and the old video worker's first
loop test belongs to session 2. -/
theorem old_video_worker_tests_new_flag :
    ¬ ∀ s, (deviceMachine .hist).Reached Machine.Unrestricted s → SessionsIsolated .hist s := by
  intro always
  obtain ⟨s, reached, seen⟩ := (deviceMachine .hist).exists_of_guardedRun Machine.Unrestricted
    (startSession ++ serialWorkerFails ++
      [.call .start, .api .proceed, .api .proceed, .api .proceed])
    (fun s => decide ((step .hist s (.v4l2 .proceed)).isSome = true ∧
      flagAccess s (.v4l2 .proceed) = some (1, .loopTest) ∧ s.session = 2))
    (by decide)
  obtain ⟨enabled, touched, session⟩ := of_decide_eq_true seen
  obtain ⟨t, taken⟩ := Option.isSome_iff_exists.mp enabled
  have same : 1 = s.session := always s reached _ t 1 .loopTest taken touched (by decide)
  omega

end AsDt1.Guarantees
