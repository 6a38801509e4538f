import AsDt1.Guarantees.ParameterRestart

/-!
# A reboot that fails

`reboot()` stops the device, makes four port operations that may throw and starts
it again. Nothing catches in between, so whichever operation throws, and whether
`on_reboot` catches the exception or `on_parameters_set` lets it through, the
workers have been joined and nothing starts them again.
-/
namespace AsDt1.Guarantees
open AsDt1.Lib AsDt1.Source

/-- Behind the write of `stop()` and between the two halves of `reboot()` the flag
is down. -/
structure FlagLowered (s : State) : Prop where
  stopping : s.api.stopping = true → s.running = false
  port : s.api.usesPort = true → s.running = false

theorem FlagLowered.aside {s : State} (outside : s.api.stopping = false) (off : s.api.usesPort = false) :
    FlagLowered s where
  stopping within := absurd within (by rw [outside]; decide)
  port uses := absurd uses (by rw [off]; decide)

theorem FlagLowered.down {s : State} (down : s.running = false) : FlagLowered s := ⟨fun _ => down, fun _ => down⟩

theorem flag_lowered_call (s : State) (c : Call) : FlagLowered (begin s c) := by
  cases c with
  | start | stop | reboot | setParameters | destroy => exact .aside rfl rfl

/-- A worker's step leaves control alone and raises no flag. -/
theorem FlagLowered.worker {s t : State} (h : FlagLowered s) (api : t.api = s.api)
    (staysDown : s.running = false → t.running = false) : FlagLowered t where
  stopping within := staysDown (h.stopping (by rwa [api] at within))
  port uses := staysDown (h.port (by rwa [api] at uses))

theorem returnStop_running (k : Kind) (s : State) (r : StopReturn) : (returnStop k s r).running = s.running := by
  obtain ⟨settings, pc, same⟩ := returnStop_eq k s r
  rw [same]

theorem plain_not_stopping {pc : ApiPc} (plain : pc.plain = true) : pc.stopping = false := by
  cases pc with
  | stopJoinV4l2 | stopRelease | stopJoinSerial => cases plain
  | _ => rfl

/-- Only the port operations of `reboot()` throw, and they throw out of the call. -/
theorem api_throws {s t : State} (thrown : apiThrow s = some t) :
    s.api.usesPort = true ∧ t = { s with api := .idle } := by
  unfold apiThrow at thrown
  split at thrown
  · next uses => exact ⟨uses, (Option.some.inj thrown).symm⟩
  · cases thrown

/-- Outside `stop()` a port operation is reached from another one, or from the test
that finds the flag down. -/
theorem usesPort_after {k : Kind} {s t : State} (taken : apiProceed k s = some t) (free : s.api.stopping = false)
    (uses : t.api.usesPort = true) : s.api.usesPort = true ∨ s.running = false := by
  unfold apiProceed at taken
  split at taken
  all_goals first
    | obtain ⟨rfl, -⟩ := Worker.join_map_eq_some taken
      cases uses
    | grind [ApiPc.usesPort, ApiPc.stopping, State.abort, beginStart]

theorem flag_lowered_proceed {k : Kind} {s t : State} (h : FlagLowered s) (taken : apiProceed k s = some t) :
    FlagLowered t := by
  have entered := usesPort_after taken
  cases api_proceed_taken taken with
  | control pc settings port plain free =>
    refine ⟨fun within => ?_, fun uses => ?_⟩
    · rw [plain_not_stopping plain] at within
      cases within
    · rcases entered free uses with before | down
      · exact h.port before
      · exact down
  | returned r at_ down =>
    apply FlagLowered.down
    rw [returnStop_running]
    exact down
  | stopped r at_ =>
    apply FlagLowered.down
    rw [returnStop_running]
    exact h.stopping (by rw [at_]; rfl)
  | lowered => exact .down rfl
  | joinedInStop r at_ => exact .down (h.stopping (by rw [at_]; rfl))
  | released r at_ =>
    obtain ⟨fd, buffers, ledger, same⟩ := releaseVideo_eq s
    rw [same]
    exact .down (h.stopping (by rw [at_]; rfl))
  | joinedSerial pc gone at_ =>
    rcases at_ with ⟨-, rfl⟩ | ⟨-, rfl⟩
    all_goals exact .aside rfl rfl
  | spawnedSerial =>
    cases k with
    | cdc | hist => exact .aside rfl rfl
  | begun | joinedInStart | raised | spawnedV4l2 | droppedV4l2 | droppedSerial => exact .aside rfl rfl
  | aborted => exact ⟨h.stopping, h.port⟩

theorem flag_lowered_kept {k : Kind} {s t : State} {a : Action} (h : FlagLowered s) (taken : step k s a = some t) :
    FlagLowered t := by
  cases a with
  | call c =>
    obtain ⟨-, rfl⟩ := step_call taken
    exact flag_lowered_call s c
  | serial o =>
    obtain ⟨n, pc, move, -, -, rfl⟩ := step_serial taken
    exact h.worker (by simp) applySerial_stays_down
  | v4l2 o =>
    obtain ⟨n, pc, move, -, -, rfl⟩ := step_v4l2 taken
    exact h.worker (by simp) applyV4l2_stays_down
  | api o =>
    have moved := step_api taken
    cases o with
    | proceed => exact flag_lowered_proceed h moved
    | throwing =>
      obtain ⟨-, rfl⟩ := api_throws moved
      exact .aside rfl rfl

theorem flag_lowered_of_reached {k : Kind} {s : State}
    (reached : (deviceMachine k).Reached Machine.Unrestricted s) : FlagLowered s := by
  refine reached.invariant (show FlagLowered {} from .aside rfl rfl) ?_
  intro s a t h _ taken
  exact flag_lowered_kept h (show step k s a = some t from taken)

/-! ## The rest of the call -/

def isCall : Action → Bool
  | .call _ => true
  | _ => false

/-- The call is over and the device is stopped. -/
def LeftStopped (s : State) : Prop := s.api = .idle ∧ s.running = false

theorem left_stopped_kept {k : Kind} {s t : State} {a : Action} (h : LeftStopped s) (within : isCall a = false)
    (taken : step k s a = some t) : LeftStopped t := by
  obtain ⟨idle, down⟩ := h
  cases a with
  | call c => cases within
  | serial o =>
    obtain ⟨n, pc, move, -, -, rfl⟩ := step_serial taken
    exact ⟨by simpa using idle, applySerial_stays_down down⟩
  | v4l2 o =>
    obtain ⟨n, pc, move, -, -, rfl⟩ := step_v4l2 taken
    exact ⟨by simpa using idle, applyV4l2_stays_down down⟩
  | api o =>
    have moved := step_api taken
    cases o with
    | proceed => simp [apiStep, apiProceed, idle] at moved
    | throwing => simp [apiStep, apiThrow, ApiPc.usesPort, idle] at moved

/-- Whichever operation throws, the device is stopped from then on. -/
theorem throwing_leaves_stopped {k : Kind} {s t : State} {as : List Action}
    (reached : (deviceMachine k).Reached Machine.Unrestricted s)
    (one : ∀ a ∈ as, isCall a = false) (ran : (deviceMachine k).run s as = some t)
    (throws : Action.api .throwing ∈ as) : LeftStopped t := by
  obtain ⟨front, back, rfl⟩ := List.append_of_mem throws
  obtain ⟨u, ran_front, rest⟩ := (deviceMachine k).run_append.mp ran
  obtain ⟨v, thrown, ran_back⟩ := (deviceMachine k).run_cons.mp rest
  have reached_u := (deviceMachine k).reached_of_run reached
    ((deviceMachine k).meets_of_forall (fun _ _ _ => trivial) s) ran_front
  obtain ⟨uses, rfl⟩ := api_throws (step_api thrown)
  have stopped : LeftStopped { u with api := .idle } := ⟨rfl, (flag_lowered_of_reached reached_u).port uses⟩
  have within : (deviceMachine k).Meets (fun _ a => isCall a = false) { u with api := .idle } back :=
    (deviceMachine k).meets_of_forall
      (fun a listed _ => one a (List.mem_append_right _ (List.mem_cons_of_mem _ listed))) _
  exact (deviceMachine k).run_invariant (fun _ _ _ h met taken => left_stopped_kept (k := k) h met taken)
    stopped within ran_back

/-- One call on a running device in any reachable state, through any interleaving
with the workers and with any outcome of the port operations. That a call which an
exception leaves has left the device running holds if and only if there is no such
exception: where one of the operations throws, it never holds. -/
theorem reboot_failure_iff {k : Kind} {s s' t : State} {c : Call} {as : List Action}
    (reached : (deviceMachine k).Reached Machine.Unrestricted s) (up : s.running = true)
    (called : step k s (.call c) = some s') (one : ∀ a ∈ as, isCall a = false)
    (ran : (deviceMachine k).run s' as = some t) :
    (Action.api .throwing ∈ as → t.running = s.running) ↔ Action.api .throwing ∉ as := by
  constructor
  · intro kept throws
    have begun : (deviceMachine k).Reached Machine.Unrestricted s' := reached.step (a := .call c) trivial called
    have stopped := throwing_leaves_stopped begun one ran throws
    have running := kept throws
    rw [stopped.2, up] at running
    cases running
  · exact fun none throws => absurd throws none

/-- A reboot up to the join of the serial worker and the calling thread's `rest`. -/
def rebootCall (rest : List Action) : List Action :=
  List.replicate 3 (.api .proceed) ++ List.replicate 7 (.serial .proceed) ++ .api .proceed :: rest

/-- Whether a reboot of a running, connected device with these actions ends with the flag as given. -/
def rebootsTo (flag : Bool) (as : List Action) (s : State) : Bool :=
  s.running && s.serialPort != .null && (step .cdc s (.call .reboot)).any fun s' =>
    ((deviceMachine .cdc).run s' as).any fun t => t.api == .idle && t.running == flag

/-- What `rebootsTo` has checked. -/
theorem rebootsTo_spec {flag : Bool} {as : List Action} {s : State} (checked : rebootsTo flag as s = true) :
    s.running = true ∧ s.serialPort ≠ .null ∧ ∃ s' t, step .cdc s (.call .reboot) = some s' ∧
      (deviceMachine .cdc).run s' as = some t ∧ t.api = .idle ∧ t.running = flag := by
  simp only [rebootsTo, Bool.and_eq_true, Option.any_eq_true, beq_iff_eq, bne_iff_ne] at checked
  obtain ⟨⟨up, connected⟩, s', called, t, ran, finished, same⟩ := checked
  exact ⟨up, connected, s', t, called, ran, finished, same⟩

/-- A reboot in which nothing throws. -/
theorem reboot_completes :
    ∃ s s' t, (deviceMachine .cdc).Reached Machine.Unrestricted s ∧ step .cdc s (.call .reboot) = some s' ∧
      (deviceMachine .cdc).run s' (rebootCall (List.replicate 8 (.api .proceed))) = some t ∧ t.running = true ∧
      ((Action.api .throwing ∈ rebootCall (List.replicate 8 (.api .proceed)) → t.running = s.running) ↔
        Action.api .throwing ∉ rebootCall (List.replicate 8 (.api .proceed))) := by
  obtain ⟨s, reached, checked⟩ := (deviceMachine .cdc).exists_of_guardedRun Machine.Unrestricted
    (startedCdc 4) (rebootsTo true (rebootCall (List.replicate 8 (.api .proceed)))) (by decide)
  obtain ⟨up, -, s', t, called, ran, -, running⟩ := rebootsTo_spec checked
  exact ⟨s, s', t, reached, called, ran, running, reboot_failure_iff reached up called (by decide) ran⟩

/-- `open()` throws in a reboot of a connected and running device. -/
theorem failed_open_leaves_stopped :
    ¬ ∀ (k : Kind) (s s' t : State) (as : List Action), (deviceMachine k).Reached Machine.Unrestricted s →
      s.running = true → s.serialPort ≠ .null → step k s (.call .reboot) = some s' →
      (∀ a ∈ as, isCall a = false) → (deviceMachine k).run s' as = some t → t.api = .idle →
      Action.api .throwing ∈ as → t.running = s.running := by
  intro always
  obtain ⟨s, reached, checked⟩ := (deviceMachine .cdc).exists_of_guardedRun Machine.Unrestricted
    (startedCdc 4) (rebootsTo false (rebootCall [.api .throwing])) (by decide)
  obtain ⟨up, connected, s', t, called, ran, finished, stopped⟩ := rebootsTo_spec checked
  have running := always .cdc s s' t _ reached up connected called (by decide) ran finished (by decide)
  rw [stopped, up] at running
  cases running

end AsDt1.Guarantees
