import AsDt1.Source.WorkerHandles

/-!
# Callbacks after `stop()` has returned

A worker tests `_running` and invokes its callback in two separate steps. The
`stop()` that lowers the flag itself joins both workers, so none is left between
the two; a `stop()` that finds the flag already down returns at once. In
`dt1_device_cdc` the only worker lowers the flag as its last step, which makes
the early return harmless there.
-/
namespace AsDt1.Guarantees
open AsDt1.Lib AsDt1.Source

/-- Once a call of `stop()` has returned and until `start()` begins, no step
that can be taken invokes a callback. -/
def QuietAfterStop (k : Kind) (s : State) : Prop :=
  s.quiet = true → ∀ a t, step k s a = some t → invokesCallback s a = false

def serialPending : Worker SerialPc → Bool
  | .live _ pc => pc.callsBack
  | _ => false

def v4l2Pending : Worker V4l2Pc → Bool
  | .live _ pc => pc.pastCheck
  | _ => false

/-- A worker stands between its test of the flag and the callback behind it. -/
def pendingCallback (s : State) : Bool :=
  serialPending s.serial || v4l2Pending s.v4l2

/-- The calling thread is at the test of the flag in `stop()`. -/
def atStopTest : ApiPc → Bool
  | .stopTest _ => true
  | _ => false

/-- Where a `stop()` of a hist device finds the flag already down, no worker is
between its own test and a callback. -/
def NothingPending (k : Kind) (s : State) (a : Action) : Prop :=
  k = .hist → a = .api .proceed → atStopTest s.api = true → s.running = false →
    pendingCallback s = false

instance (k : Kind) (s : State) (a : Action) : Decidable (NothingPending k s a) :=
  inferInstanceAs (Decidable (_ → _ → _ → _ → _))

/-- The invariant: a quiet device has its flag down and no callback pending. The
last two fields say why a cdc device with its flag down has no worker left. -/
structure QuietDown (k : Kind) (s : State) : Prop where
  starting_loud : s.api.starting = true → s.quiet = false
  stopping_down : s.api.stopping = true → s.running = false
  flag_down : s.quiet = true → s.running = false
  none_pending : s.quiet = true → pendingCallback s = false
  cdc_flag : k = .cdc → s.serial.isLive = true → s.running = true ∨ s.api.stopping = true
  cdc_raised : k = .cdc → s.api = .startSpawnSerial → s.running = true

namespace QuietDown

variable {k : Kind} {s : State}

/-- Outside `stop()` a cdc device that still has its worker has the flag up. -/
theorem flag_up (h : QuietDown k s) (outside : s.api.stopping = false) (cdc : k = .cdc)
    (runs : s.serial.isLive = true) : s.running = true := by
  rcases h.cdc_flag cdc runs with up | stopping
  · exact up
  · rw [outside] at stopping
    cases stopping

/-- Since `start()` began nothing is promised about callbacks. -/
theorem of_loud (loud : s.quiet = false) (outside : s.api.stopping = false)
    (flag : k = .cdc → s.serial.isLive = true → s.running = true)
    (raised : k = .cdc → s.api = .startSpawnSerial → s.running = true) : QuietDown k s := by
  constructor
  · exact fun _ => loud
  · intro stopping
    rw [outside] at stopping
    cases stopping
  · intro quiet
    rw [loud] at quiet
    cases quiet
  · intro quiet
    rw [loud] at quiet
    cases quiet
  · exact fun cdc runs => Or.inl (flag cdc runs)
  · exact raised

/-- A place that is neither in `start()` nor in `stop()`. -/
theorem aside (before : s.api.starting = false) (outside : s.api.stopping = false)
    (flag_down : s.quiet = true → s.running = false)
    (none_pending : s.quiet = true → pendingCallback s = false)
    (flag : k = .cdc → s.serial.isLive = true → s.running = true) : QuietDown k s := by
  constructor
  · intro starting
    rw [before] at starting
    cases starting
  · intro stopping
    rw [outside] at stopping
    cases stopping
  · exact flag_down
  · exact none_pending
  · exact fun cdc runs => Or.inl (flag cdc runs)
  · intro _ spawning
    rw [spawning] at before
    cases before

/-- Inside `stop()`, once the flag is lowered. -/
theorem lowered (before : s.api.starting = false) (within : s.api.stopping = true) (down : s.running = false)
    (none_pending : s.quiet = true → pendingCallback s = false) : QuietDown k s := by
  constructor
  · intro starting
    rw [before] at starting
    cases starting
  · exact fun _ => down
  · exact fun _ => down
  · exact none_pending
  · exact fun _ _ => Or.inr within
  · intro _ spawning
    rw [spawning] at before
    cases before

end QuietDown

/-! ## Steps of the workers -/

/-- The serial worker comes to a callback only from a test that saw the flag up. -/
theorem serial_callback_tested {k : Kind} {running : Bool} {port : SerialPort} {pc pc' : SerialPc}
    {o : SerialOutcome} {move : SerialMove} (made : serialMove k running port pc o = some move)
    (goes : move.next = some pc') (calls : pc'.callsBack = true) : running = true := by
  cases pc <;> simp only [serialMove] at made <;> split at made
  all_goals grind [SerialMove.next, SerialPc.callsBack]

theorem v4l2_callback_tested {running opened : Bool} {offset : BitVec 64} {offsetFrom : Option Nat}
    {pc pc' : V4l2Pc} {o : V4l2Outcome}
    (made : v4l2Move running opened offset offsetFrom pc o = some (.goto pc'))
    (past : pc'.pastCheck = true) : pc.pastCheck = true ∨ running = true := by
  cases pc <;> simp only [v4l2Move] at made <;> split at made
  all_goals grind [V4l2Pc.pastCheck]

theorem serial_none_pending {k : Kind} {s : State} {n : Nat} {pc : SerialPc} {o : SerialOutcome}
    {move : SerialMove} (made : serialMove k s.running s.serialPort pc o = some move)
    (down : s.running = false) (before : serialPending s.serial = false) :
    serialPending (applySerial s n move).serial = false := by
  have untested : ∀ pc', move.next = some pc' → pc'.callsBack = false := by
    intro pc' goes
    by_contra calls
    have up : s.running = true := serial_callback_tested made goes (by simpa using calls)
    simp [down] at up
  cases move with
  | goto pc' => exact untested pc' rfl
  | setPort port pc' => exact untested pc' rfl
  | storeOffset value measured pc' => exact untested pc' rfl
  | lowerAndReturn => rfl
  | terminate => exact before

theorem v4l2_none_pending {s : State} {n : Nat} {pc : V4l2Pc} {o : V4l2Outcome} {move : V4l2Move}
    (live : s.v4l2 = .live n pc)
    (made : v4l2Move s.running s.fd.isSome s.clockOffset s.offsetFrom pc o = some move)
    (down : s.running = false) (before : v4l2Pending s.v4l2 = false) :
    v4l2Pending (applyV4l2 s n move).v4l2 = false := by
  cases move with
  | goto pc' =>
    show pc'.pastCheck = false
    by_contra past
    rcases v4l2_callback_tested made (by simpa using past) with already | up
    · simp [live, v4l2Pending, already] at before
    · simp [down] at up
  | terminate => exact before
  | _ => rfl

/-! ## Every step keeps the device quiet -/

theorem quiet_down_serial {k : Kind} {s : State} {n : Nat} {pc : SerialPc} {o : SerialOutcome}
    {move : SerialMove} (h : QuietDown k s) (handles : JoinedHandles k s)
    (live : s.serial = .live n pc)
    (made : serialMove k s.running s.serialPort pc o = some move) :
    QuietDown k (applySerial s n move) := by
  constructor
  · simpa using h.starting_loud
  · intro stopping
    have down : s.running = false := h.stopping_down (by simpa using stopping)
    exact applySerial_stays_down down
  · intro quiet
    have down : s.running = false := h.flag_down (by simpa using quiet)
    exact applySerial_stays_down down
  · intro quiet
    have quiet' : s.quiet = true := by simpa using quiet
    have before := h.none_pending quiet'
    simp only [pendingCallback, Bool.or_eq_false_iff] at before
    simp only [pendingCallback, Bool.or_eq_false_iff, applySerial_v4l2]
    exact ⟨serial_none_pending made (h.flag_down quiet') before.1, before.2⟩
  · intro cdc runs
    rcases @applySerial_running s n move with same | ⟨-, gone⟩
    · rw [same, applySerial_api]
      exact h.cdc_flag cdc (by rw [live]; rfl)
    · simp [gone] at runs
  · intro cdc at_
    rw [handles.serial_absent (by rw [← applySerial_api s n move, at_]; rfl)] at live
    cases live

theorem quiet_down_v4l2 {k : Kind} {s : State} {n : Nat} {pc : V4l2Pc} {o : V4l2Outcome}
    {move : V4l2Move} (h : QuietDown k s) (handles : JoinedHandles k s)
    (live : s.v4l2 = .live n pc)
    (made : v4l2Move s.running s.fd.isSome s.clockOffset s.offsetFrom pc o = some move) :
    QuietDown k (applyV4l2 s n move) := by
  have hist : k ≠ .cdc := by
    intro cdc
    rw [handles.cdc_absent cdc] at live
    cases live
  constructor
  · simpa using h.starting_loud
  · intro stopping
    have down : s.running = false := h.stopping_down (by simpa using stopping)
    exact applyV4l2_stays_down down
  · intro quiet
    have down : s.running = false := h.flag_down (by simpa using quiet)
    exact applyV4l2_stays_down down
  · intro quiet
    have quiet' : s.quiet = true := by simpa using quiet
    have before := h.none_pending quiet'
    simp only [pendingCallback, Bool.or_eq_false_iff] at before
    simp only [pendingCallback, Bool.or_eq_false_iff, applyV4l2_serial]
    exact ⟨before.1, v4l2_none_pending live made (h.flag_down quiet') before.2⟩
  · exact fun cdc => absurd cdc hist
  · exact fun cdc => absurd cdc hist

/-- Neither worker holds a pending callback where `stop()` finds the flag down. -/
theorem none_pending_at_return {k : Kind} {s : State} {r : StopReturn} (h : QuietDown k s)
    (handles : JoinedHandles k s) (met : NothingPending k s (.api .proceed))
    (at_ : s.api = .stopTest r) (down : s.running = false) : pendingCallback s = false := by
  cases k with
  | hist => exact met rfl rfl (by rw [at_]; rfl) down
  | cdc =>
    have serialOver : s.serial.isLive = false := by
      by_contra runs
      rcases h.cdc_flag rfl (by simpa using runs) with up | stopping
      · simp [down] at up
      · rw [at_] at stopping
        cases stopping
    have video : s.v4l2 = .absent := handles.cdc_absent rfl
    unfold pendingCallback
    rw [video]
    cases serial : s.serial with
    | live n pc => simp [serial] at serialOver
    | absent => rfl
    | finished n => rfl

theorem returnStop_starts_nothing (k : Kind) (s : State) (r : StopReturn) :
    (returnStop k s r).api.starting = false ∧ (returnStop k s r).api.stopping = false := by
  cases r with
  | derived => cases k <;> exact ⟨rfl, rfl⟩
  | caller | reboot | parameters | base => exact ⟨rfl, rfl⟩

/-- `stop()` returns with the flag down and nothing pending. -/
theorem quiet_down_returns {k : Kind} {s : State} (r : StopReturn) (down : s.running = false)
    (none : pendingCallback s = false) (gone : k = .cdc → s.serial.isLive = false) :
    QuietDown k (returnStop k s r) := by
  obtain ⟨notStarting, notStopping⟩ := returnStop_starts_nothing k s r
  obtain ⟨settings, pc, same⟩ := returnStop_eq k s r
  rw [same] at notStarting notStopping ⊢
  refine .aside notStarting notStopping (fun _ => down) (fun _ => none) fun cdc runs => ?_
  have ended : s.serial.isLive = false := gone cdc
  exact absurd (ended.symm.trans runs) (by simp)

/-- An emptied thread object has no callback left. -/
theorem none_pending_emptied {s : State} (none : pendingCallback s = false) (pc : ApiPc) :
    pendingCallback { s with serial := .absent, api := pc } = false ∧
      pendingCallback { s with v4l2 := .absent, api := pc } = false := by
  simp only [pendingCallback, Bool.or_eq_false_iff] at none ⊢
  exact ⟨⟨rfl, none.2⟩, ⟨none.1, rfl⟩⟩

theorem quiet_down_api {k : Kind} {s t : State} {o : ApiOutcome} (h : QuietDown k s)
    (handles : JoinedHandles k s) (met : NothingPending k s (.api o))
    (taken : step k s (.api o) = some t) : QuietDown k t := by
  cases api_taken taken with
  | control pc settings port plain free set within based =>
    have notSpawning : pc ≠ .startSpawnSerial := by
      rintro rfl
      cases plain
    have notStopping : pc.stopping = false := by
      cases pc <;> first | rfl | cases plain
    have flag := h.flag_up free
    refine ⟨fun starting => h.starting_loud (within starting), fun stopping => ?_, h.flag_down,
      h.none_pending, fun cdc runs => Or.inl (flag cdc runs), fun _ at_ => absurd at_ notSpawning⟩
    exact absurd (notStopping.symm.trans stopping) (by simp)
  | begun at_ =>
    have flag := h.flag_up (by rw [at_]; rfl)
    exact .of_loud rfl rfl flag fun _ spawning => (by cases spawning)
  | returned r at_ down =>
    have proceeds : o = .proceed := api_proceeds taken (by rw [at_]; rfl)
    have none := none_pending_at_return h handles (proceeds ▸ met) at_ down
    refine quiet_down_returns r down none fun cdc => ?_
    by_contra runs
    have up := h.flag_up (by rw [at_]; rfl) cdc (by simpa using runs)
    exact absurd (down.symm.trans up) (by simp)
  | lowered r at_ =>
    have after : (if stopsVideo k r then ApiPc.stopJoinV4l2 r else .stopJoinSerial r).starting = false ∧
        (if stopsVideo k r then ApiPc.stopJoinV4l2 r else .stopJoinSerial r).stopping = true := by
      split <;> exact ⟨rfl, rfl⟩
    exact .lowered after.1 after.2 rfl h.none_pending
  | joinedInStop r at_ gone =>
    have down : s.running = false := h.stopping_down (by rw [at_]; rfl)
    exact .lowered rfl rfl down fun quiet => (none_pending_emptied (h.none_pending quiet) _).2
  | joinedInStart at_ gone =>
    have loud : s.quiet = false := h.starting_loud (by rw [at_]; rfl)
    exact .of_loud loud rfl (fun cdc => absurd at_ (handles.cdc_calls cdc).1)
      fun _ spawning => (by cases spawning)
  | released r at_ =>
    have down : s.running = false := h.stopping_down (by rw [at_]; rfl)
    obtain ⟨fd, buffers, ledger, same⟩ := releaseVideo_eq s
    rw [same]
    exact .lowered rfl rfl down h.none_pending
  | stopped r at_ gone =>
    have down : s.running = false := h.stopping_down (by rw [at_]; rfl)
    have video : s.v4l2 = .absent := handles.v4l2_absent (by rw [at_]; cases r <;> rfl)
    refine quiet_down_returns r down ?_ fun _ => rfl
    simp [pendingCallback, serialPending, v4l2Pending, video]
  | joinedSerial pc gone at_ =>
    rcases at_ with ⟨at_, rfl⟩ | ⟨at_, rfl⟩
    · have loud : s.quiet = false := h.starting_loud (by rw [at_]; rfl)
      exact .of_loud loud rfl (fun _ runs => (by cases runs)) fun _ spawning => (by cases spawning)
    · exact .aside rfl rfl h.flag_down (fun quiet => (none_pending_emptied (h.none_pending quiet) _).1)
        fun _ runs => (by cases runs)
  | raised at_ =>
    have loud : s.quiet = false := h.starting_loud (by rw [at_]; rfl)
    exact .of_loud loud rfl (fun _ _ => rfl) fun _ _ => rfl
  | spawnedSerial at_ =>
    have loud : s.quiet = false := h.starting_loud (by rw [at_]; rfl)
    have after : (if k = .hist then ApiPc.implJoin else .idle).stopping = false ∧
        (if k = .hist then ApiPc.implJoin else .idle) ≠ .startSpawnSerial := by
      split <;> exact ⟨rfl, by simp⟩
    exact .of_loud loud after.1 (fun cdc _ => h.cdc_raised cdc at_) fun _ spawning => absurd spawning after.2
  | spawnedV4l2 at_ =>
    have loud : s.quiet = false := h.starting_loud (by rw [at_]; rfl)
    exact .of_loud loud rfl (fun cdc => absurd at_ (handles.cdc_calls cdc).2)
      fun _ spawning => (by cases spawning)
  | droppedV4l2 at_ free =>
    have flag := h.flag_up (by rw [at_]; rfl)
    exact .aside rfl rfl h.flag_down h.none_pending flag
  | droppedSerial at_ free =>
    have flag := h.flag_up (by rw [at_]; rfl)
    exact .aside rfl rfl h.flag_down h.none_pending flag
  | aborted at_ =>
    exact ⟨h.starting_loud, h.stopping_down, h.flag_down, h.none_pending, h.cdc_flag, h.cdc_raised⟩

theorem quiet_down_kept {k : Kind} {s t : State} {a : Action} (handles : JoinedHandles k s)
    (h : QuietDown k s) (met : NothingPending k s a) (taken : step k s a = some t) :
    QuietDown k t := by
  cases a with
  | call c =>
    obtain ⟨idle, rfl⟩ := step_call taken
    have flag := h.flag_up (by rw [idle]; rfl)
    cases c with
    | start => exact .of_loud rfl rfl flag fun _ spawning => (by cases spawning)
    | stop | reboot | setParameters => exact .aside rfl rfl h.flag_down h.none_pending flag
    | destroy => exact .aside (by cases k <;> rfl) (by cases k <;> rfl) h.flag_down h.none_pending flag
  | api o => exact quiet_down_api h handles met taken
  | serial o =>
    obtain ⟨n, pc, move, live, made, rfl⟩ := step_serial taken
    exact quiet_down_serial h handles live made
  | v4l2 o =>
    obtain ⟨n, pc, move, live, made, rfl⟩ := step_v4l2 taken
    exact quiet_down_v4l2 h handles live made

theorem quiet_down_start (k : Kind) : QuietDown k (deviceMachine k).start :=
  .of_loud rfl rfl (fun _ runs => (by cases runs)) fun _ spawning => (by cases spawning)

theorem quiet_of_none_pending {k : Kind} {s : State} (h : QuietDown k s) : QuietAfterStop k s := by
  intro quiet a t taken
  have none := h.none_pending quiet
  simp only [pendingCallback, Bool.or_eq_false_iff] at none
  cases a with
  | call c => rfl
  | api o => rfl
  | serial o =>
    obtain ⟨n, pc, move, live, -, -⟩ := step_serial taken
    have idle : pc.callsBack = false := by simpa [live, serialPending] using none.1
    simpa [invokesCallback, live] using idle
  | v4l2 o =>
    obtain ⟨n, pc, move, live, -, -⟩ := step_v4l2 taken
    have idle : pc.pastCheck = false := by simpa [live, v4l2Pending] using none.2
    cases pc with
    | cloudCall offset offsetFrom => cases idle
    | _ => simp [invokesCallback, live, V4l2Pc.callsBack]

/-- In every run in which no `stop()` of a hist device finds the flag down while
a worker is on its way to a callback, the device is quiet after `stop()`. For
`dt1_device_cdc` the condition is void: the law holds in all its runs. -/
theorem quiet_after_stop {k : Kind} {s : State}
    (reached : (deviceMachine k).Reached (NothingPending k) s) : QuietAfterStop k s := by
  have down : QuietDown k s :=
    reached.invariant_with (fun _ r => handles_of_reached r) (quiet_down_start k)
      fun _ _ _ handles h met taken => quiet_down_kept handles h met taken
  exact quiet_of_none_pending down

/-- A session stopped from outside meets the condition. -/
theorem quiet_after_stop_session :
    ∃ s, (deviceMachine .hist).Reached (NothingPending .hist) s ∧ QuietAfterStop .hist s ∧
      (s.quiet && s.session == 1) = true := by
  obtain ⟨s, reached, stopped⟩ := (deviceMachine .hist).exists_of_guardedRun
    (NothingPending .hist) (startSession ++ stopSession 2 6) (fun s => s.quiet && s.session == 1)
    (by decide)
  exact ⟨s, reached, quiet_after_stop reached, stopped⟩

/-- The video worker lowers the flag (stream-on failed) while the serial worker
has passed its test and not yet delivered the IMU samples; `stop()` returns at
once and the callback comes after it. -/
theorem callback_after_stop :
    ¬ ∀ k s, (deviceMachine k).Reached Machine.Unrestricted s → QuietAfterStop k s := by
  intro always
  obtain ⟨s, reached, seen⟩ := (deviceMachine .hist).exists_of_guardedRun Machine.Unrestricted
    (startSession ++ firstFrame ++ [.serial .proceed, .serial .proceed] ++ streamOnFails ++
      [.call .stop, .api .proceed])
    (fun s => decide (s.quiet = true ∧ (step .hist s (.serial .proceed)).isSome = true ∧
      invokesCallback s (.serial .proceed) = true))
    (by decide)
  obtain ⟨quiet, enabled, calls⟩ := of_decide_eq_true seen
  obtain ⟨t, taken⟩ := Option.isSome_iff_exists.mp enabled
  have silent := always .hist s reached quiet _ t taken
  simp [calls] at silent

end AsDt1.Guarantees
