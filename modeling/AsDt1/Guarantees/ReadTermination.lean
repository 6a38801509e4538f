import AsDt1.Source.StoppedWorker

/-!
# The end of the worker after `stop()`

Once `_running` is down the loops that test it end with the next read. The loop that
waits for a prompt and the two that fill an IMU record do not test it, and the
shutdown waits for two more prompts: from wherever the worker is, its thread comes
to its end exactly if the device sends what is left to wait for. A handshake that
reboots the camera closes the port, and the shutdown throws.
-/
namespace AsDt1.Guarantees
open AsDt1.Lib AsDt1.Source Routine

/-! ## What the device has to send -/

section Conditions

variable (arrivals : Arrivals) (host : HostAnswers) (config : WorkerConfig)

/-- In front of the last prompt of the handshake: another mode means a reboot. -/
def ModePrompted (mode : Nat) : CameraPort → Prop :=
  AfterPrompts arrivals (fun t => mode = config.mode.val ∧ Acknowledged arrivals t) 1

/-- In front of the reply to "flmode"; an unknown mode ends the handshake. -/
def ModeReplied (s : CameraPort) : Prop :=
  match reportedMode (eraseLineEnd (s.lineOf arrivals)) with
  | some mode => ModePrompted arrivals config mode (s.afterLine arrivals)
  | none => Acknowledged arrivals (s.afterLine arrivals)

def VersionPrompted : CameraPort → Prop :=
  AfterPrompts arrivals (fun t => ModeReplied arrivals config (t.afterLine arrivals)) 1

/-- Behind the four lines that follow "ver"; an unsupported version ends the handshake. -/
def VersionReplied (version : Octets) (s : CameraPort) : Prop :=
  if isSupportedDevice version = .ok true then VersionPrompted arrivals config s else Acknowledged arrivals s

/-- In front of these four lines. -/
def VersionAsked (s : CameraPort) : Prop :=
  VersionReplied arrivals config (eraseLineEnd (s.lineOf arrivals)) (s.afterLines arrivals 4)

/-- In front of the prompt of `get_device_info`'s first command. -/
def InfoPrompted : CameraPort → Prop :=
  AfterPrompts arrivals (fun t => VersionAsked arrivals config (t.discarded.afterLine arrivals)) 1

/-- In front of the prompt of "flstart": another start mode means a reboot. -/
def StartModePrompted (modeResp : Octets) : CameraPort → Prop :=
  AfterPrompts arrivals (fun t =>
    ascii config.kind.expectedFlstartMode <:+: modeResp ∧ InfoPrompted arrivals config t) 1

def StartModeReplied (s : CameraPort) : Prop :=
  StartModePrompted arrivals config (eraseLineEnd (s.lineOf arrivals)) (s.afterLine arrivals)

/-- Behind the setup commands a line is taken for every frame of the first second. -/
def SetUp (s : CameraPort) : Prop := Acknowledged arrivals (s.afterLines arrivals (host.frameRateHz s.reads).val)

/-- In a frame; `size` is that of `_receive_buf`. -/
def FrameAnswered (size : Nat) : FramePlace → CameraPort → Prop
  | .startTimestamp, s | .endTimestamp _, s => Acknowledged arrivals (s.afterLine arrivals)
  | .cloudMark _, s =>
    Acknowledged arrivals ((afterCloud arrivals size 0 (s.afterLine arrivals)).afterLines arrivals 2)
  | .cloudOctets _ n, s => Acknowledged arrivals ((afterCloud arrivals size n s).afterLines arrivals 2)
  | .imuMark _, s => Acknowledged arrivals (s.afterLines arrivals 2)
  | .imuRecord _ got, s => ∃ t, RecordRead arrivals got s t ∧ Acknowledged arrivals (t.afterLine arrivals)

def TryAnswered (size : Nat) : TryPlace → CameraPort → Prop
  | .connected, s | .betweenFrames, s => Acknowledged arrivals s
  | .startModeEcho, s => StartModeReplied arrivals config (s.afterLine arrivals)
  | .startModeReply, s => StartModeReplied arrivals config s
  | .startModePrompt modeResp, s => StartModePrompted arrivals config modeResp s
  | .infoPrompt, s => InfoPrompted arrivals config s
  | .versionEcho, s => VersionAsked arrivals config (s.afterLine arrivals)
  | .versionReply, s => VersionAsked arrivals config s
  | .settingsLine version, s => VersionReplied arrivals config version (s.afterLines arrivals 3)
  | .devInfoLine version, s => VersionReplied arrivals config version (s.afterLines arrivals 2)
  | .dummyLine version _, s => VersionReplied arrivals config version (s.afterLine arrivals)
  | .versionPrompt _ _, s => VersionPrompted arrivals config s
  | .modeEcho _ _, s => ModeReplied arrivals config (s.afterLine arrivals)
  | .modeReply _ _, s => ModeReplied arrivals config s
  | .modePrompt info, s => ModePrompted arrivals config info.mode s
  | .rebootEcho _, _ | .rebootReply, _ => False
  | .defaults left, s => AfterPrompts arrivals (SetUp arrivals host) (left.length + 3) s
  | .trigger left, s => AfterPrompts arrivals (SetUp arrivals host) (left.length + 1) s
  | .skipping frames, s => Acknowledged arrivals (s.afterLines arrivals (frames + 1))
  | .frame place, s => FrameAnswered arrivals size place s

/-- The device sends what the rest of the thread waits for: the prompts of the
commands that are left, behind the lines that are taken, and the rest of a record;
and the handshake does not go on to reboot the camera. -/
def Answered (size : Nat) : Place → CameraPort → Prop
  | .inTry place, s => TryAnswered arrivals host config size place s
  | .firstAck, s => Acknowledged arrivals s
  | .secondAck, s => ∃ count, 1 ≤ (upcoming arrivals s count).count 0x3E

end Conditions

/-! ## The rest of the try block -/

section Courses

variable {arrivals : Arrivals} {host : HostAnswers} {config : WorkerConfig} {w : World CameraPort} {α : Type}

/-- From here the try block is left, if at all, in a state from which the thread
comes to its end if and only if `P`. -/
def LeavesTry (arrivals : Arrivals) (host : HostAnswers) (rest : Nat → SerialRoutine CameraPort Unit)
    (w : World CameraPort) (P : Prop) : Prop :=
  Settles rest w (Completes (closing (deviceEnvironment arrivals host))) P

theorem discovered_leaves (stopped : FlagDown w) (answer : Unit ⊕ Unit) :
    LeavesTry arrivals host (fun fuel => discovered (deviceEnvironment arrivals host) config fuel answer) w
      (Acknowledged arrivals w.env) :=
  .ends (discovered_stopped stopped.down answer) (by simp)
    (closing_iff (w := { w with phase := .streaming }) ⟨stopped.down, stopped.connected, stopped.opened⟩)

/-- What a routine throws ends the try block. -/
theorem thrown_leaves (stopped : FlagDown w) (failure : Failure) {next : Nat → α → SerialRoutine CameraPort Unit} :
    LeavesTry arrivals host (fun fuel => throw failure >>= next fuel) w (Acknowledged arrivals w.env) :=
  .bind_thrown (.const rfl) (closing_iff stopped)

/-! ### The handshake -/

theorem rebootReply_leaves (stopped : FlagDown w) :
    LeavesTry arrivals host (fun fuel => rebootReplyRest (deviceEnvironment arrivals host) config fuel) w False := by
  apply settles_lineUntil stopped
  intro log still
  obtain ⟨log', closes⟩ := close_returns arrivals host { w with env := w.env.afterLine arrivals, log }
  let closed : World CameraPort := { w with env := (w.env.afterLine arrivals).closed, log := log' }
  have down : closed.running = false := still.down
  refine .bind (.const closes) (.ends (discovered_stopped down _) (by simp) (iff_false_intro ?_))
  exact closing_closed still.down still.connected rfl

theorem rebootEcho_leaves (stopped : FlagDown w) (command : Octets) :
    LeavesTry arrivals host (fun fuel => rebootEchoRest (deviceEnvironment arrivals host) config fuel command) w
      False := by
  apply settles_lineUntil stopped
  intro log still
  apply settles_write still
  intro log still
  exact rebootReply_leaves still

theorem reboot_leaves (stopped : FlagDown w) (command : Octets) :
    LeavesTry arrivals host (fun fuel => rebootRest (deviceEnvironment arrivals host) config fuel command) w False := by
  apply settles_write stopped
  intro log still
  exact rebootEcho_leaves still command

theorem info_leaves (stopped : FlagDown w) (info : DeviceInfo) :
    LeavesTry arrivals host (fun fuel => infoRest (deviceEnvironment arrivals host) config fuel info) w
      (info.mode = config.mode.val ∧ Acknowledged arrivals w.env) := by
  have still : FlagDown { w with deviceInfo := info } := ⟨stopped.down, stopped.connected, stopped.opened⟩
  refine .bind (.const rfl) ?_
  by_cases same : info.mode = config.mode.val
  · simp only [same, ne_eq, not_true_eq_false, if_false, true_and]
    exact discovered_leaves still _
  · simp only [same, ne_eq, not_false_eq_true, if_true, false_and]
    exact reboot_leaves still _

theorem modePrompt_leaves (stopped : FlagDown w) (info : DeviceInfo) :
    LeavesTry arrivals host (fun fuel => modePromptRest (deviceEnvironment arrivals host) config fuel info) w
      (ModePrompted arrivals config info.mode w.env) := by
  apply settles_prompt stopped
  intro t log still
  exact info_leaves still info

theorem modeReply_leaves (stopped : FlagDown w) (version devInfo : Octets) :
    LeavesTry arrivals host
      (fun fuel => modeReplyRest (deviceEnvironment arrivals host) config fuel version devInfo) w
      (ModeReplied arrivals config w.env) := by
  apply settles_line stopped
  intro log still
  unfold ModeReplied
  cases reportedMode (eraseLineEnd (w.env.lineOf arrivals)) with
  | none => exact thrown_leaves still _
  | some mode => exact modePrompt_leaves still _

theorem modeEcho_leaves (stopped : FlagDown w) (version devInfo : Octets) :
    LeavesTry arrivals host
      (fun fuel => modeEchoRest (deviceEnvironment arrivals host) config fuel version devInfo) w
      (ModeReplied arrivals config (w.env.afterLine arrivals)) := by
  apply settles_lineUntil stopped
  intro log still
  exact modeReply_leaves still version devInfo

theorem versionPrompt_leaves (stopped : FlagDown w) (version devInfo : Octets) :
    LeavesTry arrivals host
      (fun fuel => versionPromptRest (deviceEnvironment arrivals host) config fuel version devInfo) w
      (VersionPrompted arrivals config w.env) := by
  apply settles_prompt stopped
  intro t log still
  apply settles_write still
  intro log still
  exact modeEcho_leaves still version devInfo

theorem dummyLine_leaves (stopped : FlagDown w) (version devInfo : Octets) :
    LeavesTry arrivals host
      (fun fuel => dummyLineRest (deviceEnvironment arrivals host) config fuel version devInfo) w
      (VersionReplied arrivals config version (w.env.afterLine arrivals)) := by
  apply settles_line stopped
  intro log still
  unfold VersionReplied requireSupported
  cases judged : isSupportedDevice version with
  | error failure => exact thrown_leaves still failure
  | ok supported =>
    cases supported with
    | false => exact thrown_leaves still .unsupportedDevice
    | true => exact versionPrompt_leaves still version devInfo

theorem devInfoLine_leaves (stopped : FlagDown w) (version : Octets) :
    LeavesTry arrivals host (fun fuel => devInfoLineRest (deviceEnvironment arrivals host) config fuel version) w
      (VersionReplied arrivals config version (w.env.afterLines arrivals 2)) := by
  apply settles_line stopped
  intro log still
  exact dummyLine_leaves still version _

theorem settingsLine_leaves (stopped : FlagDown w) (version : Octets) :
    LeavesTry arrivals host (fun fuel => settingsLineRest (deviceEnvironment arrivals host) config fuel version) w
      (VersionReplied arrivals config version (w.env.afterLines arrivals 3)) := by
  apply settles_line stopped
  intro log still
  exact devInfoLine_leaves still version

theorem versionReply_leaves (stopped : FlagDown w) :
    LeavesTry arrivals host (fun fuel => versionReplyRest (deviceEnvironment arrivals host) config fuel) w
      (VersionAsked arrivals config w.env) := by
  apply settles_line stopped
  intro log still
  exact settingsLine_leaves still _

theorem versionEcho_leaves (stopped : FlagDown w) :
    LeavesTry arrivals host (fun fuel => versionEchoRest (deviceEnvironment arrivals host) config fuel) w
      (VersionAsked arrivals config (w.env.afterLine arrivals)) := by
  apply settles_lineUntil stopped
  intro log still
  exact versionReply_leaves still

theorem infoPrompt_leaves (stopped : FlagDown w) :
    LeavesTry arrivals host (fun fuel => infoPromptRest (deviceEnvironment arrivals host) config fuel) w
      (InfoPrompted arrivals config w.env) := by
  apply settles_prompt stopped
  intro t log still
  have flushed : call (deviceEnvironment arrivals host) .flushInput { w with env := t, log } =
      (.ok (), { w with env := t.discarded, log }) := call_ok (if_pos still.opened)
  refine .bind (.const flushed) ?_
  apply settles_write (still.moved t.discarded still.opened log)
  intro log still
  exact versionEcho_leaves still

theorem startModePrompt_leaves (stopped : FlagDown w) (modeResp : Octets) :
    LeavesTry arrivals host
      (fun fuel => startModePromptRest (deviceEnvironment arrivals host) config fuel modeResp) w
      (StartModePrompted arrivals config modeResp w.env) := by
  apply settles_prompt stopped
  intro t log still
  by_cases expected : ascii config.kind.expectedFlstartMode <:+: modeResp
  · have flushed : call (deviceEnvironment arrivals host) .flush { w with env := t, log } =
        (.ok (), { w with env := t, log }) := by
      apply call_ok
      show (if t.isOpen = true then _ else _, _) = _
      rw [if_pos still.opened]
    simp only [expected, if_true, true_and]
    refine .bind (.const flushed) ?_
    apply settles_write still
    intro log still
    exact infoPrompt_leaves still
  · simp only [expected, if_false, false_and]
    exact reboot_leaves still _

theorem startModeReply_leaves (stopped : FlagDown w) :
    LeavesTry arrivals host (fun fuel => startModeReplyRest (deviceEnvironment arrivals host) config fuel) w
      (StartModeReplied arrivals config w.env) := by
  apply settles_line stopped
  intro log still
  exact startModePrompt_leaves still _

theorem startModeEcho_leaves (stopped : FlagDown w) :
    LeavesTry arrivals host (fun fuel => startModeEchoRest (deviceEnvironment arrivals host) config fuel) w
      (StartModeReplied arrivals config (w.env.afterLine arrivals)) := by
  apply settles_lineUntil stopped
  intro log still
  exact startModeReply_leaves still

/-! ### The setup -/

theorem streaming_leaves (stopped : FlagDown w) :
    LeavesTry arrivals host (fun fuel => streaming (deviceEnvironment arrivals host) config fuel) w
      (Acknowledged arrivals w.env) := by
  let streamed : World CameraPort := { w with phase := .streaming }
  have down : streamed.running = false := stopped.down
  refine .bind (.const rfl) (.ends (mainLoop_stopped arrivals host config down) (by simp) ?_)
  exact closing_iff ⟨stopped.down, stopped.connected, stopped.opened⟩

theorem skipFrames_leaves (stopped : FlagDown w) (frames : Nat) :
    LeavesTry arrivals host (fun fuel => do
      skipFrames (deviceEnvironment arrivals host) fuel frames
      streaming (deviceEnvironment arrivals host) config fuel) w
      (Acknowledged arrivals (w.env.afterLines arrivals frames)) := by
  induction frames generalizing w with
  | zero => exact .bind (.const rfl) (streaming_leaves stopped)
  | succ frames ih =>
    simp only [skipFrames, bind_assoc]
    apply settles_lineUntil stopped
    intro log still
    exact ih still

theorem skip_leaves (stopped : FlagDown w) :
    LeavesTry arrivals host (fun fuel => skipRest (deviceEnvironment arrivals host) config fuel) w
      (SetUp arrivals host w.env) :=
  .bind (.const rfl) (skipFrames_leaves stopped _)

theorem acks_leaves (left : List String) {next : Nat → SerialRoutine CameraPort Unit} {P : CameraPort → Prop}
    {prompts : Nat}
    (rest : ∀ w : World CameraPort, FlagDown w →
      LeavesTry arrivals host next w (AfterPrompts arrivals P prompts w.env)) (stopped : FlagDown w) :
    LeavesTry arrivals host (fun fuel => acks (deviceEnvironment arrivals host) fuel left >>= fun _ => next fuel) w
      (AfterPrompts arrivals P (left.length + prompts) w.env) := by
  induction left generalizing w with
  | nil =>
    rw [List.length_nil, Nat.zero_add]
    exact .bind (.const rfl) (rest w stopped)
  | cons cmd left ih =>
    rw [List.length_cons, Nat.add_right_comm]
    simp only [acks, sendAndReceiveAck, bind_assoc]
    apply settles_write stopped
    intro log still
    apply settles_prompts still
    intro t log still
    exact ih still

/-- The acknowledgement of the last command and of those that are left. -/
theorem ackRest_leaves (left : List String) {next : Nat → SerialRoutine CameraPort Unit} {P : CameraPort → Prop}
    {prompts : Nat}
    (rest : ∀ w : World CameraPort, FlagDown w →
      LeavesTry arrivals host next w (AfterPrompts arrivals P prompts w.env)) (stopped : FlagDown w) :
    LeavesTry arrivals host (fun fuel => do
      let _ ← readToPrompt (deviceEnvironment arrivals host) fuel
      acks (deviceEnvironment arrivals host) fuel left
      next fuel) w (AfterPrompts arrivals P (left.length + prompts + 1) w.env) := by
  apply settles_prompts stopped
  intro t log still
  exact acks_leaves left rest still

theorem trigger_leaves (stopped : FlagDown w) (left : List String) :
    LeavesTry arrivals host (fun fuel => triggerRest (deviceEnvironment arrivals host) config fuel left) w
      (AfterPrompts arrivals (SetUp arrivals host) (left.length + 1) w.env) := by
  have skipped (w : World CameraPort) (stopped : FlagDown w) :
      LeavesTry arrivals host (fun fuel => skipRest (deviceEnvironment arrivals host) config fuel) w
        (AfterPrompts arrivals (SetUp arrivals host) 0 w.env) := skip_leaves stopped
  have course := ackRest_leaves left skipped stopped
  exact course

/-- Both kinds of synchronisation take two commands. -/
theorem sync_leaves (stopped : FlagDown w) :
    LeavesTry arrivals host (fun fuel => syncRest (deviceEnvironment arrivals host) config fuel) w
      (AfterPrompts arrivals (SetUp arrivals host) 2 w.env) := by
  have master : LeavesTry arrivals host (fun fuel => do
      setMaster (deviceEnvironment arrivals host) fuel
      skipRest (deviceEnvironment arrivals host) config fuel) w
      (AfterPrompts arrivals (SetUp arrivals host) 2 w.env) := by
    simp only [setMaster_eq]
    have asked : frameRateHz (deviceEnvironment arrivals host) w = (.ok (host.frameRateHz w.env.reads), w) := rfl
    refine .bind (.const asked) ?_
    apply settles_write stopped
    intro log still
    exact trigger_leaves still _
  have slave : LeavesTry arrivals host (fun fuel => do
      setSlave (deviceEnvironment arrivals host) fuel
      skipRest (deviceEnvironment arrivals host) config fuel) w
      (AfterPrompts arrivals (SetUp arrivals host) 2 w.env) := by
    simp only [setSlave_eq]
    apply settles_write stopped
    intro log still
    exact trigger_leaves still _
  have asked : syncMode (deviceEnvironment arrivals host) w = (.ok (host.syncMode w.env.reads), w) := rfl
  refine .bind (.const asked) ?_
  cases host.syncMode w.env.reads with
  | master => exact master
  | none => exact master
  | slave => exact slave

theorem defaults_leaves (stopped : FlagDown w) (left : List String) :
    LeavesTry arrivals host (fun fuel => defaultsRest (deviceEnvironment arrivals host) config fuel left) w
      (AfterPrompts arrivals (SetUp arrivals host) (left.length + 3) w.env) :=
  ackRest_leaves left (fun _ stopped => sync_leaves stopped) stopped

/-! ### A frame -/

theorem mainLoop_leaves (stopped : FlagDown w) :
    LeavesTry arrivals host (fun fuel => mainLoop (deviceEnvironment arrivals host) config fuel) w
      (Acknowledged arrivals w.env) :=
  .ends (mainLoop_stopped arrivals host config stopped.down) (by simp) (closing_iff stopped)

theorem frameEnd_leaves {s : CameraPort} {finish : SerialRoutine CameraPort Unit}
    (ends : Total (FlagDownAt s) finish (fun _ => FlagDownAt s) fun _ => FlagDownAt s) (at_ : FlagDownAt s w)
    (opened : s.isOpen = true) :
    LeavesTry arrivals host (fun fuel => finish >>= fun _ => mainLoop (deviceEnvironment arrivals host) config fuel) w
      (Acknowledged arrivals s) := by
  rcases ends.ends at_ with ⟨_, t, returned, at_'⟩ | ⟨failure, t, thrown, at_'⟩
  · obtain rfl : t.env = s := at_'.1
    exact .bind (.const returned) (mainLoop_leaves (stopped_of_at at_' opened))
  · obtain rfl : t.env = s := at_'.1
    exact .bind_thrown (.const thrown) (closing_iff (stopped_of_at at_' opened))

theorem endTimestamp_leaves (stopped : FlagDown w) (start : FrameStart) :
    LeavesTry arrivals host (fun fuel => do
      endTimestampRest (deviceEnvironment arrivals host) config fuel start
      mainLoop (deviceEnvironment arrivals host) config fuel) w
      (Acknowledged arrivals (w.env.afterLine arrivals)) := by
  simp only [endTimestampRest, readTimestamp, bind_assoc, pure_bind]
  apply settles_lineUntil stopped
  intro log still
  cases start with
  | cdc frameTs => exact frameEnd_leaves (finishCdcFrame_total _ _) ⟨rfl, still.down, still.connected⟩ still.opened
  | hist => exact frameEnd_leaves (finishHistFrame_total _) ⟨rfl, still.down, still.connected⟩ still.opened

/-- With the flag down no record is begun. -/
theorem imuRecords_leaves (stopped : FlagDown w) (start : FrameStart) :
    LeavesTry arrivals host (fun fuel => do
      imuRecords (deviceEnvironment arrivals host) fuel
      endTimestampRest (deviceEnvironment arrivals host) config fuel start
      mainLoop (deviceEnvironment arrivals host) config fuel) w
      (Acknowledged arrivals (w.env.afterLine arrivals)) :=
  .bind (imuRecords_stopped arrivals host stopped) (endTimestamp_leaves stopped start)

theorem imuMark_leaves (stopped : FlagDown w) (start : FrameStart) :
    LeavesTry arrivals host (fun fuel => do
      imuMarkRest (deviceEnvironment arrivals host) config fuel start
      mainLoop (deviceEnvironment arrivals host) config fuel) w
      (Acknowledged arrivals (w.env.afterLines arrivals 2)) := by
  simp only [imuMarkRest, bind_assoc]
  apply settles_lineUntil stopped
  intro log still
  exact imuRecords_leaves still start

theorem imu_leaves (stopped : FlagDown w) (start : FrameStart) :
    LeavesTry arrivals host (fun fuel => do
      imuRest (deviceEnvironment arrivals host) config fuel start
      mainLoop (deviceEnvironment arrivals host) config fuel) w
      (Acknowledged arrivals (w.env.afterLines arrivals 2)) := by
  have still : FlagDown { w with imuData := [] } := ⟨stopped.down, stopped.connected, stopped.opened⟩
  simp only [imuRest, bind_assoc]
  exact .bind (.const rfl) (imuMark_leaves still start)

theorem imuRecord_leaves (stopped : FlagDown w) (start : FrameStart) (got : Octets) :
    LeavesTry arrivals host (fun fuel => do
      imuRecordRest (deviceEnvironment arrivals host) config fuel start got
      mainLoop (deviceEnvironment arrivals host) config fuel) w
      (∃ t, RecordRead arrivals got w.env t ∧ Acknowledged arrivals (t.afterLine arrivals)) := by
  simp only [imuRecordRest, bind_assoc]
  by_cases comes : ∃ t, RecordRead arrivals got w.env t
  · obtain ⟨t, read⟩ := comes
    obtain ⟨record, log, reads⟩ := imuRecord_reads arrivals host read stopped
    have still := stopped.moved t (read.isOpen.trans stopped.opened) log
    have same : (∃ u, RecordRead arrivals got w.env u ∧ Acknowledged arrivals (u.afterLine arrivals)) ↔
        Acknowledged arrivals (t.afterLine arrivals) := by
      refine ⟨fun later => ?_, fun later => ⟨t, read, later⟩⟩
      obtain ⟨u, read', later⟩ := later
      rwa [read.unique read']
    refine Settles.congr (.bind reads ?_) same.symm
    cases record with
    | none => exact .bind (.const rfl) (endTimestamp_leaves still start)
    | some record =>
      let kept : World CameraPort := { w with env := t, log, imuData := w.imuData ++ [record] }
      have kept_stopped : FlagDown kept := ⟨still.down, still.connected, still.opened⟩
      have keeps : Ends (fun _ => keepRecord (some record)) { w with env := t, log } (.ok (.inl ()), kept) := .const rfl
      refine .bind keeps ?_
      simp only [bind_assoc]
      exact imuRecords_leaves kept_stopped start
  · exact .bind_never (imuRecord_never arrivals host comes stopped) fun later => comes (later.imp fun _ => And.left)

theorem cloudOctets_leaves (stopped : FlagDown w) (frameTs : BitVec 64) (n : Nat) :
    LeavesTry arrivals host (fun fuel => do
      pointCloudOctets (deviceEnvironment arrivals host) fuel n
      imuRest (deviceEnvironment arrivals host) config fuel (.cdc frameTs)
      mainLoop (deviceEnvironment arrivals host) config fuel) w
      (Acknowledged arrivals ((afterCloud arrivals w.receiveBuf.length n w.env).afterLines arrivals 2)) := by
  obtain ⟨receiveBuf, log, reads⟩ := pointCloudOctets_stopped arrivals host stopped n
  have opened := (afterCloud_isOpen arrivals w.receiveBuf.length n w.env).trans stopped.opened
  let read : World CameraPort := { w with env := afterCloud arrivals w.receiveBuf.length n w.env, receiveBuf, log }
  have still : FlagDown read := ⟨stopped.down, stopped.connected, opened⟩
  exact .bind reads (imu_leaves still (.cdc frameTs))

theorem frame_leaves (stopped : FlagDown w) (place : FramePlace) :
    LeavesTry arrivals host (fun fuel => do
      frameRest (deviceEnvironment arrivals host) config fuel place
      mainLoop (deviceEnvironment arrivals host) config fuel) w
      (FrameAnswered arrivals w.receiveBuf.length place w.env) := by
  cases place with
  | startTimestamp =>
    simp only [frameRest, readTimestamp, bind_assoc, pure_bind]
    apply settles_lineUntil stopped
    intro log still
    refine .bind (.const (isRunning_down still.down)) ?_
    exact .bind (.const rfl) (mainLoop_leaves still)
  | cloudMark frameTs =>
    simp only [frameRest, bind_assoc]
    apply settles_lineUntil stopped
    intro log still
    exact cloudOctets_leaves still frameTs 0
  | cloudOctets frameTs n =>
    simp only [frameRest, bind_assoc]
    exact cloudOctets_leaves stopped frameTs n
  | imuMark start => exact imuMark_leaves stopped start
  | imuRecord start got => exact imuRecord_leaves stopped start got
  | endTimestamp start => exact endTimestamp_leaves stopped start

theorem try_leaves (stopped : FlagDown w) (place : TryPlace) :
    LeavesTry arrivals host (fun fuel => tryRest (deviceEnvironment arrivals host) config fuel place) w
      (TryAnswered arrivals host config w.receiveBuf.length place w.env) := by
  cases place with
  | connected => exact discovered_leaves stopped (.inr ())
  | startModeEcho => exact startModeEcho_leaves stopped
  | startModeReply => exact startModeReply_leaves stopped
  | startModePrompt modeResp => exact startModePrompt_leaves stopped modeResp
  | infoPrompt => exact infoPrompt_leaves stopped
  | versionEcho => exact versionEcho_leaves stopped
  | versionReply => exact versionReply_leaves stopped
  | settingsLine version => exact settingsLine_leaves stopped version
  | devInfoLine version => exact devInfoLine_leaves stopped version
  | dummyLine version devInfo => exact dummyLine_leaves stopped version devInfo
  | versionPrompt version devInfo => exact versionPrompt_leaves stopped version devInfo
  | modeEcho version devInfo => exact modeEcho_leaves stopped version devInfo
  | modeReply version devInfo => exact modeReply_leaves stopped version devInfo
  | modePrompt info => exact modePrompt_leaves stopped info
  | rebootEcho command => exact rebootEcho_leaves stopped command
  | rebootReply => exact rebootReply_leaves stopped
  | defaults left => exact defaults_leaves stopped left
  | trigger left => exact trigger_leaves stopped left
  | skipping frames => exact skipFrames_leaves stopped (frames + 1)
  | frame place => exact frame_leaves stopped place
  | betweenFrames => exact mainLoop_leaves stopped

/-- Wherever the worker is when the flag is down and its port is open: its
thread comes to its end, so that the join in `stop()` does, if and only if the device
sends what is left to wait for. -/
theorem worker_ends_iff (arrivals : Arrivals) (host : HostAnswers) (config : WorkerConfig) (place : Place)
    (w : World CameraPort) (down : w.running = false) (connected : w.serial = true) (opened : w.env.isOpen = true) :
    Completes (fun fuel => restOfRun (deviceEnvironment arrivals host) config fuel place) w ↔
      Answered arrivals host config w.receiveBuf.length place w.env := by
  have stopped : FlagDown w := ⟨down, connected, opened⟩
  cases place with
  | inTry place => exact (try_leaves stopped place).completes_iff
  | firstAck => exact (firstAck_iff stopped).trans afterPrompts_iff
  | secondAck => exact (secondAck_iff stopped).trans afterPrompts_iff

end Courses

/-! A worker that `stop()` has told to end, and two devices. -/

def stoppedWorld : World CameraPort where
  env := ⟨[], 0, true⟩
  running := false
  serial := true
  deviceInfo := .unset
  receiveBuf := []
  imuData := []
  imuSamples := []
  latestImuSampleTs := 0
  clockOffset := 0
  phase := .streaming
  log := []

def plainHost : HostAnswers := ⟨fun _ => 0, fun _ => .none, fun _ => .initial⟩

def histWorker : WorkerConfig := ⟨.hist, ⟨0, by decide⟩, true, true⟩

/-- A timeout, the rest of a record, a timestamp, and prompts from then on. -/
def lateArrivals : Arrivals
  | 0 => []
  | 1 => List.replicate 11 0
  | 2 => ascii "tm=5\n"
  | _ => ascii ">"

theorem late_record_ends :
    Completes (fun fuel => restOfRun (deviceEnvironment lateArrivals plainHost) histWorker fuel
      (.inTry (.frame (.imuRecord .hist (ascii "ABCDE"))))) stoppedWorld := by
  refine (worker_ends_iff lateArrivals plainHost histWorker _ stoppedWorld rfl rfl rfl).mpr ?_
  have head : FilledUp lateArrivals 3 (ascii "ABCDE") stoppedWorld.env (ascii "ABCDE") stoppedWorld.env :=
    .full (by decide)
  have record : RecordRead lateArrivals (ascii "ABCDE") stoppedWorld.env ⟨[], 2, true⟩ := by
    refine ⟨_, _, head, ?_⟩
    rw [if_neg (by decide)]
    exact ⟨_, .more (by decide) (.more (by decide) (.full (by decide)))⟩
  exact ⟨_, record, 2, by decide⟩

/-- Every read times out. -/
def silentArrivals : Arrivals := fun _ => []

theorem silent_received (start count : Nat) : arriving silentArrivals start count = [] := by
  induction count generalizing start with
  | zero => rfl
  | succ count ih => exact ih (start + 1)

/-- With a silent device neither `read_to_prompt` returns nor does the thread come to
its end from `read_timestamp`, whose own loop ends. -/
theorem silent_device_blocks_stop :
    ¬ Returns (fun fuel => readToPrompt (deviceEnvironment silentArrivals plainHost) fuel) stoppedWorld ∧
      ¬ Completes (fun fuel => restOfRun (deviceEnvironment silentArrivals plainHost) histWorker fuel
        (.inTry (.frame (.endTimestamp .hist)))) stoppedWorld := by
  have stopped : FlagDown stoppedWorld := ⟨rfl, rfl, rfl⟩
  have nothing (s : CameraPort) (empty : s.queue = []) (count : Nat) : upcoming silentArrivals s count = [] := by
    unfold upcoming
    rw [empty, silent_received]
    rfl
  constructor
  · have none : ¬ ∃ t, PromptRead silentArrivals stoppedWorld.env t := by
      intro comes
      obtain ⟨t, read⟩ := comes
      obtain ⟨count, front, -, split⟩ := read.upcoming
      have arrived := split 0
      rw [nothing stoppedWorld.env rfl] at arrived
      simp at arrived
    exact (readToPrompt_never silentArrivals plainHost none stopped).not_returns
  · intro ends
    obtain ⟨count, two⟩ := (try_leaves stopped _).completes_iff.mp ends
    rw [nothing (stoppedWorld.env.afterLine silentArrivals) rfl] at two
    cases two

end AsDt1.Guarantees
