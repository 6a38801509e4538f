import AsDt1.Source.PortWaits

/-!
# The worker behind `stop()`

What becomes of the worker's thread once the flag is down: each read goes on to what
follows it or never returns, no loop that tests the flag makes another pass, a frame is
computed without reading, and the shutdown takes two prompts from an open port and
throws on a closed one.
-/
namespace AsDt1.Source
open AsDt1.Lib Routine

/-! ## One read after another -/

section StoppedWorker

variable {arrivals : Arrivals} {host : HostAnswers} {config : WorkerConfig} {w : World CameraPort} {α : Type}
  {Q : World CameraPort → Prop}

theorem settles_line (stopped : FlagDown w) {next : Nat → Octets → SerialRoutine CameraPort α} {P : Prop}
    (rest : ∀ log, FlagDown { w with env := w.env.afterLine arrivals, log } →
      Settles (fun fuel => next fuel (eraseLineEnd (w.env.lineOf arrivals)))
        { w with env := w.env.afterLine arrivals, log } Q P) :
    Settles (fun fuel => readLine (deviceEnvironment arrivals host) >>= next fuel) w Q P := by
  obtain ⟨log, reads⟩ := readline_stopped arrivals host stopped
  have line : readLine (deviceEnvironment arrivals host) w =
      (.ok (eraseLineEnd (w.env.lineOf arrivals)), { w with env := w.env.afterLine arrivals, log }) := by
    unfold readLine
    rw [bind_ok reads]
    rfl
  exact .bind (.const line) (rest log (stopped.moved (w.env.afterLine arrivals) stopped.opened log))

theorem settles_lineUntil (stopped : FlagDown w) (findStr : Octets)
    {next : Nat → Octets → SerialRoutine CameraPort α} {P : Prop}
    (rest : ∀ log, FlagDown { w with env := w.env.afterLine arrivals, log } →
      Settles (fun fuel => next fuel (w.env.lineOf arrivals)) { w with env := w.env.afterLine arrivals, log } Q P) :
    Settles (fun fuel => readLineUntil (deviceEnvironment arrivals host) fuel findStr >>= next fuel) w Q P := by
  obtain ⟨log, reads⟩ := readLineUntil_stopped arrivals host stopped findStr
  exact .bind reads (rest log (stopped.moved (w.env.afterLine arrivals) stopped.opened log))

theorem settles_write (stopped : FlagDown w) (data : Octets) {next : Nat → Unit → SerialRoutine CameraPort α} {P : Prop}
    (rest : ∀ log, FlagDown { w with log } → Settles (fun fuel => next fuel ()) { w with log } Q P) :
    Settles (fun fuel => write (deviceEnvironment arrivals host) data >>= next fuel) w Q P := by
  obtain ⟨log, writes⟩ := write_stopped arrivals host stopped data
  exact .bind (.const writes) (rest log (stopped.moved w.env stopped.opened log))

theorem settles_prompts (stopped : FlagDown w) {next : Nat → Bool → SerialRoutine CameraPort α}
    {P : CameraPort → Prop} {prompts : Nat}
    (rest : ∀ t log, FlagDown { w with env := t, log } →
      Settles (fun fuel => next fuel true) { w with env := t, log } Q (AfterPrompts arrivals P prompts t)) :
    Settles (fun fuel => readToPrompt (deviceEnvironment arrivals host) fuel >>= next fuel) w Q
      (AfterPrompts arrivals P (prompts + 1) w.env) := by
  by_cases comes : ∃ t, PromptRead arrivals w.env t
  · obtain ⟨t, read⟩ := comes
    obtain ⟨log, reads⟩ := readToPrompt_reads arrivals host read stopped
    have later := rest t log (stopped.moved t (read.isOpen.trans stopped.opened) log)
    exact .bind reads (later.congr (afterPrompts_succ read).symm)
  · exact .bind_never (readToPrompt_never arrivals host comes stopped) (not_afterPrompts comes)

theorem settles_prompt (stopped : FlagDown w) {next : Nat → Bool → SerialRoutine CameraPort α}
    {P : CameraPort → Prop} (rest : ∀ t log, FlagDown { w with env := t, log } →
      Settles (fun fuel => next fuel true) { w with env := t, log } Q (P t)) :
    Settles (fun fuel => readToPrompt (deviceEnvironment arrivals host) fuel >>= next fuel) w Q
      (AfterPrompts arrivals P 1 w.env) := settles_prompts stopped rest

/-! ## The end of the thread -/

/-- The prompts of "fsync 0" and "trgin disable". -/
def Acknowledged (arrivals : Arrivals) (s : CameraPort) : Prop := ∃ count, 2 ≤ (upcoming arrivals s count).count 0x3E

theorem close_returns (arrivals : Arrivals) (host : HostAnswers) (w : World CameraPort) :
    ∃ log, close (deviceEnvironment arrivals host) w = (.ok (), { w with env := w.env.closed, log }) := by
  have closed : call (deviceEnvironment arrivals host) .close w = (.ok (), { w with env := w.env.closed }) :=
    call_ok rfl
  refine ⟨w.log ++ [(w.phase, .closed)], ?_⟩
  unfold close
  rw [bind_ok closed]
  rfl

theorem disconnect_returns (arrivals : Arrivals) (host : HostAnswers) (connected : w.serial = true) :
    ∃ t, disconnect (deviceEnvironment arrivals host) w = (.ok (), t) := by
  have called : call (deviceEnvironment arrivals host) (.connectCb false w.deviceInfo) w = (.ok (), w) := call_ok rfl
  unfold disconnect
  rw [bind_ok (get_apply w), bind_ok called, if_pos connected]
  obtain ⟨log, closes⟩ := close_returns arrivals host w
  exact ⟨_, closes⟩

theorem completes_prompts (stopped : FlagDown w) {next : Nat → Bool → SerialRoutine CameraPort Unit} {prompts : Nat}
    (rest : ∀ t log, FlagDown { w with env := t, log } →
      (Completes (fun fuel => next fuel true) { w with env := t, log } ↔
        AfterPrompts arrivals (fun _ => True) prompts t)) :
    Completes (fun fuel => readToPrompt (deviceEnvironment arrivals host) fuel >>= next fuel) w ↔
      AfterPrompts arrivals (fun _ => True) (prompts + 1) w.env := by
  by_cases comes : ∃ t, PromptRead arrivals w.env t
  · obtain ⟨t, read⟩ := comes
    obtain ⟨log, reads⟩ := readToPrompt_reads arrivals host read stopped
    rw [completes_bind_iff reads, afterPrompts_succ read]
    exact rest t log (stopped.moved t (read.isOpen.trans stopped.opened) log)
  · have waits := readToPrompt_never arrivals host comes stopped
    exact iff_of_false (not_completes_of_never waits.bind_first) (not_afterPrompts comes)

theorem secondAck_iff (stopped : FlagDown w) :
    Completes (fun fuel => secondAckRest (deviceEnvironment arrivals host) fuel) w ↔
      AfterPrompts arrivals (fun _ => True) 1 w.env := by
  apply completes_prompts stopped
  intro t log still
  obtain ⟨u, ended⟩ := disconnect_returns arrivals host still.connected
  exact iff_of_true ⟨_, .const (bind_ok ended)⟩ trivial

theorem firstAck_iff (stopped : FlagDown w) :
    Completes (fun fuel => firstAckRest (deviceEnvironment arrivals host) fuel) w ↔
      AfterPrompts arrivals (fun _ => True) 2 w.env := by
  apply completes_prompts stopped
  intro t log still
  obtain ⟨log', writes⟩ := write_stopped arrivals host still (ascii "trgin disable" ++ [0x0D])
  rw [completes_bind_iff (.const writes)]
  exact secondAck_iff (still.moved t still.opened log')

/-- Two prompts end a thread that has left the try block. -/
theorem closing_iff (stopped : FlagDown w) :
    Completes (fun fuel => closing (deviceEnvironment arrivals host) fuel) w ↔ Acknowledged arrivals w.env := by
  have still : FlagDown { w with phase := .closing } := ⟨stopped.down, stopped.connected, stopped.opened⟩
  obtain ⟨log, writes⟩ := write_stopped arrivals host still (ascii "fsync 0" ++ [0x0D])
  have same (fuel : Nat) : closing (deviceEnvironment arrivals host) fuel w =
      (write (deviceEnvironment arrivals host) (ascii "fsync 0" ++ [0x0D]) >>= fun _ =>
        firstAckRest (deviceEnvironment arrivals host) fuel) { w with phase := .closing } :=
    shutdown_eq _ fuel still.down still.connected
  have moved : Completes (fun fuel => closing (deviceEnvironment arrivals host) fuel) w ↔
      Completes (fun fuel => write (deviceEnvironment arrivals host) (ascii "fsync 0" ++ [0x0D]) >>= fun _ =>
        firstAckRest (deviceEnvironment arrivals host) fuel) { w with phase := .closing } := by
    unfold Completes Ends
    simp only [same]
  rw [moved, completes_bind_iff (.const writes), firstAck_iff (still.moved w.env still.opened log), afterPrompts_iff]
  rfl

/-- On a closed port the first command of the shutdown throws, outside the try block. -/
theorem closing_closed (down : w.running = false) (connected : w.serial = true) (closed : w.env.isOpen = false) :
    ¬ Completes (fun fuel => closing (deviceEnvironment arrivals host) fuel) w := by
  have answered : (deviceEnvironment arrivals host).answer (.write (ascii "fsync 0" ++ [0x0D])) w.env =
      (.error notOpened, w.env) := by
    show (if w.env.isOpen = true then _ else _, _) = _
    rw [if_neg (by rw [closed]; decide)]
  have thrown (fuel : Nat) : closing (deviceEnvironment arrivals host) fuel w =
      (.error (.thrown notOpened), { w with phase := .closing }) := by
    refine (shutdown_eq (w := { w with phase := .closing }) _ fuel down connected).trans ?_
    exact bind_stop (bind_stop (call_throws (w := { w with phase := .closing }) answered))
  exact not_completes_of_thrown ⟨0, fun fuel _ => thrown fuel⟩

/-! ## The rest of the try block -/

theorem mainLoop_stopped (arrivals : Arrivals) (host : HostAnswers) (config : WorkerConfig)
    (down : w.running = false) :
    Ends (fun fuel => mainLoop (deviceEnvironment arrivals host) config fuel) w (.ok (), w) := by
  have round (fuel : Nat) : mainRound (deviceEnvironment arrivals host) config fuel w = (.ok (.inr ()), w) := by
    unfold mainRound
    rw [bind_ok (isRunning_down down)]
    rfl
  exact (Ends.Loop.done ⟨0, fun fuel _ => round fuel⟩).ends

theorem setupAndStream_stopped (down : w.running = false) :
    Ends (fun fuel => setupAndStream (deviceEnvironment arrivals host) config fuel) w
      (.ok (), { w with phase := .streaming }) := by
  have loop := mainLoop_stopped arrivals host config (w := { w with phase := .streaming }) down
  have same (fuel : Nat) : setupAndStream (deviceEnvironment arrivals host) config fuel w =
      mainLoop (deviceEnvironment arrivals host) config fuel { w with phase := .streaming } := by
    unfold setupAndStream
    rw [bind_ok (isRunning_down down)]
    rfl
  obtain ⟨least, ends⟩ := loop
  exact ⟨least, fun fuel enough => (same fuel).trans (ends fuel enough)⟩

theorem discovered_stopped (down : w.running = false) (answer : Unit ⊕ Unit) :
    Ends (fun fuel => discovered (deviceEnvironment arrivals host) config fuel answer) w
      (.ok (), { w with phase := .streaming }) := by
  cases answer with
  | inl again =>
    have round (fuel : Nat) : discoverRound (deviceEnvironment arrivals host) config fuel w = (.ok (.inr ()), w) := by
      unfold discoverRound
      rw [bind_ok (isRunning_down down)]
      rfl
    have loop : Ends (fun fuel => loop (fun _ => discoverRound (deviceEnvironment arrivals host) config fuel) fuel ()) w
        (.ok (), w) := (Ends.Loop.done ⟨0, fun fuel _ => round fuel⟩).ends
    exact loop.bind (setupAndStream_stopped down)
  | inr done => exact setupAndStream_stopped down

/-! ## The end of a frame -/

/-- What `FlagDown` is about, at a state of the port. -/
def FlagDownAt (s : CameraPort) (w : World CameraPort) : Prop :=
  w.env = s ∧ w.running = false ∧ w.serial = true

theorem stopped_of_at {s : CameraPort} (at_ : FlagDownAt s w) (opened : s.isOpen = true) : FlagDown w :=
  ⟨at_.2.1, at_.2.2, at_.1 ▸ opened⟩

theorem deliverPointCloud_stopped {s : CameraPort} (at_ : FlagDownAt s w) (frameTs : BitVec 64)
    (points : List (Option (Vec3 ℚ))) :
    deliverPointCloud (deviceEnvironment arrivals host) config frameTs points w = (.ok (), w) := by
  unfold deliverPointCloud
  rw [bind_ok (isRunning_down at_.2.1), bind_ok (get_apply w)]
  rfl

theorem deliverImu_stopped {s : CameraPort} (at_ : FlagDownAt s w) :
    deliverImu (deviceEnvironment arrivals host) config w = (.ok (), w) := by
  unfold deliverImu
  rw [bind_ok (isRunning_down at_.2.1), bind_ok (get_apply w)]
  rfl

/-- The part that both kinds of frame have in common. -/
theorem finishImu_total {s : CameraPort} (frameTs : BitVec 64) (middle : SerialRoutine CameraPort Unit)
    (kept : Total (FlagDownAt s) middle (fun _ => FlagDownAt s) fun _ => FlagDownAt s) :
    Total (FlagDownAt s) (do
      unpackImu frameTs
      middle
      deliverImu (deviceEnvironment arrivals host) config) (fun _ => FlagDownAt s) fun _ => FlagDownAt s := by
  refine Total.bind (Q := fun _ => FlagDownAt s) (Total.modify fun _ at_ => at_) fun _ => ?_
  refine Total.bind kept fun _ => ?_
  exact Total.of_ok fun w at_ => ⟨(), w, deliverImu_stopped at_, at_⟩

theorem setClockOffset_total {s : CameraPort} (endTs : BitVec 64) :
    Total (FlagDownAt s) (setClockOffset (deviceEnvironment arrivals host) endTs) (fun _ => FlagDownAt s)
      fun _ => FlagDownAt s := by
  apply Total.of_ok
  intro w at_
  exact ⟨(), _, rfl, at_⟩

theorem noteParsed_total {s : CameraPort} (frameTs endTs : BitVec 64) :
    Total (FlagDownAt s) (noteParsed frameTs endTs : SerialRoutine CameraPort Unit) (fun _ => FlagDownAt s)
      fun _ => FlagDownAt s := by
  apply Total.of_ok
  intro w at_
  exact ⟨(), _, rfl, at_⟩

theorem finishHistFrame_total {s : CameraPort} (endTs : BitVec 64) :
    Total (FlagDownAt s) (finishHistFrame (deviceEnvironment arrivals host) config endTs) (fun _ => FlagDownAt s)
      fun _ => FlagDownAt s := by
  refine Total.bind (setClockOffset_total endTs) fun _ => ?_
  refine Total.bind (noteParsed_total _ endTs) fun _ => ?_
  exact finishImu_total _ (Pure.pure ()) (Total.pure fun _ at_ => at_)

theorem finishCdcFrame_total {s : CameraPort} (frameTs endTs : BitVec 64) :
    Total (FlagDownAt s) (finishCdcFrame (deviceEnvironment arrivals host) config frameTs endTs) (fun _ => FlagDownAt s)
      fun _ => FlagDownAt s := by
  refine Total.bind (setClockOffset_total endTs) fun _ => ?_
  refine Total.bind (noteParsed_total frameTs endTs) fun _ => ?_
  have points : Total (FlagDownAt s) (unpackPoints config : SerialRoutine CameraPort _) (fun _ => FlagDownAt s)
      fun _ => FlagDownAt s := by
    apply Total.get
    intro w at_
    cases unpackPointCloud config.modeInfo w.receiveBuf with
    | ok points => exact Total.pure fun _ same => same ▸ at_
    | error outside => exact Total.throw fun _ same => same ▸ at_
  refine Total.bind points fun points => ?_
  apply finishImu_total
  exact Total.of_ok fun w at_ => ⟨(), w, deliverPointCloud_stopped at_ frameTs points, at_⟩

end StoppedWorker

end AsDt1.Source
