import AsDt1.Source.StreamReads

/-!
# What the driver recovers from a CDC stream

Whatever the payload holds and however the port cuts the stream into pieces, each
call of `process_serial_data` takes one frame off the stream and finds the parts
it was made of.
-/
namespace AsDt1.Guarantees
open AsDt1.Lib AsDt1.Source Routine

section Frames

variable (chunks : Nat → Nat) (times : Nat → BitVec 64) {w : World StreamState} {tail : Octets}

/-! ## The end of a frame -/

variable (config : WorkerConfig)

/-- The cloud delivered with a frame, in an event of its own. -/
def cloudEvents (timestamp : BitVec 64) (points : List (Option (Vec3 ℚ))) : List Event :=
  if config.hasPointCloudCb then [.pointCloud timestamp points] else []

/-- The samples delivered with a frame. -/
def imuEvents (samples : List ImuSample) : List Event :=
  if config.hasImuCb && !samples.isEmpty then [.imuSamples samples] else []

theorem deliverPointCloud_delivers (frameTs : BitVec 64) (points : List (Option (Vec3 ℚ)))
    (running : w.running = true) :
    deliverPointCloud (streamEnvironment chunks times) config frameTs points w =
      (.ok (), { w with log := w.log ++
        (cloudEvents config (frameTs + w.clockOffset) points).map fun event => (w.phase, event) }) := by
  unfold deliverPointCloud cloudEvents
  rw [bind_ok (isRunning_reads chunks times running), bind_ok (get_apply w), Bool.true_and]
  by_cases installed : config.hasPointCloudCb = true
  · rw [if_pos installed, if_pos installed]
    rfl
  · rw [if_neg installed, if_neg installed, List.map_nil, List.append_nil]
    rfl

theorem deliverImu_delivers (running : w.running = true) :
    deliverImu (streamEnvironment chunks times) config w =
      (.ok (), { w with
        log := w.log ++ (imuEvents config w.imuSamples).map fun event => (w.phase, event) }) := by
  unfold deliverImu imuEvents
  rw [bind_ok (isRunning_reads chunks times running), bind_ok (get_apply w), Bool.true_and]
  by_cases delivered : (config.hasImuCb && !w.imuSamples.isEmpty) = true
  · rw [if_pos delivered, if_pos delivered]
    rfl
  · rw [if_neg delivered, if_neg delivered, List.map_nil, List.append_nil]
    rfl

/-- The stamp of the cloud of a frame whose last line was read at `receiveTs`. -/
def cloudStamp {mode : ModeInfo} (frame : CdcFrame mode) (receiveTs : BitVec 64) : BitVec 64 :=
  frame.start.nanoseconds + (receiveTs - frame.finish.nanoseconds)

/-- The events of a frame: what was read from it, and what is delivered with it. -/
def frameEvents (frame : CdcFrame config.modeInfo) (receiveTs : BitVec 64)
    (points : List (Option (Vec3 ℚ))) (samples : List ImuSample) : List Event :=
  .parsed frame.start.nanoseconds frame.finish.nanoseconds frame.payload frame.imuRecords ::
    (cloudEvents config (cloudStamp frame receiveTs) points ++ imuEvents config samples)

/-- What the call for a frame has done when it returns. -/
structure Processed (frame : CdcFrame config.modeInfo) (w w' : World StreamState) (tail : Octets) : Prop where
  rest : w'.env.rest = tail
  running : w'.running = true
  buffer : w'.receiveBuf.length = config.modeInfo.payloadSize
  clocks : w'.env.clocks = w.env.clocks + 1
  outcomes : ∃ points samples,
    outcomes w' = outcomes w ++ frameEvents config frame (times w.env.clocks) points samples

theorem outcomes_noted {events : List Event} {w' : World StreamState}
    (seen : ∀ event ∈ events, isOutcome event = true)
    (log : w'.log = w.log ++ events.map fun event => (w.phase, event)) :
    outcomes w' = outcomes w ++ events := by
  unfold outcomes
  have kept : (events.map fun event => (w.phase, event)).map Prod.snd = events := by
    rw [List.map_map]
    exact List.map_id _
  rw [log, List.map_append, List.filter_append, kept, List.filter_eq_self.mpr seen]

theorem delivered_outcome {timestamp : BitVec 64} {points : List (Option (Vec3 ℚ))} {samples : List ImuSample}
    {event : Event} (delivered : event ∈ cloudEvents config timestamp points ++ imuEvents config samples) :
    isOutcome event = true := by
  unfold cloudEvents imuEvents at delivered
  rcases List.mem_append.mp delivered with cloud | imu
  · split at cloud
    · rw [List.mem_singleton.mp cloud]
      rfl
    · cases cloud
  · split at imu
    · rw [List.mem_singleton.mp imu]
      rfl
    · cases imu

theorem unpackPoints_ok {points : List (Option (Vec3 ℚ))}
    (unpacked : unpackPointCloud config.modeInfo w.receiveBuf = .ok points) :
    unpackPoints config w = (.ok points, w) := by
  unfold unpackPoints
  rw [bind_ok (get_apply w), unpacked]
  rfl

theorem finishCdcFrame_delivers (frameTs endTs : BitVec 64) (running : w.running = true)
    (buffer : w.receiveBuf.length = config.modeInfo.payloadSize) :
    ∃ points samples w', finishCdcFrame (streamEnvironment chunks times) config frameTs endTs w = (.ok (), w') ∧
      w'.env = { w.env with clocks := w.env.clocks + 1 } ∧ w'.running = true ∧ w'.receiveBuf = w.receiveBuf ∧
      outcomes w' = outcomes w ++ (.parsed frameTs endTs w.receiveBuf w.imuData ::
        (cloudEvents config (frameTs + (times w.env.clocks - endTs)) points ++ imuEvents config samples)) := by
  obtain ⟨points, unpacked⟩ := unpackPointCloud_ok (List.get_mem dt1ModesList config.mode) buffer
  -- the worker after `_clock_offset`, and after the unpacking
  let measured : World StreamState :=
    { w with env := { w.env with clocks := w.env.clocks + 1 }, clockOffset := times w.env.clocks - endTs }
  let parsed : World StreamState :=
    { measured with log := w.log ++ [(w.phase, .parsed frameTs endTs w.receiveBuf w.imuData)] }
  let data := unpackImuData frameTs parsed.clockOffset parsed.latestImuSampleTs parsed.imuData
  let ready : World StreamState := { parsed with latestImuSampleTs := data.1, imuSamples := data.2 }
  have clocked : setClockOffset (streamEnvironment chunks times) endTs w = (.ok (), measured) := rfl
  have noted : noteParsed frameTs endTs measured = (.ok (), parsed) := rfl
  have cut : unpackPoints config parsed = (.ok points, parsed) := unpackPoints_ok config unpacked
  have prepared : unpackImu frameTs parsed = (.ok (), ready) := rfl
  let sent : World StreamState := { ready with log := ready.log ++
    (cloudEvents config (frameTs + ready.clockOffset) points).map fun event => (ready.phase, event) }
  have cloud :
      deliverPointCloud (streamEnvironment chunks times) config frameTs points ready = (.ok (), sent) :=
    deliverPointCloud_delivers chunks times config frameTs points running
  let done : World StreamState :=
    { sent with log := sent.log ++ (imuEvents config data.2).map fun event => (sent.phase, event) }
  have imu : deliverImu (streamEnvironment chunks times) config sent = (.ok (), done) :=
    deliverImu_delivers chunks times config running
  have finished : finishCdcFrame (streamEnvironment chunks times) config frameTs endTs w = (.ok (), done) := by
    unfold finishCdcFrame
    rw [bind_ok clocked, bind_ok noted, bind_ok cut, bind_ok prepared, bind_ok cloud]
    exact imu
  refine ⟨points, data.2, done, finished, rfl, running, rfl, ?_⟩
  apply outcomes_noted
  · intro event listed
    rcases List.mem_cons.mp listed with rfl | delivered
    · rfl
    · exact delivered_outcome config delivered
  · show ((w.log ++ [_]) ++ _) ++ _ = _
    rw [List.map_cons, List.map_append, List.append_assoc, List.append_assoc, List.singleton_append]

/-- The frame behind its start line. -/
theorem cdcFrame_ends (frame : CdcFrame config.modeInfo) (delivers : Delivers chunks)
    (running : w.running = true)
    (buffer : w.receiveBuf.length = config.modeInfo.payloadSize)
    (stream : w.env.rest = frame.cloudMark.octets ++ (frame.payload ++ (linesOctets frame.beforeImu ++
      (frame.imuMark.octets ++ (frame.imuRecords.flatten ++ (ascii "END" ++
        (linesOctets frame.beforeStamp ++ (frame.finish.octets ++ tail)))))))) :
    ∃ w', Ends (fun fuel => cdcFrame (streamEnvironment chunks times) config fuel frame.start.nanoseconds) w
        (.ok (), w') ∧
      Processed times config frame w w' tail := by
  obtain ⟨s, cloud, on_cloud⟩ := readSerialPointCloud_ends chunks times delivers frame.cloud_marked running
    (frame.payload_size.trans buffer.symm) stream
  obtain ⟨t, imu, on_imu⟩ :=
    readImu_ends chunks times delivers frame.before_imu frame.imu_marked frame.records_size
    frame.not_end (on_cloud.running.trans running) on_cloud.rest
  obtain ⟨u, finish, on_finish⟩ := readTimestamp_ends chunks times frame.before_stamp
    (on_imu.running.trans (on_cloud.running.trans running)) on_imu.rest
  have on := on_cloud.trans (on_imu.trans on_finish)
  have payload : u.receiveBuf = frame.payload := by rw [on.receiveBuf, on_imu.receiveBuf, on_cloud.receiveBuf]
  have records : u.imuData = frame.imuRecords := by rw [on.imuData, on_imu.imuData]
  obtain ⟨points, samples, w', finished, env, up, buffer', events⟩ :=
    finishCdcFrame_delivers chunks times config
    frame.start.nanoseconds frame.finish.nanoseconds (on.running.trans running)
    ((congrArg List.length payload).trans frame.payload_size)
  refine ⟨w', .bind cloud (.bind imu (.bind finish (.const finished))), ?_, up, ?_, ?_, points, samples, ?_⟩
  · rw [env]
    exact on.rest
  · rw [buffer', payload, frame.payload_size]
  · rw [env]
    exact congrArg (· + 1) on.clocks
  · rw [events, on.outcomes, on.clocks, payload, records]
    rfl

theorem processSerialData_ends (cdc : config.kind = .cdc) (frame : CdcFrame config.modeInfo)
    (delivers : Delivers chunks)
    (running : w.running = true) (buffer : w.receiveBuf.length = config.modeInfo.payloadSize)
    (stream : w.env.rest = frame.octets ++ tail) :
    ∃ w', Ends (fun fuel => processSerialData (streamEnvironment chunks times) config fuel) w (.ok (), w') ∧
      Processed times config frame w w' tail := by
  have no_lines : ∀ line ∈ ([] : List TextLine), ¬ ascii "tm=" <:+: line.octets := by simp
  unfold CdcFrame.octets at stream
  simp only [List.append_assoc] at stream
  obtain ⟨u, start, on⟩ := readTimestamp_ends chunks times no_lines running stream
  have still : u.running = true := on.running.trans running
  have sized : u.receiveBuf.length = config.modeInfo.payloadSize := by rw [on.receiveBuf, buffer]
  obtain ⟨w', rest, processed⟩ := cdcFrame_ends chunks times config frame delivers still sized on.rest
  unfold processSerialData
  rw [cdc]
  refine ⟨w', .bind start (.bind (.const (isRunning_reads chunks times still)) rest), ?_⟩
  obtain ⟨points, samples, events⟩ := processed.outcomes
  refine ⟨processed.rest, processed.running, processed.buffer, ?_, points, samples, ?_⟩
  · rw [processed.clocks, on.clocks]
  · rw [events, on.outcomes, on.clocks]

/-- The events of consecutive frames, the first one received at `times clock`. -/
inductive FrameRun : (clock : Nat) → List (CdcFrame config.modeInfo) → List Event → Prop
  | nil {clock : Nat} : FrameRun clock [] []
  | cons {clock : Nat} {frame : CdcFrame config.modeInfo} {frames : List (CdcFrame config.modeInfo)}
      {events : List Event} (points : List (Option (Vec3 ℚ))) (samples : List ImuSample)
      (rest : FrameRun (clock + 1) frames events) :
      FrameRun clock (frame :: frames) (frameEvents config frame (times clock) points samples ++ events)

/-- One call per frame: the run of the worker over a stream. -/
theorem processFrames_ends (cdc : config.kind = .cdc) (delivers : Delivers chunks)
    (frames : List (CdcFrame config.modeInfo)) (running : w.running = true)
    (buffer : w.receiveBuf.length = config.modeInfo.payloadSize)
    (stream : w.env.rest = streamOctets frames tail) :
    ∃ w',
      Ends (fun fuel => processFrames (streamEnvironment chunks times) config fuel frames.length) w
        (.ok (), w') ∧
      w'.env.rest = tail ∧
      ∃ events, outcomes w' = outcomes w ++ events ∧ FrameRun times config w.env.clocks frames events := by
  induction frames generalizing w with
  | nil => exact ⟨w, .const rfl, stream, [], (List.append_nil _).symm, .nil⟩
  | cons frame frames ih =>
    have ahead : w.env.rest = frame.octets ++ streamOctets frames tail := by
      rw [stream]
      exact List.append_assoc ..
    obtain ⟨u, call, processed⟩ :=
      processSerialData_ends chunks times config cdc frame delivers running buffer ahead
    obtain ⟨w', rest, left, events, seen, run⟩ := ih processed.running processed.buffer processed.rest
    obtain ⟨points, samples, first⟩ := processed.outcomes
    rw [processed.clocks] at run
    refine ⟨w', .bind call rest, left, _, ?_, .cons points samples run⟩
    rw [seen, first, List.append_assoc]

end Frames

/-! ## What is recovered -/

/-- Start timestamp in nanoseconds, payload, IMU records and end timestamp. -/
def recovered : Event → Option (Nat × Octets × List Octets × Nat)
  | .parsed frameTs endTs receiveBuf imuData => some (frameTs.toNat, receiveBuf, imuData, endTs.toNat)
  | _ => none

def sent {mode : ModeInfo} (frame : CdcFrame mode) : Nat × Octets × List Octets × Nat :=
  (frame.start.stamp * 1000000, frame.payload, frame.imuRecords, frame.finish.stamp * 1000000)

theorem frameEvents_recovered (config : WorkerConfig) (frame : CdcFrame config.modeInfo) (receiveTs : BitVec 64)
    (points : List (Option (Vec3 ℚ))) (samples : List ImuSample) :
    (frameEvents config frame receiveTs points samples).filterMap recovered = [sent frame] := by
  have nothing : (cloudEvents config (cloudStamp frame receiveTs) points ++ imuEvents config samples).filterMap
      recovered = [] := by
    unfold cloudEvents imuEvents
    rw [List.filterMap_append]
    split <;> split <;> rfl
  unfold frameEvents
  rw [List.filterMap_cons_some (b := sent frame), nothing]
  show some (frame.start.nanoseconds.toNat, _, _, frame.finish.nanoseconds.toNat) = some (sent frame)
  rw [StampLine.nanoseconds_toNat, StampLine.nanoseconds_toNat]
  rfl

theorem FrameRun.recovered {times : Nat → BitVec 64} {config : WorkerConfig} {clock : Nat}
    {frames : List (CdcFrame config.modeInfo)} {events : List Event}
    (run : FrameRun times config clock frames events) :
    events.filterMap recovered = frames.map sent := by
  induction run with
  | nil => rfl
  | cons points samples rest ih =>
    rw [List.filterMap_append, frameEvents_recovered, ih]
    rfl

/-- After `calls` calls the first `calls` frames have been recovered and the stream
is at the start of the next one. -/
theorem frames_recovered (config : WorkerConfig) (cdc : config.kind = .cdc) (chunks : Nat → Nat)
    (delivers : Delivers chunks) (times : Nat → BitVec 64) (frames : List (CdcFrame config.modeInfo))
    (tail : Octets)
    (w : World StreamState) (running : w.running = true)
    (buffer : w.receiveBuf.length = config.modeInfo.payloadSize)
    (stream : w.env.rest = streamOctets frames tail)
    (calls : Nat) (within : calls ≤ frames.length) :
    ∃ w', Ends (fun fuel => processFrames (streamEnvironment chunks times) config fuel calls) w (.ok (), w') ∧
      w'.env.rest = streamOctets (frames.drop calls) tail ∧
      (outcomes w').filterMap recovered = (outcomes w).filterMap recovered ++ (frames.take calls).map sent := by
  have split : w.env.rest = streamOctets (frames.take calls) (streamOctets (frames.drop calls) tail) := by
    unfold streamOctets
    rw [← List.append_assoc, ← List.flatMap_append, List.take_append_drop]
    exact stream
  obtain ⟨w', run, rest, events, seen, frame_run⟩ :=
    processFrames_ends chunks times config cdc delivers (frames.take calls) running buffer split
  rw [List.length_take, Nat.min_eq_left within] at run
  refine ⟨w', run, rest, ?_⟩
  rw [seen, List.filterMap_append, frame_run.recovered]

/-! A worker on the mode with the smallest payload, and a frame for it whose payload
and record hold the texts that the reads look for. -/

def smallConfig : WorkerConfig := ⟨.cdc, ⟨3, by decide⟩, true, true⟩

/-- A timestamp with nothing after its digits. -/
def bareStamp (digits : Octets) (number : digits ≠ [] ∧ ∀ c ∈ digits, isDigit c = true)
    (bound : decimal digits < 2 ^ 44) (short : (ascii "tm=" ++ digits ++ []).length + 1 < 65536) :
    StampLine where
  digits
  text := []
  number
  number_ends := by simp
  bound
  one_line := List.not_mem_nil
  short

def markedFrame : CdcFrame smallConfig.modeInfo where
  start := ⟨ascii "2", ascii " ms", by decide, by decide, by decide, by decide, by decide⟩
  cloudMark := ⟨ascii "BEGIN MP", by decide, by decide⟩
  cloud_marked := by decide
  payload := ascii "END\ntm=9\n" ++ List.replicate 4311 0
  payload_size := by
    rw [List.length_append, List.length_replicate]
    rfl
  beforeImu := [⟨ascii "BEGIN", by decide, by decide⟩]
  before_imu := by decide
  imuMark := ⟨ascii "BEGIN IMU", by decide, by decide⟩
  imu_marked := by decide
  imuRecords := [ascii "BEGIN IMU\ntm=8\n\n"]
  records_size := by decide
  not_end := by decide
  beforeStamp := [⟨[0x0D], by decide, by decide⟩]
  before_stamp := by decide
  finish := bareStamp (ascii "42") (by decide) (by decide) (by decide)

def waitingWorld (mode : ModeInfo) (rest : Octets) : World StreamState where
  env := ⟨rest, 0, 0⟩
  running := true
  serial := true
  deviceInfo := .unset
  receiveBuf := List.replicate mode.payloadSize 0
  imuData := []
  imuSamples := []
  latestImuSampleTs := 0
  clockOffset := 0
  phase := .streaming
  log := []

/-- Every other read times out, the others return one octet. -/
theorem marked_frame_recovered :
    ∃ w', Ends (fun fuel => processFrames (streamEnvironment (fun k => k % 2) fun _ => 7) smallConfig fuel 1)
        (waitingWorld smallConfig.modeInfo (streamOctets [markedFrame] [])) (.ok (), w') ∧
      w'.env.rest = [] ∧ (outcomes w').filterMap recovered = [sent markedFrame] := by
  have delivers : Delivers fun k => k % 2 := by
    intro k
    refine ⟨2 * k + 1, by omega, ?_⟩
    show 0 < (2 * k + 1) % 2
    omega
  exact frames_recovered smallConfig rfl (fun k => k % 2) delivers (fun _ => 7) [markedFrame] [] _ rfl
    (List.length_replicate ..) rfl 1 (Nat.le_refl 1)

end AsDt1.Guarantees
