import AsDt1.Guarantees.CloudEncoding
import AsDt1.Guarantees.LibraryFrames
import AsDt1.Guarantees.PayloadPoints
import AsDt1.Source.DriverMessages
import AsDt1.Source.WorkerCalls

/-!
# From the wire to the topics

The octets of a camera on the way through the system, the serial library, the
device and the node: each frame of the stream becomes one cloud, which a subscriber
reads back as the points of the payload, and the messages of its IMU records.
-/
namespace AsDt1.Guarantees
open AsDt1.Lib AsDt1.Source Routine

variable {σ K : Type}

/-! ## Messages of a frame -/

/-- What one call of `process_serial_data` has read. -/
structure ReadFrame where
  frameTs : BitVec 64
  endTs : BitVec 64
  payload : Octets
  imuRecords : List Octets

def ReadFrame.summary (read : ReadFrame) : Nat × Octets × List Octets × Nat :=
  (read.frameTs.toNat, read.payload, read.imuRecords, read.endTs.toNat)

/-- The samples of a frame that was received at `receiveTs`, and the sample clock behind it. -/
def ReadFrame.samples (read : ReadFrame) (receiveTs : BitVec 64) (latest : Int) : Int × List ImuSample :=
  unpackImuData read.frameTs (receiveTs - read.endTs) latest read.imuRecords

section Messages

variable (settings : NodeSettings K) (frameId : String)

variable [Field K]

/-- The messages of frames that were read, the first one received at `times clock`. -/
inductive ReadRun (times : Nat → BitVec 64) (mode : ModeInfo) :
    (clock : Nat) → (latest : Int) → List ReadFrame → List (Publication K) → Prop
  | nil {clock : Nat} {latest : Int} : ReadRun times mode clock latest [] []
  | cons {clock : Nat} {latest : Int} {read : ReadFrame} {reads : List ReadFrame}
      {points : List (Option (Vec3 ℚ))} {messages : List (Publication K)}
      (unpacked : unpackPointCloud mode read.payload = .ok points)
      (rest : ReadRun times mode (clock + 1) (read.samples (times clock) latest).1 reads messages) :
      ReadRun times mode clock latest (read :: reads)
        (pointCloudMessages settings frameId (read.frameTs + (times clock - read.endTs)) points ++
          imuMessages settings frameId (read.samples (times clock) latest).2 ++ messages)

end Messages

/-! ## The device on the library, in the node -/

variable [Field K]

/-- A worker on the library, with the node's callbacks and a host clock. -/
abbrev NodeWorld (σ K : Type) := World (Port σ × (Nat × NodeState K))

section Device

variable (sys : System σ) (port : PortSettings) (settings : NodeSettings K) (times : Nat → BitVec 64)

/-- What it sees. -/
abbrev nodeEnvironment : Environment (Port σ × (Nat × NodeState K)) :=
  libraryEnvironment sys port (driverHost settings (calmHost times))

omit [Field K] in
theorem answerFrom_host {τ α : Type} (r : PortRoutine σ α) (s : Port σ × τ) : (answerFrom r s).2.2 = s.2 := by
  unfold answerFrom
  split <;> rfl

theorem node_plain {α : Type} {c : HostCall α} (plain : c.plain = true) (s : Port σ × (Nat × NodeState K)) :
    ((nodeEnvironment sys port settings times).answer c s).2.2 = s.2 := by
  cases c with
  | openPort _ | connectCb _ _ | pointCloudCb _ _ | imuCb _ => cases plain
  | findPort => rfl
  | _ => exact answerFrom_host _ s

/-- The worker has only read since `w`. -/
structure ReadSince (w v : NodeWorld σ K) : Prop where
  running : v.running = true
  host : v.env.2 = w.env.2
  latest : v.latestImuSampleTs = w.latestImuSampleTs
  recovered : allRecovered v = allRecovered w

theorem readSince_steps (w : NodeWorld σ K) : StepsKeep (nodeEnvironment sys port settings times) (ReadSince w) where
  call c plain := by
    intro v read
    have host := node_plain sys port settings times plain v.env
    unfold call
    rcases outcome : (nodeEnvironment sys port settings times).answer c v.env with ⟨result, env⟩
    rw [outcome] at host
    have kept : ReadSince w { v with env } := { read with host := host.trans read.host }
    cases result with
    | ok a => exact kept
    | error failure => exact kept
  note event other := by
    apply Keeps.modify
    intro v read
    refine { read with recovered := ?_ }
    have nothing : recovered event = none := by
      cases event with
      | parsed _ _ _ _ => cases other
      | _ => rfl
    unfold allRecovered
    rw [List.map_append, List.filterMap_append, List.map_singleton, List.filterMap_cons_none nothing,
      List.filterMap_nil, List.append_nil]
    exact read.recovered
  enter _ := Keeps.modify fun _ read => { read with }
  isRunning := by
    intro v read
    rw [isRunning_up read.running rfl]
    exact read
  syncMode _ read := read
  frameRateHz _ read := read
  buffers _ _ _ read := { read with }

/-! ## One frame -/

variable (config : WorkerConfig)

/-- What a call of `process_serial_data` has done to the node. -/
structure FramePublished (w v : NodeWorld σ K) (read : ReadFrame) (points : List (Option (Vec3 ℚ))) : Prop where
  running : v.running = true
  clocks : v.env.2.1 = w.env.2.1 + 1
  unpacked : unpackPointCloud config.modeInfo read.payload = .ok points
  latest : v.latestImuSampleTs = (read.samples (times w.env.2.1) w.latestImuSampleTs).1
  recovered : allRecovered v = allRecovered w ++ [read.summary]
  node : v.env.2.2 = w.env.2.2.publish
    (pointCloudMessages settings w.env.2.2.depthFrameId (read.frameTs + (times w.env.2.1 - read.endTs)) points ++
      imuMessages settings w.env.2.2.depthFrameId (read.samples (times w.env.2.1) w.latestImuSampleTs).2)

variable {config}

/-- A running worker delivers a cloud to the node. -/
theorem deliverPointCloud_publishes (installed : config.hasPointCloudCb = true) {v : NodeWorld σ K}
    (running : v.running = true) (frameTs : BitVec 64) (points : List (Option (Vec3 ℚ))) :
    ∃ u, deliverPointCloud (nodeEnvironment sys port settings times) config frameTs points v = (.ok (), u) ∧
      u.running = true ∧ u.imuSamples = v.imuSamples ∧ u.latestImuSampleTs = v.latestImuSampleTs ∧
      allRecovered u = allRecovered v ∧
      u.env.2 = (v.env.2.1, publishPointCloud settings (frameTs + v.clockOffset) points v.env.2.2) := by
  unfold deliverPointCloud
  rw [bind_ok (isRunning_up running rfl), bind_ok (get_apply _), if_pos (by rw [installed]; rfl)]
  refine ⟨_, rfl, running, rfl, rfl, ?_, rfl⟩
  unfold allRecovered
  simp [recovered]

/-- Samples are delivered if there are any, which makes no difference to the node. -/
theorem deliverImu_publishes (installed : config.hasImuCb = true) {v : NodeWorld σ K} (running : v.running = true) :
    ∃ u, deliverImu (nodeEnvironment sys port settings times) config v = (.ok (), u) ∧
      u.running = true ∧ u.latestImuSampleTs = v.latestImuSampleTs ∧ allRecovered u = allRecovered v ∧
      u.env.2 = (v.env.2.1, publishImuSamples settings v.imuSamples v.env.2.2) := by
  unfold deliverImu
  rw [bind_ok (isRunning_up running rfl), bind_ok (get_apply _), installed]
  cases samples : v.imuSamples with
  | nil =>
    refine ⟨_, rfl, running, rfl, rfl, ?_⟩
    show v.env.2 = (v.env.2.1, v.env.2.2.publish [])
    unfold NodeState.publish
    rw [List.append_nil]
  | cons sample rest =>
    refine ⟨_, rfl, running, rfl, ?_, rfl⟩
    unfold allRecovered
    simp [recovered]

variable {sys port settings times}

theorem finishCdcFrame_publishes (clouds : config.hasPointCloudCb = true) (imus : config.hasImuCb = true)
    (w : NodeWorld σ K) (frameTs endTs : BitVec 64) :
    Triple (ReadSince w) (finishCdcFrame (nodeEnvironment sys port settings times) config frameTs endTs)
      (fun _ v => ∃ read points, FramePublished settings times config w v read points) fun _ => True := by
  intro v only
  let read : ReadFrame := ⟨frameTs, endTs, v.receiveBuf, v.imuData⟩
  let receiveTs := times v.env.2.1
  let parsed : NodeWorld σ K :=
    { v with env := (v.env.1, (v.env.2.1 + 1, v.env.2.2)), clockOffset := receiveTs - endTs,
             log := v.log ++ [(v.phase, .parsed frameTs endTs v.receiveBuf v.imuData)] }
  have noted : (do
      setClockOffset (nodeEnvironment sys port settings times) endTs
      noteParsed frameTs endTs : SerialRoutine (Port σ × (Nat × NodeState K)) Unit) v = (.ok (), parsed) := rfl
  have split : finishCdcFrame (nodeEnvironment sys port settings times) config frameTs endTs = (do
      (do setClockOffset (nodeEnvironment sys port settings times) endTs
          noteParsed frameTs endTs : SerialRoutine (Port σ × (Nat × NodeState K)) Unit)
      let points ← unpackPoints config
      unpackImu frameTs
      deliverPointCloud (nodeEnvironment sys port settings times) config frameTs points
      deliverImu (nodeEnvironment sys port settings times) config) := Routine.bind_assoc.symm
  rw [split, bind_ok noted]
  cases unpacked : unpackPointCloud config.modeInfo v.receiveBuf with
  | error outside =>
    have thrown : unpackPoints config parsed = (.error (.thrown .outOfRange), parsed) := by
      unfold unpackPoints
      rw [bind_ok (get_apply _), unpacked]
      rfl
    rw [bind_stop thrown]
    trivial
  | ok points =>
    have cut : unpackPoints config parsed = (.ok points, parsed) := by
      unfold unpackPoints
      rw [bind_ok (get_apply _), unpacked]
      rfl
    let ready : NodeWorld σ K :=
      { parsed with latestImuSampleTs := (read.samples receiveTs v.latestImuSampleTs).1,
                    imuSamples := (read.samples receiveTs v.latestImuSampleTs).2 }
    have prepared : unpackImu frameTs parsed = (.ok (), ready) := rfl
    obtain ⟨sent, cloud, running, samples, latest, recovered_, node⟩ :=
      deliverPointCloud_publishes sys port settings times clouds (v := ready) only.running frameTs points
    obtain ⟨done, imu, running', latest', recovered', node'⟩ :=
      deliverImu_publishes sys port settings times imus running
    rw [bind_ok cut, bind_ok prepared, bind_ok cloud, imu]
    have clock : v.env.2.1 = w.env.2.1 := congrArg Prod.fst only.host
    have before : v.env.2.2 = w.env.2.2 := congrArg Prod.snd only.host
    have tick : ready.env.2.1 = w.env.2.1 + 1 := congrArg (· + 1) clock
    have time : receiveTs = times w.env.2.1 := congrArg times clock
    have earlier : ready.env.2.2 = w.env.2.2 := before
    refine ⟨read, points, running', ?_, unpacked, ?_, ?_, ?_⟩
    · rw [node', node, tick]
    · rw [latest', latest, ← time, ← only.latest]
    · rw [recovered', recovered_, ← only.recovered]
      unfold allRecovered
      simp [ready, parsed, recovered, ReadFrame.summary, read]
    · rw [node', node, earlier, samples, ← time, ← only.latest]
      unfold publishImuSamples publishPointCloud NodeState.publish
      rw [List.append_assoc]

theorem processSerialData_publishes (cdc : config.kind = .cdc) (clouds : config.hasPointCloudCb = true)
    (imus : config.hasImuCb = true) (fuel : Nat) (w : NodeWorld σ K) (running : w.running = true) :
    Triple (fun v => v = w) (processSerialData (nodeEnvironment sys port settings times) config fuel)
      (fun _ v => ∃ read points, FramePublished settings times config w v read points) fun _ => True := by
  have steps := readSince_steps sys port settings times w
  have reading : ∀ {α : Type} {r : SerialRoutine (Port σ × (Nat × NodeState K)) α}, Keeps (ReadSince w) r →
      Triple (ReadSince w) r (fun _ => ReadSince w) fun _ => True :=
    fun keeps => keeps.conseq (fun _ holds => holds) (fun _ _ holds => holds) fun _ _ => trivial
  unfold processSerialData
  rw [cdc]
  refine Triple.bind (Q := fun _ => ReadSince w) ?_ fun startMs => ?_
  · apply (reading (steps.readTimestamp fuel)).conseq _ (fun _ _ holds => holds) fun _ holds => holds
    rintro v rfl
    exact ⟨running, rfl, rfl, rfl⟩
  refine Triple.bind (Q := fun up v => ReadSince w v ∧ up = true) ?_ fun up => ?_
  · intro v only
    rw [isRunning_up only.running rfl]
    exact ⟨only, rfl⟩
  · rintro v ⟨only, rfl⟩
    have frame : Triple (ReadSince w) (cdcFrame (nodeEnvironment sys port settings times) config fuel (startMs * 1000000))
        (fun _ v => ∃ read points, FramePublished settings times config w v read points) fun _ => True := by
      apply Triple.bind (reading (steps.readSerialPointCloud fuel))
      intro _
      apply Triple.bind (reading (steps.readImu fuel))
      intro _
      apply Triple.bind (reading (steps.readTimestamp fuel))
      intro endMs
      exact finishCdcFrame_publishes clouds imus w _ _
    exact frame v only

/-! ## Consecutive frames -/

/-- What the node has published since `w` are the messages of the frames read since. -/
structure FramesPublished (settings : NodeSettings K) (times : Nat → BitVec 64) (config : WorkerConfig)
    (w v : NodeWorld σ K) (reads : List ReadFrame) (messages : List (Publication K)) : Prop where
  node : v.env.2.2 = w.env.2.2.publish messages
  recovered : allRecovered v = allRecovered w ++ reads.map ReadFrame.summary
  run : ReadRun settings w.env.2.2.depthFrameId times config.modeInfo w.env.2.1 w.latestImuSampleTs reads messages

theorem processFrames_publishes (cdc : config.kind = .cdc) (clouds : config.hasPointCloudCb = true)
    (imus : config.hasImuCb = true) (fuel calls : Nat) (w : NodeWorld σ K) (running : w.running = true) :
    Triple (fun v => v = w) (processFrames (nodeEnvironment sys port settings times) config fuel calls)
      (fun _ v => ∃ reads messages, FramesPublished settings times config w v reads messages) fun _ => True := by
  induction calls generalizing w with
  | zero =>
    apply Triple.pure
    rintro v rfl
    refine ⟨[], [], ?_, (List.append_nil _).symm, .nil⟩
    unfold NodeState.publish
    rw [List.append_nil]
  | succ calls ih =>
    apply Triple.bind (processSerialData_publishes cdc clouds imus fuel w running)
    rintro _ u ⟨read, points, frame⟩
    apply (ih u frame.running).conseq (fun _ holds => holds) _ (fun _ holds => holds) u rfl
    rintro _ v ⟨reads, messages, rest⟩
    have run := rest.run
    rw [frame.node, frame.clocks, frame.latest] at run
    refine ⟨read :: reads, _, ?_, ?_, .cons frame.unpacked run⟩
    · rw [rest.node, frame.node]
      unfold NodeState.publish
      rw [List.append_assoc]
    · rw [rest.recovered, frame.recovered, List.map_cons, List.append_assoc, List.singleton_append]

end Device

/-! ## The frames of a stream -/

/-- The points of a payload in the order of the cloud. -/
def payloadPoints (mode : ModeInfo) (payload : Octets) : List (Option (Vec3 ℚ)) :=
  (List.range mode.pointCount).map fun i => pointOf (window payload (recordOf mode i * 15) 15)

/-- What the node reads of a frame. -/
def readOf {mode : ModeInfo} (frame : CdcFrame mode) : ReadFrame :=
  ⟨frame.start.nanoseconds, frame.finish.nanoseconds, frame.payload, frame.imuRecords⟩

/-- The messages of a stream: for each frame, the first one received at `times clock`, a
cloud that reads back as the points of the payload, and the samples of the records. -/
inductive TopicRun (settings : NodeSettings K) (frameId : String) (times : Nat → BitVec 64) {mode : ModeInfo} :
    (clock : Nat) → (latest : Int) → List (CdcFrame mode) → List (Publication K) → Prop
  | nil {clock : Nat} {latest : Int} : TopicRun settings frameId times clock latest [] []
  | cons {clock : Nat} {latest : Int} {frame : CdcFrame mode} {frames : List (CdcFrame mode)} {cloud : PointCloud2}
      {messages : List (Publication K)}
      (header : cloud.header = ⟨settings.stampOf (cloudStamp frame (times clock)), frameId⟩)
      (encodes : Encodes cloud (.xyz ((payloadPoints mode frame.payload).map pointFloats)))
      (rest : TopicRun settings frameId times (clock + 1) ((readOf frame).samples (times clock) latest).1 frames
        messages) :
      TopicRun settings frameId times clock latest (frame :: frames) (.pointCloud cloud ::
        (imuMessages settings frameId ((readOf frame).samples (times clock) latest).2 ++ messages))

theorem sent_read {mode : ModeInfo} {frame : CdcFrame mode} {read : ReadFrame} (same : read.summary = sent frame) :
    read = readOf frame := by
  obtain ⟨frameTs, endTs, payload, imuRecords⟩ := read
  have stamps := same
  unfold ReadFrame.summary sent at stamps
  simp only [Prod.mk.injEq] at stamps
  obtain ⟨start, rfl, rfl, finish⟩ := stamps
  unfold readOf
  congr 1
  · exact BitVec.eq_of_toNat_eq (start.trans frame.start.nanoseconds_toNat.symm)
  · exact BitVec.eq_of_toNat_eq (finish.trans frame.finish.nanoseconds_toNat.symm)

theorem reads_eq {mode : ModeInfo} {frames : List (CdcFrame mode)} {reads : List ReadFrame}
    (same : reads.map ReadFrame.summary = frames.map sent) : reads = frames.map readOf := by
  induction frames generalizing reads with
  | nil => exact List.map_eq_nil_iff.mp same
  | cons frame frames ih =>
    cases reads with
    | nil => cases same
    | cons read reads =>
      obtain ⟨first, others⟩ := List.cons.inj same
      rw [List.map_cons, sent_read first, ih others]

omit [Field K] in
theorem pointCloudMessages_encodes (settings : NodeSettings K) (xyz : settings.pcType = "XYZ") (frameId : String)
    (stamp : BitVec 64) {points : List (Option (Vec3 ℚ))} (few : points.length ≤ 576) :
    ∃ cloud, pointCloudMessages settings frameId stamp points = [.pointCloud cloud] ∧
      cloud.header = ⟨settings.stampOf stamp, frameId⟩ ∧ Encodes cloud (.xyz (points.map pointFloats)) := by
  obtain ⟨cloud, published, encodes⟩ := @xyz_encodes settings.stampOf frameId stamp (points.map pointFloats)
    (by rw [List.length_map]; omega)
  refine ⟨cloud, ?_, ?_, encodes⟩
  · unfold pointCloudMessages
    rw [xyz, published]
  · rw [xyz_message] at published
    rw [← Option.some.inj (Except.ok.inj published)]
    rfl

theorem ReadRun.topics {settings : NodeSettings K} (xyz : settings.pcType = "XYZ") {frameId : String}
    {times : Nat → BitVec 64} {mode : ModeInfo} (listed : mode ∈ dt1ModesList) {clock : Nat} {latest : Int}
    {frames : List (CdcFrame mode)} {messages : List (Publication K)}
    (run : ReadRun settings frameId times mode clock latest (frames.map readOf) messages) :
    TopicRun settings frameId times clock latest frames messages := by
  induction frames generalizing clock latest messages with
  | nil =>
    cases run
    exact .nil
  | cons frame frames ih =>
    cases run with
    | cons unpacked rest =>
      rename_i points messages
      have decoded : payloadPoints mode frame.payload = points :=
        Except.ok.inj ((unpackPointCloud_eq listed frame.payload_size).symm.trans unpacked)
      have at_most : ∀ mode ∈ dt1ModesList, mode.pointCount ≤ 576 := by decide
      have few : (payloadPoints mode frame.payload).length ≤ 576 := by
        unfold payloadPoints
        rw [List.length_map, List.length_range]
        exact at_most mode listed
      obtain ⟨cloud, message, header, encodes⟩ :=
        pointCloudMessages_encodes settings xyz frameId (cloudStamp frame (times clock)) few
      have first : pointCloudMessages settings frameId ((readOf frame).frameTs +
          (times clock - (readOf frame).endTs)) points = [.pointCloud cloud] := by
        rw [← decoded]
        exact message
      rw [first, List.append_assoc, List.singleton_append]
      exact .cons header encodes (ih rest)

theorem driverHost_calm (settings : NodeSettings K) (times : Nat → BitVec 64) :
    Calm times (driverHost settings (calmHost times)) Prod.fst where
  pointCloudCb _ _ _ := ⟨rfl, rfl⟩
  imuCb _ _ := ⟨rfl, rfl⟩
  stops _ := ⟨rfl, rfl⟩
  now _ := ⟨rfl, rfl⟩

/-- On every punctual system, however it cuts the stream: one call per frame, and what has been
published then is what the frames say, in their order, and nothing else. -/
theorem stream_reaches_topics (sys : System σ) (port : PortSettings) (rest : σ → Octets) (Good : Port σ → Prop)
    (punctual : Punctual sys port rest Good) (settings : NodeSettings K) (xyz : settings.pcType = "XYZ")
    (times : Nat → BitVec 64) (config : WorkerConfig) (cdc : config.kind = .cdc)
    (clouds : config.hasPointCloudCb = true) (imus : config.hasImuCb = true)
    (frames : List (CdcFrame config.modeInfo)) (tail : Octets) (w : NodeWorld σ K) (good : Good w.env.1)
    (running : w.running = true) (buffer : w.receiveBuf.length = config.modeInfo.payloadSize)
    (stream : rest w.env.1.system = streamOctets frames tail) :
    ∃ least, ∀ fuel, least ≤ fuel → ∃ v messages,
      processFrames (nodeEnvironment sys port settings times) config fuel frames.length w = (.ok (), v) ∧
      rest v.env.1.system = tail ∧ v.env.2.2 = w.env.2.2.publish messages ∧
      TopicRun settings w.env.2.2.depthFrameId times w.env.2.1 w.latestImuSampleTs frames messages := by
  obtain ⟨least, ended⟩ := library_frames punctual (driverHost_calm settings times) cdc good running buffer stream
  refine ⟨least, fun fuel enough => ?_⟩
  obtain ⟨v, returned, left, recovered_⟩ := ended fuel enough
  obtain ⟨reads, messages, published⟩ :=
    (processFrames_publishes cdc clouds imus fuel frames.length w running).value rfl returned
  obtain rfl : reads = frames.map readOf :=
    reads_eq (List.append_cancel_left (published.recovered.symm.trans recovered_))
  exact ⟨v, messages, returned, left, published.node, published.run.topics xyz (List.get_mem dt1ModesList config.mode)⟩

/-! A node without a calibration file, behind the connection of a camera. -/

def plainSettings : NodeSettings ℚ where
  cameras := []
  pcType := "XYZ"
  clock _ := ⟨0, 0⟩
  stampOf ns := ⟨ns.toNat / 1000000000, ns.toNat % 1000000000⟩
  quaternionOf _ := ⟨0, 0, 0, 1⟩
  accelOf counts := ⟨counts.x, counts.y, counts.z⟩
  gyroOf counts := ⟨counts.x, counts.y, counts.z⟩

def connectedWorld (rest : Octets) : NodeWorld PacedState ℚ :=
  { libraryWorld smallConfig.modeInfo rest with
    env := (freshPort rest, (0, onCamConnection plainSettings true .unset {})) }

theorem marked_stream_reaches_topics :
    let stream := streamOctets [markedFrame, markedFrame] []
    ∃ least, ∀ fuel, least ≤ fuel → ∃ v messages,
      processFrames (nodeEnvironment (pacedSystem 5) driverSettings plainSettings fun _ => 7) smallConfig fuel
        [markedFrame, markedFrame].length (connectedWorld stream) = (.ok (), v) ∧
      v.env.1.system.rest = [] ∧ v.env.2.2 = (connectedWorld stream).env.2.2.publish messages ∧
      TopicRun plainSettings "asdt1_optical" (fun _ => 7) 0 0 [markedFrame, markedFrame] messages := by
  intro stream
  exact stream_reaches_topics (pacedSystem 5) driverSettings PacedState.rest _ (paced_punctual (by decide))
    plainSettings rfl (fun _ => 7) smallConfig rfl rfl rfl [markedFrame, markedFrame] [] (connectedWorld stream)
    (paced_inTime rfl marked_stream_short) rfl (List.length_replicate ..) rfl

end AsDt1.Guarantees
