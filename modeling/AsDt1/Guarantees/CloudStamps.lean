import AsDt1.Guarantees.FrameRecovery

/-!
# The stamps of consecutive point clouds

A cloud is stamped with its start timestamp plus the offset measured at its own
last line, so its stamp is the receive time less the frame's duration on the
device. A frame that is longer than the one before it by more than the receive
times are apart gets an earlier stamp than that one.
-/
namespace AsDt1.Guarantees
open AsDt1.Lib AsDt1.Source Routine

def stampOf : Event → Option (BitVec 64)
  | .pointCloud timestamp _ => some timestamp
  | _ => none

/-- The timestamps passed to the point cloud callback so far. -/
def publishedStamps (w : World StreamState) : List (BitVec 64) := (outcomes w).filterMap stampOf

variable {mode : ModeInfo}

/-- Consecutive frames with the times at which their last lines are read. -/
def receivedAt (times : Nat → BitVec 64) (clock : Nat) (frames : List (CdcFrame mode)) :
    List (CdcFrame mode × BitVec 64) :=
  (frames.zipIdx clock).map fun numbered => (numbered.1, times numbered.2)

/-- Nanoseconds between the two timestamps of a frame. -/
def duration (frame : CdcFrame mode) : Nat := (frame.finish.stamp - frame.start.stamp) * 1000000

/-- `uint64_t` wraps if a frame is longer than the host clock has been running. -/
def borrow (frame : CdcFrame mode) (receiveTs : BitVec 64) : Nat :=
  if receiveTs.toNat < duration frame then 2 ^ 64 else 0

/-- From one frame to the next the receive time grows by more than the duration. -/
def GainsTime (earlier later : CdcFrame mode × BitVec 64) : Prop :=
  earlier.2.toNat + borrow earlier.1 earlier.2 + duration later.1 <
    later.2.toNat + borrow later.1 later.2 + duration earlier.1

instance (earlier later : CdcFrame mode × BitVec 64) : Decidable (GainsTime earlier later) :=
  inferInstanceAs (Decidable (_ < _))

/-- Timestamps as of a device whose frames follow each other, and receive times
that increase. -/
def FramesInOrder (received : List (CdcFrame mode × BitVec 64)) : Prop :=
  (∀ frame ∈ received, frame.1.start.stamp < frame.1.finish.stamp) ∧
    received.IsChain fun earlier later =>
      earlier.1.finish.stamp ≤ later.1.start.stamp ∧ earlier.2.toNat < later.2.toNat

theorem cloudStamp_toNat {frame : CdcFrame mode} (receiveTs : BitVec 64)
    (ordered : frame.start.stamp < frame.finish.stamp) :
    (cloudStamp frame receiveTs).toNat + duration frame = receiveTs.toNat + borrow frame receiveTs := by
  have start := frame.start.nanoseconds_toNat
  have finish := frame.finish.nanoseconds_toNat
  have start_bound := frame.start.nanoseconds.isLt
  have finish_bound := frame.finish.nanoseconds.isLt
  have receive_bound := receiveTs.isLt
  unfold cloudStamp borrow duration
  rw [BitVec.toNat_add, BitVec.toNat_sub, start, finish]
  split <;> omega

/-- Stamps compare as the receive times do, less the durations. -/
theorem cloudStamp_lt_iff {earlier later : CdcFrame mode × BitVec 64}
    (ordered : earlier.1.start.stamp < earlier.1.finish.stamp)
    (ordered' : later.1.start.stamp < later.1.finish.stamp) :
    cloudStamp earlier.1 earlier.2 < cloudStamp later.1 later.2 ↔ GainsTime earlier later := by
  have first := cloudStamp_toNat earlier.2 ordered
  have second := cloudStamp_toNat later.2 ordered'
  unfold GainsTime
  rw [BitVec.lt_def]
  omega

theorem stamps_increase_iff {received : List (CdcFrame mode × BitVec 64)}
    (ordered : ∀ frame ∈ received, frame.1.start.stamp < frame.1.finish.stamp) :
    (received.map fun frame => cloudStamp frame.1 frame.2).Pairwise (· < ·) ↔ received.IsChain GainsTime := by
  rw [← List.isChain_iff_pairwise, List.isChain_map]
  induction received with
  | nil => simp
  | cons earlier rest ih =>
    have later_ordered : ∀ frame ∈ rest, frame.1.start.stamp < frame.1.finish.stamp :=
      fun frame listed => ordered frame (List.mem_cons_of_mem _ listed)
    cases rest with
    | nil => simp
    | cons later rest =>
      rw [List.isChain_cons_cons, List.isChain_cons_cons, ih later_ordered, cloudStamp_lt_iff
        (ordered earlier (List.mem_cons_self ..)) (later_ordered later (List.mem_cons_self ..))]

theorem frameEvents_stamps (config : WorkerConfig) (installed : config.hasPointCloudCb = true)
    (frame : CdcFrame config.modeInfo) (receiveTs : BitVec 64) (points : List (Option (Vec3 ℚ)))
    (samples : List ImuSample) :
    (frameEvents config frame receiveTs points samples).filterMap stampOf = [cloudStamp frame receiveTs] := by
  have no_stamp : (imuEvents config samples).filterMap stampOf = [] := by
    unfold imuEvents
    split <;> rfl
  have stamped : stampOf (.pointCloud (cloudStamp frame receiveTs) points) =
      some (cloudStamp frame receiveTs) := rfl
  unfold frameEvents cloudEvents
  rw [if_pos installed, List.filterMap_cons_none rfl, List.singleton_append,
    List.filterMap_cons_some stamped, no_stamp]

theorem FrameRun.stamps {times : Nat → BitVec 64} {config : WorkerConfig} {clock : Nat}
    {frames : List (CdcFrame config.modeInfo)} {events : List Event} (installed : config.hasPointCloudCb = true)
    (run : FrameRun times config clock frames events) :
    events.filterMap stampOf = (receivedAt times clock frames).map fun frame => cloudStamp frame.1 frame.2 := by
  induction run with
  | nil => rfl
  | cons points samples rest ih =>
    rw [List.filterMap_append, frameEvents_stamps config installed, ih]
    rfl

/-- The run of the worker over a stream, with the stamps it publishes. -/
theorem published_stamps (config : WorkerConfig) (cdc : config.kind = .cdc)
    (installed : config.hasPointCloudCb = true) (chunks : Nat → Nat) (delivers : Delivers chunks)
    (times : Nat → BitVec 64) (frames : List (CdcFrame config.modeInfo)) (tail : Octets) (w : World StreamState)
    (running : w.running = true) (buffer : w.receiveBuf.length = config.modeInfo.payloadSize)
    (stream : w.env.rest = streamOctets frames tail) :
    ∃ w',
      Ends (fun fuel => processFrames (streamEnvironment chunks times) config fuel frames.length) w
        (.ok (), w') ∧
      publishedStamps w' = publishedStamps w ++
        (receivedAt times w.env.clocks frames).map fun frame => cloudStamp frame.1 frame.2 := by
  obtain ⟨w', run, -, events, seen, frame_run⟩ :=
    processFrames_ends chunks times config cdc delivers frames running buffer stream
  refine ⟨w', run, ?_⟩
  unfold publishedStamps
  rw [seen, List.filterMap_append, frame_run.stamps installed]

/-- The stamps of a run strictly increase if and only if from each frame to the
next the receive time grows by more than the duration of the frame does. -/
theorem cloud_stamps_increase_iff (config : WorkerConfig) (cdc : config.kind = .cdc)
    (installed : config.hasPointCloudCb = true) (chunks : Nat → Nat) (delivers : Delivers chunks)
    (times : Nat → BitVec 64) (frames : List (CdcFrame config.modeInfo)) (tail : Octets) (w : World StreamState)
    (running : w.running = true) (buffer : w.receiveBuf.length = config.modeInfo.payloadSize)
    (stream : w.env.rest = streamOctets frames tail)
    (timed : FramesInOrder (receivedAt times w.env.clocks frames)) :
    ∃ w' stamps,
      Ends (fun fuel => processFrames (streamEnvironment chunks times) config fuel frames.length) w
        (.ok (), w') ∧
      publishedStamps w' = publishedStamps w ++ stamps ∧
      (stamps.Pairwise (· < ·) ↔ (receivedAt times w.env.clocks frames).IsChain GainsTime) := by
  obtain ⟨w', run, seen⟩ :=
    published_stamps config cdc installed chunks delivers times frames tail w running buffer stream
  exact ⟨w', _, run, seen, stamps_increase_iff timed.1⟩

/-! Two frames as they would be sent, and two that arrive in a burst. -/

def timedFrame (start finish : StampLine) : CdcFrame smallConfig.modeInfo := { markedFrame with start, finish }

def line0 : StampLine := bareStamp (ascii "0") (by decide) (by decide) (by decide)
def line10 : StampLine := bareStamp (ascii "10") (by decide) (by decide) (by decide)
def line20 : StampLine := bareStamp (ascii "20") (by decide) (by decide) (by decide)
def line50 : StampLine := bareStamp (ascii "50") (by decide) (by decide) (by decide)

def steadyFrames : List (CdcFrame smallConfig.modeInfo) := [timedFrame line0 line10, timedFrame line10 line20]

def burstFrames : List (CdcFrame smallConfig.modeInfo) := [timedFrame line0 line10, timedFrame line10 line50]

/-- The last lines are read one millisecond apart. -/
def hostTimes (k : Nat) : BitVec 64 := BitVec.ofNat 64 (1700000000000000000 + k * 1000000)

def startedWorld (frames : List (CdcFrame smallConfig.modeInfo)) : World StreamState :=
  waitingWorld smallConfig.modeInfo (streamOctets frames [])

theorem every_read_delivers : Delivers fun _ => 15 := fun k => ⟨k, Nat.le_refl k, Nat.succ_pos 14⟩

theorem steady_stamps_increase :
    ∃ w' stamps,
      Ends (fun fuel => processFrames (streamEnvironment (fun _ => 15) hostTimes) smallConfig fuel 2)
        (startedWorld steadyFrames) (.ok (), w') ∧
      publishedStamps w' = stamps ∧ stamps.Pairwise (· < ·) := by
  obtain ⟨w', stamps, run, seen, increase⟩ := cloud_stamps_increase_iff smallConfig rfl rfl (fun _ => 15)
    every_read_delivers hostTimes steadyFrames [] (startedWorld steadyFrames) rfl (List.length_replicate ..) rfl
    (by unfold FramesInOrder; decide)
  exact ⟨w', stamps, run, seen, increase.mpr (by decide)⟩

/-- The second frame lasts 40 ms, the first 10 ms; both have been buffered and are
read within a millisecond. -/
theorem burst_stamps_go_back :
    FramesInOrder (receivedAt hostTimes 0 burstFrames) ∧ ∃ w',
      Ends (fun fuel => processFrames (streamEnvironment (fun _ => 15) hostTimes) smallConfig fuel 2)
        (startedWorld burstFrames) (.ok (), w') ∧
      publishedStamps w' = [1699999999990000000, 1699999999961000000] := by
  obtain ⟨w', run, seen⟩ := published_stamps smallConfig rfl rfl (fun _ => 15) every_read_delivers hostTimes
    burstFrames [] (startedWorld burstFrames) rfl (List.length_replicate ..) rfl
  refine ⟨by unfold FramesInOrder; decide, w', run, ?_⟩
  rw [seen]
  decide

end AsDt1.Guarantees
