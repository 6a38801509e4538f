import AsDt1.Source.DriverMessages
import AsDt1.Source.WorkerCalls

/-!
# Messages and the transforms in front of them

The node tells the frame of a camera when it connects, and its messages refer to
that frame. The worker calls back in this order only: over any number of sessions,
with any cameras, each message is in the frame of the last transform before it.
-/
namespace AsDt1.Guarantees
open AsDt1.Lib AsDt1.Source Routine

variable {τ K : Type}

/-! ## Frames of messages -/

def messageFrame : Publication K → Option String
  | .transform _ => none
  | .pointCloud msg => some msg.header.frameId
  | .imu msg => some msg.header.frameId

/-- Each message is in the frame of the last transform before it, or in `frame` if there is none. -/
def InBroadcastFrame : (frame : Option String) → List (Publication K) → Prop
  | _, [] => True
  | _, .transform ts :: rest => InBroadcastFrame (some ts.childFrameId) rest
  | frame, .pointCloud msg :: rest => frame = some msg.header.frameId ∧ InBroadcastFrame frame rest
  | frame, .imu msg :: rest => frame = some msg.header.frameId ∧ InBroadcastFrame frame rest

theorem inBroadcastFrame_same {frame : String} {messages : List (Publication K)}
    (same : ∀ message ∈ messages, messageFrame message = some frame) : InBroadcastFrame (some frame) messages := by
  induction messages with
  | nil => trivial
  | cons message rest ih =>
    have behind := ih fun other listed => same other (List.mem_cons_of_mem _ listed)
    have here := same message List.mem_cons_self
    cases message with
    | transform ts => cases here
    | pointCloud msg => exact ⟨here.symm, behind⟩
    | imu msg => exact ⟨here.symm, behind⟩

theorem inBroadcastFrame_transform {frame : Option String} {front messages : List (Publication K)}
    {ts : TransformStamped K} (before : InBroadcastFrame frame front)
    (same : ∀ message ∈ messages, messageFrame message = some ts.childFrameId) :
    InBroadcastFrame frame (front ++ .transform ts :: messages) := by
  induction front generalizing frame with
  | nil => exact inBroadcastFrame_same same
  | cons message rest ih =>
    cases message with
    | transform earlier => exact ih before
    | pointCloud msg => exact ⟨before.1, ih before.2⟩
    | imu msg => exact ⟨before.1, ih before.2⟩

/-! ## Callbacks -/

/-- A cloud is published in the frame of the node, if at all. -/
theorem pointCloudMessages_frame (settings : NodeSettings K) (frameId : String) (frameTs : BitVec 64)
    (points : List (Option (Vec3 ℚ))) :
    ∀ message ∈ pointCloudMessages settings frameId frameTs points, messageFrame message = some frameId := by
  intro message listed
  unfold pointCloudMessages at listed
  split at listed
  · rename_i msg published
    rw [List.mem_singleton.mp listed]
    unfold onPointCloud at published
    simp only [not_true_eq_false, if_false] at published
    cases copied : copyOctets _ _ _ with
    | error undefined =>
      rw [copied] at published
      cases published
    | ok data =>
      rw [copied] at published
      cases published
      rfl
  · cases listed
  · cases listed

variable [Field K]

/-- The first entry of the calibration file for a camera, or none of its values. -/
def calibrationOf (settings : NodeSettings K) (info : DeviceInfo) : CameraCalibration K :=
  (CalibrationParser.getCalibration settings.cameras (byteText info.hwId)).getD .unset

def orDefault (name default : String) : String := if name = "" then default else name

/-- The transform told of a camera is that of its calibration. -/
structure BroadcastFor (settings : NodeSettings K) (info : DeviceInfo) (ts : TransformStamped K) : Prop where
  child : ts.childFrameId = orDefault (calibrationOf settings info).frameId depthFrame
  parent : ts.header.frameId = orDefault (calibrationOf settings info).parentFrameId colorCameraFrame
  translation : ts.translation = inMetres (calibrationOf settings info).extrinsics.translation
  rotation : ts.rotation = settings.quaternionOf (calibrationOf settings info).extrinsics.rotation

/-- The transform of the camera and messages in its frame have been added. -/
def Announced (settings : NodeSettings K) (before after : NodeState K) (info : DeviceInfo) : Prop :=
  ∃ ts messages, BroadcastFor settings info ts ∧ after.depthFrameId = ts.childFrameId ∧
    after.published = before.published ++ .transform ts :: messages ∧
    ∀ message ∈ messages, messageFrame message = some ts.childFrameId

/-- A connected camera is announced. -/
theorem onCamConnection_announces (settings : NodeSettings K) (info : DeviceInfo) (node : NodeState K) :
    Announced settings node (onCamConnection settings true info node) info := by
  unfold onCamConnection
  rw [if_pos rfl]
  cases found : CalibrationParser.getCalibration settings.cameras (byteText info.hwId) with
  | some calibration =>
    have same : calibrationOf settings info = calibration := by
      unfold calibrationOf
      rw [found]
      rfl
    refine ⟨_, [], ⟨?_, ?_, ?_, ?_⟩, rfl, rfl, fun _ listed => by cases listed⟩
    all_goals rw [same]; rfl
  | none =>
    have same : calibrationOf settings info = .unset := by
      unfold calibrationOf
      rw [found]
      rfl
    refine ⟨_, [], ⟨?_, ?_, ?_, ?_⟩, rfl, rfl, fun _ listed => by cases listed⟩
    all_goals rw [same]; rfl

theorem imuMessages_frame (settings : NodeSettings K) (frameId : String) (samples : List ImuSample) :
    ∀ message ∈ imuMessages settings frameId samples, messageFrame message = some frameId := by
  intro message listed
  obtain ⟨sample, -, rfl⟩ := List.mem_map.mp listed
  rfl

theorem Announced.publish {settings : NodeSettings K} {before after : NodeState K} {info : DeviceInfo}
    {messages : List (Publication K)} (announced : Announced settings before after info)
    (same : ∀ message ∈ messages, messageFrame message = some after.depthFrameId) :
    Announced settings before (after.publish messages) info := by
  obtain ⟨ts, earlier, broadcast, frame, published, listed⟩ := announced
  refine ⟨ts, earlier ++ messages, broadcast, frame, ?_, ?_⟩
  · show after.published ++ messages = _
    rw [published, List.append_assoc, List.cons_append]
  · intro message among
    rcases List.mem_append.mp among with old | new
    · exact listed message old
    · rw [same message new, frame]

/-! ## The worker around the node -/

/-- About the node and the device that the worker has checked. -/
def Told (P : NodeState K → DeviceInfo → Prop) (w : World (τ × NodeState K)) : Prop := P w.env.2 w.deviceInfo

section Worker

variable {settings : NodeSettings K} {host : Environment τ} {P : NodeState K → DeviceInfo → Prop}

theorem driverHost_plain (settings : NodeSettings K) (host : Environment τ) {α : Type} {c : HostCall α}
    (plain : c.plain = true) (s : τ × NodeState K) :
    ((driverHost settings host).answer c s).2.2 = s.2 := by
  cases c with
  | openPort _ | connectCb _ _ | pointCloudCb _ _ | imuCb _ => cases plain
  | _ => rfl

theorem told_call {α : Type} (c : HostCall α) (plain : c.plain = true) :
    Keeps (Told P) (call (driverHost settings host) c) := by
  intro w holds
  have node := driverHost_plain settings host plain w.env
  unfold call
  rcases outcome : (driverHost settings host).answer c w.env with ⟨result, env⟩
  rw [outcome] at node
  have kept : P env.2 w.deviceInfo := by
    rw [node]
    exact holds
  cases result with
  | ok a => exact kept
  | error failure => exact kept

/-- What is true of the node stays true until it is called back. -/
theorem told_steps : StepsKeep (driverHost settings host) (Told P) where
  call := told_call
  note _ _ := Keeps.modify fun _ holds => holds
  enter _ := Keeps.modify fun _ holds => holds
  isRunning := by
    intro w holds
    unfold isRunning
    by_cases running : w.running = true
    · rw [if_pos running]
      exact holds
    · rw [if_neg running]
      exact holds
  syncMode _ holds := holds
  frameRateHz _ holds := holds
  buffers _ _ _ holds := holds

theorem told_connections {P : NodeState K → Prop} :
    ConnectionsKeep (driverHost settings host) (Told fun node _ => P node) where
  toStepsKeep := told_steps
  connect port := by
    apply Keeps.tryCatch _ fun _ => Keeps.pure
    apply Keeps.bind
    · intro w holds
      unfold call
      rcases outcome : (driverHost settings host).answer (.openPort port) w.env with ⟨result, env⟩
      have node : env.2 = w.env.2 := congrArg (fun answer => answer.2.2) outcome.symm
      have kept : P env.2 := by
        rw [node]
        exact holds
      cases result with
      | ok a => exact kept
      | error failure => exact kept
    · intro _
      refine Keeps.bind (Keeps.modify fun _ holds => holds) fun _ => ?_
      refine Keeps.bind (Keeps.modify fun _ holds => holds) fun _ => ?_
      exact Keeps.bind (told_call _ rfl) fun _ => Keeps.pure
  deviceInfo _ _ holds := holds

/-- The messages of a frame are in the frame that was announced. -/
theorem announced_frames (config : WorkerConfig) (before : NodeState K) :
    FramesKeep (driverHost settings host) config (Told (Announced settings before)) where
  toStepsKeep := told_steps
  now _ holds := holds
  parsed _ _ _ _ := Keeps.modify fun _ holds => holds
  results _ _ _ _ holds := holds
  deliverPointCloud frameTs points := by
    apply Keeps.bind told_steps.isRunning
    intro running
    apply Keeps.bind Keeps.get
    intro w
    split
    · refine Keeps.bind (Keeps.modify fun _ holds => holds) fun _ => ?_
      intro v (holds : Announced settings before v.env.2 v.deviceInfo)
      exact holds.publish (pointCloudMessages_frame settings _ (frameTs + w.clockOffset) points)
    · exact Keeps.pure
  deliverImu := by
    apply Keeps.bind told_steps.isRunning
    intro running
    apply Keeps.bind Keeps.get
    intro w
    split
    · refine Keeps.bind (Keeps.modify fun _ holds => holds) fun _ => ?_
      intro v (holds : Announced settings before v.env.2 v.deviceInfo)
      exact holds.publish (imuMessages_frame settings _ w.imuSamples)
    · exact Keeps.pure

/-! ## One thread -/

/-- What one thread has done to the node: nothing, or announced its camera. -/
def SessionMessages (settings : NodeSettings K) (before after : NodeState K) (info : DeviceInfo) : Prop :=
  after = before ∨ Announced settings before after info

variable (config : WorkerConfig) (fuel : Nat) (before : NodeState K)

/-- A worker that has been stopped before it got through delivers nothing. -/
theorem stopped_silent : Triple
    (fun w : World (τ × NodeState K) => Told (fun node _ => node = before) w ∧ w.running = false)
    (loop (fun _ => mainRound (driverHost settings host) config fuel) fuel ())
    (fun _ => Told (SessionMessages settings before)) (Told (SessionMessages settings before)) := by
  apply Triple.loop (I := fun _ (w : World (τ × NodeState K)) =>
    Told (fun node _ => node = before) w ∧ w.running = false)
  · rintro _ w ⟨holds, down⟩
    unfold mainRound
    rw [bind_ok (isRunning_down down)]
    exact .inl holds
  · exact fun _ _ holds => .inl holds.1

/-- The callback comes between the checks and the first frame. -/
theorem session_messages : Triple (Told fun node _ => node = before)
    (session (driverHost settings host) config fuel)
    (fun _ => Told (SessionMessages settings before)) (Told (SessionMessages settings before)) := by
  have nothing : ∀ w : World (τ × NodeState K), Told (fun node _ => node = before) w →
      Told (SessionMessages settings before) w := fun _ same => .inl same
  have announced : ∀ w : World (τ × NodeState K), Told (Announced settings before) w →
      Told (SessionMessages settings before) w := fun _ told => .inr told
  unfold session
  apply Triple.bind (Q := fun _ => Told fun node _ => node = before)
  · exact (told_connections (P := fun node => node = before).discovery config fuel).conseq
      (fun _ holds => holds) (fun _ _ holds => holds) nothing
  intro _
  apply Triple.bind (Q := fun (running : Bool) (w : World (τ × NodeState K)) =>
    Told (fun node _ => node = before) w ∧ (running = false → w.running = false))
  · intro w holds
    unfold isRunning
    by_cases running : w.running = true
    · rw [if_pos running]
      exact ⟨holds, fun stopped => stopped⟩
    · rw [if_neg running]
      exact ⟨holds, fun _ => by simpa using running⟩
  intro running
  cases running with
  | true =>
    have frames : FramesKeep (driverHost settings host) config (Told (Announced settings before)) :=
      announced_frames config before
    apply Triple.bind (Q := fun _ => Told fun node _ => node = before)
    · exact Triple.modify fun w holds => holds.1
    intro _
    apply Triple.bind (Q := fun _ => Told (Announced settings before))
    · intro w (same : w.env.2 = before)
      unfold setupStreaming
      rw [bind_ok (get_apply w)]
      have called : call (driverHost settings host) (.connectCb true w.deviceInfo) w = (.ok (),
          { w with env := (w.env.1, onCamConnection settings true w.deviceInfo w.env.2) }) := call_ok rfl
      rw [bind_ok called]
      apply (frames.toStepsKeep.configureStreaming fuel).conseq (fun _ holds => holds) (fun _ _ holds => holds)
        announced
      show Announced settings before (onCamConnection settings true w.deviceInfo w.env.2) w.deviceInfo
      rw [same]
      exact onCamConnection_announces settings w.deviceInfo before
    · intro _
      exact (Keeps.bind (frames.enter _) fun _ => frames.mainLoop fuel).conseq (fun _ holds => holds)
        (fun _ => announced) announced
  | false =>
    apply Triple.bind (Q := fun _ (w : World (τ × NodeState K)) =>
      Told (fun node _ => node = before) w ∧ w.running = false)
    · exact Triple.modify fun w holds => ⟨holds.1, holds.2 rfl⟩
    · exact fun _ => stopped_silent config fuel before

theorem run_messages : Triple (Told fun node _ => node = before) (run (driverHost settings host) config fuel)
    (fun _ => Told (SessionMessages settings before)) (Told (SessionMessages settings before)) := by
  have steps : StepsKeep (driverHost settings host) (Told (SessionMessages settings before)) := told_steps
  apply Triple.bind (Q := fun _ => Told fun node _ => node = before)
  · exact Triple.modify fun _ holds => holds
  intro _
  apply Triple.bind (Triple.tryCatch (session_messages config fuel before) (fun _ => Keeps.pure) fun _ holds => holds)
  intro _
  apply Triple.bind (steps.enter _)
  intro _
  apply Triple.bind (steps.stopStreaming fuel)
  intro _
  apply Triple.bind (Q := fun _ => Told (SessionMessages settings before))
  · -- `on_cam_connection` does nothing when a device is lost
    apply Keeps.bind Keeps.get
    intro w
    apply Keeps.bind fun v holds => holds
    intro _
    split
    · exact steps.close
    · exact Keeps.pure
  · exact fun _ => Triple.modify fun _ holds => holds

end Worker

/-! ## A life of the node -/

/-- One start of the device: its surroundings and the worker's members. -/
structure Session (τ : Type) where
  host : Environment τ
  config : WorkerConfig
  fuel : Nat
  world : World τ

def Session.around (session : Session τ) (node : NodeState K) : World (τ × NodeState K) :=
  { session.world with env := (session.world.env, node) }

/-- The worker's world behind a session. -/
def Session.stopped (settings : NodeSettings K) (node : NodeState K) (session : Session τ) :
    World (τ × NodeState K) :=
  (run (driverHost settings session.host) session.config session.fuel (session.around node)).2

def runSession (settings : NodeSettings K) (node : NodeState K) (session : Session τ) : NodeState K :=
  (session.stopped settings node).env.2

theorem runSession_messages (settings : NodeSettings K) (node : NodeState K) (session : Session τ) :
    SessionMessages settings node (runSession settings node session) (session.stopped settings node).deviceInfo := by
  have threads : Triple _ (run (driverHost settings session.host) session.config session.fuel) _ _ :=
    run_messages session.config session.fuel node
  have ended := threads (session.around node) rfl
  unfold runSession Session.stopped
  rcases outcome : run (driverHost settings session.host) session.config session.fuel (session.around node) with
    ⟨result, w⟩
  rw [outcome] at ended
  cases result with
  | ok a => exact ended
  | error stop => exact ended

/-- Over any sessions of a node, however each ends, and in each of them. -/
theorem messages_in_broadcast_frame (settings : NodeSettings K) (sessions : List (Session τ)) (last : Session τ) :
    let node := sessions.foldl (runSession settings) {}
    InBroadcastFrame none node.published ∧
      SessionMessages settings node (runSession settings node last) (last.stopped settings node).deviceInfo := by
  intro node
  refine ⟨?_, runSession_messages settings node last⟩
  have whole : ∀ (sessions : List (Session τ)) (node : NodeState K), InBroadcastFrame none node.published →
      InBroadcastFrame none (sessions.foldl (runSession settings) node).published := by
    intro sessions
    induction sessions with
    | nil => exact fun _ before => before
    | cons session rest ih =>
      intro node before
      apply ih
      rcases runSession_messages settings node session with unchanged | ⟨ts, messages, -, -, published, same⟩
      · rw [unchanged]
        exact before
      · rw [published]
        exact inBroadcastFrame_transform before same
  exact whole sessions {} trivial

end AsDt1.Guarantees
