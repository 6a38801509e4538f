import AsDt1.Lib.Simulation
import AsDt1.Source.SerialReader

/-!
# Frames from ports that answer alike

Two environments that give the same answers to the reads, the clock and the
callbacks lead `process_serial_data` through the same run: the members of the device
and the history agree from step to step.
-/
namespace AsDt1.Source
open AsDt1.Lib Routine

variable {σ τ : Type}

/-- The same device, its surroundings being related. -/
structure SameWorld (R : σ → τ → Prop) (w : World σ) (v : World τ) : Prop where
  env : R w.env v.env
  running : w.running = v.running
  serial : w.serial = v.serial
  deviceInfo : w.deviceInfo = v.deviceInfo
  receiveBuf : w.receiveBuf = v.receiveBuf
  imuData : w.imuData = v.imuData
  imuSamples : w.imuSamples = v.imuSamples
  latestImuSampleTs : w.latestImuSampleTs = v.latestImuSampleTs
  clockOffset : w.clockOffset = v.clockOffset
  phase : w.phase = v.phase
  log : w.log = v.log

/-- An answer to one call on both sides. -/
def AnswerAlike (R : σ → τ → Prop) (E : Environment σ) (E' : Environment τ) {α : Type} (c : HostCall α) : Prop :=
  ∀ s t, R s t → (E.answer c s).1 = (E'.answer c t).1 ∧ R (E.answer c s).2 (E'.answer c t).2

/-- All that a frame asks for is answered alike. -/
structure FrameAlike (R : σ → τ → Prop) (E : Environment σ) (E' : Environment τ) : Prop where
  readline : AnswerAlike R E E' .readline
  read : ∀ size, AnswerAlike R E E' (.read size)
  pointCloudCb : ∀ timestamp points, AnswerAlike R E E' (.pointCloudCb timestamp points)
  imuCb : ∀ samples, AnswerAlike R E E' (.imuCb samples)
  stops : ∀ s t, R s t → (E.stops s).1 = (E'.stops t).1 ∧ R (E.stops s).2 (E'.stops t).2
  now : ∀ s t, R s t → (E.now s).1 = (E'.now t).1 ∧ R (E.now s).2 (E'.now t).2

variable {R : σ → τ → Prop} {E : Environment σ} {E' : Environment τ}

/-! ## Single steps -/

theorem call_alike {α : Type} {c : HostCall α} (answers : AnswerAlike R E E' c) :
    Alike (SameWorld R) (call E c) (call E' c) := by
  intro w v same
  obtain ⟨answer, related⟩ := answers w.env v.env same.env
  unfold call
  rcases left : E.answer c w.env with ⟨result, s⟩
  rcases right : E'.answer c v.env with ⟨result', t⟩
  rw [left, right] at answer related
  obtain rfl : result = result' := answer
  have moved : SameWorld R { w with env := s } { v with env := t } := { same with env := related }
  cases result with
  | ok a => exact ⟨rfl, moved⟩
  | error failure => exact ⟨rfl, moved⟩

theorem note_alike (event : Event) : Alike (SameWorld R) (note event) (note event) := by
  apply Alike.modify
  intro w v same
  refine { same with log := ?_ }
  rw [same.log, same.phase]

section Steps

variable (alike : FrameAlike R E E')
include alike

theorem isRunning_alike : Alike (SameWorld R) (isRunning E) (isRunning E') := by
  intro w v same
  unfold isRunning
  rw [same.running]
  by_cases up : v.running = true
  · obtain ⟨stopped, related⟩ := alike.stops w.env v.env same.env
    rw [if_pos up, if_pos up, stopped]
    exact ⟨rfl, { same with env := related, running := rfl }⟩
  · rw [if_neg up, if_neg up]
    exact ⟨rfl, same⟩

theorem readline_alike : Alike (SameWorld R) (readline E) (readline E') :=
  (call_alike alike.readline).bind fun _ => (note_alike _).bind fun _ => .pure _

theorem read_alike (size : Nat) : Alike (SameWorld R) (read E size) (read E' size) :=
  (call_alike (alike.read size)).bind fun _ => (note_alike _).bind fun _ => .pure _

theorem setClockOffset_alike (endTs : BitVec 64) :
    Alike (SameWorld R) (setClockOffset E endTs) (setClockOffset E' endTs) := by
  have clock : Alike (SameWorld R) (now E) (now E') := by
    intro w v same
    obtain ⟨time, related⟩ := alike.now w.env v.env same.env
    exact ⟨congrArg Except.ok time, { same with env := related }⟩
  apply clock.bind
  intro receiveTs
  exact Alike.modify fun w v same => { same with clockOffset := rfl }

/-! ## Lines and counted reads -/

theorem readLineUntil_alike (fuel : Nat) (findStr : Octets) :
    Alike (SameWorld R) (readLineUntil E fuel findStr) (readLineUntil E' fuel findStr) := by
  apply Alike.loop
  intro _
  apply (readline_alike alike).bind
  intro line
  split
  · exact .pure _
  · exact (isRunning_alike alike).bind fun _ => .pure _

theorem readTimestamp_alike (fuel : Nat) :
    Alike (SameWorld R) (readTimestamp E fuel) (readTimestamp E' fuel) :=
  (readLineUntil_alike alike fuel _).bind fun _ => .pure _

theorem fill_alike (fuel size : Nat) (got : Octets) :
    Alike (SameWorld R) (fill E fuel size got) (fill E' fuel size got) := by
  apply Alike.loop
  intro got
  unfold fillRound
  split
  · exact (read_alike alike _).bind fun _ => .pure _
  · exact .pure _

theorem imuRecord_alike (fuel : Nat) (got : Octets) :
    Alike (SameWorld R) (imuRecord E fuel got) (imuRecord E' fuel got) := by
  apply (fill_alike alike fuel 3 got).bind
  intro head
  split
  · exact .pure _
  · exact (fill_alike alike fuel 16 head).bind fun _ => .pure _

theorem readImu_alike (fuel : Nat) : Alike (SameWorld R) (readImu E fuel) (readImu E' fuel) := by
  apply (Alike.modify fun w v same => { same with imuData := rfl }).bind
  intro _
  apply (readLineUntil_alike alike fuel _).bind
  intro _
  apply Alike.loop
  intro _
  apply (isRunning_alike alike).bind
  intro running
  split
  · apply (imuRecord_alike alike fuel []).bind
    intro record
    cases record with
    | none => exact .pure _
    | some record =>
      apply Alike.bind (Alike.modify _) fun _ => .pure _
      intro w v same
      exact { same with imuData := by rw [same.imuData] }
  · exact .pure _

theorem readSerialPointCloud_alike (fuel : Nat) :
    Alike (SameWorld R) (readSerialPointCloud E fuel) (readSerialPointCloud E' fuel) := by
  apply (readLineUntil_alike alike fuel _).bind
  intro _
  apply Alike.loop
  intro n
  apply Alike.get
  intro w v same
  rw [same.receiveBuf]
  split
  · apply (read_alike alike _).bind
    intro data
    apply (Alike.modify fun w v same => { same with receiveBuf := by rw [same.receiveBuf] }).bind
    intro _
    exact (isRunning_alike alike).bind fun _ => .pure _
  · exact .pure _

/-! ## Frames -/

variable (config : WorkerConfig)

theorem deliverPointCloud_alike (frameTs : BitVec 64) (points : List (Option (Vec3 ℚ))) :
    Alike (SameWorld R) (deliverPointCloud E config frameTs points) (deliverPointCloud E' config frameTs points) := by
  apply (isRunning_alike alike).bind
  intro running
  apply Alike.get
  intro w v same
  rw [same.clockOffset]
  split
  · exact (note_alike _).bind fun _ => call_alike (alike.pointCloudCb _ _)
  · exact .pure _

theorem deliverImu_alike : Alike (SameWorld R) (deliverImu E config) (deliverImu E' config) := by
  apply (isRunning_alike alike).bind
  intro running
  apply Alike.get
  intro w v same
  rw [same.imuSamples]
  split
  · exact (note_alike _).bind fun _ => call_alike (alike.imuCb _)
  · exact .pure _

omit alike in
theorem noteParsed_alike (frameTs endTs : BitVec 64) :
    Alike (SameWorld R) (noteParsed frameTs endTs) (noteParsed frameTs endTs) := by
  apply Alike.get
  intro w v same
  rw [same.receiveBuf, same.imuData]
  exact note_alike _

omit alike in
theorem unpackPoints_alike : Alike (SameWorld R) (unpackPoints config) (unpackPoints config) := by
  apply Alike.get
  intro w v same
  rw [same.receiveBuf]
  split
  · exact .pure _
  · exact .throw _

omit alike in
theorem unpackImu_alike (frameTs : BitVec 64) : Alike (SameWorld R) (unpackImu frameTs) (unpackImu frameTs) := by
  apply Alike.modify
  intro w v same
  refine { same with latestImuSampleTs := ?_, imuSamples := ?_ }
  · rw [same.clockOffset, same.latestImuSampleTs, same.imuData]
  · rw [same.clockOffset, same.latestImuSampleTs, same.imuData]

theorem cdcFrame_alike (fuel : Nat) (frameTs : BitVec 64) :
    Alike (SameWorld R) (cdcFrame E config fuel frameTs) (cdcFrame E' config fuel frameTs) := by
  apply (readSerialPointCloud_alike alike fuel).bind
  intro _
  apply (readImu_alike alike fuel).bind
  intro _
  apply (readTimestamp_alike alike fuel).bind
  intro endMs
  apply (setClockOffset_alike alike _).bind
  intro _
  apply (noteParsed_alike _ _).bind
  intro _
  apply (unpackPoints_alike config).bind
  intro points
  apply (unpackImu_alike _).bind
  intro _
  exact (deliverPointCloud_alike alike config _ _).bind fun _ => deliverImu_alike alike config

theorem histFrame_alike (fuel : Nat) :
    Alike (SameWorld R) (histFrame E config fuel) (histFrame E' config fuel) := by
  apply (readImu_alike alike fuel).bind
  intro _
  apply (readTimestamp_alike alike fuel).bind
  intro endMs
  apply (setClockOffset_alike alike _).bind
  intro _
  apply (noteParsed_alike _ _).bind
  intro _
  exact (unpackImu_alike _).bind fun _ => deliverImu_alike alike config

theorem processSerialData_alike (fuel : Nat) :
    Alike (SameWorld R) (processSerialData E config fuel) (processSerialData E' config fuel) := by
  unfold processSerialData
  cases config.kind with
  | cdc =>
    apply (readTimestamp_alike alike fuel).bind
    intro startMs
    apply (isRunning_alike alike).bind
    intro running
    split
    · exact cdcFrame_alike alike config fuel _
    · exact .pure _
  | hist =>
    apply (isRunning_alike alike).bind
    intro running
    split
    · exact histFrame_alike alike config fuel
    · exact .pure _

/-- Call after call, both devices are in the same state. -/
theorem processFrames_alike (fuel calls : Nat) :
    Alike (SameWorld R) (processFrames E config fuel calls) (processFrames E' config fuel calls) := by
  induction calls with
  | zero => exact .pure _
  | succ calls ih => exact (processSerialData_alike alike config fuel).bind fun _ => ih

end Steps
end AsDt1.Source
