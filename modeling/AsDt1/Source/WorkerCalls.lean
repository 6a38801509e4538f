import AsDt1.Source.StreamReads
import AsDt1.Source.Handshake

/-!
# What every step of the worker keeps

An invariant of the worker's world that its single steps keep holds at the end of
each of its routines, and wherever these stop. The reads ask for the least, the
frames and the connections for what they add, the thread for all of it.
-/
namespace AsDt1.Source
open AsDt1.Lib Routine

variable {σ : Type}

def HostCall.opens {α : Type} : HostCall α → Bool
  | .openPort _ => true
  | _ => false

/-- Neither a port is constructed nor a callback invoked. -/
def HostCall.plain {α : Type} : HostCall α → Bool
  | .openPort _ | .connectCb _ _ | .pointCloudCb _ _ | .imuCb _ => false
  | _ => true

/-- Kept by the steps that lie between two outcomes. -/
structure StepsKeep (E : Environment σ) (I : World σ → Prop) : Prop where
  call : ∀ {α : Type} (c : HostCall α), c.plain = true → Keeps I (call E c)
  note : ∀ event, isOutcome event = false → Keeps I (note event)
  enter : ∀ phase, Keeps I (enter phase)
  isRunning : Keeps I (isRunning E)
  syncMode : Keeps I (syncMode E)
  frameRateHz : Keeps I (frameRateHz E)
  buffers : ∀ w receiveBuf imuData, I w → I { w with receiveBuf, imuData }

/-- Kept by what a frame computes and delivers, too. -/
structure FramesKeep (E : Environment σ) (config : WorkerConfig) (I : World σ → Prop) : Prop
    extends StepsKeep E I where
  now : Keeps I (now E)
  parsed : ∀ frameTs endTs receiveBuf imuData, Keeps I (AsDt1.Source.note (.parsed frameTs endTs receiveBuf imuData))
  results : ∀ w imuSamples latestImuSampleTs clockOffset, I w →
    I { w with imuSamples, latestImuSampleTs, clockOffset }
  deliverPointCloud : ∀ frameTs points, Keeps I (deliverPointCloud E config frameTs points)
  deliverImu : Keeps I (deliverImu E config)

/-- Kept by what finds and connects a device, too. -/
structure ConnectionsKeep (E : Environment σ) (I : World σ → Prop) : Prop extends StepsKeep E I where
  connect : ∀ port, Keeps I (connect E port)
  deviceInfo : ∀ w deviceInfo, I w → I { w with deviceInfo }

section Steps

variable {E : Environment σ} {I : World σ → Prop} (keep : StepsKeep E I) (config : WorkerConfig) (fuel : Nat)
include keep

/-! ## The port -/

theorem StepsKeep.readline : Keeps I (readline E) :=
  Keeps.bind (keep.call _ rfl) fun _ => Keeps.bind (keep.note _ rfl) fun _ => Keeps.pure

theorem StepsKeep.read (size : Nat) : Keeps I (read E size) :=
  Keeps.bind (keep.call _ rfl) fun _ => Keeps.bind (keep.note _ rfl) fun _ => Keeps.pure

theorem StepsKeep.write (data : Octets) : Keeps I (write E data) :=
  Keeps.bind (keep.call _ rfl) fun _ => keep.note _ rfl

theorem StepsKeep.close : Keeps I (close E) := Keeps.bind (keep.call _ rfl) fun _ => keep.note _ rfl

/-! ## Reads -/

theorem StepsKeep.readLine : Keeps I (readLine E) := Keeps.bind keep.readline fun _ => Keeps.pure

theorem StepsKeep.readLineUntil (findStr : Octets) : Keeps I (readLineUntil E fuel findStr) := by
  apply Keeps.loop
  intro _
  apply Keeps.bind keep.readline
  intro line
  split
  · exact Keeps.pure
  · exact Keeps.bind keep.isRunning fun _ => Keeps.pure

theorem StepsKeep.readToPrompt : Keeps I (readToPrompt E fuel) := by
  apply Keeps.tryCatch
  · apply Keeps.loop
    intro _
    exact Keeps.bind (keep.read 1) fun _ => Keeps.pure
  · intro failure
    cases failure with
    | outOfRange => exact Keeps.pure
    | _ => exact Keeps.throw

theorem StepsKeep.fill (size : Nat) (got : Octets) : Keeps I (fill E fuel size got) := by
  apply Keeps.loop
  intro got
  unfold fillRound
  split
  · exact Keeps.bind (keep.read _) fun _ => Keeps.pure
  · exact Keeps.pure

theorem StepsKeep.imuRecord (got : Octets) : Keeps I (imuRecord E fuel got) := by
  apply Keeps.bind (keep.fill fuel 3 got)
  intro head
  split
  · exact Keeps.pure
  · exact Keeps.bind (keep.fill fuel 16 head) fun _ => Keeps.pure

theorem StepsKeep.readImu : Keeps I (readImu E fuel) := by
  refine Keeps.bind (Keeps.modify fun w holds => keep.buffers w w.receiveBuf [] holds) fun _ => ?_
  apply Keeps.bind (keep.readLineUntil fuel _)
  intro _
  apply Keeps.loop
  intro _
  apply Keeps.bind keep.isRunning
  intro running
  split
  · apply Keeps.bind (keep.imuRecord fuel [])
    intro record
    cases record with
    | none => exact Keeps.pure
    | some record =>
      refine Keeps.bind (Keeps.modify fun w holds => ?_) fun _ => Keeps.pure
      exact keep.buffers w w.receiveBuf (w.imuData ++ [record]) holds
  · exact Keeps.pure

theorem StepsKeep.readSerialPointCloud : Keeps I (readSerialPointCloud E fuel) := by
  apply Keeps.bind (keep.readLineUntil fuel _)
  intro _
  apply Keeps.loop
  intro n
  apply Keeps.bind Keeps.get
  intro w
  split
  · apply Keeps.bind (keep.read _)
    intro data
    refine Keeps.bind (Keeps.modify fun w holds => ?_) fun _ => Keeps.bind keep.isRunning fun _ => Keeps.pure
    exact keep.buffers w (overwrite w.receiveBuf n data) w.imuData holds
  · exact Keeps.pure

theorem StepsKeep.readTimestamp : Keeps I (readTimestamp E fuel) :=
  Keeps.bind (keep.readLineUntil fuel _) fun _ => Keeps.pure

/-! ## Commands -/

theorem StepsKeep.sendAndReceiveAck (cmd : Octets) : Keeps I (sendAndReceiveAck E fuel cmd) :=
  Keeps.bind (keep.write _) fun _ => keep.readToPrompt fuel

theorem StepsKeep.sendAndReceive (command : Octets) : Keeps I (sendAndReceive E fuel command) :=
  Keeps.bind (keep.write _) fun _ => Keeps.bind (keep.readLineUntil fuel _) fun _ => Keeps.pure

theorem StepsKeep.rebootWith (command : Octets) : Keeps I (rebootWith E fuel command) := by
  apply Keeps.bind (keep.sendAndReceive fuel _)
  intro _
  exact Keeps.bind (keep.sendAndReceive fuel _) fun _ => keep.close

theorem StepsKeep.stopIfStreaming : Keeps I (stopIfStreaming E) := by
  apply Keeps.bind (keep.call _ rfl)
  intro bytesAvailable
  split
  · exact Keeps.bind (keep.write _) fun _ => keep.call _ rfl
  · exact keep.call _ rfl

theorem StepsKeep.verifyDeviceMode : Keeps I (verifyDeviceMode E config fuel) := by
  apply Keeps.bind (keep.sendAndReceive fuel _)
  intro _
  apply Keeps.bind keep.readLine
  intro modeResp
  apply Keeps.bind (keep.readToPrompt fuel)
  intro _
  split
  · exact Keeps.pure
  · exact Keeps.bind (keep.rebootWith fuel _) fun _ => Keeps.pure

theorem StepsKeep.getDeviceInfo : Keeps I (getDeviceInfo E fuel) := by
  have supported : ∀ version, Keeps I (requireSupported version : SerialRoutine σ Unit) := by
    intro version
    unfold requireSupported
    split
    · exact Keeps.throw
    · split
      · exact Keeps.pure
      · exact Keeps.throw
  have known : ∀ mode, Keeps I (requireKnown mode : SerialRoutine σ Nat) := by
    intro mode
    cases mode with
    | some i => exact Keeps.pure
    | none => exact Keeps.throw
  apply Keeps.bind (keep.call _ rfl)
  intro _
  apply Keeps.bind (keep.sendAndReceiveAck fuel _)
  intro _
  apply Keeps.bind (keep.call _ rfl)
  intro _
  apply Keeps.bind (keep.sendAndReceive fuel _)
  intro _
  apply Keeps.bind keep.readLine
  intro version
  apply Keeps.bind keep.readLine
  intro _
  apply Keeps.bind keep.readLine
  intro devInfo
  apply Keeps.bind keep.readLine
  intro _
  apply Keeps.bind (supported version)
  intro _
  apply Keeps.bind (keep.readToPrompt fuel)
  intro _
  apply Keeps.bind (keep.sendAndReceive fuel _)
  intro _
  apply Keeps.bind keep.readLine
  intro modeResp
  apply Keeps.bind (known _)
  intro mode
  exact Keeps.bind (keep.readToPrompt fuel) fun _ => Keeps.pure

theorem StepsKeep.skipFrames (frames : Nat) : Keeps I (skipFrames E fuel frames) := by
  induction frames with
  | zero => exact Keeps.pure
  | succ frames ih => exact Keeps.bind (keep.readLineUntil fuel _) fun _ => ih

/-- The setup behind the callback. -/
theorem StepsKeep.configureStreaming : Keeps I (do
    setDefaults E fuel
    let mode ← AsDt1.Source.syncMode E
    match mode with
    | .master | .none => setMaster E fuel
    | .slave => setSlave E fuel
    let hz ← AsDt1.Source.frameRateHz E
    AsDt1.Source.skipFrames E fuel hz.val) := by
  have acks := fun cmd => keep.sendAndReceiveAck fuel cmd
  have defaults : Keeps I (setDefaults E fuel) := by
    refine Keeps.bind (acks _) fun _ => Keeps.bind (acks _) fun _ => Keeps.bind (acks _) fun _ => ?_
    exact Keeps.bind (acks _) fun _ => Keeps.bind (acks _) fun _ => Keeps.bind (acks _) fun _ => Keeps.pure
  have master : Keeps I (setMaster E fuel) :=
    Keeps.bind keep.frameRateHz fun _ => Keeps.bind (acks _) fun _ => Keeps.bind (acks _) fun _ => Keeps.pure
  have slave : Keeps I (setSlave E fuel) :=
    Keeps.bind (acks _) fun _ => Keeps.bind (acks _) fun _ => Keeps.pure
  have behind : Keeps I (do
      let hz ← AsDt1.Source.frameRateHz E
      AsDt1.Source.skipFrames E fuel hz.val) := Keeps.bind keep.frameRateHz fun hz => keep.skipFrames fuel hz.val
  apply Keeps.bind defaults
  intro _
  apply Keeps.bind keep.syncMode
  intro mode
  cases mode with
  | slave => exact Keeps.bind slave fun _ => behind
  | _ => exact Keeps.bind master fun _ => behind

theorem StepsKeep.stopStreaming : Keeps I (stopStreaming E fuel) := by
  apply Keeps.bind keep.isRunning
  intro running
  apply Keeps.bind Keeps.get
  intro w
  split
  · apply Keeps.bind (keep.sendAndReceiveAck fuel _)
    intro _
    exact Keeps.bind (keep.sendAndReceiveAck fuel _) fun _ => Keeps.pure
  · exact Keeps.pure

end Steps

/-! ## Frames -/

section Frames

variable {E : Environment σ} {config : WorkerConfig} {I : World σ → Prop} (keep : FramesKeep E config I) (fuel : Nat)
include keep

theorem FramesKeep.setClockOffset (endTs : BitVec 64) : Keeps I (setClockOffset E endTs) :=
  Keeps.bind keep.now fun _ =>
    Keeps.modify fun w holds => keep.results w w.imuSamples w.latestImuSampleTs _ holds

omit keep in
theorem unpackPoints_leaves : Keeps I (unpackPoints config : SerialRoutine σ _) := by
  apply Keeps.bind Keeps.get
  intro w
  split
  · exact Keeps.pure
  · exact Keeps.throw

theorem FramesKeep.unpackImu (frameTs : BitVec 64) : Keeps I (unpackImu frameTs : SerialRoutine σ Unit) :=
  Keeps.modify fun w holds => keep.results w _ _ w.clockOffset holds

theorem FramesKeep.finishCdcFrame (frameTs endTs : BitVec 64) : Keeps I (finishCdcFrame E config frameTs endTs) := by
  apply Keeps.bind (keep.setClockOffset _)
  intro _
  refine Keeps.bind (Keeps.bind Keeps.get fun _ => keep.parsed _ _ _ _) fun _ => ?_
  apply Keeps.bind unpackPoints_leaves
  intro points
  apply Keeps.bind (keep.unpackImu _)
  intro _
  exact Keeps.bind (keep.deliverPointCloud _ points) fun _ => keep.deliverImu

theorem FramesKeep.processSerialData : Keeps I (processSerialData E config fuel) := by
  have reads := keep.toStepsKeep
  unfold AsDt1.Source.processSerialData
  cases config.kind with
  | cdc =>
    apply Keeps.bind (reads.readTimestamp fuel)
    intro startMs
    apply Keeps.bind keep.isRunning
    intro running
    split
    · apply Keeps.bind (reads.readSerialPointCloud fuel)
      intro _
      apply Keeps.bind (reads.readImu fuel)
      intro _
      apply Keeps.bind (reads.readTimestamp fuel)
      intro endMs
      exact keep.finishCdcFrame _ _
    · exact Keeps.pure
  | hist =>
    apply Keeps.bind keep.isRunning
    intro running
    split
    · apply Keeps.bind (reads.readImu fuel)
      intro _
      apply Keeps.bind (reads.readTimestamp fuel)
      intro endMs
      apply Keeps.bind (keep.setClockOffset _)
      intro _
      refine Keeps.bind (Keeps.bind Keeps.get fun _ => keep.parsed _ _ _ _) fun _ => ?_
      exact Keeps.bind (keep.unpackImu _) fun _ => keep.deliverImu
    · exact Keeps.pure

theorem FramesKeep.mainLoop : Keeps I (loop (fun _ => mainRound E config fuel) fuel ()) := by
  apply Keeps.loop
  intro _
  apply Keeps.bind keep.isRunning
  intro running
  split
  · apply Keeps.bind (keep.note _ rfl)
    intro _
    exact Keeps.bind (keep.processSerialData fuel) fun _ => Keeps.pure
  · exact Keeps.pure

end Frames

/-! ## Connections -/

section Connections

variable {E : Environment σ} {I : World σ → Prop} (keep : ConnectionsKeep E I) (config : WorkerConfig) (fuel : Nat)
include keep

theorem ConnectionsKeep.checkDevice : Keeps I (checkDevice E config fuel) := by
  have steps := keep.toStepsKeep
  apply Keeps.bind steps.stopIfStreaming
  intro _
  apply Keeps.bind (steps.verifyDeviceMode config fuel)
  intro verified
  split
  · apply Keeps.bind (steps.getDeviceInfo fuel)
    intro info
    refine Keeps.bind (Keeps.modify fun w holds => keep.deviceInfo w info holds) fun _ => ?_
    split
    · exact Keeps.bind (steps.rebootWith fuel _) fun _ => Keeps.pure
    · exact Keeps.pure
  · exact Keeps.pure

theorem ConnectionsKeep.discoverRound : Keeps I (discoverRound E config fuel) := by
  apply Keeps.bind keep.isRunning
  intro running
  split
  · apply Keeps.bind (keep.call _ rfl)
    intro port
    split
    · exact Keeps.pure
    · refine Keeps.bind (Keeps.loop (fun _ => ?_) fuel ()) fun _ => ?_
      · apply Keeps.bind keep.isRunning
        intro running
        split
        · exact Keeps.bind (keep.connect port) fun _ => Keeps.pure
        · exact Keeps.pure
      · apply Keeps.bind keep.isRunning
        intro running
        split
        · exact keep.checkDevice config fuel
        · exact Keeps.pure
  · exact Keeps.pure

theorem ConnectionsKeep.discovery : Keeps I (loop (fun _ => AsDt1.Source.discoverRound E config fuel) fuel ()) :=
  Keeps.loop (fun _ => keep.discoverRound config fuel) fuel ()

end Connections

/-! ## The thread -/

/-- Kept by all that the worker does. -/
structure WorkerKeep (E : Environment σ) (config : WorkerConfig) (I : World σ → Prop) : Prop
    extends FramesKeep E config I, ConnectionsKeep E I where
  connectCb : ∀ isConnected info, Keeps I (AsDt1.Source.call E (.connectCb isConnected info))
  stopped : ∀ w, I w → I { w with running := false }

section Thread

variable {E : Environment σ} {config : WorkerConfig} {I : World σ → Prop} (keep : WorkerKeep E config I) (fuel : Nat)
include keep

theorem WorkerKeep.session : Keeps I (session E config fuel) := by
  have main : Keeps I (do
      AsDt1.Source.enter .streaming
      loop (fun _ => AsDt1.Source.mainRound E config fuel) fuel () : SerialRoutine σ Unit) :=
    Keeps.bind (keep.enter _) fun _ => keep.toFramesKeep.mainLoop fuel
  apply Keeps.bind (keep.toConnectionsKeep.discovery config fuel)
  intro _
  apply Keeps.bind keep.isRunning
  intro running
  split
  · refine Keeps.bind (keep.enter _) fun _ => Keeps.bind (Keeps.bind Keeps.get fun w => ?_) fun _ => main
    exact Keeps.bind (keep.connectCb _ _) fun _ => keep.toStepsKeep.configureStreaming fuel
  · exact main

theorem WorkerKeep.disconnect : Keeps I (disconnect E) := by
  apply Keeps.bind Keeps.get
  intro w
  apply Keeps.bind (keep.connectCb _ _)
  intro _
  split
  · exact keep.toStepsKeep.close
  · exact Keeps.pure

theorem WorkerKeep.run : Keeps I (run E config fuel) := by
  apply Keeps.bind (keep.enter _)
  intro _
  apply Keeps.bind (Keeps.tryCatch (keep.session fuel) fun _ => Keeps.pure)
  intro _
  apply Keeps.bind (keep.enter _)
  intro _
  apply Keeps.bind (keep.toStepsKeep.stopStreaming fuel)
  intro _
  exact Keeps.bind keep.disconnect fun _ => Keeps.modify keep.stopped

end Thread

/-! ## Invariants of the surroundings -/

/-- A port has been constructed, or the pointer is what it was. -/
def afterOpen (result : Except Failure Unit) (serial : Bool) : Bool :=
  match result with
  | .ok () => true
  | .error _ => serial

/-- Kept by all that the worker asks for; `J` is about `_serial != nullptr` and the surroundings. -/
structure CallsKeep (E : Environment σ) (J : Bool → σ → Prop) : Prop where
  answer : ∀ {α : Type} (c : HostCall α) serial s, c.opens = false → J serial s → J serial (E.answer c s).2
  openPort : ∀ port serial s, J serial s →
    J (afterOpen (E.answer (.openPort port) s).1 serial) (E.answer (.openPort port) s).2
  stops : ∀ serial s, J serial s → J serial (E.stops s).2
  now : ∀ serial s, J serial s → J serial (E.now s).2
  syncMode : ∀ serial s, J serial s → J serial (E.syncMode s).2
  frameRateHz : ∀ serial s, J serial s → J serial (E.frameRateHz s).2

/-- The invariant of the worker's world. -/
def Holding (J : Bool → σ → Prop) (w : World σ) : Prop := J w.serial w.env

section Surroundings

variable {E : Environment σ} {J : Bool → σ → Prop} (keep : CallsKeep E J)

theorem note_holds (event : Event) : Keeps (Holding J) (note event : SerialRoutine σ Unit) :=
  Keeps.modify fun _ holds => holds

include keep

theorem CallsKeep.call {α : Type} {c : HostCall α} (plain : c.opens = false) : Keeps (Holding J) (call E c) := by
  intro w holds
  have kept := keep.answer c w.serial w.env plain holds
  unfold AsDt1.Source.call
  rcases outcome : E.answer c w.env with ⟨result, env⟩
  rw [outcome] at kept
  cases result with
  | ok a => exact kept
  | error failure => exact kept

theorem CallsKeep.isRunning : Keeps (Holding J) (isRunning E) := by
  intro w holds
  unfold AsDt1.Source.isRunning
  by_cases running : w.running = true
  · rw [if_pos running]
    exact keep.stops w.serial w.env holds
  · rw [if_neg running]
    exact holds

/-- `_serial` is set if the port could be constructed. -/
theorem CallsKeep.connect (port : Octets) : Keeps (Holding J) (connect E port) := by
  apply Keeps.tryCatch _ fun _ => Keeps.pure
  intro w holds
  have opened := keep.openPort port w.serial w.env holds
  rcases outcome : E.answer (.openPort port) w.env with ⟨result, env⟩
  rw [outcome] at opened
  cases result with
  | ok a =>
    have rest : Keeps (Holding J) (do
        note .opened
        AsDt1.Source.call E .flush
        return true : SerialRoutine σ Bool) :=
      Keeps.bind (note_holds _) fun _ => Keeps.bind (keep.call rfl) fun _ => Keeps.pure
    rw [bind_ok (call_ok outcome)]
    exact rest { w with env, serial := true } opened
  | error failure =>
    rw [bind_stop (call_throws outcome)]
    exact opened

theorem CallsKeep.worker (config : WorkerConfig) : WorkerKeep E config (Holding J) where
  call c plain := keep.call (by cases c <;> first | rfl | cases plain)
  note event _ := note_holds event
  enter _ := Keeps.modify fun _ holds => holds
  isRunning := keep.isRunning
  now w holds := keep.now w.serial w.env holds
  syncMode w holds := keep.syncMode w.serial w.env holds
  frameRateHz w holds := keep.frameRateHz w.serial w.env holds
  buffers _ _ _ holds := holds
  parsed _ _ _ _ := note_holds _
  results _ _ _ _ holds := holds
  deliverPointCloud frameTs points := by
    apply Keeps.bind keep.isRunning
    intro running
    apply Keeps.bind Keeps.get
    intro w
    split
    · exact Keeps.bind (note_holds _) fun _ => keep.call rfl
    · exact Keeps.pure
  deliverImu := by
    apply Keeps.bind keep.isRunning
    intro running
    apply Keeps.bind Keeps.get
    intro w
    split
    · exact Keeps.bind (note_holds _) fun _ => keep.call rfl
    · exact Keeps.pure
  connect := keep.connect
  deviceInfo _ _ holds := holds
  connectCb _ _ := keep.call rfl
  stopped _ holds := holds

end Surroundings
end AsDt1.Source
