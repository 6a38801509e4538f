import AsDt1.Source.SerialReader

/-!
# What reading leaves alone

Every read keeps an invariant that does not look at the port, at the members a
frame is read into and at the lines and octets read. A frame is its reads,
followed by what `process_serial_data` makes of them.
-/
namespace AsDt1.Source
open AsDt1.Lib Routine

variable {σ : Type} (E : Environment σ) (config : WorkerConfig) (fuel : Nat)

/-! ## The number of a timestamp line -/

/-- The digits that `%lu` converts, behind blanks and a sign. -/
def unsignedDigits (text : Octets) : Octets :=
  let text := text.dropWhile isSpace
  let unsigned := if text.head? = some 0x2D ∨ text.head? = some 0x2B then text.tail else text
  unsigned.takeWhile isDigit

/-- The digits that `sscanf(line.c_str(), "tm=%lu", ...)` converts. -/
def scannedDigits (line : Octets) : Octets :=
  let text := line.takeWhile (· ≠ 0)
  if ascii "tm=" <+: text then unsignedDigits (text.drop 3) else []

/-- `sscanf` returns 1. -/
def scansNumber (line : Octets) : Bool := !(scannedDigits line).isEmpty

/-- What `read_timestamp` makes of its line. -/
def timestampOf (line : Octets) : BitVec 64 := if line = [] then 0 else scanTimestamp line

theorem scanUnsigned_none {text : Octets} (none : unsignedDigits text = []) : scanUnsigned text = 0 := by
  unfold unsignedDigits at none
  unfold scanUnsigned
  simp only at none ⊢
  rw [none]
  have zero : decimal [] = 0 := rfl
  rw [zero, if_neg (by decide)]
  split <;> rfl

/-- A failed scan leaves the variable at 0. -/
theorem timestampOf_failed {line : Octets} (failed : scansNumber line = false) : timestampOf line = 0 := by
  have none : scannedDigits line = [] := by simpa [scansNumber] using failed
  unfold timestampOf scanTimestamp
  unfold scannedDigits at none
  simp only at none ⊢
  split
  · rfl
  · split
    · next marked =>
      rw [if_pos marked] at none
      exact scanUnsigned_none none
    · rfl

/-! ## Invariants -/

/-- The answers of the environment and the octets read do not matter. -/
structure SurvivesOctets (Inv : World σ → Prop) : Prop where
  env : ∀ w env, Inv w → Inv { w with env }
  octets : ∀ w data, Inv w → Inv { w with log := w.log ++ [(w.phase, .octets data)] }

/-- Nor do the lines read, the members that frames are read into and a dropped flag. -/
structure SurvivesReads (Inv : World σ → Prop) : Prop extends SurvivesOctets Inv where
  line : ∀ w text, Inv w → Inv { w with log := w.log ++ [(w.phase, .line text)] }
  stopped : ∀ w, Inv w → Inv { w with running := false }
  imuData : ∀ w imuData, Inv w → Inv { w with imuData }
  receiveBuf : ∀ w receiveBuf, Inv w → Inv { w with receiveBuf }

section Octets

variable {Inv : World σ → Prop} (survives : SurvivesOctets Inv)
include survives

theorem SurvivesOctets.call {α : Type} (c : HostCall α) : Keeps Inv (call E c) := by
  intro w holds
  unfold AsDt1.Source.call
  rcases E.answer c w.env with ⟨outcome, env⟩
  cases outcome with
  | ok a => exact survives.env w env holds
  | error failure => exact survives.env w env holds

theorem SurvivesOctets.read (size : Nat) : Keeps Inv (read E size) := by
  apply Keeps.bind (survives.call E _)
  intro data
  exact Keeps.bind (Keeps.modify fun w holds => survives.octets w data holds) fun _ => Keeps.pure

theorem SurvivesOctets.fill (size : Nat) (got : Octets) : Keeps Inv (fill E fuel size got) := by
  apply Keeps.loop
  intro got
  unfold fillRound
  split
  · exact Keeps.bind (survives.read E _) fun _ => Keeps.pure
  · exact Keeps.pure

theorem SurvivesOctets.imuRecord (got : Octets) : Keeps Inv (imuRecord E fuel got) := by
  apply Keeps.bind (survives.fill E fuel 3 got)
  intro head
  split
  · exact Keeps.pure
  · exact Keeps.bind (survives.fill E fuel 16 head) fun _ => Keeps.pure

end Octets

section Reads

variable {Inv : World σ → Prop} (survives : SurvivesReads Inv)
include survives

theorem SurvivesReads.isRunning : Keeps Inv (isRunning E) := by
  intro w holds
  by_cases running : w.running = true
  · cases up : (E.stops w.env).1 with
    | false =>
      rw [isRunning_up running up]
      exact survives.env w _ holds
    | true =>
      rw [isRunning_stopped running up]
      exact survives.stopped _ (survives.env w _ holds)
  · rw [isRunning_down (by simpa using running)]
    exact holds

theorem SurvivesReads.readline : Keeps Inv (readline E) := by
  apply Keeps.bind (survives.call E _)
  intro text
  exact Keeps.bind (Keeps.modify fun w holds => survives.line w text holds) fun _ => Keeps.pure

theorem SurvivesReads.readLineUntil (findStr : Octets) : Keeps Inv (readLineUntil E fuel findStr) := by
  apply Keeps.loop
  intro _
  apply Keeps.bind (survives.readline E)
  intro line
  split
  · exact Keeps.pure
  · exact Keeps.bind (survives.isRunning E) fun _ => Keeps.pure

theorem SurvivesReads.readImu : Keeps Inv (readImu E fuel) := by
  refine Keeps.bind (Keeps.modify fun w holds => survives.imuData w [] holds) fun _ => ?_
  apply Keeps.bind (survives.readLineUntil E fuel _)
  intro _
  apply Keeps.loop
  intro _
  apply Keeps.bind (survives.isRunning E)
  intro running
  split
  · apply Keeps.bind (survives.imuRecord E fuel [])
    intro record
    cases record with
    | none => exact Keeps.pure
    | some record =>
      exact Keeps.bind (Keeps.modify fun w holds => survives.imuData w _ holds) fun _ => Keeps.pure
  · exact Keeps.pure

theorem SurvivesReads.readSerialPointCloud : Keeps Inv (readSerialPointCloud E fuel) := by
  apply Keeps.bind (survives.readLineUntil E fuel _)
  intro _
  apply Keeps.loop
  intro n
  apply Keeps.bind Keeps.get
  intro w
  split
  · apply Keeps.bind (survives.read E _)
    intro data
    refine Keeps.bind (Keeps.modify fun w holds => survives.receiveBuf w _ holds) fun _ => ?_
    exact Keeps.bind (survives.isRunning E) fun _ => Keeps.pure
  · exact Keeps.pure

end Reads

/-! ## Frames -/

/-- What a frame has read when its reads are over: the lines of its timestamps. -/
inductive FrameRead where
  | dropped
  | cdc (start finish : Octets)
  | hist (finish : Octets)
  deriving DecidableEq

def FrameRead.lines : FrameRead → List Octets
  | .dropped => []
  | .cdc start finish => [start, finish]
  | .hist finish => [finish]

/-- The line of the end timestamp. -/
def FrameRead.finish? : FrameRead → Option Octets
  | .dropped => none
  | .cdc _ finish | .hist finish => some finish

/-- The line that `read_timestamp` scans. -/
def timestampLine : SerialRoutine σ Octets := readLineUntil E fuel (ascii "tm=")

def frameReads : SerialRoutine σ FrameRead := do
  match config.kind with
  | .cdc =>
    let start ← timestampLine E fuel
    let running ← isRunning E
    if running then
      readSerialPointCloud E fuel
      readImu E fuel
      let finish ← timestampLine E fuel
      return .cdc start finish
    else return .dropped
  | .hist =>
    let running ← isRunning E
    if running then
      readImu E fuel
      let finish ← timestampLine E fuel
      return .hist finish
    else return .dropped

/-- `end_ts - static_cast<uint64_t>(tot_exposure) * 1'000'000ULL` -/
def WorkerConfig.histFrameTs (endTs : BitVec 64) : BitVec 64 :=
  endTs - BitVec.ofNat 64 config.modeInfo.totExposure * 1000000

/-- A frame of `dt1_device_hist` behind its end timestamp. -/
def finishHistFrame (endTs : BitVec 64) : SerialRoutine σ Unit := do
  setClockOffset E endTs
  noteParsed (config.histFrameTs endTs) endTs
  unpackImu (config.histFrameTs endTs)
  deliverImu E config

def finishFrame : FrameRead → SerialRoutine σ Unit
  | .dropped => return ()
  | .cdc start finish => finishCdcFrame E config (timestampOf start * 1000000) (timestampOf finish * 1000000)
  | .hist finish => finishHistFrame E config (timestampOf finish * 1000000)

theorem processSerialData_eq :
    processSerialData E config fuel = frameReads E config fuel >>= finishFrame E config := by
  unfold processSerialData frameReads
  cases config.kind with
  | cdc =>
    simp only [readTimestamp, Routine.bind_assoc, Routine.pure_bind]
    refine congrArg _ (funext fun start => ?_)
    refine congrArg _ (funext fun running => ?_)
    cases running with
    | false => rfl
    | true =>
      simp only [cdcFrame, readTimestamp, Routine.bind_assoc, if_true]
      rfl
  | hist =>
    simp only [Routine.bind_assoc]
    refine congrArg _ (funext fun running => ?_)
    cases running with
    | false => rfl
    | true =>
      simp only [histFrame, readTimestamp, Routine.bind_assoc, if_true]
      rfl

variable {Inv : World σ → Prop}

theorem SurvivesReads.frameReads (survives : SurvivesReads Inv) : Keeps Inv (frameReads E config fuel) := by
  unfold AsDt1.Source.frameReads
  split
  · apply Keeps.bind (survives.readLineUntil E fuel _)
    intro start
    apply Keeps.bind (survives.isRunning E)
    intro running
    split
    · apply Keeps.bind (survives.readSerialPointCloud E fuel)
      intro _
      apply Keeps.bind (survives.readImu E fuel)
      intro _
      exact Keeps.bind (survives.readLineUntil E fuel _) fun _ => Keeps.pure
    · exact Keeps.pure
  · apply Keeps.bind (survives.isRunning E)
    intro running
    split
    · apply Keeps.bind (survives.readImu E fuel)
      intro _
      exact Keeps.bind (survives.readLineUntil E fuel _) fun _ => Keeps.pure
    · exact Keeps.pure

end AsDt1.Source
