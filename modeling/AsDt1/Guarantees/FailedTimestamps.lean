import AsDt1.Source.SerialReads

/-!
# Frames without a timestamp

`read_timestamp` returns 0 when it gets no number. Only the start timestamp of a
CDC frame is followed by a test, and that one looks at `_running`, not at the
number; behind the end timestamp the frame is finished whatever was read. The
frame is abandoned only where one of its reads does not come to an end.
-/
namespace AsDt1.Guarantees
open AsDt1.Lib AsDt1.Source Routine

variable {σ : Type}

/-- The same port and the same calls of `stop()` with another host clock. -/
def withClock (E : Environment σ) (now : σ → BitVec 64 × σ) : Environment σ := { E with now }

def isPublication : Event → Bool
  | .pointCloud _ _ | .imuSamples _ => true
  | _ => false

def isInput : Event → Bool
  | .line _ | .octets _ => true
  | _ => false

def isParsed : Event → Bool
  | .parsed _ _ _ _ => true
  | _ => false

/-- `end_ts` less the exposure came out above `end_ts`. -/
def wraps (config : WorkerConfig) : Event → Bool
  | .parsed frameTs endTs _ _ => config.kind = .hist && endTs < frameTs
  | _ => false

def eventsSince (w w' : World σ) : List Event := (w'.log.drop w.log.length).map Prod.snd

/-- From `w` to `w'` the clock offset and the time of the latest sample stay as they
are, and nothing is published. -/
structure Abandoned (w w' : World σ) : Prop where
  offset : w'.clockOffset = w.clockOffset
  latest : w'.latestImuSampleTs = w.latestImuSampleTs
  silent : ∀ event ∈ eventsSince w w', isPublication event = false

/-- Some `read_timestamp()` of the frame returns without a number. -/
def TimestampMissing (E : Environment σ) (config : WorkerConfig) (fuel : Nat) (w : World σ) : Prop :=
  (config.kind = .cdc ∧ ∃ line w', timestampLine E fuel w = (.ok line, w') ∧ scansNumber line = false) ∨
    ∃ read w', frameReads E config fuel w = (.ok read, w') ∧ ∃ line ∈ read.lines, scansNumber line = false

/-- One call of `process_serial_data`, whatever the host clock says: a frame that
lacks a timestamp is abandoned, and the subtraction never wraps. -/
structure AbandonsFrame (E : Environment σ) (config : WorkerConfig) (fuel : Nat) (w : World σ) : Prop where
  abandoned : ∀ now, TimestampMissing (withClock E now) config fuel w →
    Abandoned w (processSerialData (withClock E now) config fuel w).2
  no_wrap : ∀ now, ∀ event ∈ eventsSince w (processSerialData (withClock E now) config fuel w).2,
    wraps config event = false

/-- If the reads of the frame come to an end, then every timestamp line has a
number, and the end of a histogram frame is not before the exposure. -/
def TimestampsPresent (E : Environment σ) (config : WorkerConfig) (fuel : Nat) (w : World σ) : Prop :=
  ∀ read w', frameReads E config fuel w = (.ok read, w') →
    (∀ line ∈ read.lines, scansNumber line = true) ∧
    ∀ finish, read = .hist finish →
      BitVec.ofNat 64 config.modeInfo.totExposure * 1000000 ≤ timestampOf finish * 1000000

/-! ## The reads -/

/-- From `w` to `s` the log has grown by events of this kind. -/
def Since (kind : Event → Bool) (w s : World σ) : Prop :=
  ∃ entries, s.log = w.log ++ entries ∧ ∀ entry ∈ entries, kind entry.2 = true

theorem Since.refl (kind : Event → Bool) (w : World σ) : Since kind w w :=
  ⟨[], (List.append_nil _).symm, fun _ listed => absurd listed List.not_mem_nil⟩

theorem Since.concat {kind : Event → Bool} {w s t : World σ} {event : Event} (since : Since kind w s)
    (right : kind event = true) (noted : t.log = s.log ++ [(s.phase, event)]) : Since kind w t := by
  obtain ⟨entries, grown, all⟩ := since
  refine ⟨entries ++ [(s.phase, event)], ?_, ?_⟩
  · rw [noted, grown, List.append_assoc]
  · intro entry listed
    rcases List.mem_append.mp listed with old | new
    · exact all entry old
    · obtain rfl := List.mem_singleton.mp new
      exact right

theorem Since.trans {kind : Event → Bool} {w s t : World σ} (first : Since kind w s) (second : Since kind s t) :
    Since kind w t := by
  obtain ⟨entries, grown, all⟩ := first
  obtain ⟨entries', grown', all'⟩ := second
  refine ⟨entries ++ entries', by rw [grown', grown, List.append_assoc], ?_⟩
  intro entry listed
  rcases List.mem_append.mp listed with old | new
  · exact all entry old
  · exact all' entry new

theorem Since.mono {kind kind' : Event → Bool} {w s : World σ} (since : Since kind w s)
    (weaker : ∀ event, kind event = true → kind' event = true) : Since kind' w s := by
  obtain ⟨entries, grown, all⟩ := since
  exact ⟨entries, grown, fun entry listed => weaker _ (all entry listed)⟩

theorem Since.events {kind : Event → Bool} {w s : World σ} (since : Since kind w s) :
    ∀ event ∈ eventsSince w s, kind event = true := by
  obtain ⟨entries, grown, all⟩ := since
  intro event listed
  unfold eventsSince at listed
  rw [grown, List.drop_left] at listed
  obtain ⟨entry, member, rfl⟩ := List.mem_map.mp listed
  exact all entry member

/-- Since `w` the worker has only read. -/
structure OnlyRead (w s : World σ) : Prop where
  offset : s.clockOffset = w.clockOffset
  latest : s.latestImuSampleTs = w.latestImuSampleTs
  log : Since isInput w s

theorem OnlyRead.survives (w : World σ) : SurvivesReads (OnlyRead w) where
  env _ _ read := ⟨read.offset, read.latest, read.log⟩
  octets s _ read := ⟨read.offset, read.latest, Since.concat (s := s) read.log rfl rfl⟩
  line s _ read := ⟨read.offset, read.latest, Since.concat (s := s) read.log rfl rfl⟩
  stopped _ read := ⟨read.offset, read.latest, read.log⟩
  imuData _ _ read := ⟨read.offset, read.latest, read.log⟩
  receiveBuf _ _ read := ⟨read.offset, read.latest, read.log⟩

theorem frameReads_only_read (E : Environment σ) (config : WorkerConfig) (fuel : Nat) (w : World σ) :
    OnlyRead w (frameReads E config fuel w).2 :=
  ((OnlyRead.survives w).frameReads E config fuel).holds ⟨rfl, rfl, .refl _ _⟩

theorem OnlyRead.abandoned {w s : World σ} (read : OnlyRead w s) : Abandoned w s where
  offset := read.offset
  latest := read.latest
  silent event listed := by
    have input := read.log.events event listed
    cases event with
    | line | octets => rfl
    | _ => cases input

/-! ## Behind the end timestamp -/

section Finish

variable (E : Environment σ) (config : WorkerConfig) {Inv : World σ → Prop}

theorem deliverImu_keeps_noted (survives : SurvivesReads Inv)
    (noted : ∀ w samples, Inv w → Inv { w with log := w.log ++ [(w.phase, .imuSamples samples)] }) :
    Keeps Inv (deliverImu E config) := by
  apply Keeps.bind (survives.isRunning E)
  intro running
  apply Keeps.bind Keeps.get
  intro w
  split
  · exact Keeps.bind (Keeps.modify fun s holds => noted s _ holds) fun _ => survives.call E _
  · exact Keeps.pure

theorem deliverPointCloud_keeps_noted (survives : SurvivesReads Inv)
    (noted : ∀ w timestamp points, Inv w →
      Inv { w with log := w.log ++ [(w.phase, .pointCloud timestamp points)] })
    (frameTs : BitVec 64) (points : List (Option (Vec3 ℚ))) :
    Keeps Inv (deliverPointCloud E config frameTs points) := by
  apply Keeps.bind (survives.isRunning E)
  intro running
  apply Keeps.bind Keeps.get
  intro w
  split
  · exact Keeps.bind (Keeps.modify fun s holds => noted s _ _ holds) fun _ => survives.call E _
  · exact Keeps.pure

/-- The offset is this one, and since `w` no frame was parsed. -/
structure Delivered (offset : BitVec 64) (w s : World σ) : Prop where
  offset : s.clockOffset = offset
  log : Since (fun event => !isParsed event) w s

theorem Delivered.survives (offset : BitVec 64) (w : World σ) : SurvivesReads (Delivered offset w) where
  env _ _ done := ⟨done.offset, done.log⟩
  octets s _ done := ⟨done.offset, Since.concat (s := s) done.log rfl rfl⟩
  line s _ done := ⟨done.offset, Since.concat (s := s) done.log rfl rfl⟩
  stopped _ done := ⟨done.offset, done.log⟩
  imuData _ _ done := ⟨done.offset, done.log⟩
  receiveBuf _ _ done := ⟨done.offset, done.log⟩

theorem Delivered.imu (offset : BitVec 64) (w : World σ) : Keeps (Delivered offset w) (deliverImu E config) :=
  deliverImu_keeps_noted E config (Delivered.survives offset w)
    fun s _ done => ⟨done.offset, Since.concat (s := s) done.log rfl rfl⟩

theorem Delivered.pointCloud (offset : BitVec 64) (w : World σ) (frameTs : BitVec 64)
    (points : List (Option (Vec3 ℚ))) :
    Keeps (Delivered offset w) (deliverPointCloud E config frameTs points) :=
  deliverPointCloud_keeps_noted E config (Delivered.survives offset w)
    (fun s _ _ done => ⟨done.offset, Since.concat (s := s) done.log rfl rfl⟩) frameTs points

theorem Delivered.unpackImu (offset : BitVec 64) (w : World σ) (frameTs : BitVec 64) :
    Keeps (Delivered offset w) (unpackImu frameTs : SerialRoutine σ Unit) :=
  Keeps.modify fun _ done => ⟨done.offset, done.log⟩

/-- The world in which a frame has just been parsed. -/
def parsedWorld (frameTs endTs : BitVec 64) (w : World σ) : World σ :=
  { w with
    env := (E.now w.env).2
    clockOffset := (E.now w.env).1 - endTs
    log := w.log ++ [(w.phase, .parsed frameTs endTs w.receiveBuf w.imuData)] }

theorem finishHistFrame_delivered (endTs : BitVec 64) (w : World σ) :
    Delivered ((E.now w.env).1 - endTs) (parsedWorld E (config.histFrameTs endTs) endTs w)
      (finishHistFrame E config endTs w).2 := by
  have parsed : finishHistFrame E config endTs w =
      (do unpackImu (config.histFrameTs endTs); deliverImu E config)
        (parsedWorld E (config.histFrameTs endTs) endTs w) := rfl
  rw [parsed]
  apply Keeps.holds (Keeps.bind (Delivered.unpackImu _ _ _) fun _ => Delivered.imu E config _ _)
  exact ⟨rfl, .refl _ _⟩

theorem finishCdcFrame_delivered (frameTs endTs : BitVec 64) (w : World σ) :
    Delivered ((E.now w.env).1 - endTs) (parsedWorld E frameTs endTs w)
      (finishCdcFrame E config frameTs endTs w).2 := by
  have parsed : finishCdcFrame E config frameTs endTs w =
      (do let points ← unpackPoints config
          unpackImu frameTs
          deliverPointCloud E config frameTs points
          deliverImu E config) (parsedWorld E frameTs endTs w) := rfl
  rw [parsed]
  refine Keeps.holds (Keeps.bind ?_ fun points => Keeps.bind (Delivered.unpackImu _ _ _) fun _ =>
    Keeps.bind (Delivered.pointCloud E config _ _ _ points) fun _ => Delivered.imu E config _ _) ⟨rfl, .refl _ _⟩
  apply Keeps.bind Keeps.get
  intro s
  split
  · exact Keeps.pure
  · exact Keeps.throw

theorem finishFrame_offset {read : FrameRead} {finish : Octets} (ends : read.finish? = some finish) (w : World σ) :
    (finishFrame E config read w).2.clockOffset = (E.now w.env).1 - timestampOf finish * 1000000 := by
  cases read with
  | dropped => cases ends
  | cdc start line =>
    obtain rfl : line = finish := Option.some.inj ends
    exact (finishCdcFrame_delivered E config _ _ w).offset
  | hist line =>
    obtain rfl : line = finish := Option.some.inj ends
    exact (finishHistFrame_delivered E config _ w).offset

end Finish

section Frame

variable {E : Environment σ} {config : WorkerConfig} {fuel : Nat} {w w' : World σ} {read : FrameRead}
  {line finish : Octets}

/-- The class decides what a frame that goes on has read. -/
theorem frameReads_shape (E : Environment σ) (config : WorkerConfig) (fuel : Nat) :
    Triple (fun _ => True) (frameReads E config fuel) (fun read _ => match read with
      | .dropped => True
      | .cdc _ _ => config.kind = .cdc
      | .hist _ => config.kind = .hist) (fun _ => True) := by
  unfold frameReads
  split
  · next cdc =>
    refine Triple.bind (.any _) fun start => Triple.bind (.any _) fun running => ?_
    split
    · refine Triple.bind (.any _) fun _ => Triple.bind (.any _) fun _ => Triple.bind (.any _) fun finish => ?_
      exact Triple.pure fun _ _ => cdc
    · exact Triple.pure fun _ _ => trivial
  · next hist =>
    refine Triple.bind (.any _) fun running => ?_
    split
    · refine Triple.bind (.any _) fun _ => Triple.bind (.any _) fun finish => ?_
      exact Triple.pure fun _ _ => hist
    · exact Triple.pure fun _ _ => trivial

/-- The reads do not ask for the time. -/
theorem frameReads_withClock (E : Environment σ) (config : WorkerConfig) (fuel : Nat) (now : σ → BitVec 64 × σ) :
    frameReads (withClock E now) config fuel = frameReads E config fuel := rfl

/-- The start timestamp is the first line of a frame that goes on. -/
theorem frameReads_start {t : World σ} (cdc : config.kind = .cdc) (first : timestampLine E fuel w = (.ok line, t))
    (reads : frameReads E config fuel w = (.ok read, w')) :
    read = .dropped ∨ ∃ finish, read = .cdc line finish := by
  unfold frameReads at reads
  simp only [cdc] at reads
  rw [bind_ok first] at reads
  refine Triple.value (P := fun _ => True) (X := fun _ => True)
    (Q := fun read _ => read = .dropped ∨ ∃ finish, read = .cdc line finish) ?_ trivial reads
  refine Triple.bind (.any _) fun running => ?_
  split
  · refine Triple.bind (.any _) fun _ => Triple.bind (.any _) fun _ => Triple.bind (.any _) fun finish => ?_
    exact Triple.pure fun _ _ => Or.inr ⟨finish, rfl⟩
  · exact Triple.pure fun _ _ => Or.inl rfl

theorem process_of_reads (reads : frameReads E config fuel w = (.ok read, w')) (now : σ → BitVec 64 × σ) :
    processSerialData (withClock E now) config fuel w = finishFrame (withClock E now) config read w' := by
  rw [processSerialData_eq, frameReads_withClock]
  exact bind_ok reads

/-- A frame whose reads come to an end moves the offset at some time of day. -/
theorem offset_moves (reads : frameReads E config fuel w = (.ok read, w')) (ends : read.finish? = some finish) :
    ∃ now, (processSerialData (withClock E now) config fuel w).2.clockOffset ≠ w.clockOffset := by
  refine ⟨fun s => (w.clockOffset + 1 + timestampOf finish * 1000000, s), ?_⟩
  rw [process_of_reads reads, finishFrame_offset _ config ends]
  intro same
  have moved :
      w.clockOffset + 1 + timestampOf finish * 1000000 - timestampOf finish * 1000000 = w.clockOffset := same
  rw [BitVec.add_sub_cancel] at moved
  bv_omega

/-- A frame whose reads fail, or that is dropped behind its start timestamp. -/
theorem process_unread (now : σ → BitVec 64 × σ)
    (unread : ∀ read w', frameReads E config fuel w = (.ok read, w') → read = .dropped) :
    (processSerialData (withClock E now) config fuel w).2 = (frameReads E config fuel w).2 := by
  rcases reads : frameReads E config fuel w with ⟨outcome, w'⟩
  cases outcome with
  | ok read =>
    obtain rfl := unread read w' reads
    rw [process_of_reads reads]
    rfl
  | error stop =>
    rw [processSerialData_eq, frameReads_withClock, bind_stop reads]

theorem isInput_not_wraps (config : WorkerConfig) (event : Event) (input : isInput event = true) :
    (!wraps config event) = true := by
  cases event with
  | line | octets => rfl
  | _ => cases input

theorem not_parsed_not_wraps (config : WorkerConfig) (event : Event) (other : (!isParsed event) = true) :
    (!wraps config event) = true := by
  cases event with
  | parsed => cases other
  | _ => rfl

/-- The subtraction wraps if and only if the exposure is longer than `end_ts`. -/
theorem wraps_hist (hist : config.kind = .hist) (endTs : BitVec 64) (receiveBuf : Octets) (imuData : List Octets) :
    wraps config (.parsed (config.histFrameTs endTs) endTs receiveBuf imuData) =
      decide ¬ BitVec.ofNat 64 config.modeInfo.totExposure * 1000000 ≤ endTs := by
  unfold wraps WorkerConfig.histFrameTs
  generalize BitVec.ofNat 64 config.modeInfo.totExposure * 1000000 = exposure
  have above : endTs < endTs - exposure ↔ ¬ exposure ≤ endTs := by
    rw [BitVec.lt_def, BitVec.le_def, BitVec.toNat_sub]
    have := endTs.isLt
    have := exposure.isLt
    omega
  simp only [hist, decide_true, Bool.true_and, decide_eq_decide]
  exact above

end Frame

section Abandonment

variable {E : Environment σ} {config : WorkerConfig} {fuel : Nat} {w : World σ}

theorem TimestampsPresent.abandoned (present : TimestampsPresent E config fuel w) (now : σ → BitVec 64 × σ)
    (missing : TimestampMissing (withClock E now) config fuel w) :
    Abandoned w (processSerialData (withClock E now) config fuel w).2 := by
  rw [process_unread now]
  · exact (frameReads_only_read E config fuel w).abandoned
  · intro read w' reads
    have numbers := (present read w' reads).1
    rcases missing with ⟨cdc, line, t, first, failed⟩ | ⟨other, t, reads', line, listed, failed⟩
    · rcases frameReads_start cdc first reads with dropped | ⟨finish, rfl⟩
      · exact dropped
      · rw [numbers line (List.mem_cons_self ..)] at failed
        cases failed
    · obtain rfl : read = other := by
        have same := reads.symm.trans reads'
        exact Except.ok.inj (congrArg Prod.fst same)
      rw [numbers line listed] at failed
      cases failed

theorem TimestampsPresent.no_wrap (present : TimestampsPresent E config fuel w) (now : σ → BitVec 64 × σ) :
    Since (fun event => !wraps config event) w (processSerialData (withClock E now) config fuel w).2 := by
  have input := frameReads_only_read E config fuel w
  rcases reads : frameReads E config fuel w with ⟨outcome, w'⟩
  rw [reads] at input
  have plain := input.log.mono (isInput_not_wraps config)
  cases outcome with
  | error stop =>
    have unread : ∀ read t, frameReads E config fuel w = (.ok read, t) → read = .dropped := by
      intro read t returned
      rw [reads] at returned
      cases returned
    rw [process_unread now unread, reads]
    exact plain
  | ok read =>
    rw [process_of_reads reads]
    have shape := (frameReads_shape E config fuel).value trivial reads
    cases read with
    | dropped => exact plain
    | cdc start finish =>
      have later := (finishCdcFrame_delivered (withClock E now) config (timestampOf start * 1000000)
        (timestampOf finish * 1000000) w').log.mono (not_parsed_not_wraps config)
      refine Since.trans (Since.concat plain ?_ rfl) later
      simp only [wraps, show config.kind = .cdc from shape]
      rfl
    | hist finish =>
      have later := (finishHistFrame_delivered (withClock E now) config (timestampOf finish * 1000000)
        w').log.mono (not_parsed_not_wraps config)
      refine Since.trans (Since.concat plain ?_ rfl) later
      have enough := (present _ w' reads).2 finish rfl
      rw [wraps_hist shape, decide_eq_false (not_not_intro enough)]
      rfl

theorem AbandonsFrame.numbers (abandons : AbandonsFrame E config fuel w) {read : FrameRead} {w' : World σ}
    (reads : frameReads E config fuel w = (.ok read, w')) : ∀ line ∈ read.lines, scansNumber line = true := by
  intro line listed
  by_contra failed
  obtain ⟨finish, ends⟩ : ∃ finish, read.finish? = some finish := by
    cases read with
    | dropped => exact absurd listed List.not_mem_nil
    | cdc start finish => exact ⟨finish, rfl⟩
    | hist finish => exact ⟨finish, rfl⟩
  obtain ⟨now, moved⟩ := offset_moves reads ends
  apply moved
  exact (abandons.abandoned now (Or.inr ⟨read, w', reads, line, listed, by simpa using failed⟩)).offset

theorem AbandonsFrame.exposure (abandons : AbandonsFrame E config fuel w) {finish : Octets} {w' : World σ}
    (reads : frameReads E config fuel w = (.ok (.hist finish), w')) :
    BitVec.ofNat 64 config.modeInfo.totExposure * 1000000 ≤ timestampOf finish * 1000000 := by
  have hist : config.kind = .hist := (frameReads_shape E config fuel).value trivial reads
  have whole := abandons.no_wrap E.now
  rw [process_of_reads reads] at whole
  obtain ⟨entries, grown, -⟩ := (frameReads_only_read E config fuel w).log
  obtain ⟨later, grown', -⟩ := (finishHistFrame_delivered (withClock E E.now) config
    (timestampOf finish * 1000000) w').log
  rw [reads] at grown
  have unwrapped := whole (.parsed (config.histFrameTs (timestampOf finish * 1000000))
    (timestampOf finish * 1000000) w'.receiveBuf w'.imuData) ?_
  · rw [wraps_hist hist] at unwrapped
    simpa using unwrapped
  · unfold eventsSince
    show _ ∈ ((finishHistFrame (withClock E E.now) config (timestampOf finish * 1000000) w').2.log.drop
      w.log.length).map Prod.snd
    rw [grown']
    simp [parsedWorld, show w'.log = w.log ++ entries from grown]

/-- A call of `process_serial_data` abandons a frame that lacks a timestamp and never
wraps the frame's time, at every time of day, if and only if a frame whose reads come
to an end has its timestamps, none before the exposure. -/
theorem frame_abandoned_iff (E : Environment σ) (config : WorkerConfig) (fuel : Nat) (w : World σ) :
    AbandonsFrame E config fuel w ↔ TimestampsPresent E config fuel w := by
  constructor
  · intro abandons read w' reads
    refine ⟨abandons.numbers reads, ?_⟩
    rintro finish rfl
    exact abandons.exposure reads
  · intro present
    refine ⟨present.abandoned, fun now event listed => ?_⟩
    have plain := (present.no_wrap now).events event listed
    simpa using plain

end Abandonment

/-! ## A stop in the middle of a frame -/

/-- The device sends one empty IMU block and then nothing; `stop()` is called while
the driver waits for the end timestamp. The state counts the reads. -/
def stoppedDevice : Environment Nat where
  answer
    | .readline, s => (.ok (if s = 0 then ascii "BEGIN IMU" else []), s + 1)
    | .read size, s => (.ok ((ascii "END").take size), s + 1)
    | .findPort, s => (.ok [], s)
    | .available, s => (.ok 0, s)
    | .openPort _, s | .write _, s | .flush, s | .flushInput, s | .close, s => (.ok (), s)
    | .connectCb _ _, s | .pointCloudCb _ _, s | .imuCb _, s => (.ok (), s)
  stops s := (decide (3 ≤ s), s)
  now s := (1700000000000000000, s)
  syncMode s := (.none, s)
  frameRateHz s := (.initial, s)
  read_size := by
    intro size s t data answered
    obtain rfl : (ascii "END").take size = data := Except.ok.inj (congrArg Prod.fst answered)
    exact List.length_take_le size _

theorem second_mode_listed : 1 < dt1ModesList.length := by decide

def histConfig : WorkerConfig := ⟨.hist, ⟨1, second_mode_listed⟩, true, true⟩

def streamingWorld : World Nat where
  env := 0
  running := true
  serial := true
  deviceInfo := .unset
  receiveBuf := []
  imuData := []
  imuSamples := []
  latestImuSampleTs := 0
  clockOffset := 1
  phase := .streaming
  log := []

/-- The frame without an end timestamp sets the offset to the time of day. -/
theorem stop_overwrites_offset :
    ¬ ∀ (σ : Type) (E : Environment σ) (config : WorkerConfig) (fuel : Nat) (w : World σ),
      AbandonsFrame E config fuel w := by
  intro always
  have frame := always Nat stoppedDevice histConfig 10 streamingWorld
  have ended : (frameReads stoppedDevice histConfig 10 streamingWorld).1.toOption = some (.hist []) := by
    decide +kernel
  rcases reads : frameReads stoppedDevice histConfig 10 streamingWorld with ⟨outcome, w'⟩
  rw [reads] at ended
  have missing : TimestampMissing stoppedDevice histConfig 10 streamingWorld := by
    cases outcome with
    | error stop => cases ended
    | ok read =>
      obtain rfl := Option.some.inj ended
      exact Or.inr ⟨_, w', reads, [], List.mem_cons_self .., by decide⟩
  have kept := (frame.abandoned stoppedDevice.now missing).offset
  have moved : (processSerialData stoppedDevice histConfig 10 streamingWorld).2.clockOffset ≠ 1 := by
    decide +kernel
  exact moved kept

end AsDt1.Guarantees
