import AsDt1.Source.Handshake
import AsDt1.Source.SerialReads
import AsDt1.Source.WorkerHandles

/-!
# Streaming only in a confirmed mode

An observer of the port follows the commands and replies on the connection that is
open and notes which of the three questions have been answered as needed: the
start mode, the version and the mode. No setup command is written and no frame
read before all three have been, whatever the device, the host and the other
threads do, in every finite part of the thread's execution. This is about the frames
of `process_serial_data`: the video worker of a hist device is started beside the
serial worker and unpacks frames in the geometry of `_mode` without the handshake.
-/
namespace AsDt1.Guarantees
open AsDt1.Lib AsDt1.Source Routine

/-! ## The observer -/

inductive Question where
  | flstart | ver | flmode
  deriving DecidableEq

def Question.command : Question → Octets
  | .flstart => ascii "flstart"
  | .ver => ascii "ver"
  | .flmode => ascii "flmode"

/-- What the next line on the connection is to the observer. -/
inductive Awaiting where
  | nothing
  | echo (question : Question)
  | reply (question : Question)
  deriving DecidableEq

/-- The questions answered as needed on the current connection. -/
structure Answers where
  awaiting : Awaiting
  startMode : Bool
  version : Bool
  mode : Bool
  deriving DecidableEq

def Answers.unasked : Answers := ⟨.nothing, false, false, false⟩

def Answers.confirmed (answers : Answers) : Prop :=
  answers.startMode = true ∧ answers.version = true ∧ answers.mode = true

/-- The question that a write asks. -/
def questionOf (data : Octets) : Option Question :=
  [Question.flstart, .ver, .flmode].find? fun question => question.command ++ [0x0D] = data

variable (config : WorkerConfig)

def Answers.judge (answers : Answers) (reply : Octets) : Question → Answers
  | .flstart => { answers with
      awaiting := .nothing, startMode := decide (ascii config.kind.expectedFlstartMode <:+: reply) }
  | .ver => { answers with
      awaiting := .nothing, version := decide ((isSupportedDevice reply).toOption = some true) }
  | .flmode => { answers with
      awaiting := .nothing, mode := decide (reportedMode reply = some config.mode.val) }

def Answers.see (answers : Answers) : Event → Answers
  | .opened | .closed => .unasked
  | .wrote data =>
    match questionOf data with
    | some question => { answers with awaiting := .echo question }
    | none => { answers with awaiting := .nothing }
  | .line text =>
    match answers.awaiting with
    | .nothing => answers
    | .echo question =>
      if question.command <:+: text then { answers with awaiting := .reply question } else answers
    | .reply question => answers.judge config (eraseLineEnd text) question
  | _ => answers

def observe (log : List (Phase × Event)) : Answers :=
  log.foldl (fun answers entry => answers.see config entry.2) .unasked

/-- The setup commands, the calls of `process_serial_data` and the frames they read. -/
def needsMode : Phase × Event → Bool
  | (.setup, .wrote _) | (_, .processing) | (_, .parsed _ _ _ _) => true
  | _ => false

def Confirmed (log : List (Phase × Event)) : Prop :=
  ∀ before entry after, log = before ++ entry :: after → needsMode entry = true →
    (observe config before).confirmed

theorem observe_concat (log : List (Phase × Event)) (entry : Phase × Event) :
    observe config (log ++ [entry]) = (observe config log).see config entry.2 := by
  unfold observe
  rw [List.foldl_append]
  rfl

theorem Confirmed.concat {log : List (Phase × Event)} {entry : Phase × Event} (so_far : Confirmed config log)
    (allowed : needsMode entry = true → (observe config log).confirmed) :
    Confirmed config (log ++ [entry]) := by
  intro before other after split needs
  rcases List.eq_nil_or_concat after with rfl | ⟨front, last, rfl⟩
  · obtain ⟨rfl, same⟩ := List.append_inj' split rfl
    obtain rfl : entry = other := List.cons.inj same |>.1
    exact allowed needs
  · have shifted : log ++ [entry] = (before ++ other :: front) ++ [last] := by
      rw [split]
      simp
    obtain ⟨rfl, -⟩ := List.append_inj' shifted rfl
    exact so_far before other front rfl needs

/-! ## What holds during the handshake -/

section Handshake

variable {σ : Type} (E : Environment σ) (fuel : Nat) (ph : Phase)

/-- The log is as required so far, and `p` holds of the flag and the answers. -/
def At (p : Bool → Answers → Prop) (w : World σ) : Prop :=
  Confirmed config w.log ∧ w.phase = ph ∧ p w.running (observe config w.log)

/-- Nothing is known of the answers. -/
def anyAnswers : Bool → Answers → Prop := fun _ _ => True

variable {config ph} {p q : Bool → Answers → Prop} {X : World σ → Prop}

theorem At.any {w : World σ} (at_ : At config ph p w) : At config ph anyAnswers w := ⟨at_.1, at_.2.1, trivial⟩

theorem At.imp {w : World σ} (weaker : ∀ up answers, p up answers → q up answers) (at_ : At config ph p w) :
    At config ph q w := ⟨at_.1, at_.2.1, weaker _ _ at_.2.2⟩

theorem note_at {event : Event}
    (allowed : ∀ up answers, p up answers → needsMode (ph, event) = true → answers.confirmed)
    (seen : ∀ up answers, p up answers → q up (answers.see config event)) :
    Triple (At config ph p) (note event : SerialRoutine σ Unit) (fun _ => At config ph q) X := by
  apply Triple.modify
  intro w at_
  obtain ⟨so_far, rfl, known⟩ := at_
  refine ⟨so_far.concat config (allowed _ _ known), rfl, ?_⟩
  show q w.running (observe config (w.log ++ [(w.phase, event)]))
  rw [observe_concat]
  exact seen _ _ known

/-- An event of which the observer takes no notice. -/
theorem silent_keeps {event : Event} (free : needsMode (ph, event) = false)
    (unseen : ∀ answers : Answers, answers.see config event = answers) :
    Keeps (At config ph p) (note event : SerialRoutine σ Unit) := by
  apply note_at
  · intro up answers _ needs
    rw [free] at needs
    cases needs
  · intro up answers known
    rw [unseen]
    exact known

theorem survives_octets : SurvivesOctets (At config ph p : World σ → Prop) where
  env _ _ at_ := at_
  octets w data at_ := by
    have noted : Keeps (At config ph p) (note (.octets data) : SerialRoutine σ Unit) :=
      silent_keeps (by cases ph <;> rfl) fun _ => rfl
    exact noted w at_

theorem isRunning_at (dropped : ∀ answers, p true answers → p false answers) :
    Triple (At config ph p) (isRunning E)
      (fun up => At config ph fun now answers => now = up ∧ p now answers) X := by
  intro w at_
  obtain ⟨so_far, at_phase, known⟩ := at_
  by_cases running : w.running = true
  · rw [running] at known
    unfold isRunning
    rw [if_pos running]
    cases stops : (E.stops w.env).1 with
    | false => exact ⟨so_far, at_phase, rfl, known⟩
    | true => exact ⟨so_far, at_phase, rfl, dropped _ known⟩
  · have down : w.running = false := by simpa using running
    rw [isRunning_down down]
    exact ⟨so_far, at_phase, down, known⟩

theorem readline_at (stop : ∀ w, At config ph p w → X w) {q : Octets → Bool → Answers → Prop}
    (seen : ∀ text up answers, p up answers → q text up (answers.see config (.line text))) :
    Triple (At config ph p) (readline E) (fun text => At config ph (q text)) X := by
  apply Triple.bind (Triple.conseq (survives_octets.call E _) (fun _ at_ => at_) (fun _ _ at_ => at_) stop)
  intro text
  apply Triple.bind (note_at (X := X) (q := q text) _ (seen text))
  · exact fun _ => Triple.pure fun _ at_ => at_
  · intro up answers _ needs
    cases ph <;> cases needs

theorem write_at (stop : ∀ w, At config ph p w → X w) {data : Octets}
    (allowed : ∀ up answers, p up answers → ph = .setup → answers.confirmed)
    (seen : ∀ up answers, p up answers → q up (answers.see config (.wrote data))) :
    Triple (At config ph p) (write E data) (fun _ => At config ph q) X := by
  apply Triple.bind (Triple.conseq (survives_octets.call E _) (fun _ at_ => at_) (fun _ _ at_ => at_) stop)
  intro _
  apply note_at _ seen
  intro up answers known needs
  apply allowed up answers known
  cases ph with
  | setup => rfl
  | _ => cases needs

theorem readToPrompt_keeps : Keeps (At config ph p) (readToPrompt E fuel) := by
  apply Keeps.tryCatch
  · apply Keeps.loop
    intro _
    exact Keeps.bind (survives_octets.read E 1) fun _ => Keeps.pure
  · intro failure
    cases failure with
    | outOfRange => exact Keeps.pure
    | _ => exact Keeps.throw

/-! ## Lines -/

/-- Further lines and a dropped flag do not matter to `p`. -/
structure Stable (config : WorkerConfig) (p : Bool → Answers → Prop) : Prop where
  dropped : ∀ answers, p true answers → p false answers
  line : ∀ text up answers, p up answers → p up (answers.see config (.line text))

theorem Stable.survives (stable : Stable config p) : SurvivesReads (At config ph p : World σ → Prop) where
  toSurvivesOctets := survives_octets
  line w text at_ := by
    have noted : Triple (At config ph p) (note (.line text) : SerialRoutine σ Unit) (fun _ => At config ph p)
        (At config ph p) := by
      apply note_at
      · intro up answers _ needs
        cases ph <;> cases needs
      · exact stable.line text
    exact noted w at_
  stopped w at_ := by
    obtain ⟨so_far, at_phase, known⟩ := at_
    refine ⟨so_far, at_phase, ?_⟩
    cases running : w.running with
    | true =>
      rw [running] at known
      exact stable.dropped _ known
    | false => rwa [running] at known
  imuData _ _ at_ := at_
  receiveBuf _ _ at_ := at_

theorem readLine_keeps (stable : Stable config p) : Keeps (At config ph p) (readLine E) :=
  Keeps.bind (stable.survives.readline E) fun _ => Keeps.pure

/-- `read_line_until` goes from `p` to `q` if the line it looks for does; when the
flag is down `q` has to hold anyway. -/
theorem readLineUntil_at (stop : ∀ w, At config ph p w → X w) {findStr : Octets}
    (dropped : ∀ answers, p true answers → p false answers)
    (abandoned : ∀ answers, p false answers → q false answers)
    (skipped : ∀ text up answers, ¬ findStr <:+: text → p up answers → p up (answers.see config (.line text)))
    (found : ∀ text up answers, findStr <:+: text → p up answers → q up (answers.see config (.line text))) :
    Triple (At config ph p) (readLineUntil E fuel findStr) (fun _ => At config ph q) X := by
  apply Triple.loop (I := fun _ => At config ph p)
  · intro _
    apply Triple.bind (readline_at E stop (q := fun text up answers =>
      if findStr <:+: text then q up answers else p up answers) ?_)
    · intro text
      by_cases here : findStr <:+: text
      · rw [if_pos here]
        apply Triple.pure
        intro w at_
        exact at_.imp fun up answers known => by rwa [if_pos here] at known
      · rw [if_neg here]
        apply Triple.bind (Triple.conseq (isRunning_at E dropped) ?_ (fun _ _ at_ => at_) fun _ at_ => at_)
        · intro up
          apply Triple.pure
          intro w at_
          cases up with
          | true => exact at_.imp fun up answers known => known.2
          | false =>
            apply at_.imp
            intro up answers known
            obtain ⟨rfl, known⟩ := known
            exact abandoned answers known
        · intro w at_
          exact at_.imp fun up answers known => by rwa [if_neg here] at known
    · intro text up answers known
      by_cases here : findStr <:+: text
      · rw [if_pos here]
        exact found text up answers here known
      · rw [if_neg here]
        exact skipped text up answers here known
  · exact fun _ => stop

theorem stable_any : Stable config anyAnswers := ⟨fun _ _ => trivial, fun _ _ _ _ => trivial⟩

section Seen

variable {answers : Answers} {question : Question} {text data : Octets}

theorem see_line (unasked : answers.awaiting = .nothing) : answers.see config (.line text) = answers := by
  unfold Answers.see
  simp only [unasked]

theorem see_other_line (echo : answers.awaiting = .echo question) (absent : ¬ question.command <:+: text) :
    answers.see config (.line text) = answers := by
  unfold Answers.see
  simp only [echo, if_neg absent]

theorem see_echo (echo : answers.awaiting = .echo question) (present : question.command <:+: text) :
    answers.see config (.line text) = { answers with awaiting := .reply question } := by
  unfold Answers.see
  simp only [echo, if_pos present]

theorem see_reply (reply : answers.awaiting = .reply question) :
    answers.see config (.line text) = answers.judge config (eraseLineEnd text) question := by
  unfold Answers.see
  simp only [reply]

theorem see_question (asked : questionOf data = some question) :
    answers.see config (.wrote data) = { answers with awaiting := .echo question } := by
  unfold Answers.see
  simp only [asked]

theorem see_command (unasked : questionOf data = none) :
    answers.see config (.wrote data) = { answers with awaiting := .nothing } := by
  unfold Answers.see
  simp only [unasked]

end Seen

/-- No reply is awaited and `known` holds of the answers, as long as the flag is up. -/
def idle (known : Answers → Prop) : Bool → Answers → Prop :=
  fun up answers => up = true → answers.awaiting = .nothing ∧ known answers

theorem stable_idle (known : Answers → Prop) : Stable config (idle known) where
  dropped _ _ up := absurd up (by decide)
  line text up answers holds raised := by
    rw [see_line (holds raised).1]
    exact holds raised

/-- The handshake is over; the flag may be down by now. -/
def settled : Bool → Answers → Prop := fun _ answers => answers.awaiting = .nothing ∧ answers.confirmed

theorem stable_settled : Stable config settled where
  dropped _ holds := holds
  line text up answers holds := by
    rw [see_line holds.1]
    exact holds

/-! ## Frames -/

theorem readTimestamp_keeps (stable : Stable config p) : Keeps (At config ph p) (readTimestamp E fuel) :=
  Keeps.bind (stable.survives.readLineUntil E fuel _) fun _ => Keeps.pure

theorem noteParsed_keeps (frameTs endTs : BitVec 64) :
    Keeps (At config ph settled) (noteParsed frameTs endTs : SerialRoutine σ Unit) := by
  apply Keeps.bind Keeps.get
  intro w
  apply note_at
  · exact fun _ _ known _ => known.2
  · exact fun _ _ known => known

theorem setClockOffset_keeps (endTs : BitVec 64) : Keeps (At config ph p) (setClockOffset E endTs) :=
  Keeps.bind (fun _ at_ => at_) fun _ => Keeps.modify fun _ at_ => at_

theorem unpackPoints_keeps :
    Keeps (At config ph p) (unpackPoints config : SerialRoutine σ (List (Option (Vec3 ℚ)))) := by
  apply Keeps.bind Keeps.get
  intro w
  split
  · exact Keeps.pure
  · exact Keeps.throw

theorem deliverPointCloud_keeps (stable : Stable config p) (frameTs : BitVec 64)
    (points : List (Option (Vec3 ℚ))) :
    Keeps (At config ph p) (deliverPointCloud E config frameTs points) := by
  apply Keeps.bind (stable.survives.isRunning E)
  intro running
  apply Keeps.bind Keeps.get
  intro w
  split
  · apply Keeps.bind (silent_keeps (by cases ph <;> rfl) fun _ => rfl)
    exact fun _ => survives_octets.call E _
  · exact Keeps.pure

theorem deliverImu_keeps (stable : Stable config p) : Keeps (At config ph p) (deliverImu E config) := by
  apply Keeps.bind (stable.survives.isRunning E)
  intro running
  apply Keeps.bind Keeps.get
  intro w
  split
  · apply Keeps.bind (silent_keeps (by cases ph <;> rfl) fun _ => rfl)
    exact fun _ => survives_octets.call E _
  · exact Keeps.pure

theorem cdcFrame_keeps (frameTs : BitVec 64) :
    Keeps (At config ph settled) (cdcFrame E config fuel frameTs) := by
  apply Keeps.bind (stable_settled.survives.readSerialPointCloud E fuel)
  intro _
  apply Keeps.bind (stable_settled.survives.readImu E fuel)
  intro _
  apply Keeps.bind (readTimestamp_keeps E fuel stable_settled)
  intro endMs
  apply Keeps.bind (setClockOffset_keeps E _)
  intro _
  apply Keeps.bind (noteParsed_keeps frameTs _)
  intro _
  apply Keeps.bind unpackPoints_keeps
  intro points
  refine Keeps.bind (Keeps.modify ?_) fun _ => ?_
  · exact fun _ at_ => at_
  apply Keeps.bind (deliverPointCloud_keeps E stable_settled frameTs points)
  exact fun _ => deliverImu_keeps E stable_settled

theorem histFrame_keeps : Keeps (At config ph settled) (histFrame E config fuel) := by
  apply Keeps.bind (stable_settled.survives.readImu E fuel)
  intro _
  apply Keeps.bind (readTimestamp_keeps E fuel stable_settled)
  intro endMs
  apply Keeps.bind (setClockOffset_keeps E _)
  intro _
  apply Keeps.bind (noteParsed_keeps _ _)
  intro _
  refine Keeps.bind (Keeps.modify ?_) fun _ => deliverImu_keeps E stable_settled
  exact fun _ at_ => at_

theorem processSerialData_keeps : Keeps (At config ph settled) (processSerialData E config fuel) := by
  unfold processSerialData
  cases config.kind with
  | cdc =>
    apply Keeps.bind (readTimestamp_keeps E fuel stable_settled)
    intro startMs
    apply Keeps.bind (stable_settled.survives.isRunning E)
    intro running
    split
    · exact cdcFrame_keeps E fuel _
    · exact Keeps.pure
  | hist =>
    apply Keeps.bind (stable_settled.survives.isRunning E)
    intro running
    split
    · exact histFrame_keeps E fuel
    · exact Keeps.pure

/-! ## Questions and replies -/

/-- As long as the flag is up `known` holds of the answers. -/
def whileUp (known : Answers → Prop) : Bool → Answers → Prop := fun up answers => up = true → known answers

theorem whileUp_dropped {known : Answers → Prop} (answers : Answers) :
    whileUp known true answers → whileUp known false answers := fun _ up => absurd up (by decide)

/-- Sequencing behind a routine that does not matter to `p`. -/
theorem after {α β : Type} {r : SerialRoutine σ α} {next : α → SerialRoutine σ β} {Q : β → World σ → Prop}
    (first : Keeps (At config ph p) r)
    (rest : ∀ a, Triple (At config ph p) (next a) Q (At config ph anyAnswers)) :
    Triple (At config ph p) (r >>= next) Q (At config ph anyAnswers) :=
  Triple.bind (Triple.conseq first (fun _ at_ => at_) (fun _ _ at_ => at_) fun _ at_ => at_.any) rest

/-- Sequencing with a weaker precondition. -/
theorem imp_pre {α : Type} {r : SerialRoutine σ α} {Q : α → World σ → Prop}
    (weaker : ∀ up answers, p up answers → q up answers) (proved : Triple (At config ph q) r Q X) :
    Triple (At config ph p) r Q X :=
  Triple.conseq proved (fun _ at_ => at_.imp weaker) (fun _ _ holds => holds) fun _ holds => holds

theorem ask_at (not_setup : ph ≠ .setup) (question : Question) {known : Answers → Prop}
    (flags : ∀ answers awaiting, known answers → known { answers with awaiting }) :
    Triple (At config ph (whileUp known)) (sendAndReceive E fuel question.command)
      (fun _ => At config ph (whileUp fun answers => answers.awaiting = .reply question ∧ known answers))
      (At config ph anyAnswers) := by
  have asked : questionOf (question.command ++ [0x0D]) = some question := by cases question <;> decide
  apply Triple.bind (write_at E (q := whileUp fun answers => answers.awaiting = .echo question ∧ known answers)
    (fun _ at_ => at_.any) ?_ ?_)
  · intro _
    refine Triple.bind (readLineUntil_at E fuel (fun _ at_ => at_.any) whileUp_dropped ?_ ?_ ?_) fun _ =>
      Triple.pure fun _ at_ => at_
    · exact fun _ _ up => absurd up (by decide)
    · intro text up answers absent holds raised
      obtain ⟨echo, kept⟩ := holds raised
      rw [see_other_line echo absent]
      exact ⟨echo, kept⟩
    · intro text up answers present holds raised
      obtain ⟨echo, kept⟩ := holds raised
      rw [see_echo echo present]
      exact ⟨rfl, flags answers _ kept⟩
  · exact fun _ _ _ setup => absurd setup not_setup
  · intro up answers holds raised
    rw [see_question asked]
    exact ⟨rfl, flags answers _ (holds raised)⟩

theorem reply_at (question : Question) {known : Answers → Prop} :
    Triple (At config ph (whileUp fun answers => answers.awaiting = .reply question ∧ known answers))
      (readLine E)
      (fun reply => At config ph (whileUp fun answers =>
        ∃ before, known before ∧ answers = before.judge config reply question))
      (At config ph anyAnswers) := by
  apply Triple.bind (readline_at E (fun _ at_ => at_.any) (q := fun text => whileUp fun answers =>
    ∃ before, known before ∧ answers = before.judge config (eraseLineEnd text) question) ?_)
  · exact fun text => Triple.pure fun _ at_ => at_
  · intro text up answers holds raised
    obtain ⟨reply, kept⟩ := holds raised
    exact ⟨answers, kept, see_reply reply⟩

theorem write_keeps (not_setup : ph ≠ .setup) (data : Octets) :
    Keeps (At config ph anyAnswers) (write E data) :=
  write_at E (fun _ at_ => at_) (fun _ _ _ setup => absurd setup not_setup) fun _ _ _ => trivial

theorem sendAndReceive_keeps (not_setup : ph ≠ .setup) (command : Octets) :
    Keeps (At config ph anyAnswers) (sendAndReceive E fuel command) := by
  apply Keeps.bind (write_keeps E not_setup _)
  intro _
  exact Keeps.bind (stable_any.survives.readLineUntil E fuel command) fun _ => Keeps.pure

theorem close_keeps : Keeps (At config ph anyAnswers) (close E) := by
  apply Keeps.bind (survives_octets.call E _)
  intro _
  apply note_at
  · intro up answers _ needs
    cases ph <;> cases needs
  · exact fun _ _ _ => trivial

theorem rebootWith_keeps (not_setup : ph ≠ .setup) (command : Octets) :
    Keeps (At config ph anyAnswers) (rebootWith E fuel command) := by
  apply Keeps.bind (sendAndReceive_keeps E fuel not_setup command)
  intro _
  apply Keeps.bind (sendAndReceive_keeps E fuel not_setup _)
  exact fun _ => close_keeps E

theorem connect_keeps (port : Octets) : Keeps (At config ph anyAnswers) (connect E port) := by
  apply Keeps.tryCatch
  · apply Keeps.bind (survives_octets.call E _)
    intro _
    refine Keeps.bind (Keeps.modify ?_) fun _ => Keeps.bind ?_ fun _ => ?_
    · exact fun _ at_ => at_
    · apply note_at
      · intro up answers _ needs
        cases ph <;> cases needs
      · exact fun _ _ _ => trivial
    · exact Keeps.bind (survives_octets.call E _) fun _ => Keeps.pure
  · exact fun _ => Keeps.pure

theorem stopIfStreaming_keeps (not_setup : ph ≠ .setup) :
    Keeps (At config ph anyAnswers) (stopIfStreaming E) := by
  apply Keeps.bind (survives_octets.call E _)
  intro bytesAvailable
  split
  · exact Keeps.bind (write_keeps E not_setup _) fun _ => survives_octets.call E _
  · exact survives_octets.call E _

/-! ## The handshake -/

/-- A reply that is judged leaves nothing awaited. -/
theorem judge_unasked (answers : Answers) (reply : Octets) (question : Question) :
    (answers.judge config reply question).awaiting = .nothing := by
  cases question <;> rfl

theorem verifyDeviceMode_at :
    Triple (At config .connecting anyAnswers) (verifyDeviceMode E config fuel)
      (fun verified => At config .connecting fun up answers =>
        verified = true → idle (fun answers => answers.startMode = true) up answers)
      (At config .connecting anyAnswers) := by
  apply imp_pre (q := whileUp fun _ => True) fun _ _ _ _ => trivial
  apply Triple.bind (ask_at E fuel (by decide) .flstart fun _ _ _ => trivial)
  intro _
  apply Triple.bind (reply_at E .flstart)
  intro modeResp
  apply after (readToPrompt_keeps E fuel)
  intro _
  split
  · next named =>
    apply Triple.pure
    intro w at_
    apply at_.imp
    intro up answers holds _ raised
    obtain ⟨before, -, rfl⟩ := holds raised
    exact ⟨judge_unasked .., decide_eq_true named⟩
  · apply imp_pre (q := anyAnswers) fun _ _ _ => trivial
    apply Triple.bind (rebootWith_keeps E fuel (by decide) _)
    intro _
    apply Triple.pure
    intro w at_
    exact at_.imp fun _ _ _ refused => absurd refused (by decide)

/-- A command that is none of the questions. -/
theorem sendAndReceiveAck_keeps {cmd : Octets} (unasked : questionOf (cmd ++ [0x0D]) = none)
    (allowed : ∀ up answers, p up answers → ph = .setup → answers.confirmed)
    (kept : ∀ up answers, p up answers → p up { answers with awaiting := .nothing }) :
    Keeps (At config ph p) (sendAndReceiveAck E fuel cmd) := by
  apply Keeps.bind (write_at E (fun _ at_ => at_) allowed ?_)
  · exact fun _ => readToPrompt_keeps E fuel
  · intro up answers holds
    rw [see_command unasked]
    exact kept up answers holds

theorem requireSupported_at {version : Octets} {known : Answers → Prop} :
    Triple (At config ph (idle fun answers => known answers ∧
        answers.version = decide ((isSupportedDevice version).toOption = some true)))
      (requireSupported version : SerialRoutine σ Unit)
      (fun _ => At config ph (idle fun answers => known answers ∧ answers.version = true))
      (At config ph anyAnswers) := by
  unfold requireSupported
  cases judged : isSupportedDevice version with
  | error failure => exact Triple.throw fun _ at_ => at_.any
  | ok supported =>
    cases supported with
    | false => exact Triple.throw fun _ at_ => at_.any
    | true => exact Triple.pure fun _ at_ => at_

theorem requireKnown_at {mode : Option Nat} {known : Answers → Prop} :
    Triple (At config ph (idle fun answers =>
        known answers ∧ answers.mode = decide (mode = some config.mode.val)))
      (requireKnown mode : SerialRoutine σ Nat)
      (fun i => At config ph (idle fun answers => known answers ∧ answers.mode = decide (i = config.mode.val)))
      (At config ph anyAnswers) := by
  cases mode with
  | none => exact Triple.throw fun _ at_ => at_.any
  | some i =>
    apply Triple.pure
    intro w at_
    apply at_.imp
    intro up answers holds raised
    obtain ⟨unasked, kept, reported⟩ := holds raised
    exact ⟨unasked, kept, reported.trans (by simp)⟩

theorem getDeviceInfo_at :
    Triple (At config .connecting (idle fun answers => answers.startMode = true)) (getDeviceInfo E fuel)
      (fun info => At config .connecting (idle fun answers =>
        (answers.startMode = true ∧ answers.version = true) ∧ answers.mode = decide (info.mode = config.mode.val)))
      (At config .connecting anyAnswers) := by
  apply after (survives_octets.call E _)
  intro _
  apply after (sendAndReceiveAck_keeps E fuel (by decide) ?_ ?_)
  · intro _
    apply after (survives_octets.call E _)
    intro _
    apply imp_pre fun _ _ holds raised => (holds raised).2
    apply Triple.bind (ask_at E fuel (by decide) .ver fun _ _ kept => kept)
    intro _
    apply Triple.bind (reply_at E .ver)
    intro version
    apply imp_pre (q := idle fun answers => answers.startMode = true ∧
      answers.version = decide ((isSupportedDevice version).toOption = some true))
    · intro up answers holds raised
      obtain ⟨before, kept, rfl⟩ := holds raised
      exact ⟨judge_unasked .., kept, rfl⟩
    -- the settings, the device's name and a line that is not used
    apply after (readLine_keeps E (stable_idle _))
    intro _
    apply after (readLine_keeps E (stable_idle _))
    intro devInfo
    apply after (readLine_keeps E (stable_idle _))
    intro _
    apply Triple.bind requireSupported_at
    intro _
    apply after (readToPrompt_keeps E fuel)
    intro _
    apply imp_pre fun _ _ holds raised => (holds raised).2
    apply Triple.bind (ask_at E fuel (by decide) .flmode fun _ _ kept => kept)
    intro _
    apply Triple.bind (reply_at E .flmode)
    intro modeResp
    apply imp_pre (q := idle fun answers => (answers.startMode = true ∧ answers.version = true) ∧
      answers.mode = decide (reportedMode modeResp = some config.mode.val))
    · intro up answers holds raised
      obtain ⟨before, kept, rfl⟩ := holds raised
      exact ⟨judge_unasked .., kept, rfl⟩
    apply Triple.bind requireKnown_at
    intro mode
    apply after (readToPrompt_keeps E fuel)
    intro _
    exact Triple.pure fun _ at_ => at_
  · exact fun _ _ _ setup => absurd setup (by decide)
  · exact fun _ _ holds raised => ⟨rfl, (holds raised).2⟩

/-- What a pass of the outer loop that ends it leaves behind. -/
def found : Unit ⊕ Unit → Bool → Answers → Prop
  | .inl _ => anyAnswers
  | .inr _ => idle Answers.confirmed

theorem checkDevice_at :
    Triple (At config .connecting anyAnswers) (checkDevice E config fuel)
      (fun answer => At config .connecting (found answer)) (At config .connecting anyAnswers) := by
  apply after (stopIfStreaming_keeps E (by decide))
  intro _
  apply Triple.bind (verifyDeviceMode_at E fuel)
  intro verified
  cases verified with
  | false => exact Triple.pure fun _ at_ => at_.any
  | true =>
    apply imp_pre fun _ _ holds => holds rfl
    apply Triple.bind (getDeviceInfo_at E fuel)
    intro info
    refine after (Keeps.modify fun w at_ => ?_) fun _ => ?_
    · exact at_
    by_cases same : info.mode = config.mode.val
    · rw [if_neg (not_not.mpr same)]
      apply Triple.pure
      intro w at_
      apply at_.imp
      intro up answers holds raised
      obtain ⟨unasked, ⟨start, version⟩, mode⟩ := holds raised
      exact ⟨unasked, start, version, mode.trans (decide_eq_true same)⟩
    · rw [if_pos same]
      apply imp_pre (q := anyAnswers) fun _ _ _ => trivial
      apply after (rebootWith_keeps E fuel (by decide) _)
      exact fun _ => Triple.pure fun _ at_ => at_

theorem discoverRound_at :
    Triple (At config .connecting anyAnswers) (discoverRound E config fuel)
      (fun answer => At config .connecting (found answer)) (At config .connecting anyAnswers) := by
  have down : ∀ w : World σ, At config .connecting (fun up answers => up = false ∧ anyAnswers up answers) w →
      At config .connecting (found (.inr ())) w := by
    intro w at_
    exact at_.imp fun up answers holds raised => absurd (raised.symm.trans holds.1) (by decide)
  apply Triple.bind (isRunning_at E fun _ _ => trivial)
  intro running
  cases running with
  | false => exact Triple.pure down
  | true =>
    apply imp_pre (q := anyAnswers) fun _ _ _ => trivial
    apply after (survives_octets.call E _)
    intro port
    by_cases none : port = []
    · rw [if_pos none]
      exact Triple.pure fun _ at_ => at_
    · rw [if_neg none]
      apply after
      · apply Keeps.loop
        intro _
        apply Keeps.bind (stable_any.survives.isRunning E)
        intro running
        split
        · exact Keeps.bind (connect_keeps E port) fun _ => Keeps.pure
        · exact Keeps.pure
      · intro _
        apply Triple.bind (isRunning_at E fun _ _ => trivial)
        intro running
        cases running with
        | false => exact Triple.pure down
        | true => exact imp_pre (fun _ _ _ => trivial) (checkDevice_at E fuel)

/-! ## Streaming -/

theorem ascii_append (front back : String) : ascii (front ++ back) = ascii front ++ ascii back := by
  unfold ascii
  rw [String.toList_append, List.map_append]

/-- The three questions differ from the command in their second letter. -/
theorem fsync_unasked (hz : FrameRate) : questionOf (ascii (fsyncCommand hz) ++ [0x0D]) = none := by
  unfold questionOf fsyncCommand
  rw [List.find?_eq_none, ascii_append]
  intro question _ same
  have letter : (question.command ++ [0x0D])[1]? = some 0x73 := by
    rw [of_decide_eq_true same]
    rfl
  cases question <;> exact absurd letter (by decide)

theorem setupCommand_keeps {cmd : Octets} (unasked : questionOf (cmd ++ [0x0D]) = none) :
    Keeps (At config .setup settled) (sendAndReceiveAck E fuel cmd) :=
  sendAndReceiveAck_keeps E fuel unasked (fun _ _ known _ => known.2) fun _ _ known => ⟨rfl, known.2⟩

theorem setDefaults_keeps : Keeps (At config .setup settled) (setDefaults E fuel) := by
  apply Keeps.bind (setupCommand_keeps E fuel (by decide))
  intro _
  apply Keeps.bind (setupCommand_keeps E fuel (by decide))
  intro _
  apply Keeps.bind (setupCommand_keeps E fuel (by decide))
  intro _
  apply Keeps.bind (setupCommand_keeps E fuel (by decide))
  intro _
  apply Keeps.bind (setupCommand_keeps E fuel (by decide))
  intro _
  exact Keeps.bind (setupCommand_keeps E fuel (by decide)) fun _ => Keeps.pure

theorem setMaster_keeps : Keeps (At config .setup settled) (setMaster E fuel) := by
  refine Keeps.bind (fun _ at_ => at_) fun hz => ?_
  apply Keeps.bind (setupCommand_keeps E fuel (by decide))
  intro _
  exact Keeps.bind (setupCommand_keeps E fuel (fsync_unasked hz)) fun _ => Keeps.pure

theorem setSlave_keeps : Keeps (At config .setup settled) (setSlave E fuel) := by
  apply Keeps.bind (setupCommand_keeps E fuel (by decide))
  intro _
  exact Keeps.bind (setupCommand_keeps E fuel (by decide)) fun _ => Keeps.pure

theorem skipFrames_keeps (frames : Nat) : Keeps (At config .setup settled) (skipFrames E fuel frames) := by
  induction frames with
  | zero => exact Keeps.pure
  | succ frames ih => exact Keeps.bind (stable_settled.survives.readLineUntil E fuel _) fun _ => ih

theorem setupStreaming_keeps : Keeps (At config .setup settled) (setupStreaming E fuel) := by
  apply Keeps.bind Keeps.get
  intro w
  apply Keeps.bind (survives_octets.call E _)
  intro _
  apply Keeps.bind (setDefaults_keeps E fuel)
  intro _
  refine Keeps.bind (fun _ at_ => at_) fun mode => ?_
  have skipped : Keeps (At config .setup settled) (frameRateHz E >>= fun hz => skipFrames E fuel hz.val) :=
    Keeps.bind (fun _ at_ => at_) fun hz => skipFrames_keeps E fuel hz.val
  cases mode with
  | master => exact Keeps.bind (setMaster_keeps E fuel) fun _ => skipped
  | none => exact Keeps.bind (setMaster_keeps E fuel) fun _ => skipped
  | slave => exact Keeps.bind (setSlave_keeps E fuel) fun _ => skipped

/-- The log is as required, in whatever phase. -/
def LogConfirmed (config : WorkerConfig) (w : World σ) : Prop := Confirmed config w.log

theorem mainLoop_at :
    Triple (At config .streaming (idle Answers.confirmed)) (loop (fun _ => mainRound E config fuel) fuel ())
      (fun _ => LogConfirmed config) (LogConfirmed config) := by
  have stable : Stable config (idle Answers.confirmed) := stable_idle _
  apply Triple.loop (I := fun _ => At config .streaming (idle Answers.confirmed))
  · intro _
    apply Triple.bind (isRunning_at E stable.dropped)
    intro running
    cases running with
    | false => exact Triple.pure fun _ at_ => at_.1
    | true =>
      apply imp_pre (q := settled) fun _ _ holds => holds.2 holds.1
      refine Triple.bind (note_at (p := settled) (q := settled) ?_ ?_) fun _ => ?_
      · exact fun _ _ known _ => known.2
      · exact fun _ _ known => known
      apply Triple.bind (Triple.conseq (processSerialData_keeps E fuel) (fun _ at_ => at_) (fun _ _ at_ => at_)
        fun _ at_ => at_.1)
      intro _
      exact Triple.pure fun _ at_ => at_.imp fun _ _ known _ => known
  · exact fun _ _ at_ => at_.1

theorem session_at :
    Triple (At config .connecting anyAnswers) (session E config fuel) (fun _ => LogConfirmed config)
      (LogConfirmed config) := by
  have stable : Stable config (idle Answers.confirmed) := stable_idle _
  apply Triple.bind (Q := fun _ => At config .connecting (idle Answers.confirmed))
  · apply Triple.loop (I := fun _ => At config .connecting anyAnswers)
    · intro _
      apply Triple.conseq (discoverRound_at E fuel) (fun _ at_ => at_)
      · intro answer w at_
        cases answer with
        | inl => exact at_
        | inr => exact at_
      · exact fun _ at_ => at_.1
    · exact fun _ _ at_ => at_.1
  · intro _
    apply Triple.bind (isRunning_at E stable.dropped)
    intro running
    cases running with
    | false =>
      apply Triple.bind (Q := fun _ => At config .streaming (idle Answers.confirmed))
      · exact Triple.modify fun w at_ => ⟨at_.1, rfl, at_.2.2.2⟩
      · exact fun _ => mainLoop_at E fuel
    | true =>
      apply Triple.bind (Q := fun _ => At config .setup settled)
      · exact Triple.modify fun w at_ => ⟨at_.1, rfl, at_.2.2.2 at_.2.2.1⟩
      · intro _
        apply Triple.bind (Triple.conseq (setupStreaming_keeps E fuel) (fun _ at_ => at_) (fun _ _ at_ => at_)
          fun _ at_ => at_.1)
        intro _
        apply Triple.bind (Q := fun _ => At config .streaming (idle Answers.confirmed))
        · exact Triple.modify fun w at_ => ⟨at_.1, rfl, fun _ => at_.2.2⟩
        · exact fun _ => mainLoop_at E fuel

theorem stopStreaming_keeps : Keeps (At config .closing anyAnswers) (stopStreaming E fuel) := by
  have command (cmd : Octets) : Keeps (At config .closing anyAnswers) (sendAndReceiveAck E fuel cmd) :=
    Keeps.bind (write_keeps E (by decide) _) fun _ => readToPrompt_keeps E fuel
  apply Keeps.bind (stable_any.survives.isRunning E)
  intro running
  apply Keeps.bind Keeps.get
  intro w
  split
  · apply Keeps.bind (command _)
    intro _
    exact Keeps.bind (command _) fun _ => Keeps.pure
  · exact Keeps.pure

theorem disconnect_keeps : Keeps (At config .closing anyAnswers) (disconnect E) := by
  apply Keeps.bind Keeps.get
  intro w
  apply Keeps.bind (survives_octets.call E _)
  intro _
  split
  · exact close_keeps E
  · exact Keeps.pure

theorem shutdown_keeps : Keeps (At config .closing anyAnswers) (shutdown E fuel) := by
  apply Keeps.bind (stopStreaming_keeps E fuel)
  intro _
  apply Keeps.bind (disconnect_keeps E)
  exact fun _ => Keeps.modify fun _ at_ => ⟨at_.1, at_.2.1, trivial⟩

theorem run_at :
    Triple (fun w : World σ => Confirmed config w.log) (run E config fuel) (fun _ => LogConfirmed config)
      (LogConfirmed config) := by
  apply Triple.bind (Q := fun _ => At config .connecting anyAnswers)
  · exact Triple.modify fun w confirmed => ⟨confirmed, rfl, trivial⟩
  · intro _
    apply Triple.bind (Q := fun _ => LogConfirmed config)
    · apply Triple.tryCatch (session_at E fuel)
      · exact fun _ => Triple.pure fun _ confirmed => confirmed
      · exact fun _ confirmed => confirmed
    · intro _
      apply Triple.bind (Q := fun _ => At config .closing anyAnswers)
      · exact Triple.modify fun w confirmed => ⟨confirmed, rfl, trivial⟩
      · intro _
        exact Triple.conseq (shutdown_keeps E fuel) (fun _ at_ => at_) (fun _ _ at_ => at_.1) fun _ at_ => at_.1

/-- Whatever the surroundings do, every setup command and every frame comes after
the three questions were answered as needed on the connection that is open. -/
theorem confirmed_before_streaming (w : World σ) :
    Confirmed config (run E config fuel { w with log := [] }).2.log := by
  have nothing : Confirmed config [] := by
    intro before entry after split
    exact absurd split (by simp)
  have ended := run_at E fuel { w with log := [] } nothing
  revert ended
  rcases run E config fuel { w with log := [] } with ⟨outcome, t⟩
  cases outcome with
  | ok => exact fun confirmed => confirmed
  | error => exact fun confirmed => confirmed

end Handshake

/-! ## The frames of the video worker -/

/-- The video worker unpacks a frame on the way from one state to the other. -/
def unpacksVideo (s t : State) : Bool :=
  match s.v4l2, t.v4l2 with
  | .live _ .capture, .live _ .cloudCheck => true
  | _, _ => false

/-- The first frame is unpacked before the serial worker has looked for a port: no
connection was ever opened, and no device has confirmed anything. -/
theorem video_frames_unconfirmed :
    ¬ ∀ s t : State, (deviceMachine .hist).Reached Machine.Unrestricted s →
      step .hist s (.v4l2 .proceed) = some t → unpacksVideo s t = true → s.serialPort ≠ .null := by
  intro always
  obtain ⟨s, reached, seen⟩ := (deviceMachine .hist).exists_of_guardedRun Machine.Unrestricted
    (startSession ++ (List.replicate 3 (.v4l2 .proceed) ++ (.v4l2 (.buffers 1) ::
      List.replicate 4 (.v4l2 .proceed))))
    (fun s => (step .hist s (.v4l2 .proceed)).any (unpacksVideo s) && decide (s.serialPort = .null)) (by decide)
  obtain ⟨unpacks, null⟩ := Bool.and_eq_true_iff.mp seen
  obtain ⟨t, taken, unpacked⟩ := (Option.any_eq_true _ _).mp unpacks
  exact always s t reached taken unpacked (of_decide_eq_true null)

/-! A device that gives the expected replies, then one end mark, and to which
`stop()` comes when its lines are used up. -/

def scriptedEnvironment : Environment (List Octets) where
  answer
    | .readline, s => (.ok (s.headD []), s.tail)
    | .read size, s => (.ok ((ascii ">").take size), s)
    | .findPort, s => (.ok (ascii "port"), s)
    | .available, s => (.ok 0, s)
    | .openPort _, s | .write _, s | .flush, s | .flushInput, s | .close, s => (.ok (), s)
    | .connectCb _ _, s | .pointCloudCb _ _, s | .imuCb _, s => (.ok (), s)
  stops s := (s.isEmpty, s)
  now s := (0, s)
  syncMode s := (.none, s)
  frameRateHz s := (⟨1, by decide⟩, s)
  read_size := by
    intro size s t data answered
    obtain ⟨rfl⟩ : (ascii ">").take size = data := by
      have same := congrArg Prod.fst answered
      exact Except.ok.inj same
    rw [List.length_take]
    omega

def scriptedWorld (lines : List String) : World (List Octets) where
  env := lines.map ascii
  running := true
  serial := false
  deviceInfo := .unset
  receiveBuf := []
  imuData := []
  imuSamples := []
  latestImuSampleTs := 0
  clockOffset := 0
  phase := .connecting
  log := []

/-- The main loop is reached with the right replies, and not with another mode. -/
example :
    let cdc : WorkerConfig := ⟨.cdc, ⟨3, by decide⟩, true, true⟩
    let streams (mode : String) : Bool := (run scriptedEnvironment cdc 4 (scriptedWorld
      ["flstart", "cdc", "ver", "V1.10", "", "id:7", "", "flmode", mode, "END", "x"])).2.log.any fun entry =>
        needsMode entry && entry.1 = .streaming
    streams "30m30f" = true ∧ streams "40m" = false := by decide +kernel

end AsDt1.Guarantees
