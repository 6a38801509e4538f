import AsDt1.Guarantees.FrameRecovery
import AsDt1.Source.Handshake
import AsDt1.Source.SerialReads

/-!
# The protocol on the serial port

The order in which a worker opens its port, writes commands and closes it, as a
grammar: a handshake for each connection, one setup, no command while frames are
read, two commands and the end. Every run keeps to it, whatever the device answers,
wherever calls fail and whenever `stop()` is called.
-/
namespace AsDt1.Guarantees
open AsDt1.Lib AsDt1.Source Routine

/-! ## The grammar -/

/-- What has been said last. -/
inductive Turn where
  /-- There is no connection yet, or it was closed for a reboot. -/
  | detached
  | attached
  /-- A device that was streaming has been told to stop. -/
  | silenced
  | startAsked
  /-- A start mode or a mode has been set. -/
  | resetting
  | rebooting
  | greeted
  | versionAsked
  /-- The mode has been asked for, and so many defaults have been set. -/
  | configured (defaults : Nat)
  | master
  | slave
  | streaming
  | stopping
  | stopped
  | finished
  deriving DecidableEq, Repr

def Turn.isClosing : Turn → Bool
  | .stopping | .stopped | .finished => true
  | _ => false

def commandLine (command : String) : Octets := ascii command ++ [0x0D]

/-- The defaults in their order. -/
def defaultCommands : List String :=
  ["flformat binary imu", "fltrgout disable", "fltrgin disable", "flfsync 0", "format binary imu", "fltrgout riselast"]

inductive Speaks (config : WorkerConfig) : Turn → Phase × Event → Turn → Prop
  | connect : Speaks config .detached (.connecting, .opened) .attached
  /-- The `flush()` of the connection before has failed. -/
  | reconnect : Speaks config .attached (.connecting, .opened) .attached
  | silence : Speaks config .attached (.connecting, .wrote (commandLine "fsync 0")) .silenced
  | askStart : Speaks config .attached (.connecting, .wrote (commandLine "flstart")) .startAsked
  | askStartSilenced : Speaks config .silenced (.connecting, .wrote (commandLine "flstart")) .startAsked
  | setStart : Speaks config .startAsked
      (.connecting, .wrote (commandLine ("flstart " ++ config.kind.expectedFlstartMode))) .resetting
  | greet : Speaks config .startAsked (.connecting, .wrote (commandLine "\r")) .greeted
  | askVersion : Speaks config .greeted (.connecting, .wrote (commandLine "ver")) .versionAsked
  | askMode : Speaks config .versionAsked (.connecting, .wrote (commandLine "flmode")) (.configured 0)
  | setMode : Speaks config (.configured 0)
      (.connecting, .wrote (commandLine ("flmode " ++ config.modeInfo.modeStr))) .resetting
  | reboot : Speaks config .resetting (.connecting, .wrote (commandLine "reboot")) .rebooting
  | detach : Speaks config .rebooting (.connecting, .closed) .detached
  | setDefault {n : Nat} {command : String} (next : defaultCommands[n]? = some command) :
      Speaks config (.configured n) (.setup, .wrote (commandLine command)) (.configured (n + 1))
  | ownClock : Speaks config (.configured 6) (.setup, .wrote (commandLine "trgin disable")) .master
  | rate (hz : FrameRate) : Speaks config .master (.setup, .wrote (commandLine (fsyncCommand hz))) .streaming
  | otherClock : Speaks config (.configured 6) (.setup, .wrote (commandLine "trgin rise")) .slave
  | noRate : Speaks config .slave (.setup, .wrote (commandLine "fsync 0")) .streaming
  | stop {turn : Turn} (before : turn.isClosing = false) :
      Speaks config turn (.closing, .wrote (commandLine "fsync 0")) .stopping
  | disable : Speaks config .stopping (.closing, .wrote (commandLine "trgin disable")) .stopped
  | leave {turn : Turn} (once : turn ≠ .finished) : Speaks config turn (.closing, .closed) .finished

/-- Replies, frames and deliveries. -/
def isHeard : Event → Bool
  | .opened | .closed | .wrote _ => false
  | _ => true

inductive Conversation (config : WorkerConfig) : List (Phase × Event) → Turn → Prop
  | nil : Conversation config [] .detached
  | speaks {log : List (Phase × Event)} {turn next : Turn} {entry : Phase × Event}
      (before : Conversation config log turn) (said : Speaks config turn entry next) :
      Conversation config (log ++ [entry]) next
  | hears {log : List (Phase × Event)} {turn : Turn} {entry : Phase × Event}
      (before : Conversation config log turn) (heard : isHeard entry.2 = true) :
      Conversation config (log ++ [entry]) turn

/-! ## What the device is told -/

/-- The commands written in a phase. -/
def told (phase : Phase) (log : List (Phase × Event)) : List Octets :=
  log.filterMap fun
    | (ph, .wrote data) => if ph = phase then some data else none
    | _ => none

def masterCommands (hz : FrameRate) : List Octets :=
  (defaultCommands ++ ["trgin disable", fsyncCommand hz]).map commandLine

def slaveCommands : List Octets := (defaultCommands ++ ["trgin rise", "fsync 0"]).map commandLine

def closingCommands : List Octets := ["fsync 0", "trgin disable"].map commandLine

/-- The front of a setup. -/
def IsSetup (commands : List Octets) : Prop := (∃ hz, commands <+: masterCommands hz) ∨ commands <+: slaveCommands

/-- The setup commands behind each turn. -/
def SetupTold : Turn → List Octets → Prop
  | .configured n, commands => commands = (defaultCommands.take n).map commandLine
  | .master, commands => commands = (defaultCommands ++ ["trgin disable"]).map commandLine
  | .slave, commands => commands = (defaultCommands ++ ["trgin rise"]).map commandLine
  | .streaming, commands | .stopping, commands | .stopped, commands | .finished, commands => IsSetup commands
  | _, commands => commands = []

/-- The closing commands behind each turn. -/
def ClosingTold : Turn → List Octets → Prop
  | .stopping, commands => commands = [commandLine "fsync 0"]
  | .stopped, commands => commands = closingCommands
  | .finished, commands => commands <+: closingCommands
  | _, commands => commands = []

theorem told_concat (phase : Phase) (log : List (Phase × Event)) (entry : Phase × Event) :
    told phase (log ++ [entry]) = told phase log ++ told phase [entry] := List.filterMap_append

theorem told_heard {phase : Phase} {entry : Phase × Event} (heard : isHeard entry.2 = true) : told phase [entry] = [] := by
  obtain ⟨ph, event⟩ := entry
  cases event <;> first | rfl | cases heard

theorem SetupTold.is_setup {turn : Turn} {commands : List Octets} (behind : SetupTold turn commands) :
    IsSetup commands := by
  have front : ∀ {n : Nat}, (defaultCommands.take n).map commandLine <+: slaveCommands :=
    ((List.take_prefix ..).trans (List.prefix_append ..)).map _
  cases turn with
  | configured n => exact .inr (behind ▸ front)
  | master => exact .inl ⟨.initial, behind ▸ ⟨[commandLine (fsyncCommand .initial)], rfl⟩⟩
  | slave => exact .inr (behind ▸ ⟨[commandLine "fsync 0"], rfl⟩)
  | streaming | stopping | stopped | finished => exact behind
  | _ => exact .inr (behind ▸ List.nil_prefix)

section Told

variable {config : WorkerConfig} {log : List (Phase × Event)} {turn next : Turn} {entry : Phase × Event}

theorem Speaks.setup_told (said : Speaks config turn entry next) {commands : List Octets}
    (before : SetupTold turn commands) : SetupTold next (commands ++ told .setup [entry]) := by
  cases said with
  | setDefault listed =>
    rename_i n command
    show commands ++ [commandLine command] = (defaultCommands.take (n + 1)).map commandLine
    rw [List.take_add_one, listed, List.map_append, before]
    rfl
  | ownClock | otherClock =>
    rw [before]
    rfl
  | rate hz => exact .inl ⟨hz, by rw [before]; exact List.prefix_refl _⟩
  | noRate => exact .inr (by rw [before]; exact List.prefix_refl _)
  | stop _ | leave _ =>
    show IsSetup (commands ++ [])
    rw [List.append_nil]
    exact before.is_setup
  | _ =>
    show SetupTold _ (commands ++ [])
    rw [List.append_nil]
    exact before

theorem Speaks.closing_told (said : Speaks config turn entry next) {commands : List Octets}
    (before : ClosingTold turn commands) : ClosingTold next (commands ++ told .closing [entry]) := by
  cases said with
  | stop open_ =>
    have none_ : commands = [] := by
      cases turn with
      | stopping | stopped | finished => cases open_
      | _ => exact before
    rw [none_]
    rfl
  | disable =>
    rw [before]
    rfl
  | leave once =>
    show commands ++ [] <+: closingCommands
    rw [List.append_nil]
    cases turn with
    | stopping => exact before ▸ ⟨[commandLine "trgin disable"], rfl⟩
    | stopped => exact before ▸ List.prefix_refl _
    | finished => exact absurd rfl once
    | _ => exact before ▸ List.nil_prefix
  | _ =>
    show ClosingTold _ (commands ++ [])
    rw [List.append_nil]
    exact before

theorem Speaks.streaming_told (said : Speaks config turn entry next) : told .streaming [entry] = [] := by
  cases said <;> rfl

/-- The device is set up once at most, told nothing while it streams, and stopped once. -/
structure InOrder (log : List (Phase × Event)) : Prop where
  setup : IsSetup (told .setup log)
  streaming : told .streaming log = []
  closing : told .closing log <+: closingCommands

theorem ClosingTold.is_closing {commands : List Octets} (behind : ClosingTold turn commands) :
    commands <+: closingCommands := by
  cases turn with
  | stopping => exact behind ▸ ⟨[commandLine "trgin disable"], rfl⟩
  | stopped => exact behind ▸ List.prefix_refl _
  | finished => exact behind
  | _ => exact behind ▸ List.nil_prefix

theorem Conversation.in_order (said : Conversation config log turn) : InOrder log := by
  have behind : SetupTold turn (told .setup log) ∧ told .streaming log = [] ∧
      ClosingTold turn (told .closing log) := by
    induction said with
    | nil => exact ⟨rfl, rfl, rfl⟩
    | speaks _ said ih =>
      rw [told_concat, told_concat, told_concat, ih.2.1, said.streaming_told]
      exact ⟨said.setup_told ih.1, rfl, said.closing_told ih.2.2⟩
    | hears _ heard ih =>
      rw [told_concat, told_concat, told_concat, told_heard heard, told_heard heard, told_heard heard,
        List.append_nil, List.append_nil, List.append_nil]
      exact ih
  exact ⟨behind.1.is_setup, behind.2.1, behind.2.2.is_closing⟩

end Told

/-! ## What holds in the worker -/

section Worker

variable {σ : Type} (config : WorkerConfig)

/-- In the phase `ph` a turn for which `p` holds has been reached. -/
def InTurn (ph : Phase) (p : Bool → Turn → Prop) (w : World σ) : Prop :=
  w.phase = ph ∧ ∃ turn, Conversation config w.log turn ∧ p w.running turn

/-- What is kept when the flag drops. -/
def Lasting (p : Bool → Turn → Prop) : Prop := ∀ turn, p true turn → p false turn

def exactly (turn : Turn) : Bool → Turn → Prop := fun _ reached => reached = turn

/-- Before the shutdown. -/
def working : Bool → Turn → Prop := fun _ reached => reached.isClosing = false

variable {config} {ph : Phase} {p q : Bool → Turn → Prop} {X : World σ → Prop}

theorem lasting_exactly (turn : Turn) : Lasting (exactly turn) := fun _ same => same

theorem lasting_working : Lasting working := fun _ before => before

theorem InTurn.imp {w : World σ} (weaker : ∀ up turn, p up turn → q up turn) (reached : InTurn config ph p w) :
    InTurn config ph q w := by
  obtain ⟨phase, turn, said, holds⟩ := reached
  exact ⟨phase, turn, said, weaker _ _ holds⟩

theorem heard_keeps {event : Event} (heard : isHeard event = true) :
    Keeps (InTurn config ph p) (note event : SerialRoutine σ Unit) := by
  apply Keeps.modify
  rintro w ⟨phase, turn, said, holds⟩
  exact ⟨phase, turn, said.hears heard, holds⟩

theorem speaks_note {event : Event} {turn next : Turn} (said : Speaks config turn (ph, event) next) :
    Triple (InTurn config ph (exactly turn)) (note event : SerialRoutine σ Unit)
      (fun _ => InTurn config ph (exactly next)) X := by
  apply Triple.modify
  rintro w ⟨rfl, _, before, rfl⟩
  exact ⟨rfl, next, before.speaks said, rfl⟩

theorem survives_inTurn (lasting : Lasting p) : SurvivesReads (InTurn config ph p : World σ → Prop) where
  env _ _ reached := reached
  octets w data reached := heard_keeps (rfl : isHeard (.octets data) = true) w reached
  line w text reached := heard_keeps (rfl : isHeard (.line text) = true) w reached
  stopped w reached := by
    obtain ⟨phase, turn, said, holds⟩ := reached
    refine ⟨phase, turn, said, ?_⟩
    cases up : w.running with
    | true => exact lasting turn (up ▸ holds)
    | false => exact up ▸ holds
  imuData _ _ reached := reached
  receiveBuf _ _ reached := reached

/-- The flag as it was tested. -/
theorem isRunning_tells (E : Environment σ) (lasting : Lasting p) :
    Triple (InTurn config ph p) (isRunning E) (fun tested => InTurn config ph fun up turn => up = tested ∧ p up turn)
      X := by
  rintro w ⟨phase, turn, said, holds⟩
  unfold isRunning
  by_cases up : w.running = true
  · rw [if_pos up]
    refine ⟨phase, turn, said, rfl, ?_⟩
    show p (!(E.stops w.env).1) turn
    cases (E.stops w.env).1 with
    | true =>
      rw [up] at holds
      exact lasting turn holds
    | false =>
      rw [up] at holds
      exact holds
  · rw [if_neg up]
    exact ⟨phase, turn, said, by simpa using up, holds⟩

/-- Reads, and calls that only answer. -/
theorem silent {α : Type} {r : SerialRoutine σ α} (keeps : Keeps (InTurn config ph p) r)
    (out : ∀ w, InTurn config ph p w → X w) :
    Triple (InTurn config ph p) r (fun _ => InTurn config ph p) X :=
  keeps.conseq (fun _ reached => reached) (fun _ _ reached => reached) out

/-- A question to the host that always has an answer. -/
theorem asked {α : Type} {r : SerialRoutine σ α} (answers : ∀ w, ∃ a env, r w = (.ok a, { w with env })) :
    Triple (InTurn config ph p) r (fun _ => InTurn config ph p) X := by
  intro w reached
  obtain ⟨a, env, answered⟩ := answers w
  rw [answered]
  exact reached

theorem got : Triple (InTurn config ph p) (get : SerialRoutine σ _) (fun _ => InTurn config ph p) X :=
  fun _ reached => reached

/-! ## Commands -/

variable (E : Environment σ) (fuel : Nat) {turn next : Turn}

theorem write_speaks {data : Octets} (said : Speaks config turn (ph, .wrote data) next)
    (out : ∀ w, InTurn config ph (exactly turn) w → X w) :
    Triple (InTurn config ph (exactly turn)) (write E data) (fun _ => InTurn config ph (exactly next)) X :=
  Triple.bind (silent ((survives_inTurn (lasting_exactly turn)).call E _) out) fun _ => speaks_note said

theorem readToPrompt_keeps_turn (lasting : Lasting p) : Keeps (InTurn config ph p) (readToPrompt E fuel) := by
  apply Keeps.tryCatch
  · apply Keeps.loop
    intro _
    exact Keeps.bind ((survives_inTurn lasting).read E 1) fun _ => Keeps.pure
  · intro failure
    cases failure with
    | outOfRange => exact Keeps.pure
    | _ => exact Keeps.throw

theorem acknowledged_speaks {command : String} (said : Speaks config turn (ph, .wrote (commandLine command)) next)
    (out : ∀ w, InTurn config ph (exactly turn) w → X w) (out' : ∀ w, InTurn config ph (exactly next) w → X w) :
    Triple (InTurn config ph (exactly turn)) (sendAndReceiveAck E fuel (ascii command))
      (fun _ => InTurn config ph (exactly next)) X :=
  Triple.bind (write_speaks E said out) fun _ => silent (readToPrompt_keeps_turn E fuel (lasting_exactly next)) out'

theorem echoed_speaks {command : String} (said : Speaks config turn (ph, .wrote (commandLine command)) next)
    (out : ∀ w, InTurn config ph (exactly turn) w → X w) (out' : ∀ w, InTurn config ph (exactly next) w → X w) :
    Triple (InTurn config ph (exactly turn)) (sendAndReceive E fuel (ascii command))
      (fun _ => InTurn config ph (exactly next)) X := by
  apply Triple.bind (write_speaks E said out)
  intro _
  refine silent ?_ out'
  exact Keeps.bind ((survives_inTurn (lasting_exactly next)).readLineUntil E fuel _) fun _ => Keeps.pure

/-! ## The handshake -/

/-- Where an exception leaves the try block. -/
def Working (config : WorkerConfig) (w : World σ) : Prop :=
  ∃ turn, Conversation config w.log turn ∧ turn.isClosing = false

theorem InTurn.working {w : World σ} (reached : InTurn config ph p w)
    (open_ : ∀ up turn, p up turn → turn.isClosing = false) : Working config w := by
  obtain ⟨-, turn, said, holds⟩ := reached
  exact ⟨turn, said, open_ _ _ holds⟩

theorem leaves (open_ : turn.isClosing = false) (w : World σ) (reached : InTurn config ph (exactly turn) w) :
    Working config w := reached.working fun _ _ same => same ▸ open_

/-- Not connected, or behind a connection that could not be flushed. -/
def unsettled : Bool → Turn → Prop := fun _ reached => reached = .detached ∨ reached = .attached

/-- The turn is reached unless the flag is down. -/
def unlessStopped (turn : Turn) : Bool → Turn → Prop := fun up reached =>
  reached = turn ∨ up = false ∧ reached.isClosing = false

theorem unsettled_working : ∀ (up : Bool) (turn : Turn), unsettled up turn → turn.isClosing = false := by
  rintro _ _ (rfl | rfl)
  · rfl
  · rfl

theorem connect_speaks (port : Octets) :
    Triple (InTurn config .connecting unsettled) (connect E port)
      (fun connected => InTurn config .connecting (if connected then exactly .attached else unsettled))
      (Working config) := by
  have lasting : Lasting unsettled := fun _ same => same
  have loose : ∀ w : World σ, InTurn config .connecting unsettled w → Working config w :=
    fun _ reached => reached.working unsettled_working
  refine Triple.tryCatch (?_ : Triple _ _ _ (InTurn config .connecting unsettled)) ?_ ?_
  · apply Triple.bind (silent ((survives_inTurn lasting).call E _) fun _ reached => reached)
    intro _
    refine Triple.bind (Q := fun _ => InTurn config .connecting unsettled) (Triple.modify ?_) fun _ => ?_
    · exact fun _ reached => reached
    apply Triple.bind (Q := fun _ => InTurn config .connecting (exactly .attached))
    · apply Triple.modify
      rintro w ⟨phase, turn, said, rfl | rfl⟩
      · exact ⟨phase, .attached, said.speaks (phase ▸ .connect), rfl⟩
      · exact ⟨phase, .attached, said.speaks (phase ▸ .reconnect), rfl⟩
    · intro _
      apply Triple.bind (silent ((survives_inTurn (lasting_exactly .attached)).call E _) _)
      · exact fun _ => Triple.pure fun _ reached => reached
      · exact fun _ reached => reached.imp fun _ _ same => .inr same
  · exact fun _ => Triple.pure fun _ reached => reached
  · exact loose

theorem stopIfStreaming_speaks :
    Triple (InTurn config .connecting (exactly .attached)) (stopIfStreaming E)
      (fun _ => InTurn config .connecting fun _ turn => turn = .attached ∨ turn = .silenced) (Working config) := by
  apply Triple.bind (silent ((survives_inTurn (lasting_exactly .attached)).call E _) (leaves rfl))
  intro bytesAvailable
  split
  · apply Triple.bind (write_speaks E .silence (leaves rfl))
    intro _
    exact (silent ((survives_inTurn (lasting_exactly .silenced)).call E .flush) (leaves rfl)).conseq
      (fun _ reached => reached) (fun _ _ reached => reached.imp fun _ _ same => .inr same) fun _ left => left
  · exact (silent ((survives_inTurn (lasting_exactly .attached)).call E .flush) (leaves rfl)).conseq
      (fun _ reached => reached) (fun _ _ reached => reached.imp fun _ _ same => .inl same) fun _ left => left

theorem rebootWith_speaks {command : String}
    (said : Speaks config turn (.connecting, .wrote (commandLine command)) .resetting) (open_ : turn.isClosing = false) :
    Triple (InTurn config .connecting (exactly turn)) (rebootWith E fuel (ascii command))
      (fun _ => InTurn config .connecting (exactly .detached)) (Working config) := by
  apply Triple.bind (echoed_speaks E fuel said (leaves open_) (leaves rfl))
  intro _
  apply Triple.bind (echoed_speaks E fuel .reboot (leaves rfl) (leaves rfl))
  intro _
  apply Triple.bind (silent ((survives_inTurn (lasting_exactly .rebooting)).call E _) (leaves rfl))
  exact fun _ => speaks_note .detach

variable (config)

theorem verifyDeviceMode_speaks :
    Triple (InTurn config .connecting fun _ turn => turn = .attached ∨ turn = .silenced)
      (verifyDeviceMode E config fuel)
      (fun verified => InTurn config .connecting (exactly (if verified then .startAsked else .detached)))
      (Working config) := by
  have asked : Triple (InTurn config .connecting fun _ turn => turn = .attached ∨ turn = .silenced)
      (sendAndReceive E fuel (ascii "flstart")) (fun _ => InTurn config .connecting (exactly .startAsked))
      (Working config) := by
    rintro w ⟨phase, turn, said, rfl | rfl⟩
    · exact echoed_speaks E fuel .askStart (leaves rfl) (leaves rfl) w ⟨phase, _, said, rfl⟩
    · exact echoed_speaks E fuel .askStartSilenced (leaves rfl) (leaves rfl) w ⟨phase, _, said, rfl⟩
  have survives : SurvivesReads (InTurn config .connecting (exactly .startAsked) : World σ → Prop) :=
    survives_inTurn (lasting_exactly .startAsked)
  apply Triple.bind asked
  intro _
  apply Triple.bind (silent (Keeps.bind (survives.readline E) fun _ => Keeps.pure) (leaves rfl))
  intro modeResp
  apply Triple.bind (silent (readToPrompt_keeps_turn E fuel (lasting_exactly .startAsked)) (leaves rfl))
  intro _
  split
  · exact Triple.pure fun _ reached => reached
  · exact Triple.bind (rebootWith_speaks E fuel .setStart rfl) fun _ => Triple.pure fun _ reached => reached

theorem getDeviceInfo_speaks :
    Triple (InTurn config .connecting (exactly .startAsked)) (getDeviceInfo E fuel)
      (fun _ => InTurn config .connecting (exactly (.configured 0))) (Working config) := by
  have survives : ∀ turn, SurvivesReads (InTurn config .connecting (exactly turn) : World σ → Prop) :=
    fun turn => survives_inTurn (lasting_exactly turn)
  have line : ∀ turn, Keeps (InTurn config .connecting (exactly turn)) (readLine E) :=
    fun turn => Keeps.bind ((survives turn).readline E) fun _ => Keeps.pure
  have prompt : ∀ turn, Keeps (InTurn config .connecting (exactly turn)) (readToPrompt E fuel) :=
    fun turn => readToPrompt_keeps_turn E fuel (lasting_exactly turn)
  have supported : ∀ version, Keeps (InTurn config .connecting (exactly .versionAsked))
      (requireSupported version : SerialRoutine σ Unit) := by
    intro version
    unfold requireSupported
    split
    · exact Keeps.throw
    · split
      · exact Keeps.pure
      · exact Keeps.throw
  have known : ∀ mode, Keeps (InTurn config .connecting (exactly (.configured 0)))
      (requireKnown mode : SerialRoutine σ Nat) := by
    intro mode
    cases mode with
    | some i => exact Keeps.pure
    | none => exact Keeps.throw
  apply Triple.bind (silent ((survives .startAsked).call E _) (leaves rfl))
  intro _
  apply Triple.bind (acknowledged_speaks E fuel .greet (leaves rfl) (leaves rfl))
  intro _
  apply Triple.bind (silent ((survives .greeted).call E _) (leaves rfl))
  intro _
  apply Triple.bind (echoed_speaks E fuel .askVersion (leaves rfl) (leaves rfl))
  intro _
  apply Triple.bind (silent (line .versionAsked) (leaves rfl))
  intro version
  apply Triple.bind (silent (line .versionAsked) (leaves rfl))
  intro _
  apply Triple.bind (silent (line .versionAsked) (leaves rfl))
  intro devInfo
  apply Triple.bind (silent (line .versionAsked) (leaves rfl))
  intro _
  apply Triple.bind (silent (supported version) (leaves rfl))
  intro _
  apply Triple.bind (silent (prompt .versionAsked) (leaves rfl))
  intro _
  apply Triple.bind (echoed_speaks E fuel .askMode (leaves rfl) (leaves rfl))
  intro _
  apply Triple.bind (silent (line (.configured 0)) (leaves rfl))
  intro modeResp
  apply Triple.bind (silent (known _) (leaves rfl))
  intro mode
  exact Triple.bind (silent (prompt (.configured 0)) (leaves rfl)) fun _ => Triple.pure fun _ reached => reached

/-- Where a pass of the outer loop leaves the connection. -/
def Discovered (config : WorkerConfig) : (answer : Unit ⊕ Unit) → World σ → Prop
  | .inl () => InTurn config .connecting (exactly .detached)
  | .inr () => InTurn config .connecting (unlessStopped (.configured 0))

theorem checkDevice_speaks :
    Triple (InTurn config .connecting (exactly .attached)) (checkDevice E config fuel) (Discovered config)
      (Working config) := by
  apply Triple.bind (stopIfStreaming_speaks E)
  intro _
  apply Triple.bind (verifyDeviceMode_speaks config E fuel)
  intro verified
  cases verified with
  | false => exact Triple.pure fun _ reached => reached
  | true =>
    apply Triple.bind (getDeviceInfo_speaks config E fuel)
    intro info
    refine Triple.bind (Q := fun _ => InTurn config .connecting (exactly (.configured 0))) (Triple.modify ?_)
      fun _ => ?_
    · exact fun _ reached => reached
    split
    · exact Triple.bind (rebootWith_speaks E fuel .setMode rfl) fun _ => Triple.pure fun _ reached => reached
    · exact Triple.pure fun _ reached => reached.imp fun _ _ same => .inl same

/-- The inner loop ends with a connection or a dropped flag. -/
theorem connections_say (port : Octets) :
    Triple (InTurn config .connecting unsettled) (loop (fun _ => connectRound E port) fuel ())
      (fun _ => InTurn config .connecting (unlessStopped .attached)) (Working config) := by
  have loose : ∀ w : World σ, InTurn config .connecting unsettled w → Working config w :=
    fun _ reached => reached.working unsettled_working
  apply Triple.loop (I := fun _ => InTurn config .connecting unsettled) _ fun _ => loose
  intro _
  apply Triple.bind (isRunning_tells E (p := unsettled) fun _ same => same)
  intro running
  cases running with
  | false =>
    apply Triple.pure
    intro w reached
    exact reached.imp fun up turn holds => .inr ⟨holds.1, unsettled_working up turn holds.2⟩
  | true =>
    apply Triple.bind ((connect_speaks E port).conseq (fun _ reached => reached.imp fun _ _ holds => holds.2)
      (fun _ _ reached => reached) fun _ left => left)
    intro connected
    cases connected with
    | false => exact Triple.pure fun _ reached => reached
    | true => exact Triple.pure fun _ reached => reached.imp fun _ _ same => .inl same

theorem unlessStopped_lasting (open_ : turn.isClosing = false) : Lasting (unlessStopped turn) := by
  rintro reached (rfl | ⟨_, holds⟩)
  · exact .inl rfl
  · exact .inr ⟨rfl, holds⟩

theorem unlessStopped_working (open_ : turn.isClosing = false) :
    ∀ up reached, unlessStopped turn up reached → reached.isClosing = false := by
  rintro _ _ (rfl | ⟨_, holds⟩)
  · exact open_
  · exact holds

theorem discoverRound_speaks :
    Triple (InTurn config .connecting (exactly .detached)) (discoverRound E config fuel) (Discovered config)
      (Working config) := by
  apply Triple.bind (isRunning_tells E (lasting_exactly .detached))
  intro running
  cases running with
  | false => exact Triple.pure fun _ reached => reached.imp fun _ _ ⟨down, same⟩ => .inr ⟨down, same ▸ rfl⟩
  | true =>
    apply Triple.bind ((silent ((survives_inTurn (lasting_exactly .detached)).call E _) (leaves rfl)).conseq
      (fun _ reached => reached.imp fun _ _ holds => holds.2) (fun _ _ reached => reached) fun _ left => left)
    intro port
    split
    · exact Triple.pure fun _ reached => reached
    · apply Triple.bind ((connections_say config E fuel port).conseq
        (fun _ reached => reached.imp fun _ _ same => .inl same) (fun _ _ reached => reached) fun _ left => left)
      intro _
      apply Triple.bind (isRunning_tells E (unlessStopped_lasting rfl))
      intro running
      cases running with
      | false =>
        apply Triple.pure
        intro w reached
        exact reached.imp fun up turn holds => .inr ⟨holds.1, unlessStopped_working rfl up turn holds.2⟩
      | true =>
        apply (checkDevice_speaks config E fuel).conseq _ (fun _ _ reached => reached) fun _ left => left
        intro w reached
        refine reached.imp fun up turn ⟨running, holds⟩ => ?_
        rcases holds with same | ⟨down, -⟩
        · exact same
        · exact absurd (down.symm.trans running) Bool.false_ne_true

/-! ## Setup and frames -/

theorem setDefaults_speaks :
    Triple (InTurn config .setup (exactly (.configured 0))) (setDefaults E fuel)
      (fun _ => InTurn config .setup (exactly (.configured 6))) (Working config) := by
  have default : ∀ {n : Nat} {command : String}, defaultCommands[n]? = some command →
      Triple (InTurn config .setup (exactly (.configured n))) (sendAndReceiveAck E fuel (ascii command))
        (fun _ => InTurn config .setup (exactly (.configured (n + 1)))) (Working config) :=
    fun next => acknowledged_speaks E fuel (.setDefault next) (leaves rfl) (leaves rfl)
  refine Triple.bind (default rfl) fun _ => Triple.bind (default rfl) fun _ => Triple.bind (default rfl) fun _ => ?_
  refine Triple.bind (default rfl) fun _ => Triple.bind (default rfl) fun _ => Triple.bind (default rfl) fun _ => ?_
  exact Triple.pure fun _ reached => reached

theorem setMaster_speaks :
    Triple (InTurn config .setup (exactly (.configured 6))) (setMaster E fuel)
      (fun _ => InTurn config .setup (exactly .streaming)) (Working config) := by
  apply Triple.bind (asked fun w => ⟨_, _, rfl⟩)
  intro hz
  apply Triple.bind (acknowledged_speaks E fuel .ownClock (leaves rfl) (leaves rfl))
  intro _
  exact Triple.bind (acknowledged_speaks E fuel (.rate hz) (leaves rfl) (leaves rfl)) fun _ =>
    Triple.pure fun _ reached => reached

theorem setSlave_speaks :
    Triple (InTurn config .setup (exactly (.configured 6))) (setSlave E fuel)
      (fun _ => InTurn config .setup (exactly .streaming)) (Working config) := by
  apply Triple.bind (acknowledged_speaks E fuel .otherClock (leaves rfl) (leaves rfl))
  intro _
  exact Triple.bind (acknowledged_speaks E fuel .noRate (leaves rfl) (leaves rfl)) fun _ =>
    Triple.pure fun _ reached => reached

theorem skipFrames_keeps_turn (frames : Nat) :
    Keeps (InTurn config .setup (exactly .streaming)) (skipFrames E fuel frames) := by
  induction frames with
  | zero => exact Keeps.pure
  | succ frames ih =>
    exact Keeps.bind ((survives_inTurn (lasting_exactly .streaming)).readLineUntil E fuel _) fun _ => ih

theorem setupStreaming_speaks :
    Triple (InTurn config .setup (exactly (.configured 0))) (setupStreaming E fuel)
      (fun _ => InTurn config .setup (exactly .streaming)) (Working config) := by
  have behind : Triple (InTurn config .setup (exactly .streaming)) (do
      let hz ← frameRateHz E
      skipFrames E fuel hz.val) (fun _ => InTurn config .setup (exactly .streaming)) (Working config) := by
    apply Triple.bind (asked fun w => ⟨_, _, rfl⟩)
    exact fun hz => silent (skipFrames_keeps_turn config E fuel hz.val) (leaves rfl)
  apply Triple.bind got
  intro w
  apply Triple.bind (silent ((survives_inTurn (lasting_exactly (.configured 0))).call E _) (leaves rfl))
  intro _
  apply Triple.bind (setDefaults_speaks config E fuel)
  intro _
  apply Triple.bind (asked fun w => ⟨_, _, rfl⟩)
  intro mode
  cases mode with
  | slave => exact Triple.bind (setSlave_speaks config E fuel) fun _ => behind
  | _ => exact Triple.bind (setMaster_speaks config E fuel) fun _ => behind

/-- What follows the reads of a frame speaks nothing. -/
theorem finishFrame_keeps_turn (read : FrameRead) : Keeps (InTurn config .streaming working) (finishFrame E config read) := by
  have survives : SurvivesReads (InTurn config .streaming working : World σ → Prop) :=
    survives_inTurn lasting_working
  have clock : ∀ endTs, Keeps (InTurn config .streaming working) (setClockOffset E endTs) :=
    fun endTs => Keeps.bind (fun _ reached => reached) fun _ => Keeps.modify fun _ reached => reached
  have parsed : ∀ frameTs endTs, Keeps (InTurn config .streaming working) (noteParsed frameTs endTs : SerialRoutine σ _) :=
    fun frameTs endTs => Keeps.bind Keeps.get fun _ => heard_keeps rfl
  have unpacked : ∀ frameTs, Keeps (InTurn config .streaming working) (unpackImu frameTs : SerialRoutine σ Unit) :=
    fun frameTs => Keeps.modify fun _ reached => reached
  have imu : Keeps (InTurn config .streaming working) (deliverImu E config) := by
    apply Keeps.bind (survives.isRunning E)
    intro running
    apply Keeps.bind Keeps.get
    intro w
    split
    · exact Keeps.bind (heard_keeps rfl) fun _ => survives.call E _
    · exact Keeps.pure
  cases read with
  | dropped => exact Keeps.pure
  | cdc start finish =>
    refine Keeps.bind (clock _) fun _ => Keeps.bind (parsed _ _) fun _ => Keeps.bind ?_ fun points => ?_
    · apply Keeps.bind Keeps.get
      intro w
      split
      · exact Keeps.pure
      · exact Keeps.throw
    · refine Keeps.bind (unpacked _) fun _ => Keeps.bind ?_ fun _ => imu
      apply Keeps.bind (survives.isRunning E)
      intro running
      apply Keeps.bind Keeps.get
      intro w
      split
      · exact Keeps.bind (heard_keeps rfl) fun _ => survives.call E _
      · exact Keeps.pure
  | hist finish =>
    exact Keeps.bind (clock _) fun _ => Keeps.bind (parsed _ _) fun _ => Keeps.bind (unpacked _) fun _ => imu

theorem mainRound_keeps_turn : Keeps (InTurn config .streaming working) (mainRound E config fuel) := by
  have survives : SurvivesReads (InTurn config .streaming working : World σ → Prop) :=
    survives_inTurn lasting_working
  apply Keeps.bind (survives.isRunning E)
  intro running
  split
  · apply Keeps.bind (heard_keeps rfl)
    intro _
    rw [processSerialData_eq]
    refine Keeps.bind (Keeps.bind (survives.frameReads E config fuel) fun read => ?_) fun _ => Keeps.pure
    exact finishFrame_keeps_turn config E read
  · exact Keeps.pure

/-! ## The whole thread -/

theorem enter_turn (phase : Phase) :
    Triple (InTurn config ph p) (enter phase : SerialRoutine σ Unit) (fun _ => InTurn config phase p) X := by
  apply Triple.modify
  rintro w ⟨-, turn, said, holds⟩
  exact ⟨rfl, turn, said, holds⟩

theorem session_speaks :
    Triple (InTurn config .connecting (exactly .detached)) (session E config fuel) (fun _ => Working config)
      (Working config) := by
  have main : Triple (InTurn config .streaming working) (loop (fun _ => mainRound E config fuel) fuel ())
      (fun _ => Working config) (Working config) :=
    (Keeps.loop (fun _ => mainRound_keeps_turn config E fuel) fuel ()).conseq (fun _ reached => reached)
      (fun _ _ reached => reached.working fun _ _ open_ => open_) fun _ reached => reached.working fun _ _ open_ => open_
  apply Triple.bind (Q := fun _ => InTurn config .connecting (unlessStopped (.configured 0)))
  · apply Triple.loop (I := fun _ => InTurn config .connecting (exactly .detached)) _ fun _ => leaves rfl
    intro _
    apply (discoverRound_speaks config E fuel).conseq (fun _ reached => reached) _ fun _ left => left
    rintro (_ | _) w reached
    · exact reached
    · exact reached
  · intro _
    apply Triple.bind (isRunning_tells E (unlessStopped_lasting rfl))
    intro running
    cases running with
    | false =>
      apply Triple.bind (enter_turn config .streaming)
      intro _
      apply main.conseq _ (fun _ _ left => left) fun _ left => left
      exact fun _ reached => reached.imp fun up turn holds => unlessStopped_working rfl up turn holds.2
    | true =>
      apply Triple.bind (enter_turn config .setup)
      intro _
      apply Triple.bind ((setupStreaming_speaks config E fuel).conseq _ (fun _ _ reached => reached) fun _ left => left)
      · intro _
        apply Triple.bind (enter_turn config .streaming)
        intro _
        apply main.conseq _ (fun _ _ left => left) fun _ left => left
        rintro w ⟨phase, turn, said, rfl⟩
        exact ⟨phase, .streaming, said, rfl⟩
      · intro w reached
        refine reached.imp fun up turn holds => ?_
        rcases holds.2 with same | ⟨down, -⟩
        · exact same
        · exact absurd (down.symm.trans holds.1) Bool.false_ne_true

/-- Something has been said; this is all that is known where the thread dies in the shutdown. -/
def Talked (config : WorkerConfig) (w : World σ) : Prop := ∃ turn, Conversation config w.log turn

theorem InTurn.talked {w : World σ} (reached : InTurn config ph p w) : Talked config w := by
  obtain ⟨-, turn, said, -⟩ := reached
  exact ⟨turn, said⟩

/-- The port has not been closed for good yet. -/
def unfinished : Bool → Turn → Prop := fun _ reached => reached ≠ .finished

theorem stopStreaming_speaks :
    Triple (InTurn config .closing working) (stopStreaming E fuel) (fun _ => InTurn config .closing unfinished)
      (Talked config) := by
  have open_unfinished : ∀ (up : Bool) (turn : Turn), working up turn → unfinished up turn := by
    rintro up _ open_ rfl
    cases open_
  have out : ∀ {turn : Turn} (w : World σ), InTurn config .closing (exactly turn) w → Talked config w :=
    fun _ reached => reached.talked
  have stopped : Triple (InTurn config .closing working) (sendAndReceiveAck E fuel (ascii "fsync 0"))
      (fun _ => InTurn config .closing (exactly .stopping)) (Talked config) := by
    rintro w ⟨phase, turn, said, open_⟩
    exact acknowledged_speaks E fuel (.stop open_) out out w ⟨phase, turn, said, rfl⟩
  apply Triple.bind (silent ((survives_inTurn lasting_working).isRunning E) fun _ reached => reached.talked)
  intro running
  apply Triple.bind got
  intro w
  split
  · apply Triple.bind stopped
    intro _
    apply Triple.bind (acknowledged_speaks E fuel .disable out out)
    intro _
    apply Triple.pure
    intro w reached
    refine reached.imp fun up turn same => ?_
    rintro rfl
    cases same
  · exact Triple.pure fun _ reached => reached.imp open_unfinished

theorem disconnect_speaks :
    Triple (InTurn config .closing unfinished) (disconnect E) (fun _ => Talked config) (Talked config) := by
  have survives : SurvivesReads (InTurn config .closing unfinished : World σ → Prop) :=
    survives_inTurn fun _ open_ => open_
  apply Triple.bind got
  intro w
  apply Triple.bind (silent (survives.call E _) fun _ reached => reached.talked)
  intro _
  split
  · apply Triple.bind (silent (survives.call E _) fun _ reached => reached.talked)
    intro _
    apply Triple.modify
    rintro v ⟨phase, turn, said, open_⟩
    exact ⟨.finished, said.speaks (phase ▸ .leave open_)⟩
  · exact Triple.pure fun _ reached => reached.talked

end Worker

/-- Every finite part of every run is a conversation, which sets the device up once at most. -/
theorem commands_follow_protocol {σ : Type} (E : Environment σ) (config : WorkerConfig) (fuel : Nat) (w : World σ)
    (unheard : w.log = []) :
    (∃ turn, Conversation config (run E config fuel w).2.log turn) ∧ InOrder (run E config fuel w).2.log := by
  have whole : Triple (fun w : World σ => w.log = []) (run E config fuel) (fun _ => Talked config) (Talked config) := by
    apply Triple.bind (Q := fun _ => InTurn config .connecting (exactly .detached))
    · apply Triple.modify
      intro w nothing
      refine ⟨rfl, .detached, ?_, rfl⟩
      show Conversation config w.log .detached
      rw [nothing]
      exact .nil
    · intro _
      apply Triple.bind (Triple.tryCatch (session_speaks config E fuel) (fun _ => Triple.pure fun _ left => left)
        fun _ ⟨turn, said, _⟩ => ⟨turn, said⟩)
      intro _
      apply Triple.bind (Q := fun _ => InTurn config .closing working)
      · apply Triple.modify
        rintro w ⟨turn, said, open_⟩
        exact ⟨rfl, turn, said, open_⟩
      · intro _
        apply Triple.bind (stopStreaming_speaks config E fuel)
        intro _
        apply Triple.bind (disconnect_speaks config E)
        exact fun _ => Triple.modify fun _ left => left
  have ended := whole w unheard
  rcases outcome : run E config fuel w with ⟨result, w'⟩
  rw [outcome] at ended
  have talked : Talked config w' := by
    cases result with
    | ok _ => exact ended
    | error _ => exact ended
  obtain ⟨turn, said⟩ := talked
  exact ⟨⟨turn, said⟩, said.in_order⟩

/-- Every line holds all that the worker looks for; the flag drops at the fifth test. -/
def agreeableDevice : Environment Nat where
  answer
    | .findPort, k => (.ok (ascii "/dev/ttyACM0"), k)
    | .readline, k => (.ok (ascii ("2.0 flstart ver flmode cdc END " ++ smallConfig.modeInfo.modeStr)), k)
    | .read size, k => (.ok ((ascii ">").take size), k)
    | .available, k => (.ok 0, k)
    | .openPort _, k | .write _, k | .flush, k | .flushInput, k | .close, k => (.ok (), k)
    | .connectCb _ _, k | .pointCloudCb _ _, k | .imuCb _, k => (.ok (), k)
  stops k := (decide (4 ≤ k), k + 1)
  now k := (7, k)
  syncMode k := (.none, k)
  frameRateHz k := (.initial, k)
  read_size := by
    intro size s t data answered
    cases answered
    rw [List.length_take]
    exact Nat.min_le_left ..

def waitingWorker : World Nat := { waitingWorld smallConfig.modeInfo [] with env := 0, serial := false }

theorem agreeable_commands :
    (∃ turn, Conversation smallConfig (run agreeableDevice smallConfig 2 waitingWorker).2.log turn) ∧
      InOrder (run agreeableDevice smallConfig 2 waitingWorker).2.log :=
  commands_follow_protocol agreeableDevice smallConfig 2 waitingWorker rfl

example : told .setup (run agreeableDevice smallConfig 2 waitingWorker).2.log = masterCommands .initial := by
  decide +kernel

example : told .closing (run agreeableDevice smallConfig 2 waitingWorker).2.log = closingCommands := by
  decide +kernel

end AsDt1.Guarantees
