import AsDt1.Source.WorkerHandles

/-!
# Running again after an accepted parameter vector

A mode stops the device and leaves the restart to `reboot()`, which returns at
once where `_serial` is still null; a frame rate or a sync mode alone leaves the
restart to `reboot()` as well, but only after `reboot()` itself has stopped the
device. One call of `on_parameters_set` is followed from any reachable state
through every interleaving with the workers (`CallPhase`), and the port from
null to its first object (`connects`).
-/
namespace AsDt1.Guarantees
open AsDt1.Lib AsDt1.Source

def HasMode (parameters : List Parameter) : Prop := ∃ p ∈ parameters, p.name = "mode"

/-- Every operation of the calling thread succeeds, and no worker lowers a
raised flag. -/
def CallSucceeds (k : Kind) (s : State) : Action → Prop
  | .call _ => False
  | .api o => o = .proceed
  | .serial o => s.running = true → (step k s (.serial o)).all State.running = true
  | .v4l2 o => s.running = true → (step k s (.v4l2 o)).all State.running = true

instance (k : Kind) (s : State) : (a : Action) → Decidable (CallSucceeds k s a)
  | .call _ => .isFalse id
  | .api o => inferInstanceAs (Decidable (o = .proceed))
  | .serial _ => inferInstanceAs (Decidable (_ → _))
  | .v4l2 _ => inferInstanceAs (Decidable (_ → _))

/-- The serial worker gets the port open and so sets `_serial`. -/
def connects (s : State) : Action → Bool
  | .serial .proceed | .serial .halfOpen =>
    match s.serial with
    | .live _ .connecting => true
    | _ => false
  | _ => false

/-- A mode has been handled: the flag is down and the serial worker joined. -/
def Stopped (s : State) : Prop := s.running = false ∧ s.serial = .absent

/-- What is known while one call of the parameter callback is under way. -/
def CallPhase (parameters : List Parameter) (s : State) : Prop :=
  match s.api with
  | .scan rest reboot =>
    rest ⊆ parameters ∧ (s.running = true ∧ (HasMode parameters → HasMode rest) ∨
      HasMode parameters ∧ reboot = true ∧ Stopped s)
  | .stopTest (.parameters _ rest) =>
    rest ⊆ parameters ∧ HasMode parameters ∧ (s.running = true ∨ Stopped s)
  | .stopLower (.parameters _ rest) => rest ⊆ parameters ∧ HasMode parameters
  | .stopJoinV4l2 (.parameters _ rest) | .stopRelease (.parameters _ rest)
  | .stopJoinSerial (.parameters _ rest) =>
    rest ⊆ parameters ∧ HasMode parameters ∧ s.running = false
  | .rebootTest => s.running = true ∧ ¬ HasMode parameters ∨ HasMode parameters ∧ Stopped s
  | .stopTest .reboot | .stopLower .reboot => s.serialPort ≠ .null
  | .stopJoinV4l2 .reboot | .stopRelease .reboot | .stopJoinSerial .reboot
  | .rebootOpen | .rebootFlush | .rebootSend | .rebootClose
  | .startTest | .startJoinSerial | .startRaise => s.serialPort ≠ .null ∧ s.running = false
  | .startSpawnSerial | .implJoin | .implSpawn => s.serialPort ≠ .null ∧ s.running = true
  | .idle =>
    s.running = true ∧ (¬ HasMode parameters ∨ s.serialPort ≠ .null) ∨
      HasMode parameters ∧ Stopped s ∧ s.serialPort = .null
  | _ => False

/-- A worker's step that keeps the flag keeps the phase. -/
theorem CallPhase.worker {parameters : List Parameter} {s t : State} (h : CallPhase parameters s)
    (api : t.api = s.api) (running : t.running = s.running)
    (absent : s.serial = .absent → t.serial = .absent ∧ t.serialPort = s.serialPort)
    (port : s.serialPort ≠ .null → t.serialPort ≠ .null) : CallPhase parameters t := by
  unfold CallPhase at h ⊢
  rw [api]
  split at h
  all_goals grind [Stopped]

/-- An accepted parameter asks for a mode exactly if it is the mode parameter. -/
theorem mode_request_iff {p : Parameter} {r : Request} (checked : checkParameter p = .ok r) :
    p.name = "mode" ↔ ∃ modeIdx, r = .mode modeIdx := by
  unfold checkParameter at checked
  repeat' split at checked
  all_goals cases checked
  all_goals simp_all

/-- The step that handles the next parameter. -/
theorem call_phase_scan {k : Kind} {parameters rest : List Parameter} {reboot : Bool} {s t : State}
    (accepted : ∀ p ∈ parameters, accepts p = true) (h : CallPhase parameters s)
    (at_ : s.api = .scan rest reboot) (taken : apiProceed k s = some t) : CallPhase parameters t := by
  simp only [CallPhase, at_] at h
  obtain ⟨within, status⟩ := h
  cases rest with
  | nil =>
    have none : ¬ HasMode ([] : List Parameter) := fun ⟨p, member, _⟩ => List.not_mem_nil member
    simp only [apiProceed, at_, Option.some.injEq] at taken
    subst taken
    rcases status with ⟨up, left_⟩ | ⟨mode, rfl, stopped⟩
    · have noMode : ¬ HasMode parameters := fun mode => none (left_ mode)
      cases reboot with
      | true => exact Or.inl ⟨up, noMode⟩
      | false => exact Or.inl ⟨up, Or.inl noMode⟩
    · exact Or.inr ⟨mode, stopped⟩
  | cons p rest =>
    have member : p ∈ parameters := within List.mem_cons_self
    have within' : rest ⊆ parameters := fun q later => within (List.mem_cons_of_mem _ later)
    simp only [apiProceed, at_] at taken
    split at taken
    · next reason rejected =>
      have valid := accepted p member
      simp [accepts, rejected, Except.isOk, Except.toBool] at valid
    · next modeIdx checked =>
      have named : p.name = "mode" := (mode_request_iff checked).mpr ⟨modeIdx, rfl⟩
      cases taken
      refine ⟨within', ⟨p, member, named⟩, ?_⟩
      rcases status with ⟨up, -⟩ | ⟨-, -, stopped⟩
      · exact Or.inl up
      · exact Or.inr stopped
    · next r notMode checked =>
      have unnamed : p.name ≠ "mode" := by
        intro named
        obtain ⟨modeIdx, isMode⟩ := (mode_request_iff checked).mp named
        exact notMode modeIdx isMode
      cases taken
      refine ⟨within', ?_⟩
      rcases status with ⟨up, left_⟩ | ⟨mode, rfl, stopped⟩
      · refine Or.inl ⟨up, fun mode => ?_⟩
        obtain ⟨q, among, isMode⟩ := left_ mode
        rcases List.mem_cons.mp among with rfl | later
        · exact absurd isMode unnamed
        · exact ⟨q, later, isMode⟩
      · exact Or.inr ⟨mode, by simp, stopped⟩

/-- The steps of a `stop()` made by the parameter callback or by `reboot()`. -/
theorem call_phase_stop {k : Kind} {parameters : List Parameter} {s t : State}
    (h : CallPhase parameters s) (taken : apiProceed k s = some t)
    (inside : s.api.stopping = true ∨ ∃ r, s.api = .stopTest r ∨ s.api = .stopLower r) :
    CallPhase parameters t := by
  obtain ⟨pc, at_⟩ : ∃ pc, s.api = pc := ⟨_, rfl⟩
  simp only [CallPhase, at_] at h
  cases pc with
  | stopTest r =>
    simp only [apiProceed, at_, Option.some.injEq] at taken
    subst taken
    cases r with
    | caller | derived | base => cases h
    | reboot =>
      split
      · exact h
      · next up =>
        have down : s.running = false := by simpa using up
        exact ⟨h, down⟩
    | parameters modeIdx rest =>
      obtain ⟨within, mode, status⟩ := h
      split
      · exact ⟨within, mode⟩
      · next down =>
        have stopped : Stopped s := by
          rcases status with up | stopped
          · exact absurd up down
          · exact stopped
        exact ⟨within, Or.inr ⟨mode, rfl, stopped⟩⟩
  | stopLower r =>
    simp only [apiProceed, at_, Option.some.injEq] at taken
    subst taken
    cases r with
    | caller | derived | base => cases h
    | reboot => cases k <;> exact ⟨h, rfl⟩
    | parameters modeIdx rest => cases k <;> exact ⟨h.1, h.2, rfl⟩
  | stopJoinV4l2 r =>
    simp only [apiProceed, at_] at taken
    obtain ⟨rfl, -⟩ := Worker.join_map_eq_some taken
    cases r with
    | caller | derived | base => cases h
    | reboot | parameters => exact h
  | stopRelease r =>
    simp only [apiProceed, at_, Option.some.injEq] at taken
    obtain ⟨fd, buffers, ledger, same⟩ := releaseVideo_eq s
    rw [same] at taken
    subst taken
    cases r with
    | caller | derived | base => cases h
    | reboot | parameters => exact h
  | stopJoinSerial r =>
    simp only [apiProceed, at_] at taken
    obtain ⟨rfl, -⟩ := Worker.join_map_eq_some taken
    cases r with
    | caller | derived | base => cases h
    | reboot => exact h
    | parameters modeIdx rest =>
      obtain ⟨within, mode, down⟩ := h
      exact ⟨within, Or.inr ⟨mode, rfl, down, rfl⟩⟩
  | _ => simp [at_, ApiPc.stopping] at inside

/-- The steps of `reboot()` and of the `start()` at its end. -/
theorem call_phase_reboot {k : Kind} {parameters : List Parameter} {s t : State}
    (h : CallPhase parameters s) (taken : apiProceed k s = some t)
    (inside : s.api = .rebootTest ∨ s.api.usesPort = true ∨ s.api.starting = true) :
    CallPhase parameters t := by
  obtain ⟨pc, at_⟩ : ∃ pc, s.api = pc := ⟨_, rfl⟩
  have phase := h
  simp only [CallPhase, at_] at phase
  cases pc with
  | rebootTest =>
    simp only [apiProceed, at_, Option.some.injEq] at taken
    subst taken
    split
    · next null =>
      rcases phase with ⟨up, noMode⟩ | ⟨mode, stopped⟩
      · exact Or.inl ⟨up, Or.inl noMode⟩
      · exact Or.inr ⟨mode, stopped, null⟩
    · next connected => exact connected
  | rebootOpen =>
    simp only [apiProceed, at_] at taken
    split at taken
    · cases taken
    · cases taken
      exact ⟨by simp, phase.2⟩
  | rebootFlush | rebootSend =>
    simp only [apiProceed, at_] at taken
    split at taken
    · cases taken
      exact phase
    · cases taken
  | rebootClose =>
    simp only [apiProceed, at_, Option.some.injEq] at taken
    subst taken
    exact ⟨by simp [beginStart], phase.2⟩
  | startTest =>
    simp only [apiProceed, at_, phase.2, Bool.false_eq_true, if_false, Option.some.injEq] at taken
    subst taken
    exact ⟨phase.1, rfl⟩
  | startJoinSerial | implJoin =>
    simp only [apiProceed, at_] at taken
    obtain ⟨rfl, -⟩ := Worker.join_map_eq_some taken
    exact phase
  | startRaise =>
    simp only [apiProceed, at_, Option.some.injEq] at taken
    subst taken
    exact ⟨phase.1, rfl⟩
  | startSpawnSerial =>
    simp only [apiProceed, at_] at taken
    split at taken
    · cases taken
      exact h
    · cases taken
      cases k with
      | hist => exact phase
      | cdc => exact Or.inl ⟨phase.2, Or.inr phase.1⟩
  | implSpawn =>
    simp only [apiProceed, at_] at taken
    split at taken
    · cases taken
      exact h
    · cases taken
      exact Or.inl ⟨phase.2, Or.inr phase.1⟩
  | _ => simp [at_, ApiPc.usesPort, ApiPc.starting] at inside

theorem call_phase_api {k : Kind} {parameters : List Parameter} {s t : State}
    (accepted : ∀ p ∈ parameters, accepts p = true) (h : CallPhase parameters s)
    (taken : apiProceed k s = some t) : CallPhase parameters t := by
  obtain ⟨pc, at_⟩ : ∃ pc, s.api = pc := ⟨_, rfl⟩
  cases pc with
  | scan rest reboot => exact call_phase_scan accepted h at_ taken
  | stopTest r => exact call_phase_stop h taken (Or.inr ⟨r, Or.inl at_⟩)
  | stopLower r => exact call_phase_stop h taken (Or.inr ⟨r, Or.inr at_⟩)
  | stopJoinV4l2 | stopRelease | stopJoinSerial =>
    exact call_phase_stop h taken (Or.inl (by rw [at_]; rfl))
  | rebootTest => exact call_phase_reboot h taken (Or.inl at_)
  | rebootOpen | rebootFlush | rebootSend | rebootClose =>
    exact call_phase_reboot h taken (Or.inr (Or.inl (by rw [at_]; rfl)))
  | startTest | startJoinSerial | startRaise | startSpawnSerial | implJoin | implSpawn =>
    exact call_phase_reboot h taken (Or.inr (Or.inr (by rw [at_]; rfl)))
  | idle => simp [apiProceed, at_] at taken
  | dropV4l2 | baseJoin | dropSerial | destroyed =>
    simp only [CallPhase, at_] at h

/-! ## The port while the serial worker connects -/

/-- A worker that has got past `connect` has set `_serial`. -/
structure PortSet (s : State) : Prop where
  handshake : ∀ n, s.serial = .live n .handshake → s.serialPort ≠ .null
  connected : ∀ n, s.serial = .live n .connected → s.running = true → s.serialPort ≠ .null

/-- What a move of the serial worker does to the port. -/
theorem serialMove_port {k : Kind} {running : Bool} {port : SerialPort} {pc : SerialPc}
    {o : SerialOutcome} {move : SerialMove} (made : serialMove k running port pc o = some move) :
    match move with
    | .setPort port' next =>
      pc = .connecting ∧ port' = .opened ∧ (o = .proceed ∨ o = .halfOpen) ∨
      pc = .handshake ∧ port' = .closed ∧ next = .discover ∨
      pc = .disconnect ∧ (port' = .null ↔ port = .null) ∧ next = .lower
    | .goto next =>
      (pc = .connecting → o = .refuse) ∧ (next = .handshake → pc = .handshake ∨
        pc = .connected ∧ running = true) ∧ (next = .connected → running = false)
    | .storeOffset _ _ next => pc ≠ .connecting ∧ next = .unpack
    | _ => pc ≠ .connecting := by
  cases pc <;> simp only [serialMove] at made <;> split at made
  all_goals grind

theorem PortSet.frame {s t : State} (h : PortSet s) (serial : t.serial = s.serial)
    (running : t.running = true → s.running = true)
    (port : t.serialPort = .null → s.serialPort = .null) : PortSet t := by
  constructor
  · intro n at_ null
    exact h.handshake n (serial ▸ at_) (port null)
  · intro n at_ up null
    exact h.connected n (serial ▸ at_) (running up) (port null)

/-- A serial worker that has not got as far as `connected` has nothing to show. -/
theorem PortSet.of_elsewhere {s : State}
    (elsewhere : ∀ n, s.serial ≠ .live n .handshake ∧ s.serial ≠ .live n .connected) : PortSet s :=
  ⟨fun n at_ => absurd at_ (elsewhere n).1, fun n at_ => absurd at_ (elsewhere n).2⟩

theorem port_set_serial {k : Kind} {s : State} {n : Nat} {pc : SerialPc} {o : SerialOutcome}
    {move : SerialMove} (h : PortSet s) (live : s.serial = .live n pc)
    (made : serialMove k s.running s.serialPort pc o = some move) :
    PortSet (applySerial s n move) := by
  have effect := serialMove_port made
  cases move with
  | goto next =>
    obtain ⟨-, toHandshake, toConnected⟩ := effect
    constructor
    · intro n' at_
      cases at_
      rcases toHandshake rfl with rfl | ⟨rfl, up⟩
      · exact h.handshake n live
      · exact h.connected n live up
    · intro n' at_ up
      cases at_
      have down : s.running = false := toConnected rfl
      simp [show s.running = true from up] at down
  | setPort port next =>
    rcases effect with ⟨-, rfl, -⟩ | ⟨-, rfl, -⟩ | ⟨-, -, rfl⟩
    · exact ⟨fun _ _ => (by simp [applySerial]), fun _ _ _ => (by simp [applySerial])⟩
    · exact ⟨fun _ _ => (by simp [applySerial]), fun _ _ _ => (by simp [applySerial])⟩
    · exact .of_elsewhere fun n' => ⟨by simp [applySerial], by simp [applySerial]⟩
  | storeOffset value measured next =>
    obtain ⟨-, rfl⟩ := effect
    exact .of_elsewhere fun n' => ⟨by simp [applySerial], by simp [applySerial]⟩
  | lowerAndReturn => exact .of_elsewhere fun n' => ⟨by simp [applySerial], by simp [applySerial]⟩
  | terminate => exact h.frame rfl id id

theorem port_set_kept {k : Kind} {s t : State} {a : Action} (handles : JoinedHandles k s)
    (h : PortSet s) (taken : step k s a = some t) : PortSet t := by
  cases a with
  | call c =>
    obtain ⟨-, rfl⟩ := step_call taken
    cases c <;> exact h.frame rfl id id
  | serial o =>
    obtain ⟨n, pc, move, live, made, rfl⟩ := step_serial taken
    exact port_set_serial h live made
  | v4l2 o =>
    obtain ⟨n, pc, move, -, -, rfl⟩ := step_v4l2 taken
    refine h.frame (by simp) (fun up => ?_) (by simp)
    by_contra down
    simp [applyV4l2_stays_down (by simpa using down : s.running = false)] at up
  | api o =>
    cases api_taken taken with
    | control pc settings port plain free set =>
      refine h.frame rfl id fun null => ?_
      rcases set with same | ⟨-, nonNull⟩
      · exact same ▸ null
      · exact absurd null nonNull
    | begun => exact h.frame rfl id fun null => (by cases null)
    | raised at_ =>
      have absent : s.serial = .absent := handles.serial_absent (by rw [at_]; rfl)
      exact .of_elsewhere fun n => ⟨by simp [absent], by simp [absent]⟩
    | joinedSerial | spawnedSerial => exact .of_elsewhere fun n => ⟨by simp, by simp⟩
    | lowered => exact h.frame rfl (fun up => (by cases up)) id
    | joinedInStop | joinedInStart | spawnedV4l2 | droppedV4l2 | droppedSerial | aborted =>
      exact h.frame rfl id id
    | returned r =>
      obtain ⟨settings, pc, same⟩ := returnStop_eq k s r
      rw [same]
      exact h.frame rfl id id
    | released =>
      obtain ⟨fd, buffers, ledger, same⟩ := releaseVideo_eq s
      rw [same]
      exact h.frame rfl id id
    | stopped r =>
      obtain ⟨settings, pc, same⟩ := returnStop_eq k { s with serial := .absent } r
      rw [same]
      exact .of_elsewhere fun n => ⟨by simp, by simp⟩

theorem port_set_of_reached {k : Kind} {s : State}
    (reached : (deviceMachine k).Reached Machine.Unrestricted s) : PortSet s :=
  reached.invariant_with (fun _ r => handles_of_reached r)
    (.of_elsewhere fun n => ⟨by simp [deviceMachine], by simp [deviceMachine]⟩)
    fun _ _ _ handles h _ taken => port_set_kept handles h taken

theorem connects_iff {s : State} {n : Nat} {pc : SerialPc} {o : SerialOutcome}
    (live : s.serial = .live n pc) :
    connects s (.serial o) = true ↔ pc = .connecting ∧ (o = .proceed ∨ o = .halfOpen) := by
  cases o <;> cases pc <;> simp [connects, live]

/-- A step of the serial worker sets `_serial` exactly if it connects. -/
theorem port_latch_serial {k : Kind} {s : State} {n : Nat} {pc : SerialPc} {o : SerialOutcome}
    {move : SerialMove} (set : PortSet s) (live : s.serial = .live n pc)
    (made : serialMove k s.running s.serialPort pc o = some move) :
    (applySerial s n move).serialPort ≠ .null ↔
      s.serialPort ≠ .null ∨ connects s (.serial o) = true := by
  have effect := serialMove_port made
  rw [connects_iff live]
  cases move with
  | setPort port next =>
    rcases effect with ⟨rfl, rfl, how⟩ | ⟨rfl, rfl, -⟩ | ⟨rfl, same, -⟩
    · simp [applySerial, how]
    · simp [applySerial, set.handshake n live]
    · simp [applySerial, same]
  | goto next =>
    have refused : ¬ (pc = .connecting ∧ (o = .proceed ∨ o = .halfOpen)) := by
      rintro ⟨at_, how⟩
      rcases how with rfl | rfl <;> cases effect.1 at_
    simp [applySerial, refused]
  | storeOffset value measured next => simp [applySerial, effect.1]
  | lowerAndReturn | terminate =>
    have elsewhere : pc ≠ .connecting := effect
    simp [applySerial, State.abort, elsewhere]

/-! ## The whole call -/

/-- What is carried along the steps of one call. -/
structure Calling (k : Kind) (parameters : List Parameter) (s : State) : Prop where
  phase : CallPhase parameters s
  handles : JoinedHandles k s
  port : PortSet s

/-- A worker that keeps a raised flag up keeps the flag: none ever raises it. -/
theorem worker_keeps_flag {k : Kind} {s t : State} {a : Action}
    (met : s.running = true → (step k s a).all State.running = true)
    (staysDown : s.running = false → t.running = false) (taken : step k s a = some t) :
    t.running = s.running := by
  by_cases up : s.running = true
  · have kept := met up
    rw [taken] at kept
    rw [up]
    exact kept
  · have down : s.running = false := by simpa using up
    rw [down, staysDown down]

theorem calling_kept {k : Kind} {parameters : List Parameter} {s t : State} {a : Action}
    (accepted : ∀ p ∈ parameters, accepts p = true) (h : Calling k parameters s)
    (met : CallSucceeds k s a) (taken : step k s a = some t) : Calling k parameters t := by
  refine ⟨?_, handles_kept h.handles taken, port_set_kept h.handles h.port taken⟩
  cases a with
  | call c => exact met.elim
  | api o =>
    obtain rfl : o = .proceed := met
    exact call_phase_api accepted h.phase (step_api taken)
  | serial o =>
    have flag : ∀ u, step k s (.serial o) = some u → (s.running = false → u.running = false) →
        u.running = s.running := fun u same down => worker_keeps_flag met down same
    obtain ⟨n, pc, move, live, made, rfl⟩ := step_serial taken
    refine h.phase.worker (by simp) (flag _ taken applySerial_stays_down) (fun absent => ?_)
      fun nonNull => (port_latch_serial h.port live made).mpr (Or.inl nonNull)
    rw [live] at absent
    cases absent
  | v4l2 o =>
    have flag : ∀ u, step k s (.v4l2 o) = some u → (s.running = false → u.running = false) →
        u.running = s.running := fun u same down => worker_keeps_flag met down same
    obtain ⟨n, pc, move, live, made, rfl⟩ := step_v4l2 taken
    exact h.phase.worker (by simp) (flag _ taken applyV4l2_stays_down)
      (fun absent => ⟨by simpa using absent, by simp⟩) fun nonNull => by simpa using nonNull

theorem port_latch {k : Kind} {parameters : List Parameter} {s t : State} {a : Action}
    (h : Calling k parameters s) (met : CallSucceeds k s a) (taken : step k s a = some t) :
    t.serialPort ≠ .null ↔ s.serialPort ≠ .null ∨ connects s a = true := by
  have unchanged : ∀ port, port = s.serialPort → connects s a = false →
      (port ≠ .null ↔ s.serialPort ≠ .null ∨ connects s a = true) := by
    rintro port rfl not
    simp [not]
  cases a with
  | call c => exact met.elim
  | serial o =>
    obtain ⟨n, pc, move, live, made, rfl⟩ := step_serial taken
    exact port_latch_serial h.port live made
  | v4l2 o =>
    obtain ⟨n, pc, move, -, -, rfl⟩ := step_v4l2 taken
    exact unchanged _ (by simp) rfl
  | api o =>
    cases api_taken taken with
    | control pc settings port plain free set =>
      rcases set with same | ⟨uses, nonNull⟩
      · exact unchanged port same rfl
      · have connected : s.serialPort ≠ .null := by
          have phase := h.phase
          unfold CallPhase at phase
          split at phase <;> simp_all [ApiPc.usesPort]
        simp [nonNull, connected]
    | begun at_ =>
      have phase := h.phase
      simp only [CallPhase, at_] at phase
      simp [beginStart, phase.1]
    | raised | joinedSerial | spawnedSerial | lowered | joinedInStop | joinedInStart | spawnedV4l2
    | droppedV4l2 | droppedSerial | aborted => exact unchanged _ rfl rfl
    | returned r =>
      obtain ⟨settings, pc, same⟩ := returnStop_eq k s r
      rw [same]
      exact unchanged _ rfl rfl
    | released =>
      obtain ⟨fd, buffers, ledger, same⟩ := releaseVideo_eq s
      rw [same]
      exact unchanged _ rfl rfl
    | stopped r =>
      obtain ⟨settings, pc, same⟩ := returnStop_eq k { s with serial := .absent } r
      rw [same]
      exact unchanged _ rfl rfl

/-- One call of `on_parameters_set` on a running device in any reachable state,
through any interleaving with workers that do not fail, of any accepted vector:
when it returns, the device runs if and only if the vector has no mode, or
`_serial` was set before the call or is set during it. -/
theorem running_again_iff {k : Kind} {s s' t : State} {parameters : List Parameter}
    {as : List Action} (reached : (deviceMachine k).Reached Machine.Unrestricted s)
    (up : s.running = true) (accepted : ∀ p ∈ parameters, accepts p = true)
    (called : step k s (.call (.setParameters parameters)) = some s')
    (succeeds : (deviceMachine k).Meets (CallSucceeds k) s' as)
    (ran : (deviceMachine k).run s' as = some t) (returned : t.api = .idle) :
    t.running = true ↔
      (∀ p ∈ parameters, p.name ≠ "mode") ∨ s.serialPort ≠ .null ∨
        (deviceMachine k).Sometimes (fun u a => connects u a = true) s' as := by
  obtain ⟨-, begun⟩ := step_call called
  have start : Calling k parameters s' := by
    refine ⟨?_, handles_kept (handles_of_reached reached) called,
      port_set_kept (handles_of_reached reached) (port_set_of_reached reached) called⟩
    rw [begun]
    exact ⟨fun p member => member, Or.inl ⟨up, id⟩⟩
  have finish : CallPhase parameters t :=
    ((deviceMachine k).run_invariant (fun _ _ _ h met taken => calling_kept accepted h met taken)
      start succeeds ran).phase
  have port : t.serialPort ≠ .null ↔ s'.serialPort ≠ .null ∨
      (deviceMachine k).Sometimes (fun u a => connects u a = true) s' as :=
    (deviceMachine k).run_latch (fun _ _ _ h met taken => calling_kept accepted h met taken)
      (fun _ _ _ h met taken => port_latch h met taken) start succeeds ran
  have samePort : s'.serialPort = s.serialPort := by
    rw [begun]
    rfl
  have noMode : (∀ p ∈ parameters, p.name ≠ "mode") ↔ ¬ HasMode parameters := by
    simp [HasMode]
  rw [noMode, ← samePort, ← port]
  simp only [CallPhase, returned] at finish
  rcases finish with ⟨running, known⟩ | ⟨mode, stopped, null⟩
  · exact ⟨fun _ => known, fun _ => running⟩
  · constructor
    · intro running
      simp [stopped.1] at running
    · rintro (none | nonNull)
      · exact absurd mode none
      · exact absurd null nonNull

/-- A cdc device started, with its serial worker after `serialSteps` steps. -/
def startedCdc (serialSteps : Nat) : List Action :=
  .call .start :: List.replicate 4 (.api .proceed) ++ List.replicate serialSteps (.serial .proceed)

def mode20m : List Parameter := [⟨"mode", .string "20M"⟩]

/-- The call of the parameter callback up to the join of the serial worker, which
ends after `serialSteps` more steps, and the calling thread's `rest` steps. -/
def modeChange (serialSteps rest : Nat) : List Action :=
  List.replicate 3 (.api .proceed) ++ List.replicate serialSteps (.serial .proceed) ++
    List.replicate rest (.api .proceed)

/-- Whether a checked run from `s` that handles `mode20m` returns, with the flag
as given. -/
def returnsWith (flag : Bool) (as : List Action) (s : State) : Bool :=
  s.running && (step .cdc s (.call (.setParameters mode20m))).any fun s' =>
    ((deviceMachine .cdc).guardedRun (CallSucceeds .cdc) s' as).any fun t =>
      t.api == .idle && t.running == flag

/-- What `returnsWith` has checked. -/
theorem returnsWith_spec {flag : Bool} {as : List Action} {s : State}
    (checked : returnsWith flag as s = true) :
    s.running = true ∧ ∃ s' t, step .cdc s (.call (.setParameters mode20m)) = some s' ∧
      (deviceMachine .cdc).Meets (CallSucceeds .cdc) s' as ∧
      (deviceMachine .cdc).run s' as = some t ∧ t.api = .idle ∧ t.running = flag := by
  simp only [returnsWith, Bool.and_eq_true, Option.any_eq_true, beq_iff_eq] at checked
  obtain ⟨up, s', called, t, guarded, returned, same⟩ := checked
  obtain ⟨ran, met⟩ := (deviceMachine .cdc).guardedRun_spec guarded
  exact ⟨up, s', t, called, met, ran, returned, same⟩

/-- A mode change on a connected device: the call stops it, reboots the camera
and starts it again. -/
theorem running_again_connected :
    ∃ s s' t as, (deviceMachine .cdc).Reached Machine.Unrestricted s ∧
      step .cdc s (.call (.setParameters mode20m)) = some s' ∧
      (deviceMachine .cdc).run s' as = some t ∧ t.running = true ∧
      ((∀ p ∈ mode20m, p.name ≠ "mode") ∨ s.serialPort ≠ .null ∨
        (deviceMachine .cdc).Sometimes (fun u a => connects u a = true) s' as) := by
  obtain ⟨s, reached, checked⟩ := (deviceMachine .cdc).exists_of_guardedRun Machine.Unrestricted
    (startedCdc 4) (returnsWith true (modeChange 7 12)) (by decide)
  obtain ⟨up, s', t, called, met, ran, returned, running⟩ := returnsWith_spec checked
  exact ⟨s, s', t, _, reached, called, ran, running,
    (running_again_iff reached up (by decide) called met ran returned).mp running⟩

/-- A mode change before the camera has been found: `reboot()` sees a null
`_serial`, returns at once and leaves the device stopped. -/
theorem mode_change_leaves_stopped :
    ¬ ∀ (k : Kind) (s s' t : State) (parameters : List Parameter) (as : List Action),
      (deviceMachine k).Reached Machine.Unrestricted s → s.running = true →
      (∀ p ∈ parameters, accepts p = true) →
      step k s (.call (.setParameters parameters)) = some s' →
      (deviceMachine k).Meets (CallSucceeds k) s' as → (deviceMachine k).run s' as = some t →
      t.api = .idle → t.running = true := by
  intro always
  obtain ⟨s, reached, checked⟩ := (deviceMachine .cdc).exists_of_guardedRun Machine.Unrestricted
    (startedCdc 0) (returnsWith false (modeChange 6 3)) (by decide)
  obtain ⟨up, s', t, called, met, ran, returned, stopped⟩ := returnsWith_spec checked
  have running := always .cdc s s' t mode20m _ reached up (by decide) called met ran returned
  rw [stopped] at running
  cases running

end AsDt1.Guarantees
