import AsDt1.Guarantees.LibraryFrames
import AsDt1.Source.PortDescriptors

/-!
# The worker's descriptors

Over a whole run of the serial worker on the serial library: a descriptor is held,
closed or abandoned at every stop of the thread, and closed when it returns, unless
its port could not be configured.
-/
namespace AsDt1.Guarantees
open AsDt1.Lib AsDt1.Source AsDt1.Source.SerialImpl Routine

variable {σ τ : Type} (sys : System σ) (settings : PortSettings) (host : Environment τ)

/-- Every descriptor is accounted for, and no port is open behind a null pointer. -/
def PortInvariant (serial : Bool) (s : Port σ × τ) : Prop :=
  s.1.handle.Accounted sys ∧ (s.1.handle.isOpen = true → serial = true)

variable {sys} {settings} {host} {serial : Bool} {s : Port σ × τ}

/-- A call that leaves the handle alone. -/
theorem fixed_invariant {α : Type} {r : PortRoutine σ α} (fixed : HandleFixed r) (holds : PortInvariant sys serial s) :
    PortInvariant sys serial (answerFrom r s).2 := by
  have same : (answerFrom r s).2.1.handle = s.1.handle := by
    unfold answerFrom
    rcases (fixed s.1.handle).ends rfl with ⟨a, q, returned, kept⟩ | ⟨failure, q, thrown, kept⟩
    · rw [returned]
      exact kept
    · rw [thrown]
      exact kept
  unfold PortInvariant
  rw [same]
  exact holds

theorem undone_invariant {q : Port σ} {t : τ} (holds : PortInvariant sys serial s) (undone : Undone sys s.1.handle q) :
    PortInvariant sys serial (q, t) := ⟨undone.1, fun opened => holds.2 (undone.2 opened)⟩

theorem close_invariant (holds : PortInvariant sys serial s) :
    PortInvariant sys serial (answerFrom (SerialImpl.close sys) s).2 := by
  unfold answerFrom
  rcases (close_accounted holds.1).ends rfl with ⟨a, q, returned, account, shut⟩ | ⟨failure, q, thrown, undone⟩
  · rw [returned]
    exact ⟨account, fun opened => absurd (shut.symm.trans opened) Bool.false_ne_true⟩
  · rw [thrown]
    exact undone_invariant holds undone

theorem open_invariant (port : Octets) (holds : PortInvariant sys serial s) :
    PortInvariant sys (afterOpen (answerFrom (construct sys settings port) s).1 serial)
      (answerFrom (construct sys settings port) s).2 := by
  have constructed : Total (fun p => p.handle = s.1.handle) (construct sys settings port) _ _ :=
    construct_accounted port holds.1
  unfold answerFrom
  rcases constructed.ends rfl with ⟨a, q, returned, account⟩ |
    ⟨failure, q, thrown, undone⟩
  · rw [returned]
    exact ⟨account, fun _ => rfl⟩
  · rw [thrown]
    exact undone_invariant holds undone

/-- Nothing that the worker asks for breaks the account. -/
theorem library_keeps (sys : System σ) (settings : PortSettings) (host : Environment τ) :
    CallsKeep (libraryEnvironment sys settings host) (PortInvariant sys) where
  answer c serial s plain holds := by
    cases c with
    | openPort port => cases plain
    | readline => exact fixed_invariant (readline_fixed sys settings default_roomy) holds
    | read size => exact fixed_invariant (read_fixed sys settings size) holds
    | write data =>
      exact fixed_invariant ((write_fixed sys settings data).bind fun _ => .pure ()) holds
    | available => exact fixed_invariant (available_fixed sys) holds
    | flush => exact fixed_invariant (flush_fixed sys) holds
    | flushInput => exact fixed_invariant (flushInput_fixed sys) holds
    | close => exact close_invariant holds
    | _ => exact holds
  openPort port serial s holds := open_invariant port holds
  stops _ _ holds := holds
  now _ _ holds := holds
  syncMode _ _ holds := holds
  frameRateHz _ _ holds := holds

/-! ## The end of the thread -/

/-- No port is open. -/
def Shut (sys : System σ) (w : World (Port σ × τ)) : Prop :=
  Holding (PortInvariant sys) w ∧ w.env.1.handle.isOpen = false

theorem close_shuts :
    Triple (Holding (PortInvariant sys)) (Source.close (libraryEnvironment sys settings host))
      (fun _ => Shut sys) (Holding (PortInvariant sys)) := by
  apply Triple.bind (Q := fun _ => Shut sys)
  · intro w holds
    have answered : (libraryEnvironment sys settings host).answer .close w.env =
        answerFrom (SerialImpl.close sys) w.env := rfl
    unfold Source.call
    rw [answered]
    unfold answerFrom
    rcases (close_accounted holds.1).ends rfl with ⟨a, q, returned, account, shut⟩ | ⟨failure, q, thrown, undone⟩
    · rw [returned]
      exact ⟨⟨account, fun opened => absurd (shut.symm.trans opened) Bool.false_ne_true⟩, shut⟩
    · rw [thrown]
      exact undone_invariant (s := w.env) holds undone
  · exact fun _ => Triple.modify fun _ shut => shut

theorem disconnect_shuts :
    Triple (Holding (PortInvariant sys)) (disconnect (libraryEnvironment sys settings host))
      (fun _ => Shut sys) (Holding (PortInvariant sys)) := by
  intro w holds
  unfold disconnect
  rw [bind_ok (get_apply w)]
  have told : Triple (fun v => v = w) (Source.call (libraryEnvironment sys settings host)
      (.connectCb false w.deviceInfo))
      (fun _ v => Holding (PortInvariant sys) v ∧ v.serial = w.serial) (Holding (PortInvariant sys)) := by
    rintro v rfl
    unfold Source.call
    rcases outcome : (libraryEnvironment sys settings host).answer (.connectCb false v.deviceInfo) v.env with ⟨result, env⟩
    have kept := (library_keeps sys settings host).answer (.connectCb false v.deviceInfo) v.serial
      v.env rfl holds
    rw [outcome] at kept
    cases result with
    | ok a => exact ⟨kept, rfl⟩
    | error failure => exact kept
  refine Triple.bind told (fun _ => ?_) w rfl
  by_cases connected : w.serial = true
  · rw [if_pos connected]
    exact close_shuts.conseq (fun _ kept => kept.1) (fun _ _ shut => shut) fun _ kept => kept
  · rw [if_neg connected]
    apply Triple.pure
    rintro v ⟨kept, same⟩
    refine ⟨kept, ?_⟩
    by_contra opened
    exact connected (same ▸ kept.2 (by simpa using opened))

theorem run_shuts (config : WorkerConfig) (fuel : Nat) :
    Triple (Holding (PortInvariant sys)) (run (libraryEnvironment sys settings host) config fuel)
      (fun _ => Shut sys) (Holding (PortInvariant sys)) := by
  have keep := (library_keeps sys settings host).worker config
  apply Triple.bind (keep.enter _)
  intro _
  apply Triple.bind (Keeps.tryCatch (keep.session fuel) fun _ => Keeps.pure)
  intro _
  apply Triple.bind (keep.enter _)
  intro _
  apply Triple.bind (keep.toStepsKeep.stopStreaming fuel)
  intro _
  apply Triple.bind disconnect_shuts
  exact fun _ => Triple.modify fun _ shut => shut

/-- From an unopened port on: at every stop of the thread each descriptor is held, closed or
abandoned, one is held if and only if the port is open, and a thread that returns has
closed all the others. A system that configures and closes every port loses none. -/
theorem worker_accounts_descriptors (sys : System σ) (settings : PortSettings) (host : Environment τ)
    (config : WorkerConfig) (fuel : Nat) (w : World (Port σ × τ)) (unopened : w.env.1.handle = {}) :
    let stopped := run (libraryEnvironment sys settings host) config fuel w
    let handle := stopped.2.env.1.handle
    handle.opened = handle.closed + handle.abandoned + (if handle.isOpen then 1 else 0) ∧
      (stopped.1 = .ok () → handle.isOpen = false ∧ handle.fd = none) ∧
      (Obliging sys → handle.abandoned = 0) := by
  intro stopped handle
  have before : Holding (PortInvariant sys) w := by
    unfold Holding PortInvariant
    rw [unopened]
    exact ⟨Handle.accounted_empty sys, fun impossible => absurd impossible Bool.false_ne_true⟩
  have holds : Holding (PortInvariant sys) stopped.2 :=
    (((library_keeps sys settings host).worker config).run fuel).holds before
  have account := holds.1
  refine ⟨?_, fun returned => ?_, account.nothing_lost⟩
  · rw [account.open_held]
    exact account.balance
  · have shut := (run_shuts config fuel).value before (Prod.ext returned rfl)
    refine ⟨shut.2, ?_⟩
    have none_ : handle.fd.isSome = false := account.open_held.symm.trans shut.2
    simpa using none_

/-- A worker that has not connected yet, with octets waiting on the port. -/
def unconnectedWorld (rest : Octets) : World (Port PacedState × Nat) :=
  { libraryWorld smallConfig.modeInfo rest with env := (⟨⟨rest, 0⟩, {}, [], [], []⟩, 0), serial := false }

/-- A host that names one port. -/
def pluggedHost : Environment Nat where
  answer c k := match c with
    | .findPort => (.ok (ascii "/dev/ttyACM0"), k)
    | c => (calmHost fun _ => 7).answer c k
  stops := (calmHost fun _ => 7).stops
  now := (calmHost fun _ => 7).now
  syncMode := (calmHost fun _ => 7).syncMode
  frameRateHz := (calmHost fun _ => 7).frameRateHz
  read_size answered := (calmHost fun _ => 7).read_size answered

theorem interrupted_worker_accounts :
    let stopped := run (libraryEnvironment (pacedSystem 1) driverSettings pluggedHost) smallConfig 1
      (unconnectedWorld (ascii "flstart"))
    let handle := stopped.2.env.1.handle
    handle.opened = handle.closed + handle.abandoned + (if handle.isOpen then 1 else 0) ∧
      (stopped.1 = .ok () → handle.isOpen = false ∧ handle.fd = none) ∧
      (Obliging (pacedSystem 1) → handle.abandoned = 0) :=
  worker_accounts_descriptors (pacedSystem 1) driverSettings pluggedHost smallConfig 1
    (unconnectedWorld (ascii "flstart")) rfl

end AsDt1.Guarantees
