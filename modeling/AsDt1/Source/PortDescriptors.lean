import AsDt1.Source.LibraryPort
import AsDt1.Source.WorkerCalls

/-!
# The descriptors of the serial library

Every descriptor that `::open` has given is held by the port, closed or abandoned.
A transfer changes none of them; a port that takes the place of another one holds a
descriptor exactly if it is open.
-/
namespace AsDt1.Source
open AsDt1.Lib Routine

variable {σ : Type}

/-! ## The account -/

def Handle.held (h : Handle) : Nat := if h.fd.isSome then 1 else 0

/-- Every port can be configured and closed. -/
structure Obliging (sys : System σ) : Prop where
  attributes : ∀ s, (sys.answer .tcgetattr s).1 = true
  getSerial : ∀ s, (sys.answer .getSerial s).1 = .ok ()
  setSerial : ∀ s, (sys.answer .setSerial s).1 = .ok ()
  closes : ∀ fd s, (sys.answer (.closeDevice fd) s).1 = .ok ()

/-- Where every descriptor is. -/
structure Handle.Accounted (sys : System σ) (h : Handle) : Prop where
  balance : h.opened = h.closed + h.abandoned + h.held
  open_held : h.isOpen = h.fd.isSome
  nothing_lost : Obliging sys → h.abandoned = 0

/-- The handle of a port that has not been opened. -/
def Handle.fresh (h : Handle) : Handle := { h with fd := none, isOpen := false }

theorem Handle.held_some {h : Handle} {fd : Nat} (some_ : h.fd = some fd) : h.held = 1 := by simp [held, some_]

theorem Handle.held_none {h : Handle} (none_ : h.fd = none) : h.held = 0 := by simp [held, none_]

/-- The port of a process that has not opened any. -/
theorem Handle.accounted_empty (sys : System σ) : ({} : Handle).Accounted sys := ⟨rfl, rfl, fun _ => rfl⟩

namespace SerialImpl

/-! ## Calls that leave the handle alone -/

def HandleFixed {α : Type} (r : PortRoutine σ α) : Prop :=
  ∀ h, Total (fun p => p.handle = h) r (fun _ q => q.handle = h) fun _ q => q.handle = h

namespace HandleFixed

variable {α β : Type} {r : PortRoutine σ α}

theorem pure (a : α) : HandleFixed (Pure.pure a : PortRoutine σ α) := fun _ => Total.pure fun _ same => same

theorem throw (failure : PortFailure) : HandleFixed (throw failure : PortRoutine σ α) :=
  fun _ => Total.throw fun _ same => same

theorem bind {next : α → PortRoutine σ β} (first : HandleFixed r) (rest : ∀ a, HandleFixed (next a)) :
    HandleFixed (r >>= next) := fun h => Total.bind (first h) fun a => rest a h

theorem get {next : Port σ → PortRoutine σ β} (rest : ∀ p, HandleFixed (next p)) :
    HandleFixed (Routine.get >>= next) := by
  intro h
  apply Total.get
  intro p same
  exact (rest p h).conseq (fun t (here : t = p) => here ▸ same) (fun _ _ kept => kept) fun _ _ kept => kept

/-- A transfer that ends as it should has not touched the handle. -/
theorem of_total {Q : Port σ → α → Port σ → Prop} {X : Port σ → PortFailure → Port σ → Prop}
    (ends : ∀ p, Total (fun t => t = p) r (Q p) (X p)) (value : ∀ p a q, Q p a q → q.handle = p.handle)
    (thrown : ∀ p failure q, X p failure q → q.handle = p.handle) : HandleFixed r := by
  intro h p same
  have kept := (ends p).conseq (Q := fun _ q => q.handle = h) (X := fun _ q => q.handle = h) (fun _ here => here)
    (fun a q post => (value p a q post).trans same) fun failure q stop => (thrown p failure q stop).trans same
  exact kept p rfl

end HandleFixed

variable (sys : System σ) (settings : PortSettings)

theorem call_fixed {α : Type} (c : SystemCall α) : HandleFixed (call sys c) :=
  fun _ => Total.of_ok fun _ same => ⟨_, _, rfl, same⟩

theorem callOrThrow_fixed {α : Type} (c : SystemCall (Except Errno α)) : HandleFixed (callOrThrow sys c) := by
  apply (call_fixed sys c).bind
  intro answer
  cases answer with
  | ok a => exact .pure a
  | error errno => exact .throw _

/-- A port that has a descriptor is configured by an obliging system. -/
theorem callOrThrow_obliged {α : Type} {c : SystemCall (Except Errno α)} {a : α} (h : Handle)
    (obliged : Obliging sys → ∀ s, (sys.answer c s).1 = .ok a) :
    Total (fun p => p.handle = h) (callOrThrow sys c) (fun _ q => q.handle = h)
      fun _ q => q.handle = h ∧ ¬ Obliging sys := by
  intro p same
  obtain ⟨answer, q, called, same', answered⟩ : ∃ answer q, call sys c p = (.ok answer, q) ∧ q.handle = p.handle ∧
      (sys.answer c p.system).1 = answer := ⟨_, _, rfl, rfl, rfl⟩
  unfold callOrThrow
  rw [bind_ok called]
  cases answer with
  | ok a => exact same'.trans same
  | error errno =>
    refine ⟨same'.trans same, fun obliging => ?_⟩
    rw [obliged obliging] at answered
    cases answered

theorem reconfigurePort_obliged {h : Handle} (some_ : h.fd ≠ none) :
    Total (fun p => p.handle = h) (reconfigurePort sys settings) (fun _ q => q.handle = h)
      fun _ q => q.handle = h ∧ ¬ Obliging sys := by
  apply Total.get
  rintro p same
  rw [if_neg (by rw [same]; exact some_)]
  apply Total.bind (Q := fun attributes q => q.handle = h ∧ (Obliging sys → attributes = true))
  · apply Total.of_ok
    rintro _ rfl
    exact ⟨_, _, rfl, same, fun obliging => obliging.attributes _⟩
  · intro attributes
    cases attributes with
    | false => exact Total.throw fun q kept => ⟨kept.1, fun obliging => Bool.false_ne_true (kept.2 obliging)⟩
    | true =>
      apply Total.bind (Q := fun _ q => q.handle = h)
      · exact Total.of_ok fun q kept => ⟨_, _, rfl, kept.1⟩
      · intro _
        split
        · exact Total.bind (callOrThrow_obliged sys h Obliging.getSerial) fun _ =>
            callOrThrow_obliged sys h Obliging.setSerial
        · exact Total.pure fun _ kept => kept

theorem flush_fixed : HandleFixed (flush sys) := by
  apply HandleFixed.get
  intro p
  split
  · exact .throw _
  · exact call_fixed sys _

theorem flushInput_fixed : HandleFixed (flushInput sys) := by
  apply HandleFixed.get
  intro p
  split
  · exact .throw _
  · exact call_fixed sys _

theorem available_fixed : HandleFixed (available sys) := by
  apply HandleFixed.get
  intro p
  split
  · exact .pure _
  · exact callOrThrow_fixed sys _

theorem read_fixed (size : Nat) : HandleFixed (read sys settings size) := by
  apply HandleFixed.of_total fun p => read_total sys settings p size
  · exact fun _ _ _ ends => ends.transferred.handle
  · exact fun _ _ _ ⟨_, _, lost, _⟩ => lost.handle

theorem readline_fixed {size : Nat} {eol : Octets} (room : Roomy size eol) :
    HandleFixed (readline sys settings size eol) := by
  apply HandleFixed.of_total (readline_total sys settings room)
  · exact fun _ _ _ ends => ends.transferred.handle
  · exact fun _ _ _ ⟨_, _, lost, _⟩ => lost.handle

theorem write_fixed (data : Octets) : HandleFixed (write sys settings data) := by
  apply HandleFixed.of_total fun p => write_total sys settings p data
  · exact fun _ _ _ ends => ends.transferred.handle
  · exact fun _ _ _ ⟨_, _, ends⟩ => ends.transferred.handle

/-! ## Opening and closing -/

/-- A port opened while the descriptor of `before` is kept aside. -/
structure Opening (before h : Handle) : Prop where
  opened : h.opened = before.opened + h.held
  closed : h.closed = before.closed
  abandoned : h.abandoned = before.abandoned

theorem Opening.fresh (before : Handle) : Opening before before.fresh := ⟨rfl, rfl, rfl⟩

/-- The port has been opened, or is the empty one. -/
def Opened (before : Handle) (q : Port σ) : Prop := Opening before q.handle ∧ q.handle.isOpen = q.handle.fd.isSome

/-- It has not; a descriptor is left if the port could not be configured. -/
def Unopened (sys : System σ) (before : Handle) (q : Port σ) : Prop :=
  Opening before q.handle ∧ (Obliging sys → q.handle.fd = none)

variable {sys settings} {before : Handle}

theorem unopened_fresh {p : Port σ} (fresh : p.handle = before.fresh) : Unopened sys before p := by
  unfold Unopened
  rw [fresh]
  exact ⟨.fresh before, fun _ => rfl⟩

theorem takeDescriptor_opening (fd : Except Errno Nat) :
    Total (fun p => p.handle = before.fresh) (takeDescriptor sys settings fd) (fun _ => Opened before)
      fun _ => Unopened sys before := by
  cases fd with
  | ok fd =>
    let given : Handle := { before.fresh with fd := some fd, opened := before.opened + 1 }
    have opening : Opening before given := ⟨rfl, rfl, rfl⟩
    apply Total.bind (Q := fun _ p => p.handle = given)
    · apply Total.modify
      intro p same
      show { p.handle with fd := some fd, opened := p.handle.opened + 1 } = given
      rw [same]
      rfl
    · intro _
      apply Total.bind ((reconfigurePort_obliged sys settings (h := given) (Option.some_ne_none fd)).conseq
        (fun _ same => same) (fun _ _ same => same) _)
      · intro _
        apply Total.modify
        intro p same
        show Opening before { p.handle with isOpen := true } ∧ true = p.handle.fd.isSome
        rw [same]
        exact ⟨⟨opening.opened, opening.closed, opening.abandoned⟩, rfl⟩
      · rintro _ p ⟨same, unwilling⟩
        unfold Unopened
        rw [same]
        exact ⟨opening, fun obliging => absurd obliging unwilling⟩
  | error errno =>
    cases errno with
    | tooManyFiles => exact Total.throw fun _ same => unopened_fresh same
    | _ => exact Total.throw fun _ same => unopened_fresh same

theorem initial_opening (port : Octets) :
    Total (fun p => p.handle = before.fresh) (initial sys settings port) (fun _ => Opened before)
      fun _ => Unopened sys before := by
  unfold initial
  split
  · apply Total.pure
    intro p same
    unfold Opened
    rw [same]
    exact ⟨.fresh before, rfl⟩
  · rename_i some_
    apply Total.get
    intro p same
    rw [if_neg some_, if_neg (by rw [same]; exact Bool.false_ne_true)]
    apply Total.bind (Q := fun _ q => q.handle = before.fresh)
    · exact (call_fixed sys _ _).conseq (fun t here => here ▸ same) (fun _ _ kept => kept)
        fun _ q kept => unopened_fresh kept
    · intro fd
      apply Total.bind (Q := fun _ q => q.handle = before.fresh)
      · apply Total.modify
        intro q kept
        show q.handle.forget = _
        rw [kept]
        rfl
      · exact fun _ => takeDescriptor_opening fd

/-- The handle where an exception leaves it: no port is open that was not before. -/
def Undone (sys : System σ) (before : Handle) (q : Port σ) : Prop :=
  q.handle.Accounted sys ∧ (q.handle.isOpen = true → before.isOpen = true)

/-- The descriptor kept aside is closed or abandoned. -/
theorem destroy_accounted (account : before.Accounted sys) :
    Total (Opened before) (destroy sys before) (fun _ q => q.handle.Accounted sys)
      fun _ => Undone sys before := by
  have balance := account.balance
  unfold destroy
  split
  · rename_i none_
    apply Total.pure
    rintro p ⟨opening, exact_⟩
    refine ⟨?_, exact_, fun obliging => opening.abandoned.trans (account.nothing_lost obliging)⟩
    rw [opening.opened, opening.closed, opening.abandoned, balance, Handle.held_none none_, Nat.add_zero]
  · rename_i fd some_
    have one := Handle.held_some some_
    have was_open : before.isOpen = true := by rw [account.open_held, some_]; rfl
    rw [if_pos was_open]
    apply Total.bind (Q := fun answer p => Opened before p ∧ (Obliging sys → answer = .ok ()))
    · exact Total.of_ok fun p kept => ⟨_, _, rfl, kept, fun obliging => obliging.closes fd _⟩
    · intro answer
      cases answer with
      | ok _ =>
        apply Total.modify
        rintro p ⟨⟨opening, exact_⟩, -⟩
        refine ⟨?_, exact_, fun obliging => opening.abandoned.trans (account.nothing_lost obliging)⟩
        show p.handle.opened = p.handle.closed + 1 + p.handle.abandoned + p.handle.held
        rw [opening.opened, opening.closed, opening.abandoned]
        omega
      | error errno =>
        apply Total.bind (Q := fun _ => Undone sys before)
        · apply Total.modify
          rintro p ⟨⟨opening, exact_⟩, closes⟩
          have unwilling : ¬ Obliging sys := by
            intro obliging
            cases closes obliging
          refine ⟨⟨?_, exact_, fun obliging => absurd obliging unwilling⟩, fun _ => was_open⟩
          show p.handle.opened = p.handle.closed + (p.handle.abandoned + 1) + p.handle.held
          rw [opening.opened, opening.closed, opening.abandoned]
          omega
        · exact fun _ => Total.throw fun _ kept => kept

theorem construct_accounted (port : Octets) (account : before.Accounted sys) :
    Total (fun p => p.handle = before) (construct sys settings port) (fun _ q => q.handle.Accounted sys)
      fun _ => Undone sys before := by
  apply Total.get
  rintro old rfl
  apply Total.bind (Q := fun _ p => p.handle = old.handle.fresh)
  · apply Total.modify
    rintro p rfl
    rfl
  · intro _
    apply Total.bind (Q := fun _ => Opened old.handle)
    · apply (initial_opening port).tryCatch
      intro failure
      apply Total.bind (Q := fun _ => Undone sys old.handle)
      · apply Total.modify
        rintro p ⟨opening, nothing_held⟩
        refine ⟨⟨?_, account.open_held, fun obliging => ?_⟩, fun opened => opened⟩
        · show p.handle.opened = p.handle.closed + (p.handle.abandoned + p.handle.held) + old.handle.held
          rw [opening.opened, opening.closed, opening.abandoned, account.balance]
          omega
        · show p.handle.abandoned + p.handle.held = 0
          rw [opening.abandoned, account.nothing_lost obliging, Handle.held_none (nothing_held obliging)]
      · exact fun _ => Total.throw fun _ kept => kept
    · exact fun _ => destroy_accounted account

theorem close_accounted (account : before.Accounted sys) :
    Total (fun p => p.handle = before) (close sys) (fun _ q => q.handle.Accounted sys ∧ q.handle.isOpen = false)
      fun _ => Undone sys before := by
  apply Total.get
  rintro p rfl
  by_cases opened : p.handle.isOpen = true
  · rw [if_pos opened]
    obtain ⟨fd, some_⟩ := Option.isSome_iff_exists.mp (account.open_held ▸ opened)
    have one := Handle.held_some some_
    rw [some_]
    apply Total.bind (Q := fun _ q => q.handle = { p.handle with fd := none, closed := p.handle.closed + 1 })
    · apply Total.bind ((callOrThrow_fixed sys (.closeDevice fd) p.handle).conseq
        (fun t (here : t = p) => congrArg Port.handle here) (fun _ _ kept => kept) _)
      · intro _
        apply Total.modify
        intro q kept
        show { q.handle with fd := none, closed := q.handle.closed + 1 } = _
        rw [kept]
      · intro _ q kept
        unfold Undone
        rw [kept]
        exact ⟨account, fun still => still⟩
    · intro _
      apply Total.modify
      intro q kept
      show Handle.Accounted sys { q.handle with isOpen := false } ∧ _
      rw [kept]
      refine ⟨⟨?_, rfl, account.nothing_lost⟩, rfl⟩
      have balance := account.balance
      show p.handle.opened = p.handle.closed + 1 + p.handle.abandoned + 0
      omega
  · rw [if_neg opened]
    apply Total.pure
    rintro t rfl
    exact ⟨account, by simpa using opened⟩

end SerialImpl
end AsDt1.Source
