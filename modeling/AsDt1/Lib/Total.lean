import AsDt1.Lib.Routine

/-!
# Routines that end

A triple for total correctness: from a state in `P` the routine ends, with a value
in `Q` or with a failure in `X`. A loop ends if a measure of the value it carries
and of the state falls in every round that is followed by another one.
-/
namespace AsDt1.Lib.Routine

variable {σ ε α β : Type}

def Total (P : σ → Prop) (r : Routine σ ε α) (Q : α → σ → Prop) (X : ε → σ → Prop) : Prop :=
  ∀ s, P s → match r s with
    | (.ok a, t) => Q a t
    | (.error (.thrown failure), t) => X failure t
    | (.error .outOfFuel, _) => False

namespace Total

variable {P P' : σ → Prop} {Q Q' : α → σ → Prop} {X X' : ε → σ → Prop} {r : Routine σ ε α}

theorem value {s t : σ} {a : α} (proved : Total P r Q X) (before : P s) (returned : r s = (.ok a, t)) : Q a t := by
  have ended := proved s before
  rw [returned] at ended
  exact ended

/-- From one state at a time. -/
theorem from_each (each : ∀ s, P s → Total (fun t => t = s) r Q X) : Total P r Q X :=
  fun s holds => each s holds s rfl

/-- The two ways in which it ends. -/
theorem ends {s : σ} (proved : Total P r Q X) (before : P s) :
    (∃ a t, r s = (.ok a, t) ∧ Q a t) ∨ ∃ failure t, r s = (.error (.thrown failure), t) ∧ X failure t := by
  have ended := proved s before
  rcases outcome : r s with ⟨result, t⟩
  rw [outcome] at ended
  cases result with
  | ok a => exact .inl ⟨a, t, rfl, ended⟩
  | error reason =>
    cases reason with
    | thrown failure => exact .inr ⟨failure, t, rfl, ended⟩
    | outOfFuel => exact ended.elim

/-- A routine that returns from every state. -/
theorem of_ok (returned : ∀ s, P s → ∃ a t, r s = (.ok a, t) ∧ Q a t) : Total P r Q X := by
  intro s holds
  obtain ⟨a, t, ended, post⟩ := returned s holds
  rw [ended]
  exact post

theorem pure {a : α} (post : ∀ s, P s → Q a s) : Total P (Pure.pure a : Routine σ ε α) Q X := post

theorem throw {failure : ε} (post : ∀ s, P s → X failure s) :
    Total P (throw failure : Routine σ ε α) Q X := post

theorem modify {f : σ → σ} {Q : Unit → σ → Prop} (post : ∀ s, P s → Q () (f s)) :
    Total P (modify f : Routine σ ε Unit) Q X := post

theorem conseq (proved : Total P' r Q' X') (pre : ∀ s, P s → P' s) (post : ∀ a s, Q' a s → Q a s)
    (stop : ∀ failure s, X' failure s → X failure s) : Total P r Q X := by
  intro s holds
  have ended := proved s (pre s holds)
  rcases outcome : r s with ⟨result, t⟩
  rw [outcome] at ended
  cases result with
  | ok a => exact post a t ended
  | error reason =>
    cases reason with
    | thrown failure => exact stop failure t ended
    | outOfFuel => exact ended

theorem bind {R : β → σ → Prop} {next : α → Routine σ ε β} (first : Total P r Q X)
    (rest : ∀ a, Total (Q a) (next a) R X) : Total P (r >>= next) R X := by
  intro s holds
  have ended := first s holds
  rcases outcome : r s with ⟨result, t⟩
  rw [outcome] at ended
  cases result with
  | ok a =>
    rw [bind_ok outcome]
    exact rest a t ended
  | error reason =>
    rw [bind_stop outcome]
    cases reason with
    | thrown failure => exact ended
    | outOfFuel => exact ended

theorem tryCatch {handler : ε → Routine σ ε α} (first : Total P r Q X')
    (caught : ∀ failure, Total (X' failure) (handler failure) Q X) : Total P (tryCatch r handler) Q X := by
  intro s holds
  have ended := first s holds
  rcases outcome : r s with ⟨result, t⟩
  rw [outcome] at ended
  cases result with
  | ok a =>
    rw [tryCatch_ok outcome]
    exact ended
  | error reason =>
    cases reason with
    | thrown failure =>
      rw [tryCatch_thrown outcome]
      exact caught failure t ended
    | outOfFuel => exact ended.elim

/-- What is known of the first state may be used behind `get`. -/
theorem get {R : β → σ → Prop} {next : σ → Routine σ ε β}
    (rest : ∀ s, P s → Total (fun t => t = s) (next s) R X) : Total P (get >>= next) R X :=
  bind (Q := fun s t => t = s ∧ P s) (fun _ holds => ⟨rfl, holds⟩)
    fun s t same => rest s same.2 t same.1

/-- The invariant depends on the value that the loop carries, the measure on both. -/
theorem loop {I : α → σ → Prop} (body : α → Routine σ ε (α ⊕ β)) {R : β → σ → Prop} (measure : α → σ → Nat)
    (round : ∀ a n, Total (fun s => I a s ∧ measure a s = n) (body a) (fun answer s => match answer with
      | .inl a => I a s ∧ measure a s < n
      | .inr b => R b s) X) (fuel : Nat) (a : α) :
    Total (fun s => I a s ∧ measure a s < fuel) (loop body fuel a) R X := by
  induction fuel generalizing a with
  | zero => exact fun s holds => absurd holds.2 (Nat.not_lt_zero _)
  | succ fuel ih =>
    intro s holds
    have ended := round a (measure a s) s ⟨holds.1, rfl⟩
    rcases outcome : body a s with ⟨result, t⟩
    rw [outcome] at ended
    cases result with
    | ok answer =>
      cases answer with
      | inl b =>
        rw [loop_again outcome]
        exact ih b t ⟨ended.1, by have below := holds.2; have fewer := ended.2; omega⟩
      | inr b =>
        rw [loop_done outcome]
        exact ended
    | error reason =>
      rw [loop_stop outcome]
      cases reason with
      | thrown failure => exact ended
      | outOfFuel => exact ended

end Total
end AsDt1.Lib.Routine
