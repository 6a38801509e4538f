import Mathlib.Data.List.Basic

/-!
Partial deterministic machines: a step function may refuse an action. Every
choice of a scheduler or of an environment is an action, so "every interleaving"
is "every list of actions". `Reached ok` are the states of the runs whose steps
all meet `ok`; with `ok := Unrestricted` these are all reachable states.
-/
namespace AsDt1.Lib

structure Machine (σ α : Type) where
  start : σ
  step : σ → α → Option σ

namespace Machine

variable {σ α : Type}

/-- Execute a list of actions; a refused action ends the run with no state. -/
def run (M : Machine σ α) : σ → List α → Option σ
  | s, [] => some s
  | s, a :: as => (M.step s a).bind fun t => M.run t as

@[simp] theorem run_nil (M : Machine σ α) (s : σ) : M.run s [] = some s := rfl

theorem run_cons (M : Machine σ α) {s u : σ} {a : α} {as : List α} :
    M.run s (a :: as) = some u ↔ ∃ t, M.step s a = some t ∧ M.run t as = some u := by
  simp only [run, Option.bind_eq_some_iff]

theorem run_append (M : Machine σ α) {s u : σ} {as bs : List α} :
    M.run s (as ++ bs) = some u ↔ ∃ t, M.run s as = some t ∧ M.run t bs = some u := by
  induction as generalizing s with
  | nil => simp
  | cons a as ih =>
    simp only [List.cons_append, run_cons, ih]
    constructor
    · rintro ⟨t, first, m, rest, last⟩
      exact ⟨m, ⟨t, first, rest⟩, last⟩
    · rintro ⟨m, ⟨t, first, rest⟩, last⟩
      exact ⟨t, first, m, rest, last⟩

/-- The condition every step of every run meets. -/
def Unrestricted : σ → α → Prop := fun _ _ => True

/-- States of the runs from the start whose steps all meet `ok`; the condition
sees the state before the step and the action. -/
inductive Reached (M : Machine σ α) (ok : σ → α → Prop) : σ → Prop
  | start : Reached M ok M.start
  | step {s t : σ} {a : α} (before : Reached M ok s) (met : ok s a)
      (taken : M.step s a = some t) : Reached M ok t

/-- Every step that the listed actions take meets `ok`. -/
def Meets (M : Machine σ α) (ok : σ → α → Prop) : σ → List α → Prop
  | _, [] => True
  | s, a :: as => ok s a ∧ ∀ t, M.step s a = some t → M.Meets ok t as

/-- A condition on the actions alone is met in every run of actions that satisfy it. -/
theorem meets_of_forall (M : Machine σ α) {ok : σ → α → Prop} {as : List α}
    (all : ∀ a ∈ as, ∀ s, ok s a) (s : σ) : M.Meets ok s as := by
  induction as generalizing s with
  | nil => trivial
  | cons a as ih =>
    exact ⟨all a List.mem_cons_self s, fun t _ => ih (fun b listed => all b (List.mem_cons_of_mem a listed)) t⟩

theorem reached_of_run (M : Machine σ α) {ok : σ → α → Prop} {s t : σ} {as : List α}
    (before : M.Reached ok s) (met : M.Meets ok s as) (ran : M.run s as = some t) :
    M.Reached ok t := by
  induction as generalizing s with
  | nil =>
    obtain rfl : s = t := by simpa using ran
    exact before
  | cons a as ih =>
    obtain ⟨u, taken, rest⟩ := M.run_cons.mp ran
    exact ih (before.step met.1 taken) (met.2 u taken) rest

/-- Execute a list of actions and stop at the first step that misses `ok`. -/
def guardedRun (M : Machine σ α) (ok : σ → α → Prop) [∀ s a, Decidable (ok s a)] :
    σ → List α → Option σ
  | s, [] => some s
  | s, a :: as => if ok s a then (M.step s a).bind fun t => M.guardedRun ok t as else none

theorem guardedRun_spec (M : Machine σ α) {ok : σ → α → Prop} [∀ s a, Decidable (ok s a)]
    {s t : σ} {as : List α} (ran : M.guardedRun ok s as = some t) :
    M.run s as = some t ∧ M.Meets ok s as := by
  induction as generalizing s with
  | nil => exact ⟨ran, trivial⟩
  | cons a as ih =>
    simp only [guardedRun] at ran
    split at ran
    · next met =>
      obtain ⟨u, taken, rest⟩ := Option.bind_eq_some_iff.mp ran
      obtain ⟨ran', met'⟩ := ih rest
      refine ⟨M.run_cons.mpr ⟨u, taken, ran'⟩, met, fun v same => ?_⟩
      rw [taken] at same
      exact Option.some.inj same ▸ met'
    · cases ran

/-- A guarded execution is a run of the restricted machine: where the state it
ends in passes a test, some reachable state does. -/
theorem exists_of_guardedRun (M : Machine σ α) (ok : σ → α → Prop) [∀ s a, Decidable (ok s a)]
    (as : List α) (test : σ → Bool) (passed : (M.guardedRun ok M.start as).any test = true) :
    ∃ s, M.Reached ok s ∧ test s = true := by
  obtain ⟨s, ran, good⟩ := (Option.any_eq_true _ _).mp passed
  obtain ⟨ran', met⟩ := M.guardedRun_spec ran
  exact ⟨s, M.reached_of_run .start met ran', good⟩

instance (s : σ) (a : α) : Decidable (Unrestricted s a) := .isTrue trivial

/-- The induction behind every safety result: what holds at the start and is
kept by each step that meets `ok` holds in every state reached. -/
theorem Reached.invariant {M : Machine σ α} {ok : σ → α → Prop} {Inv : σ → Prop}
    (init : Inv M.start)
    (kept : ∀ s a t, Inv s → ok s a → M.step s a = some t → Inv t)
    {s : σ} (reached : M.Reached ok s) : Inv s := by
  induction reached with
  | start => exact init
  | step _ met taken ih => exact kept _ _ _ ih met taken

/-- Invariant rule with an invariant already established for the same runs. -/
theorem Reached.invariant_with {M : Machine σ α} {ok : σ → α → Prop} {Known Inv : σ → Prop}
    (known : ∀ s, M.Reached ok s → Known s) (init : Inv M.start)
    (kept : ∀ s a t, Known s → Inv s → ok s a → M.step s a = some t → Inv t)
    {s : σ} (reached : M.Reached ok s) : Inv s := by
  induction reached with
  | start => exact init
  | step before met taken ih => exact kept _ _ _ (known _ before) ih met taken

/-- An invariant carried along one run from any state that satisfies it. -/
theorem run_invariant (M : Machine σ α) {ok : σ → α → Prop} {Inv : σ → Prop}
    (kept : ∀ s a t, Inv s → ok s a → M.step s a = some t → Inv t)
    {s t : σ} {as : List α} (holds : Inv s) (met : M.Meets ok s as)
    (ran : M.run s as = some t) : Inv t := by
  induction as generalizing s with
  | nil =>
    obtain rfl : s = t := by simpa using ran
    exact holds
  | cons a as ih =>
    obtain ⟨u, taken, rest⟩ := M.run_cons.mp ran
    exact ih (kept _ _ _ holds met.1 taken) (met.2 u taken) rest

/-- Some step that the listed actions take is an `event`. -/
def Sometimes (M : Machine σ α) (event : σ → α → Prop) : σ → List α → Prop
  | _, [] => False
  | s, a :: as => event s a ∨ ∃ t, M.step s a = some t ∧ M.Sometimes event t as

theorem exists_of_sometimes (M : Machine σ α) {event : σ → α → Prop} {s : σ} {as : List α}
    (some : M.Sometimes event s as) : ∃ a ∈ as, ∃ t, event t a := by
  induction as generalizing s with
  | nil => cases some
  | cons a as ih =>
    rcases some with now | ⟨t, -, later⟩
    · exact ⟨a, List.mem_cons_self, s, now⟩
    · obtain ⟨b, listed, found⟩ := ih later
      exact ⟨b, List.mem_cons_of_mem a listed, found⟩

/-- A property that exactly the events of a run bring about, and nothing undoes,
holds at the end where it held before or some step was an event. -/
theorem run_latch (M : Machine σ α) {ok event : σ → α → Prop} {Inv Latched : σ → Prop}
    (kept : ∀ s a t, Inv s → ok s a → M.step s a = some t → Inv t)
    (latch : ∀ s a t, Inv s → ok s a → M.step s a = some t → (Latched t ↔ Latched s ∨ event s a))
    {s t : σ} {as : List α} (holds : Inv s) (met : M.Meets ok s as) (ran : M.run s as = some t) :
    Latched t ↔ Latched s ∨ M.Sometimes event s as := by
  induction as generalizing s with
  | nil =>
    obtain rfl : s = t := by simpa using ran
    simp [Sometimes]
  | cons a as ih =>
    obtain ⟨u, taken, rest⟩ := M.run_cons.mp ran
    have later := ih (kept _ _ _ holds met.1 taken) (met.2 u taken) rest
    have now := latch _ _ _ holds met.1 taken
    have only : (∃ v, M.step s a = some v ∧ M.Sometimes event v as) ↔ M.Sometimes event u as := by
      constructor
      · rintro ⟨v, same, some⟩
        rw [taken] at same
        exact Option.some.inj same ▸ some
      · exact fun some => ⟨u, taken, some⟩
    simp only [Sometimes, only]
    rw [later, now, or_assoc]

end Machine
end AsDt1.Lib
