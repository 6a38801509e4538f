import AsDt1.Lib.Routine

/-!
# Routines on related states

The same program on two kinds of state: from related states both ends alike, in
related states. What is proved of a run on the simpler states then holds of the
run on the others.
-/
namespace AsDt1.Lib.Routine

variable {σ τ ε α β : Type}

def Alike (R : σ → τ → Prop) (r : Routine σ ε α) (r' : Routine τ ε α) : Prop :=
  ∀ s t, R s t → (r s).1 = (r' t).1 ∧ R (r s).2 (r' t).2

namespace Alike

variable {R : σ → τ → Prop} {r : Routine σ ε α} {r' : Routine τ ε α}

theorem pure (a : α) : Alike R (Pure.pure a : Routine σ ε α) (Pure.pure a) := fun _ _ related => ⟨rfl, related⟩

theorem throw (failure : ε) : Alike R (throw failure : Routine σ ε α) (throw failure) :=
  fun _ _ related => ⟨rfl, related⟩

theorem modify {f : σ → σ} {f' : τ → τ} (kept : ∀ s t, R s t → R (f s) (f' t)) :
    Alike R (modify f : Routine σ ε Unit) (modify f') := fun s t related => ⟨rfl, kept s t related⟩

theorem bind {next : α → Routine σ ε β} {next' : α → Routine τ ε β} (first : Alike R r r')
    (rest : ∀ a, Alike R (next a) (next' a)) : Alike R (r >>= next) (r' >>= next') := by
  intro s t related
  obtain ⟨same, related'⟩ := first s t related
  rcases left : r s with ⟨result, u⟩
  rcases right : r' t with ⟨result', v⟩
  rw [left, right] at same related'
  obtain rfl : result = result' := same
  cases result with
  | ok a =>
    rw [bind_ok left, bind_ok right]
    exact rest a u v related'
  | error stop =>
    rw [bind_stop left, bind_stop right]
    exact ⟨rfl, related'⟩

/-- Behind `get` the two sides may go on with what the states have in common. -/
theorem get {next : σ → Routine σ ε β} {next' : τ → Routine τ ε β}
    (rest : ∀ s t, R s t → Alike R (next s) (next' t)) : Alike R (get >>= next) (get >>= next') :=
  fun s t related => rest s t related s t related

theorem loop {body : α → Routine σ ε (α ⊕ β)} {body' : α → Routine τ ε (α ⊕ β)}
    (round : ∀ a, Alike R (body a) (body' a)) (fuel : Nat) (a : α) :
    Alike R (loop body fuel a) (loop body' fuel a) := by
  induction fuel generalizing a with
  | zero => exact fun _ _ related => ⟨rfl, related⟩
  | succ fuel ih =>
    apply bind (round a)
    intro answer
    cases answer with
    | inl a => exact ih a
    | inr b => exact pure b

/-- An outcome carried over to the other side. -/
theorem ends {r : Nat → Routine σ ε α} {r' : Nat → Routine τ ε α} {s : σ} {t v : τ}
    {result : Except (Stop ε) α} (alike : ∀ fuel, Alike R (r fuel) (r' fuel)) (related : R s t)
    (ended : Ends r' t (result, v)) : ∃ least, ∀ fuel, least ≤ fuel → (r fuel s).1 = result ∧ R (r fuel s).2 v := by
  obtain ⟨least, ended⟩ := ended
  refine ⟨least, fun fuel enough => ?_⟩
  obtain ⟨same, related'⟩ := alike fuel s t related
  rw [ended fuel enough] at same related'
  exact ⟨same, related'⟩

end Alike
end AsDt1.Lib.Routine
