/-!
# Routines that fail, loop and keep their state

A routine transforms a state and ends with a value, with a thrown failure, or for
lack of fuel; the state survives all three. `Ends` says what it does with every
sufficient amount of fuel; what holds of all amounts of fuel (`Triple`) holds of
every finite part of an execution.
-/
namespace AsDt1.Lib

/-- Why a routine ended without a value. -/
inductive Stop (ε : Type) where
  | thrown (failure : ε)
  | outOfFuel
  deriving DecidableEq, Repr

def Routine (σ ε α : Type) := σ → Except (Stop ε) α × σ

namespace Routine

variable {σ ε α β γ : Type}

def pure (a : α) : Routine σ ε α := fun s => (.ok a, s)

def bind (r : Routine σ ε α) (next : α → Routine σ ε β) : Routine σ ε β := fun s =>
  match r s with
  | (.ok a, t) => next a t
  | (.error stop, t) => (.error stop, t)

instance : Monad (Routine σ ε) where
  pure := pure
  bind := bind

def throw (failure : ε) : Routine σ ε α := fun s => (.error (.thrown failure), s)

/-- A handler sees thrown failures only. -/
def tryCatch (r : Routine σ ε α) (handler : ε → Routine σ ε α) : Routine σ ε α := fun s =>
  match r s with
  | (.error (.thrown failure), t) => handler failure t
  | outcome => outcome

def get : Routine σ ε σ := fun s => (.ok s, s)

def modify (f : σ → σ) : Routine σ ε Unit := fun s => (.ok (), f s)

/-- Execute the body until it answers on the right, carrying a value along. -/
def loop (body : α → Routine σ ε (α ⊕ β)) : (fuel : Nat) → α → Routine σ ε β
  | 0, _ => fun s => (.error .outOfFuel, s)
  | fuel + 1, a => bind (body a) fun
    | .inl a => loop body fuel a
    | .inr b => pure b

@[simp] theorem pure_apply (a : α) (s : σ) : (Pure.pure a : Routine σ ε α) s = (.ok a, s) := rfl

@[simp] theorem modify_apply (f : σ → σ) (s : σ) : (modify f : Routine σ ε Unit) s = (.ok (), f s) := rfl

@[simp] theorem get_apply (s : σ) : (get : Routine σ ε σ) s = (.ok s, s) := rfl

theorem bind_ok {r : Routine σ ε α} {next : α → Routine σ ε β} {s t : σ} {a : α} (first : r s = (.ok a, t)) :
    (r >>= next) s = next a t := by
  show bind r next s = _
  unfold bind
  rw [first]

theorem bind_stop {r : Routine σ ε α} {next : α → Routine σ ε β} {s t : σ} {stop : Stop ε}
    (first : r s = (.error stop, t)) : (r >>= next) s = (.error stop, t) := by
  show bind r next s = _
  unfold bind
  rw [first]

theorem pure_bind {a : α} {next : α → Routine σ ε β} : (Pure.pure a : Routine σ ε α) >>= next = next a := rfl

theorem bind_assoc {r : Routine σ ε α} {next : α → Routine σ ε β} {last : β → Routine σ ε γ} :
    (r >>= next) >>= last = r >>= fun a => next a >>= last := by
  funext s
  rcases first : r s with ⟨outcome, t⟩
  cases outcome with
  | ok a =>
    rw [bind_ok first]
    rcases second : next a t with ⟨outcome', u⟩
    cases outcome' with
    | ok b => rw [bind_ok ((bind_ok first).trans second), bind_ok second]
    | error stop => rw [bind_stop ((bind_ok first).trans second), bind_stop second]
  | error stop => rw [bind_stop first, bind_stop (bind_stop first)]

theorem tryCatch_ok {r : Routine σ ε α} {handler : ε → Routine σ ε α} {s t : σ} {a : α}
    (first : r s = (.ok a, t)) : tryCatch r handler s = (.ok a, t) := by
  unfold tryCatch
  rw [first]

theorem tryCatch_thrown {r : Routine σ ε α} {handler : ε → Routine σ ε α} {s t : σ} {failure : ε}
    (first : r s = (.error (.thrown failure), t)) : tryCatch r handler s = handler failure t := by
  unfold tryCatch
  rw [first]

theorem tryCatch_outOfFuel {r : Routine σ ε α} {handler : ε → Routine σ ε α} {s t : σ}
    (first : r s = (.error .outOfFuel, t)) : tryCatch r handler s = (.error .outOfFuel, t) := by
  unfold tryCatch
  rw [first]

/-! ## Loops, one round at a time -/

section Loop

variable {body : α → Routine σ ε (α ⊕ β)} {fuel : Nat} {a a' : α} {b : β} {s t : σ}

theorem loop_again (again : body a s = (.ok (.inl a'), t)) :
    loop body (fuel + 1) a s = loop body fuel a' t := by
  show bind (body a) _ s = _
  unfold bind
  rw [again]

theorem loop_done (done : body a s = (.ok (.inr b), t)) : loop body (fuel + 1) a s = (.ok b, t) := by
  show bind (body a) _ s = _
  unfold bind
  rw [done]
  rfl

theorem loop_stop {stop : Stop ε} (stopped : body a s = (.error stop, t)) :
    loop body (fuel + 1) a s = (.error stop, t) := by
  show bind (body a) _ s = _
  unfold bind
  rw [stopped]

end Loop

/-! ## Enough fuel -/

/-- With every sufficient amount of fuel the routine has this outcome. -/
def Ends (r : Nat → Routine σ ε α) (s : σ) (result : Except (Stop ε) α × σ) : Prop :=
  ∃ least, ∀ fuel, least ≤ fuel → r fuel s = result

namespace Ends

theorem const {r : Routine σ ε α} {s : σ} {result : Except (Stop ε) α × σ} (ends : r s = result) :
    Ends (fun _ => r) s result := ⟨0, fun _ _ => ends⟩

theorem unique {r : Nat → Routine σ ε α} {s : σ} {result other : Except (Stop ε) α × σ} (ends : Ends r s result)
    (ends' : Ends r s other) : result = other := by
  obtain ⟨least, ends⟩ := ends
  obtain ⟨least', ends'⟩ := ends'
  exact (ends (max least least') (by omega)).symm.trans (ends' (max least least') (by omega))

section Sequence

variable {r : Nat → Routine σ ε α} {next : Nat → α → Routine σ ε β} {s t u : σ} {a : α}
  {result : Except (Stop ε) β × σ}

theorem bind (first : Ends r s (.ok a, u)) (rest : Ends (fun fuel => next fuel a) u result) :
    Ends (fun fuel => r fuel >>= next fuel) s result := by
  obtain ⟨least, first⟩ := first
  obtain ⟨least', rest⟩ := rest
  refine ⟨max least least', fun fuel enough => ?_⟩
  exact (bind_ok (first fuel (by omega))).trans (rest fuel (by omega))

theorem bind_stop {stop : Stop ε} (first : Ends r s (.error stop, t)) :
    Ends (fun fuel => r fuel >>= next fuel) s (.error stop, t) := by
  obtain ⟨least, first⟩ := first
  exact ⟨least, fun fuel enough => Routine.bind_stop (first fuel enough)⟩

end Sequence

/-- The same for a loop, whose rounds and whose body are given fuel apart. -/
def Loop (body : Nat → α → Routine σ ε (α ⊕ β)) (a : α) (s : σ) (result : Except (Stop ε) β × σ) : Prop :=
  ∃ least, ∀ fuel, least ≤ fuel → ∀ rounds, least ≤ rounds → loop (body fuel) rounds a s = result

namespace Loop

variable {body : Nat → α → Routine σ ε (α ⊕ β)} {a a' : α} {b : β} {s t u : σ} {result : Except (Stop ε) β × σ}

theorem ends (loops : Loop body a s result) : Ends (fun fuel => loop (body fuel) fuel a) s result := by
  obtain ⟨least, loops⟩ := loops
  exact ⟨least, fun fuel enough => loops fuel enough fuel enough⟩

theorem done (round : Ends (fun fuel => body fuel a) s (.ok (.inr b), t)) : Loop body a s (.ok b, t) := by
  obtain ⟨least, round⟩ := round
  refine ⟨least + 1, fun fuel enough rounds many => ?_⟩
  obtain ⟨rounds, rfl⟩ : ∃ fewer, rounds = fewer + 1 := ⟨rounds - 1, by omega⟩
  exact loop_done (round fuel (by omega))

theorem again (round : Ends (fun fuel => body fuel a) s (.ok (.inl a'), u)) (rest : Loop body a' u result) :
    Loop body a s result := by
  obtain ⟨least, round⟩ := round
  obtain ⟨least', rest⟩ := rest
  refine ⟨max least least' + 1, fun fuel enough rounds many => ?_⟩
  obtain ⟨rounds, rfl⟩ : ∃ fewer, rounds = fewer + 1 := ⟨rounds - 1, by omega⟩
  rw [loop_again (round fuel (by omega))]
  exact rest fuel (by omega) rounds (by omega)

end Loop

end Ends

/-! ## Returning -/

/-- With enough fuel the routine ends with a value or a thrown failure. -/
def Returns (r : Nat → Routine σ ε α) (s : σ) : Prop :=
  ∃ outcome t, Ends r s (outcome, t) ∧ outcome ≠ .error .outOfFuel

/-- No amount of fuel is enough. -/
def Never (r : Nat → Routine σ ε α) (s : σ) : Prop :=
  ∃ least, ∀ fuel, least ≤ fuel → (r fuel s).1 = .error .outOfFuel

section Returning

variable {r : Nat → Routine σ ε α} {next : Nat → α → Routine σ ε β} {s t : σ} {a : α}

theorem Returns.value (ends : Ends r s (.ok a, t)) : Returns r s := ⟨_, t, ends, by simp⟩

theorem Never.not_returns (never : Never r s) : ¬ Returns r s := by
  intro returns
  obtain ⟨least, out⟩ := never
  obtain ⟨outcome, t, ⟨least', ends⟩, ended⟩ := returns
  apply ended
  have same := out (max least least') (by omega)
  rwa [ends (max least least') (by omega)] at same

theorem Never.bind_first (first : Never r s) : Never (fun fuel => r fuel >>= next fuel) s := by
  obtain ⟨least, out⟩ := first
  refine ⟨least, fun fuel enough => ?_⟩
  have stop : r fuel s = (.error .outOfFuel, (r fuel s).2) := Prod.ext (out fuel enough) rfl
  exact congrArg Prod.fst (Routine.bind_stop stop)

theorem Never.bind_rest (first : Ends r s (.ok a, t)) (rest : Never (fun fuel => next fuel a) t) :
    Never (fun fuel => r fuel >>= next fuel) s := by
  obtain ⟨least, ends⟩ := first
  obtain ⟨least', out⟩ := rest
  refine ⟨max least least', fun fuel enough => ?_⟩
  exact (congrArg Prod.fst (bind_ok (ends fuel (by omega)))).trans (out fuel (by omega))

theorem Never.tryCatch {handler : ε → Routine σ ε α} (first : Never r s) :
    Never (fun fuel => tryCatch (r fuel) handler) s := by
  obtain ⟨least, out⟩ := first
  refine ⟨least, fun fuel enough => ?_⟩
  have stop : r fuel s = (.error .outOfFuel, (r fuel s).2) := Prod.ext (out fuel enough) rfl
  exact congrArg Prod.fst (tryCatch_outOfFuel stop)

/-- A loop whose rounds can always be followed by another one. -/
theorem Never.loop {body : α → Routine σ ε (α ⊕ β)} {I : α → σ → Prop}
    (round : ∀ a s, I a s → ∃ a' t, body a s = (.ok (.inl a'), t) ∧ I a' t) (holds : I a s) :
    Never (fun fuel => loop body fuel a) s := by
  refine ⟨0, fun fuel _ => ?_⟩
  induction fuel generalizing a s with
  | zero => rfl
  | succ fuel ih =>
    obtain ⟨a', t, again, still⟩ := round a s holds
    exact (congrArg Prod.fst (loop_again again)).trans (ih still (Nat.zero_le fuel))

end Returning

/-! ## A definite course -/

/-- With enough fuel the routine returns. -/
def Completes (r : Nat → Routine σ ε Unit) (s : σ) : Prop := ∃ t, Ends r s (.ok (), t)

/-- The routine ends, however, in a state of which `Q` holds if and only if `P`; or
it never ends, and `P` is false. -/
inductive Settles (r : Nat → Routine σ ε α) (s : σ) (Q : σ → Prop) (P : Prop) : Prop
  | ends {outcome : Except (Stop ε) α} {t : σ} (ends : Ends r s (outcome, t))
      (ended : outcome ≠ .error .outOfFuel) (holds : Q t ↔ P)
  | never (never : Never r s) (fails : ¬ P)

section Settling

variable {r : Nat → Routine σ ε α} {next : Nat → α → Routine σ ε β} {s t : σ} {a : α} {Q : σ → Prop} {P P' : Prop}

theorem Settles.congr (course : Settles r s Q P) (same : P ↔ P') : Settles r s Q P' := by
  cases course with
  | ends ends ended holds => exact .ends ends ended (holds.trans same)
  | never never fails => exact .never never (mt same.mpr fails)

theorem Settles.bind (first : Ends r s (.ok a, t)) (rest : Settles (fun fuel => next fuel a) t Q P) :
    Settles (fun fuel => r fuel >>= next fuel) s Q P := by
  cases rest with
  | ends ends ended holds => exact .ends (first.bind ends) ended holds
  | never never fails => exact .never (never.bind_rest first) fails

theorem Settles.bind_thrown {failure : ε} (first : Ends r s (.error (.thrown failure), t)) (holds : Q t ↔ P) :
    Settles (fun fuel => r fuel >>= next fuel) s Q P := .ends first.bind_stop (by simp) holds

theorem Settles.bind_never (first : Never r s) (fails : ¬ P) :
    Settles (fun fuel => r fuel >>= next fuel) s Q P := .never first.bind_first fails

theorem not_completes_of_never {r : Nat → Routine σ ε Unit} (never : Never r s) : ¬ Completes r s := by
  intro completes
  obtain ⟨t, ends⟩ := completes
  exact never.not_returns (.value ends)

theorem not_completes_of_thrown {r : Nat → Routine σ ε Unit} {failure : ε}
    (thrown : Ends r s (.error (.thrown failure), t)) : ¬ Completes r s := by
  intro completes
  obtain ⟨u, ends⟩ := completes
  have same := thrown.unique ends
  cases same

theorem completes_bind_iff {next : Nat → α → Routine σ ε Unit} (first : Ends r s (.ok a, t)) :
    Completes (fun fuel => r fuel >>= next fuel) s ↔ Completes (fun fuel => next fuel a) t := by
  constructor
  · intro completes
    obtain ⟨u, least, ends⟩ := completes
    obtain ⟨least', first⟩ := first
    refine ⟨u, max least least', fun fuel enough => ?_⟩
    exact (bind_ok (first fuel (by omega))).symm.trans (ends fuel (by omega))
  · intro completes
    obtain ⟨u, rest⟩ := completes
    exact ⟨u, first.bind rest⟩

/-- A routine whose failures are swallowed, and what follows it. -/
theorem Settles.completes_iff {r last : Nat → Routine σ ε Unit} (course : Settles r s (Completes last) P) :
    Completes (fun fuel => tryCatch (r fuel) (fun _ => Pure.pure ()) >>= fun _ => last fuel) s ↔ P := by
  cases course with
  | @ends outcome t ends ended holds =>
    rw [← holds]
    obtain ⟨least, ends⟩ := ends
    have swallowed : Ends (fun fuel => tryCatch (r fuel) fun _ => Pure.pure ()) s (.ok (), t) := by
      refine ⟨least, fun fuel enough => ?_⟩
      cases outcome with
      | ok a => exact tryCatch_ok (ends fuel enough)
      | error reason =>
        cases reason with
        | thrown failure => exact tryCatch_thrown (ends fuel enough)
        | outOfFuel => exact absurd rfl ended
    exact completes_bind_iff swallowed
  | never never fails => exact iff_of_false (not_completes_of_never never.tryCatch.bind_first) fails

end Settling

/-! ## Triples -/

/-- From states that satisfy `P` the routine returns only into `Q` and stops only
in states that satisfy `X`. -/
def Triple (P : σ → Prop) (r : Routine σ ε α) (Q : α → σ → Prop) (X : σ → Prop) : Prop :=
  ∀ s, P s → match r s with
    | (.ok a, t) => Q a t
    | (.error _, t) => X t

namespace Triple

variable {P P' : σ → Prop} {Q Q' : α → σ → Prop} {X X' : σ → Prop} {r : Routine σ ε α}

/-- What is known of a value that was returned. -/
theorem value {s t : σ} {a : α} (proved : Triple P r Q X) (before : P s) (returned : r s = (.ok a, t)) : Q a t := by
  have ended := proved s before
  rw [returned] at ended
  exact ended

theorem any (r : Routine σ ε α) : Triple P r (fun _ _ => True) fun _ => True := by
  intro s _
  rcases r s with ⟨outcome, t⟩
  cases outcome with
  | ok a => trivial
  | error stop => trivial

theorem pure {a : α} (post : ∀ s, P s → Q a s) : Triple P (Pure.pure a : Routine σ ε α) Q X := post

theorem throw {failure : ε} (post : ∀ s, P s → X s) : Triple P (throw failure : Routine σ ε α) Q X := post

theorem modify {f : σ → σ} {Q : Unit → σ → Prop} (post : ∀ s, P s → Q () (f s)) :
    Triple P (modify f : Routine σ ε Unit) Q X := post

theorem conseq (proved : Triple P' r Q' X') (pre : ∀ s, P s → P' s) (post : ∀ a s, Q' a s → Q a s)
    (stop : ∀ s, X' s → X s) : Triple P r Q X := by
  intro s holds
  have ended := proved s (pre s holds)
  cases outcome : r s with
  | mk result t =>
    rw [outcome] at ended
    cases result with
    | ok a => exact post a t ended
    | error _ => exact stop t ended

theorem bind {R : β → σ → Prop} {next : α → Routine σ ε β} (first : Triple P r Q X)
    (rest : ∀ a, Triple (Q a) (next a) R X) : Triple P (r >>= next) R X := by
  intro s holds
  have ended := first s holds
  show match Routine.bind r next s with
    | (.ok b, t) => R b t
    | (.error _, t) => X t
  unfold Routine.bind
  cases outcome : r s with
  | mk result t =>
    rw [outcome] at ended
    cases result with
    | ok a => exact rest a t ended
    | error _ => exact ended

theorem tryCatch {handler : ε → Routine σ ε α} (first : Triple P r Q X')
    (caught : ∀ failure, Triple X' (handler failure) Q X) (stop : ∀ s, X' s → X s) :
    Triple P (tryCatch r handler) Q X := by
  intro s holds
  have ended := first s holds
  unfold Routine.tryCatch
  cases outcome : r s with
  | mk result t =>
    rw [outcome] at ended
    cases result with
    | ok a => exact ended
    | error reason =>
      cases reason with
      | thrown failure => exact caught failure t ended
      | outOfFuel => exact stop t ended

/-- The invariant may depend on the value that the loop carries. -/
theorem loop {I : α → σ → Prop} {body : α → Routine σ ε (α ⊕ β)} {R : β → σ → Prop}
    (round : ∀ a, Triple (I a) (body a) (fun answer s => match answer with
      | .inl a => I a s
      | .inr b => R b s) X) (out : ∀ a s, I a s → X s) (fuel : Nat) (a : α) :
    Triple (I a) (loop body fuel a) R X := by
  induction fuel generalizing a with
  | zero => exact out a
  | succ fuel ih =>
    apply bind (round a)
    intro answer
    cases answer with
    | inl a => exact ih a
    | inr b => exact fun s holds => holds

end Triple

/-- However the routine ends, the invariant holds still. -/
def Keeps (Inv : σ → Prop) (r : Routine σ ε α) : Prop := Triple Inv r (fun _ => Inv) Inv

namespace Keeps

variable {Inv : σ → Prop} {r : Routine σ ε α}

theorem holds {s : σ} (keeps : Keeps Inv r) (before : Inv s) : Inv (r s).2 := by
  have ended := keeps s before
  rcases outcome : r s with ⟨result, t⟩
  rw [outcome] at ended
  cases result with
  | ok a => exact ended
  | error stop => exact ended

theorem pure {a : α} : Keeps Inv (Pure.pure a : Routine σ ε α) := fun _ holds => holds

theorem throw {failure : ε} : Keeps Inv (throw failure : Routine σ ε α) := fun _ holds => holds

theorem get : Keeps Inv (get : Routine σ ε σ) := fun _ holds => holds

theorem modify {f : σ → σ} (kept : ∀ s, Inv s → Inv (f s)) : Keeps Inv (modify f : Routine σ ε Unit) := kept

theorem bind {next : α → Routine σ ε β} (first : Keeps Inv r) (rest : ∀ a, Keeps Inv (next a)) :
    Keeps Inv (r >>= next) := Triple.bind first rest

theorem tryCatch {handler : ε → Routine σ ε α} (first : Keeps Inv r)
    (caught : ∀ failure, Keeps Inv (handler failure)) :
    Keeps Inv (tryCatch r handler) := Triple.tryCatch first caught fun _ holds => holds

theorem loop {body : α → Routine σ ε (α ⊕ β)} (round : ∀ a, Keeps Inv (body a)) (fuel : Nat) (a : α) :
    Keeps Inv (loop body fuel a) := by
  apply Triple.loop (I := fun _ => Inv)
  · intro a
    apply Triple.conseq (round a)
    · exact fun _ holds => holds
    · intro answer s holds
      cases answer with
      | inl => exact holds
      | inr => exact holds
    · exact fun _ holds => holds
  · exact fun _ _ holds => holds

end Keeps

end Routine
end AsDt1.Lib
