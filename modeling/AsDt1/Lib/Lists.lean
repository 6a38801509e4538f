import Mathlib.Data.List.Forall2
import Mathlib.Data.List.OfFn
import Mathlib.Data.List.FinRange
import Mathlib.Data.List.GetD

/-!
List facts that more than one subsystem uses: a register that later writes
overwrite, a first-found search, an optional answer for every entry, and pieces
laid end to end.
-/
namespace AsDt1.Lib

variable {α β : Type}

/-- Value of a register after a sequence of writes: the last one, if any. -/
def lastWritten (initial : β) (writes : List β) : β := writes.getLast?.getD initial

@[simp] theorem lastWritten_nil (initial : β) : lastWritten initial [] = initial := rfl

@[simp] theorem lastWritten_cons (initial value : β) (writes : List β) :
    lastWritten initial (value :: writes) = lastWritten value writes := by
  cases writes with
  | nil => rfl
  | cons next rest => simp [lastWritten, List.getLast?_cons]

theorem lastWritten_append (initial : β) (writes later : List β) :
    lastWritten initial (writes ++ later) = lastWritten (lastWritten initial writes) later := by
  induction writes generalizing initial with
  | nil => rfl
  | cons value rest ih => rw [List.cons_append, lastWritten_cons, lastWritten_cons, ih]

/-- Folding optional writes over a register keeps the last one made. -/
theorem foldl_lastWritten (write : α → Option β) (initial : β) (inputs : List α) :
    inputs.foldl (fun value input => (write input).getD value) initial =
      lastWritten initial (inputs.filterMap write) := by
  induction inputs generalizing initial with
  | nil => rfl
  | cons input rest ih =>
    rw [List.foldl_cons, ih]
    cases written : write input with
    | none => simp [written]
    | some value => simp [written]

/-- A first-found search ends at an entry that passes if and only if no entry
listed ahead of it passes. -/
theorem find?_eq_some_iff_ahead [DecidableEq α] {entries : List α} {test : α → Bool} {entry : α}
    (listed : entry ∈ entries) (passes : test entry = true) :
    entries.find? test = some entry ↔
      ∀ other ∈ entries.takeWhile (fun other => other ≠ entry), test other = false := by
  induction entries with
  | nil => cases listed
  | cons head rest ih =>
    by_cases same : head = entry
    · subst same
      simp [passes]
    · have later : entry ∈ rest := by
        rcases List.mem_cons.mp listed with first | later
        · exact absurd first.symm same
        · exact later
      cases tested : test head with
      | true => simp [tested, same]
      | false => simp [tested, same, ih later]

/-- An optional answer for every entry succeeds if and only if each does. -/
theorem mapM_eq_some_iff {f : α → Option β} {entries : List α} {answers : List β} :
    entries.mapM f = some answers ↔
      List.Forall₂ (fun entry answer => f entry = some answer) entries answers := by
  induction entries generalizing answers with
  | nil => cases answers <;> simp
  | cons entry rest ih =>
    rw [List.mapM_cons, List.forall₂_cons_left_iff]
    cases answered : f entry with
    | none => simp
    | some answer =>
      simp only [Option.bind_eq_bind, Option.bind_some, Option.bind_eq_some_iff, ih, Option.pure_def,
        Option.some.injEq]
      constructor
      · rintro ⟨others, answers_others, rfl⟩
        exact ⟨answer, others, rfl, answers_others, rfl⟩
      · rintro ⟨_, others, rfl, answers_others, rfl⟩
        exact ⟨others, answers_others, rfl⟩

/-- A bank of optional values is all filled if and only if it is a bank of values. -/
theorem mapM_finRange_eq_some_iff {n : Nat} {f : Fin n → Option β} {answers : List β} :
    (List.finRange n).mapM f = some answers ↔
      ∃ value : Fin n → β, (∀ i, f i = some (value i)) ∧ answers = List.ofFn value := by
  rw [mapM_eq_some_iff]
  constructor
  · intro filled
    have sized := filled.length_eq
    rw [List.length_finRange] at sized
    refine ⟨fun i => answers.get (i.cast sized), fun i => ?_, ?_⟩
    · have listed : i.val < (List.finRange n).length := by rw [List.length_finRange]; exact i.isLt
      have in_slot := filled.get listed (filled.length_eq ▸ listed)
      simpa using in_slot
    · subst sized
      exact (List.ofFn_get answers).symm
  · rintro ⟨value, filled, rfl⟩
    rw [List.ofFn_eq_map, List.forall₂_map_right_iff, List.forall₂_same]
    exact fun i _ => filled i

theorem exists_related_of_mem {R : α → β → Prop} {as : List α} {bs : List β} (related : List.Forall₂ R as bs)
    {a : α} (listed : a ∈ as) : ∃ b ∈ bs, R a b := by
  induction related with
  | nil => cases listed
  | cons first _ ih =>
    rcases List.mem_cons.mp listed with rfl | later
    · exact ⟨_, List.mem_cons_self, first⟩
    · obtain ⟨b, among, same⟩ := ih later
      exact ⟨b, List.mem_cons_of_mem _ among, same⟩

/-- A running maximum stays below a bound if and only if all it runs over does. -/
theorem foldl_max_le_iff {entries : List Nat} {start bound : Nat} :
    entries.foldl max start ≤ bound ↔ start ≤ bound ∧ ∀ entry ∈ entries, entry ≤ bound := by
  induction entries generalizing start with
  | nil => simp
  | cons entry rest ih =>
    rw [List.foldl_cons, ih, List.forall_mem_cons, Nat.max_le, and_assoc]

/-! ## Pieces laid end to end -/

/-- Pieces of the same lengths give the same whole only if each is the same. -/
theorem flatMap_eq_flatMap_iff {f g : α → List β} {entries : List α}
    (sized : ∀ entry ∈ entries, (f entry).length = (g entry).length) :
    entries.flatMap f = entries.flatMap g ↔ ∀ entry ∈ entries, f entry = g entry := by
  induction entries with
  | nil => simp
  | cons entry rest ih =>
    have sized_rest : ∀ other ∈ rest, (f other).length = (g other).length :=
      fun other listed => sized other (List.mem_cons_of_mem entry listed)
    rw [List.flatMap_cons, List.flatMap_cons, List.forall_mem_cons, ← ih sized_rest]
    constructor
    · intro same
      exact List.append_inj same (sized entry List.mem_cons_self)
    · rintro ⟨same, same_rest⟩
      rw [same, same_rest]

/-- A traversal of entries that all succeed succeeds. -/
theorem mapM_ok {ε : Type} {f : α → Except ε β} {entries : List α}
    (all : ∀ a ∈ entries, ∃ b, f a = .ok b) : ∃ results, entries.mapM f = .ok results := by
  induction entries with
  | nil => exact ⟨[], rfl⟩
  | cons a rest ih =>
    obtain ⟨b, first⟩ := all a (List.mem_cons_self ..)
    obtain ⟨results, later⟩ := ih fun other listed => all other (List.mem_cons_of_mem _ listed)
    refine ⟨b :: results, ?_⟩
    rw [List.mapM_cons, first, later]
    rfl

theorem mapM_eq_ok {ε : Type} {f : α → Except ε β} {g : α → β} {entries : List α}
    (all : ∀ a ∈ entries, f a = .ok (g a)) : entries.mapM f = .ok (entries.map g) := by
  induction entries with
  | nil => rfl
  | cons a rest ih =>
    rw [List.mapM_cons, all a List.mem_cons_self,
      ih fun other listed => all other (List.mem_cons_of_mem _ listed)]
    rfl

/-- A traversal by index, entry by entry. -/
theorem mapM_range_eq_ok {ε : Type} {f : Nat → Except ε β} {g : α → β} {entries : List α}
    (all : ∀ k (below : k < entries.length), f k = .ok (g entries[k])) :
    (List.range entries.length).mapM f = .ok (entries.map g) := by
  cases entries with
  | nil => rfl
  | cons first rest =>
    rw [@mapM_eq_ok _ _ _ f (fun k => g ((first :: rest).getD k first))]
    · congr 1
      apply List.ext_getElem (by simp)
      intro k below _
      rw [List.getElem_map, List.getElem_map, List.getElem_range, List.getD_eq_getElem]
    · intro k listed
      have below := List.mem_range.mp listed
      rw [all k below, List.getD_eq_getElem]

/-- A counted loop whose body keeps an invariant succeeds with it. -/
theorem foldlM_range_inv {σ ε : Type} {body : σ → Nat → Except ε σ} (inv : Nat → σ → Prop) {count : Nat}
    {start : σ} (holds : inv 0 start) (kept : ∀ k < count, ∀ s, inv k s → ∃ s', body s k = .ok s' ∧ inv (k + 1) s') :
    ∃ s, (List.range count).foldlM body start = .ok s ∧ inv count s := by
  induction count with
  | zero => exact ⟨start, rfl, holds⟩
  | succ count ih =>
    obtain ⟨s, looped, holds_s⟩ := ih fun k below => kept k (by omega)
    obtain ⟨s', stepped, holds'⟩ := kept count (by omega) s holds_s
    refine ⟨s', ?_, holds'⟩
    rw [List.range_succ, List.foldlM_append, looped]
    simp only [List.foldlM_cons, List.foldlM_nil, bind_pure]
    exact stepped

/-- A prefix ends where the predicate first fails. -/
theorem takeWhile_stops {α : Type} {p : α → Bool} {front back : List α} (inside : ∀ a ∈ front, p a = true)
    (stops : ∀ a ∈ back.head?, p a = false) : (front ++ back).takeWhile p = front := by
  rw [List.takeWhile_append_of_pos inside]
  cases back with
  | nil => rw [List.takeWhile_nil, List.append_nil]
  | cons a rest =>
    have boundary : p a = false := stops a rfl
    rw [List.takeWhile_cons_of_neg (by rw [boundary]; decide), List.append_nil]

end AsDt1.Lib
