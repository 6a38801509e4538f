import Mathlib.Data.List.Induction
import Mathlib.Logic.Function.Basic

/-!
# Latest values

A bank of slots, one for each key, that keeps the last entry of its key. An entry
is named by its position in the list of arrivals, so that equal values that
arrived twice are two entries.
-/
namespace AsDt1.Lib

variable {κ α : Type}

/-- Entry `k` is in its slot: none of its key came after it. -/
def Held (key : α → κ) (entries : List α) (k : Nat) : Prop :=
  ∃ entry, entries[k]? = some entry ∧ ∀ later ∈ entries.drop (k + 1), key later ≠ key entry

/-- While an entry stays in its slot, whatever arrives has another key. -/
theorem Held.later {key : α → κ} {entries : List α} {k q m : Nat} {entry next : α}
    (held : Held key (entries.take m) k) (found : entries[k]? = some entry) (arrived : entries[q]? = some next)
    (after : k < q) (upto : q < m) : key next ≠ key entry := by
  obtain ⟨entry', found', last_of_key⟩ := held
  rw [List.getElem?_take_of_lt (by omega)] at found'
  obtain rfl : entry = entry' := Option.some.inj (found.symm.trans found')
  apply last_of_key
  apply List.mem_of_getElem? (i := q - (k + 1))
  rw [List.getElem?_drop, show k + 1 + (q - (k + 1)) = q by omega, List.getElem?_take_of_lt upto]
  exact arrived

theorem Held.arrival {key : α → κ} {entries : List α} {k m : Nat} {entry next : α}
    (held : Held key (entries.take (m + 1)) k) (found : entries[k]? = some entry)
    (arrived : entries[m]? = some next) (before : k < m) : key next ≠ key entry :=
  held.later found arrived before (Nat.lt_succ_self m)

theorem Held.lt {key : α → κ} {entries : List α} {k m : Nat} (held : Held key (entries.take m) k) :
    k < m := by
  obtain ⟨entry, found, -⟩ := held
  have listed := (List.getElem?_eq_some_iff.mp found).1
  rw [List.length_take] at listed
  omega

/-! ## The bank -/

variable [DecidableEq κ]

/-- The slots after the entries arrived. -/
def slots (key : α → κ) (entries : List α) : κ → Option α :=
  entries.foldl (fun held entry => Function.update held (key entry) (some entry)) fun _ => none

theorem slots_concat (key : α → κ) (entries : List α) (last : α) :
    slots key (entries ++ [last]) = Function.update (slots key entries) (key last) (some last) := by
  unfold slots
  rw [List.foldl_append, List.foldl_cons, List.foldl_nil]

/-- A slot that is filled holds an entry of its key, and none of that key came after it. -/
theorem held_of_slot {key : α → κ} {entries : List α} {slot : κ} {entry : α}
    (filled : slots key entries slot = some entry) :
    ∃ k, entries[k]? = some entry ∧ key entry = slot ∧ Held key entries k := by
  induction entries using List.reverseRecOn with
  | nil => cases filled
  | append_singleton entries last ih =>
    rw [slots_concat] at filled
    by_cases same : slot = key last
    · subst same
      rw [Function.update_self] at filled
      cases filled
      refine ⟨entries.length, by simp, rfl, entry, by simp, ?_⟩
      rw [List.drop_eq_nil_of_le (by simp)]
      simp
    · rw [Function.update_of_ne same] at filled
      obtain ⟨k, found, key_entry, entry', found', last_of_key⟩ := ih filled
      obtain rfl : entry = entry' := Option.some.inj (found.symm.trans found')
      have listed : k < entries.length := (List.getElem?_eq_some_iff.mp found).1
      refine ⟨k, by rw [List.getElem?_append_left listed]; exact found, key_entry, entry,
        by rw [List.getElem?_append_left listed]; exact found, ?_⟩
      rw [List.drop_append_of_le_length (by omega)]
      intro later later_listed
      rcases List.mem_append.mp later_listed with among | is_last
      · exact last_of_key later among
      · rw [List.mem_singleton.mp is_last, key_entry]
        exact fun contradiction => same contradiction.symm

/-- A slot that is filled at two times holds the same entry at both, or the later one
came later. -/
theorem slots_at {key : α → κ} {entries : List α} {m m' : Nat} {slot : κ} {entry entry' : α} (upto : m ≤ m')
    (early : slots key (entries.take m) slot = some entry)
    (late : slots key (entries.take m') slot = some entry') :
    ∃ k k', entries[k]? = some entry ∧ entries[k']? = some entry' ∧ key entry = slot ∧ key entry' = slot ∧
      k < m ∧ k ≤ k' ∧ Held key (entries.take m) k ∧ Held key (entries.take m') k' := by
  obtain ⟨k, found, key_entry, held⟩ := held_of_slot early
  obtain ⟨k', found', key_entry', held'⟩ := held_of_slot late
  have before := held.lt
  have before' := held'.lt
  rw [List.getElem?_take_of_lt before] at found
  rw [List.getElem?_take_of_lt before'] at found'
  refine ⟨k, k', found, found', key_entry, key_entry', before, ?_, held, held'⟩
  by_contra overtaken
  exact held'.later found' found (by omega) (by omega) (key_entry.trans key_entry'.symm)

/-- Where the entries of each key are ordered, a slot only moves up. -/
theorem slots_ordered {key : α → κ} {entries : List α} {R : α → α → Prop} (same : ∀ entry, R entry entry)
    (ordered : entries.Pairwise fun entry later => key entry = key later → R entry later) {m m' : Nat}
    {slot : κ}
    {entry entry' : α} (upto : m ≤ m') (early : slots key (entries.take m) slot = some entry)
    (late : slots key (entries.take m') slot = some entry') : R entry entry' := by
  obtain ⟨k, k', found, found', key_entry, key_entry', -, moves_up, -, -⟩ := slots_at upto early late
  rcases Nat.lt_or_eq_of_le moves_up with later | rfl
  · obtain ⟨listed, rfl⟩ := List.getElem?_eq_some_iff.mp found
    obtain ⟨listed', rfl⟩ := List.getElem?_eq_some_iff.mp found'
    exact List.pairwise_iff_getElem.mp ordered k k' listed listed' later (key_entry.trans key_entry'.symm)
  · obtain rfl : entry = entry' := Option.some.inj (found.symm.trans found')
    exact same entry

end AsDt1.Lib
