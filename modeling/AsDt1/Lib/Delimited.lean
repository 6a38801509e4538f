import Mathlib.Data.List.Infix

/-!
# The first end in a stream

A reader that takes one element at a time stops at the first place where what it
has read is an end. The empty list is never looked at.
-/
namespace AsDt1.Lib

variable {α : Type}

/-- No end has been reached yet. -/
def Unended (isEnd : List α → Prop) (read : List α) : Prop := ∀ front, front <+: read → front ≠ [] → ¬ isEnd front

/-- An end, and no other end ahead of it. -/
structure FirstEnd (isEnd : List α → Prop) (read : List α) : Prop where
  ends : isEnd read
  first : ∀ front, front <+: read → front ≠ [] → front ≠ read → ¬ isEnd front

variable {isEnd : List α → Prop} {read other stream : List α} {a : α}

theorem Unended.nil : Unended isEnd [] := fun _ front some_ => absurd (List.prefix_nil.mp front) some_

theorem Unended.snoc (unended : Unended isEnd read) (goes_on : ¬ isEnd (read ++ [a])) : Unended isEnd (read ++ [a]) := by
  intro front within some_
  rcases List.prefix_concat_iff.mp within with rfl | earlier
  · exact goes_on
  · exact unended front earlier some_

theorem Unended.last (unended : Unended isEnd read) (reached : isEnd (read ++ [a])) :
    FirstEnd isEnd (read ++ [a]) := by
  refine ⟨reached, fun front within some_ proper => ?_⟩
  rcases List.prefix_concat_iff.mp within with same | earlier
  · exact absurd same proper
  · exact unended front earlier some_

/-- A stream has one first end. -/
theorem FirstEnd.unique (first : FirstEnd isEnd read) (second : FirstEnd isEnd other) (some_ : read ≠ [])
    (some_' : other ≠ []) (within : read <+: stream) (within' : other <+: stream) : read = other := by
  by_contra differ
  rcases List.prefix_or_prefix_of_prefix within within' with shorter | longer
  · exact second.first read shorter some_ differ first.ends
  · exact first.first other longer some_' (Ne.symm differ) second.ends

/-- What has been read without an end lies before the first end. -/
theorem Unended.before (unended : Unended isEnd read) (reached : FirstEnd isEnd other) (some_ : other ≠ [])
    (within : read <+: stream) (within' : other <+: stream) : read <+: other ∧ read ≠ other := by
  have apart : ¬ other <+: read := fun inside => unended other inside some_ reached.ends
  rcases List.prefix_or_prefix_of_prefix within within' with shorter | longer
  · exact ⟨shorter, fun same => apart (same ▸ List.prefix_refl read)⟩
  · exact absurd longer apart

end AsDt1.Lib
