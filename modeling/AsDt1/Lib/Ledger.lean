import Mathlib.Data.List.Basic
import Mathlib.Data.List.Count

/-!
Bookkeeping of kernel objects: descriptors and memory mappings. Every successful
open or map gets a fresh number, so a number names one object for the whole run
even where the system reuses its own numbers.
-/
namespace AsDt1.Lib

structure Ledger where
  /-- Descriptors opened so far; their numbers are those below. -/
  opened : Nat := 0
  openNow : List Nat := []
  /-- Mappings made so far; their numbers are those below. -/
  mapped : Nat := 0
  /-- Every unmapping call so far. -/
  unmaps : List Nat := []
  deriving DecidableEq, Repr

namespace Ledger

def openOne (l : Ledger) : Ledger :=
  { l with opened := l.opened + 1, openNow := l.opened :: l.openNow }

def close (l : Ledger) (descriptor : Nat) : Ledger :=
  { l with openNow := l.openNow.erase descriptor }

def mapOne (l : Ledger) : Ledger := { l with mapped := l.mapped + 1 }

def unmapAll (l : Ledger) (mappings : List Nat) : Ledger :=
  { l with unmaps := mappings ++ l.unmaps }

/-- Nothing is open and every mapping ever made was unmapped exactly once. -/
def Settled (l : Ledger) : Prop :=
  l.openNow = [] ∧ ∀ m, m < l.mapped → l.unmaps.count m = 1

/-- The mappings `held` are the ones still in place: each of them was never
unmapped, and every other mapping exactly once. -/
structure Holds (l : Ledger) (held : List Nat) : Prop where
  nodup : held.Nodup
  made : ∀ m ∈ held, m < l.mapped
  counted : ∀ m, m < l.mapped → l.unmaps.count m = if m ∈ held then 0 else 1
  bounded : ∀ m, l.mapped ≤ m → l.unmaps.count m = 0

theorem Holds.empty : ({} : Ledger).Holds [] := by
  refine ⟨List.nodup_nil, ?_, ?_, ?_⟩ <;> simp

/-- A ledger whose mappings and unmappings are those of another holds the same. -/
theorem Holds.frame {l l' : Ledger} {held : List Nat} (h : l.Holds held)
    (mapped : l'.mapped = l.mapped) (unmaps : l'.unmaps = l.unmaps) : l'.Holds held := by
  refine ⟨h.nodup, ?_, ?_, ?_⟩
  · rw [mapped]
    exact h.made
  · rw [mapped, unmaps]
    exact h.counted
  · rw [mapped, unmaps]
    exact h.bounded

theorem Holds.mapOne {l : Ledger} {held : List Nat} (h : l.Holds held) :
    l.mapOne.Holds (held ++ [l.mapped]) := by
  refine ⟨?_, ?_, ?_, ?_⟩
  · have fresh : l.mapped ∉ held := fun member => Nat.lt_irrefl _ (h.made _ member)
    rw [List.nodup_append]
    refine ⟨h.nodup, List.nodup_cons.mpr ⟨List.not_mem_nil, List.nodup_nil⟩, fun old member new last => ?_⟩
    rintro rfl
    exact fresh (List.mem_singleton.mp last ▸ member)
  · intro m member
    rcases List.mem_append.mp member with old | last
    · exact Nat.lt_succ_of_lt (h.made m old)
    · rw [List.mem_singleton.mp last]
      exact Nat.lt_succ_self _
  · intro m bound
    by_cases fresh : m = l.mapped
    · subst fresh
      simpa [Ledger.mapOne] using h.bounded l.mapped (Nat.le_refl _)
    · have old : m < l.mapped := by
        simp only [Ledger.mapOne] at bound
        omega
      simpa [Ledger.mapOne, fresh] using h.counted m old
  · intro m bound
    exact h.bounded m (Nat.le_of_succ_le bound)

/-- Unmapping exactly what is held leaves every mapping unmapped once. -/
theorem Holds.unmapAll {l : Ledger} {held : List Nat} (h : l.Holds held) :
    (l.unmapAll held).Holds [] := by
  refine ⟨List.nodup_nil, by simp, ?_, ?_⟩
  · intro m bound
    have before := h.counted m bound
    rw [Ledger.unmapAll, List.count_append, before, h.nodup.count]
    by_cases member : m ∈ held <;> simp [member]
  · intro m bound
    have before := h.bounded m bound
    have never : held.count m = 0 := by
      refine List.count_eq_zero.mpr fun member => ?_
      exact absurd (h.made m member) (Nat.not_lt.mpr bound)
    rw [Ledger.unmapAll, List.count_append, before, never]

theorem Holds.settled {l : Ledger} (h : l.Holds []) (closed : l.openNow = []) : l.Settled :=
  ⟨closed, fun m bound => by simpa using h.counted m bound⟩

end Ledger
end AsDt1.Lib
