/-!
Thread objects. A thread object is empty (never started, or joined), holds a
thread that is still running, or holds one whose function has returned. The
object that holds a thread must be joined before it is overwritten or destroyed;
`session` is the number its creator gave the thread.
-/
namespace AsDt1.Lib

inductive Worker (Pc : Type) where
  | absent
  | live (session : Nat) (pc : Pc)
  | finished (session : Nat)
  deriving DecidableEq, Repr

namespace Worker

variable {Pc : Type}

def joinable : Worker Pc → Bool
  | absent => false
  | _ => true

def isLive : Worker Pc → Bool
  | live _ _ => true
  | _ => false

/-- `if (t.joinable()) { t.join(); }`, blocked while the thread runs. -/
def join : Worker Pc → Option (Worker Pc)
  | live _ _ => none
  | _ => some absent

@[simp] theorem joinable_absent : (absent : Worker Pc).joinable = false := rfl
@[simp] theorem joinable_live (n : Nat) (pc : Pc) : (live n pc).joinable = true := rfl
@[simp] theorem joinable_finished (n : Nat) : (finished n : Worker Pc).joinable = true := rfl
@[simp] theorem isLive_absent : (absent : Worker Pc).isLive = false := rfl
@[simp] theorem isLive_live (n : Nat) (pc : Pc) : (live n pc).isLive = true := rfl
@[simp] theorem isLive_finished (n : Nat) : (finished n : Worker Pc).isLive = false := rfl

/-- A join that returns leaves the object empty and found no running thread. -/
theorem join_eq_some {w w' : Worker Pc} (joined : w.join = some w') :
    w' = absent ∧ w.isLive = false := by
  cases w with
  | live n pc => cases joined
  | absent => exact ⟨(Option.some.inj joined).symm, rfl⟩
  | finished n => exact ⟨(Option.some.inj joined).symm, rfl⟩

theorem absent_of_not_joinable {w : Worker Pc} (free : w.joinable = false) : w = absent := by
  cases w with
  | absent => rfl
  | live n pc => cases free
  | finished n => cases free

/-- What follows a join that returns. -/
theorem join_map_eq_some {σ : Type} {w : Worker Pc} {resume : Worker Pc → σ} {t : σ}
    (resumed : w.join.map resume = some t) : t = resume absent ∧ w.isLive = false := by
  obtain ⟨w', joined, rfl⟩ := Option.map_eq_some_iff.mp resumed
  obtain ⟨rfl, gone⟩ := join_eq_some joined
  exact ⟨rfl, gone⟩

end Worker
end AsDt1.Lib
