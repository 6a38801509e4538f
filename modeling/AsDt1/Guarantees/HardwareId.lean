import AsDt1.Source.HardwareId
import AsDt1.Source.StreamReads

/-!
# The hardware id

Positions of the string are compared from the front, as the loop of `get_hw_id`
visits them.
-/
namespace AsDt1.Guarantees
open AsDt1.Lib AsDt1.Source

/-- A colon at this position, directly followed by a digit. -/
def DigitColon (str : Octets) (pos : Nat) : Prop :=
  str[pos]? = some 0x3A ∧ ∃ c, str[pos + 1]? = some c ∧ isDigit c = true

/-- The first such colon. -/
structure FirstDigitColon (str : Octets) (pos : Nat) : Prop where
  here : DigitColon str pos
  none : ∀ before < pos, ¬ DigitColon str before

/-- A run of non-whitespace characters that starts at this position. -/
structure IsRun (str : Octets) (start : Nat) (word : Octets) : Prop where
  placed : word <+: str.drop start
  shown : ∀ c ∈ word, isSpace c = false

/-- The longest such run. -/
structure IsLongestRun (str : Octets) (start : Nat) (word : Octets) : Prop extends IsRun str start word where
  longest : ∀ other, IsRun str start other → other.length ≤ word.length

theorem longestRun_takeWhile (str : Octets) (start : Nat) :
    IsLongestRun str start ((str.drop start).takeWhile fun c => !isSpace c) where
  placed := List.takeWhile_prefix _
  shown c listed := by simpa using List.mem_takeWhile_imp listed
  longest other run := by
    obtain ⟨rest, placed⟩ := run.placed
    have inside : other <+: (str.drop start).takeWhile fun c => !isSpace c := by
      rw [← placed, List.takeWhile_append_of_pos fun c listed => by simp [run.shown c listed]]
      exact List.prefix_append _ _
    exact inside.length_le

variable {str : Octets} {c : BitVec 8} {pos : Nat}

theorem digitColon_succ : DigitColon (c :: str) (pos + 1) ↔ DigitColon str pos := Iff.rfl

theorem digitColon_zero : DigitColon (c :: str) 0 ↔ c = 0x3A ∧ str.head?.any isDigit = true := by
  cases str with
  | nil => simp [DigitColon]
  | cons d rest => simp [DigitColon]

/-- The first colon that a digit follows, and the word behind it. -/
theorem getHwId_first (first : FirstDigitColon str pos) :
    getHwId str = (str.drop (pos + 1)).takeWhile fun c => !isSpace c := by
  induction str generalizing pos with
  | nil => exact nomatch first.here.1
  | cons c rest ih =>
    unfold getHwId
    cases pos with
    | zero => rw [if_pos (digitColon_zero.mp first.here), List.drop_one, List.tail_cons]
    | succ pos =>
      rw [if_neg (fun here => first.none 0 (Nat.succ_pos pos) (digitColon_zero.mpr here))]
      exact ih ⟨digitColon_succ.mp first.here,
        fun before ahead here => first.none (before + 1) (by omega) (digitColon_succ.mpr here)⟩

theorem getHwId_none (none : ∀ pos, ¬ DigitColon str pos) : getHwId str = [] := by
  induction str with
  | nil => rfl
  | cons c rest ih =>
    unfold getHwId
    rw [if_neg (fun here => none 0 (digitColon_zero.mpr here))]
    exact ih fun pos here => none (pos + 1) (digitColon_succ.mpr here)

/-- The word starts with the digit. -/
theorem getHwId_ne_nil (first : FirstDigitColon str pos) : getHwId str ≠ [] := by
  obtain ⟨-, c, follows, digit⟩ := first.here
  obtain ⟨below, same⟩ := List.getElem?_eq_some_iff.mp follows
  rw [getHwId_first first, List.drop_eq_getElem_cons below, same,
    List.takeWhile_cons_of_pos (by simp [(digit_plain digit).1])]
  exact List.cons_ne_nil _ _

/-- `get_hw_id` on any string: the longest run of non-whitespace characters right
behind the first colon that a digit follows, and nothing if there is no such colon. -/
theorem hardware_id (devInfo : Octets) :
    (∀ pos, FirstDigitColon devInfo pos → IsLongestRun devInfo (pos + 1) (getHwIdAt devInfo)) ∧
      (getHwIdAt devInfo = [] ↔ ∀ pos, ¬ DigitColon devInfo pos) := by
  rw [getHwIdAt_eq]
  refine ⟨fun pos first => ?_, fun empty pos here => ?_, getHwId_none⟩
  · rw [getHwId_first first]
    exact longestRun_takeWhile devInfo (pos + 1)
  · have found : ∃ pos, DigitColon devInfo pos := ⟨pos, here⟩
    classical
    exact getHwId_ne_nil ⟨Nat.find_spec found, fun before ahead => Nat.find_min found ahead⟩ empty

end AsDt1.Guarantees
