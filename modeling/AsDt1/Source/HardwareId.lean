import AsDt1.Source.Handshake

/-!
# The hardware id, position by position

`get_word_from` and `get_hw_id` (dt1_device.cpp:81-107) as loops over positions of
the string, with `none` for `npos`. The worker's model reads the same word off the
list of characters.
-/
namespace AsDt1.Source
open AsDt1.Lib

/-- `str.find(':', pos)` -/
def findColon (str : Octets) (pos : Nat) : Option Nat :=
  ((str.drop pos).findIdx? fun c => c = 0x3A).map (pos + ·)

/-- `pos + 1 < str.size() && std::isdigit(str[pos + 1])` -/
def digitFollows (str : Octets) (pos : Nat) : Bool := str[pos + 1]?.any isDigit

theorem findColon_inside {str : Octets} {pos found : Nat} (at_ : findColon str pos = some found) :
    pos ≤ found ∧ found < str.length := by
  obtain ⟨i, listed, rfl⟩ := Option.map_eq_some_iff.mp at_
  obtain ⟨below, -, -⟩ := List.findIdx?_eq_some_iff_getElem.mp listed
  rw [List.length_drop] at below
  omega

/-- What is left of the string; `npos` is behind all of it. -/
def charsLeft (str : Octets) : (pos : Option Nat) → Nat
  | none => 0
  | some pos => str.length - pos + 1

theorem charsLeft_find (str : Octets) (pos : Nat) :
    charsLeft str (findColon str (pos + 1)) < charsLeft str (some pos) := by
  cases next : findColon str (pos + 1) with
  | none => exact Nat.succ_pos _
  | some found =>
    obtain ⟨later, inside⟩ := findColon_inside next
    show str.length - found + 1 < str.length - pos + 1
    omega

/-- The loop of `get_hw_id`: where the id starts. -/
def hwIdStart (str : Octets) : (pos : Option Nat) → Option Nat
  | none => none
  | some pos => if digitFollows str pos then some (pos + 1) else hwIdStart str (findColon str (pos + 1))
termination_by pos => charsLeft str pos
decreasing_by exact charsLeft_find str pos

/-- The loop of `get_word_from`. -/
def wordEnd (str : Octets) (pos : Nat) : Nat :=
  if below : pos < str.length then
    if isSpace str[pos] then pos else wordEnd str (pos + 1)
  else pos
termination_by str.length - pos

def getWordFrom (str : Octets) : (pos : Option Nat) → Octets
  | none => []
  | some start => if str.length ≤ start then [] else (str.drop start).take (wordEnd str start - start)

def getHwIdAt (devInfo : Octets) : Octets := getWordFrom devInfo (hwIdStart devInfo (findColon devInfo 0))

/-! ## The same word -/

variable {str : Octets} {c : BitVec 8} {rest : Octets} {pos : Nat}

theorem findColon_end (ends : str.drop pos = []) : findColon str pos = none := by
  unfold findColon
  rw [ends]
  rfl

theorem drop_next (here : str.drop pos = c :: rest) : str.drop (pos + 1) = rest := by
  rw [← List.drop_drop, here, List.drop_one, List.tail_cons]

theorem findColon_here (here : str.drop pos = 0x3A :: rest) : findColon str pos = some pos := by
  unfold findColon
  rw [here]
  simp [List.findIdx?_cons]

theorem findColon_next (here : str.drop pos = c :: rest) (other : c ≠ 0x3A) :
    findColon str pos = findColon str (pos + 1) := by
  have passed : decide (c = 0x3A) = false := decide_eq_false other
  unfold findColon
  rw [drop_next here, here, List.findIdx?_cons, passed]
  simp [Option.map_map, Function.comp_def, Nat.add_comm, Nat.add_left_comm]

theorem digitFollows_eq (here : str.drop pos = c :: rest) : digitFollows str pos = rest.head?.any isDigit := by
  unfold digitFollows
  rw [← drop_next here, List.head?_drop]

theorem wordEnd_eq (str : Octets) (pos : Nat) :
    wordEnd str pos = pos + ((str.drop pos).takeWhile fun c => !isSpace c).length := by
  induction pos using wordEnd.induct str with
  | case1 pos below blank =>
    rw [wordEnd, dif_pos below, if_pos blank, List.drop_eq_getElem_cons below]
    simp [blank]
  | case2 pos below shown ih =>
    rw [wordEnd, dif_pos below, if_neg shown, ih, List.drop_eq_getElem_cons below,
      List.takeWhile_cons_of_pos (by simpa using shown), List.length_cons]
    omega
  | case3 pos ends =>
    rw [wordEnd, dif_neg ends, List.drop_of_length_le (by omega)]
    rfl

theorem getWordFrom_eq (str : Octets) (start : Nat) :
    getWordFrom str (some start) = (str.drop start).takeWhile fun c => !isSpace c := by
  show (if str.length ≤ start then [] else (str.drop start).take (wordEnd str start - start)) = _
  by_cases ends : str.length ≤ start
  · rw [if_pos ends, List.drop_of_length_le ends]
    rfl
  · rw [if_neg ends, wordEnd_eq, Nat.add_sub_cancel_left]
    exact (List.prefix_iff_eq_take.mp (List.takeWhile_prefix _)).symm

/-- From any position on, the loops find the word that the list model finds behind it. -/
theorem getWordFrom_hwIdStart (str : Octets) (pos : Nat) :
    getWordFrom str (hwIdStart str (findColon str pos)) = getHwId (str.drop pos) := by
  -- by induction on the characters that are left
  generalize left : str.drop pos = tail
  induction tail generalizing pos with
  | nil =>
    rw [findColon_end left, hwIdStart]
    rfl
  | cons c rest ih =>
    have next := ih (pos + 1) (drop_next left)
    by_cases colon : c = 0x3A
    · subst colon
      rw [findColon_here left, hwIdStart, digitFollows_eq left]
      unfold getHwId
      by_cases digit : rest.head?.any isDigit = true
      · rw [if_pos digit, if_pos ⟨rfl, digit⟩, getWordFrom_eq, drop_next left]
      · rw [if_neg digit, if_neg (fun both => digit both.2), next]
    · rw [findColon_next left colon, next]
      conv => rhs; unfold getHwId
      rw [if_neg (fun both => colon both.1)]

/-- `get_hw_id` as the worker's model computes it. -/
theorem getHwIdAt_eq (devInfo : Octets) : getHwIdAt devInfo = getHwId devInfo :=
  getWordFrom_hwIdStart devInfo 0

end AsDt1.Source
