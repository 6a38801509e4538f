import AsDt1.Source.SerialReads
import AsDt1.Source.StreamReads

/-!
# The line a timestamp is read from

`read_line_until` looks for "tm=" anywhere in a line, `sscanf` for "tm=" at the
start of the same line. The two agree where the line that ends the search starts
with the mark and a digit behind it.
-/
namespace AsDt1.Guarantees
open AsDt1.Lib AsDt1.Source Routine

/-- A device that sends these lines, and a host that does not call `stop()`. The
state counts the lines read. -/
def lineEnvironment (lines : Nat → Octets) : Environment Nat where
  answer
    | .readline, k => (.ok (lines k), k + 1)
    | .findPort, k | .read _, k => (.ok [], k)
    | .available, k => (.ok 0, k)
    | .openPort _, k | .write _, k | .flush, k | .flushInput, k | .close, k => (.ok (), k)
    | .connectCb _ _, k | .pointCloudCb _ _, k | .imuCb _, k => (.ok (), k)
  stops k := (false, k)
  now k := (0, k)
  syncMode k := (.none, k)
  frameRateHz k := (.initial, k)
  read_size := by
    intro size k t data answered
    obtain rfl : [] = data := Except.ok.inj (congrArg Prod.fst answered)
    exact Nat.zero_le size

/-- The line contains the mark. -/
def Marked (line : Octets) : Prop := ascii "tm=" <:+: line

/-- A digit follows a mark somewhere in the line. -/
def Stamped (line : Octets) : Prop := ∃ c, isDigit c = true ∧ ascii "tm=" ++ [c] <:+: line

/-- The first line in which a digit follows a mark. -/
structure FirstStamped (lines : Nat → Octets) (j : Nat) : Prop where
  stamped : Stamped (lines j)
  none : ∀ k < j, ¬ Stamped (lines k)

/-- These are all the digits of a number. -/
structure IsNumber (digits more : Octets) : Prop where
  some_digit : digits ≠ []
  only : ∀ c ∈ digits, isDigit c = true
  stops : ∀ c ∈ more.head?, isDigit c = false

/-- The digits directly behind the first mark of the line. -/
structure BehindFirstMark (line digits : Octets) (front more : Octets) : Prop where
  parts : line = front ++ ascii "tm=" ++ digits ++ more
  first : ∀ front' more', line = front' ++ ascii "tm=" ++ more' → front.length ≤ front'.length
  number : IsNumber digits more

/-- `read_timestamp` returns, having read no further than line `j`, the number
directly behind the first mark of that line, and `sscanf` has accepted the line. -/
def ReturnsNumberOf (lines : Nat → Octets) (j : Nat) (w : World Nat) : Prop :=
  ∃ digits front more value w', BehindFirstMark (lines j) digits front more ∧ value.toNat = decimal digits ∧
    Ends (fun fuel => readTimestamp (lineEnvironment lines) fuel) w (.ok value, w') ∧ w'.env = j + 1 ∧
    scansNumber (lines j) = true

/-- The line starts with the mark and a number that fits, and no line before it has a mark. -/
def SearchAndScanAgree (lines : Nat → Octets) (j : Nat) : Prop :=
  (∀ k < j, ¬ Marked (lines k)) ∧
    ∃ digits more, lines j = ascii "tm=" ++ digits ++ more ∧ IsNumber digits more ∧ decimal digits < 2 ^ 64

variable {lines : Nat → Octets} {j : Nat} {w : World Nat}

/-! ## The search -/

theorem line_read (lines : Nat → Octets) (w : World Nat) :
    ∃ w', readline (lineEnvironment lines) w = (.ok (lines w.env), w') ∧ w'.env = w.env + 1 ∧
      w'.running = w.running := ⟨_, readline_ok rfl, rfl, rfl⟩

/-- The search ends at the first line with a mark. -/
theorem readLineUntil_first (running : w.running = true) (later : w.env ≤ j) (marked : Marked (lines j))
    (none : ∀ k < j, w.env ≤ k → ¬ Marked (lines k)) :
    ∃ w', Ends (fun fuel => readLineUntil (lineEnvironment lines) fuel (ascii "tm=")) w (.ok (lines j), w') ∧
      w'.env = j + 1 := by
  suffices loops : ∃ w', Ends.Loop (fun _ _ => lineRound (lineEnvironment lines) (ascii "tm=")) () w
      (.ok (lines j), w') ∧ w'.env = j + 1 by
    obtain ⟨w', loop, consumed⟩ := loops
    exact ⟨w', loop.ends, consumed⟩
  -- by induction on the lines ahead of the one looked for
  generalize ahead : j - w.env = left
  induction left generalizing w with
  | zero =>
    obtain rfl : w.env = j := by omega
    obtain ⟨w', reads, consumed, -⟩ := line_read lines w
    refine ⟨w', .done (.const ?_), consumed⟩
    unfold lineRound
    rw [bind_ok reads, if_pos (show ascii "tm=" <:+: lines w.env from marked)]
    rfl
  | succ left ih =>
    obtain ⟨u, reads, consumed, still⟩ := line_read lines w
    have unmarked := none w.env (by omega) le_rfl
    obtain ⟨w', rest, consumed'⟩ := ih (still.trans running) (by omega)
      (fun k before after => none k before (by omega)) (by omega)
    refine ⟨w', .again (.const ?_) rest, consumed'⟩
    unfold lineRound
    rw [bind_ok reads, if_neg (show ¬ ascii "tm=" <:+: lines w.env from unmarked),
      bind_ok (isRunning_up (still.trans running) rfl)]
    rfl

theorem readTimestamp_first (running : w.running = true) (later : w.env ≤ j) (marked : Marked (lines j))
    (none : ∀ k < j, w.env ≤ k → ¬ Marked (lines k)) :
    ∃ w', Ends (fun fuel => readTimestamp (lineEnvironment lines) fuel) w (.ok (scanTimestamp (lines j)), w') ∧
      w'.env = j + 1 := by
  obtain ⟨w', search, consumed⟩ := readLineUntil_first running later marked none
  refine ⟨w', .bind search (.const ?_), consumed⟩
  have written : lines j ≠ [] := by
    intro empty
    have short := marked.length_le
    rw [empty] at short
    exact absurd short (by decide)
  rw [if_neg written]
  rfl

theorem Stamped.marked {line : Octets} (stamped : Stamped line) : Marked line := by
  obtain ⟨c, -, inside⟩ := stamped
  exact (List.prefix_append _ _).isInfix.trans inside

/-! ## The scan -/

/-- A line that the scan accepts starts with the mark. -/
theorem mark_leads {line : Octets} (accepted : scansNumber line = true) : ascii "tm=" <+: line := by
  have some : scannedDigits line ≠ [] := by simpa [scansNumber] using accepted
  unfold scannedDigits at some
  simp only at some
  split at some
  · next marked => exact marked.trans (List.takeWhile_prefix _)
  · exact absurd rfl some

theorem unsignedDigits_number {digits more : Octets} (number : IsNumber digits more) :
    unsignedDigits (digits ++ more) = digits := by
  obtain ⟨kept, not_minus, not_plus⟩ := number_leads number.some_digit number.only more
  unfold unsignedDigits
  simp only [kept, not_minus, not_plus, or_self, if_false, takeWhile_stops number.only number.stops]

theorem scansNumber_number {digits more : Octets} (number : IsNumber digits more) :
    scansNumber (ascii "tm=" ++ digits ++ more) = true := by
  obtain ⟨cut, text, stops⟩ := takeWhile_number number.only number.stops
  have scanned : scannedDigits (ascii "tm=" ++ digits ++ more) = digits := by
    unfold scannedDigits
    rw [text]
    simp only [List.prefix_append, if_true]
    exact unsignedDigits_number ⟨number.some_digit, number.only, stops⟩
  unfold scansNumber
  rw [scanned]
  simpa using number.some_digit

/-- Of the lines that a device sends while `_running` is true, the first in which a
digit follows a mark is the one whose number is returned if and only if it starts with
the mark and the number, the number fits, and no line before it has a mark. -/
theorem timestamp_returned_iff (first : FirstStamped lines j) (running : w.running = true) (start : w.env = 0) :
    ReturnsNumberOf lines j w ↔ SearchAndScanAgree lines j := by
  constructor
  · rintro ⟨digits, front, more, value, w', behind, same, ends, consumed, accepted⟩
    have none : ∀ k < j, ¬ Marked (lines k) := by
      intro k before marked
      have some_marked : ∃ i, Marked (lines i) := ⟨k, marked⟩
      classical
      obtain ⟨u, ends', consumed'⟩ := readTimestamp_first (j := Nat.find some_marked) running (by omega)
        (Nat.find_spec some_marked) (fun i ahead _ => Nat.find_min some_marked ahead)
      obtain ⟨-, rfl⟩ := Prod.mk.inj (ends.unique ends')
      have upto := Nat.find_min' some_marked marked
      omega
    obtain ⟨rest, led⟩ := mark_leads accepted
    obtain rfl : front = [] := List.length_eq_zero_iff.mp (Nat.le_zero.mp (behind.first [] rest led.symm))
    exact ⟨none, digits, more, behind.parts, behind.number, same ▸ value.isLt⟩
  · rintro ⟨none, digits, more, parts, number, bound⟩
    obtain ⟨w', ends, consumed⟩ :=
      readTimestamp_first running (by omega) first.stamped.marked (fun k before _ => none k before)
    rw [parts, scanTimestamp_number number.some_digit number.only number.stops bound] at ends
    refine ⟨digits, [], more, _, w', ⟨parts, fun front' _ _ => Nat.zero_le _, number⟩, ?_, ends, consumed, ?_⟩
    · rw [BitVec.toNat_ofNat, Nat.mod_eq_of_lt bound]
    · rw [parts]
      exact scansNumber_number number

/-! ## Two devices -/

/-- A worker that has read no line yet. -/
def listening : World Nat where
  env := 0
  running := true
  serial := true
  deviceInfo := .unset
  receiveBuf := []
  imuData := []
  imuSamples := []
  latestImuSampleTs := 0
  clockOffset := 0
  phase := .streaming
  log := []

/-- The end of a frame and the next timestamp. -/
def plainLines (k : Nat) : Octets := if k = 0 then ascii "END\r\n" else ascii "tm=123\r\n"

theorem plain_stamped : FirstStamped plainLines 1 where
  stamped := ⟨0x31, by decide, by decide⟩
  none k before stamped := by
    obtain rfl : k = 0 := by omega
    exact absurd stamped.marked (by unfold Marked; decide)

theorem plain_number_returned : ReturnsNumberOf plainLines 1 listening := by
  refine (timestamp_returned_iff plain_stamped rfl rfl).mpr ⟨fun k before => ?_, ascii "123", ascii "\r\n", ?_⟩
  · obtain rfl : k = 0 := by omega
    unfold Marked
    decide
  · exact ⟨rfl, ⟨by decide, by decide, by decide⟩, by decide⟩

/-- The prompt of a command stands in front of the timestamp. -/
theorem prompt_ahead_not_scanned :
    ¬ ∀ (lines : Nat → Octets) (j : Nat) (w : World Nat), FirstStamped lines j → w.running = true → w.env = 0 →
      ReturnsNumberOf lines j w := by
  intro always
  have first : FirstStamped (fun _ => ascii ">tm=5\r\n") 0 := ⟨⟨0x35, by decide, by decide⟩, nofun⟩
  obtain ⟨-, -, -, -, -, -, -, -, -, accepted⟩ := always _ 0 listening first rfl rfl
  exact absurd accepted (by decide)

end AsDt1.Guarantees
