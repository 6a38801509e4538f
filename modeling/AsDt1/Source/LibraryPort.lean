import AsDt1.Source.CdcStream
import AsDt1.Source.PortSimulation
import AsDt1.Source.SerialLines

/-!
# The worker's port on the serial library

The surroundings of the serial worker with the library in them: what the worker
asks of `_serial` is answered by `serial::Serial` on the system's calls, everything
else by another environment.
-/
namespace AsDt1.Source
open AsDt1.Lib Routine SerialImpl

variable {σ τ : Type}

/-- `what()`, less the place in the source that an `IOException` names. -/
def PortFailure.what : PortFailure → String
  | .notOpened description => "PortNotOpenedException " ++ description ++ " failed."
  | .invalidArgument what => what
  | .ioErrno _ => "IO Exception"
  | .io description => "IO Exception: " ++ description
  | .serial description => "SerialException " ++ description ++ " failed."
  | .writeStalled _ _ _ =>
    "SerialException device reports readiness to write but returned no data (device disconnected?) failed."
  | .overrun _ => "undefined"
  | .terminated _ => "terminated"

/-- A call of the library as the worker sees it. -/
def answerFrom {α : Type} (r : PortRoutine σ α) (s : Port σ × τ) : Except Failure α × (Port σ × τ) :=
  match r s.1 with
  | (.ok a, p) => (.ok a, (p, s.2))
  | (.error (.thrown failure), p) => (.error (.exception failure.what), (p, s.2))
  | (.error .outOfFuel, p) => (.error (.exception "never"), (p, s.2))

theorem answerFrom_ok {α : Type} {r : PortRoutine σ α} {p q : Port σ} {h : τ} {a : α} (returned : r p = (.ok a, q)) :
    answerFrom r (p, h) = (.ok a, (q, h)) := by
  unfold answerFrom
  rw [returned]

theorem answerFrom_returned {α : Type} {r : PortRoutine σ α} {s t : Port σ × τ} {a : α}
    (answered : answerFrom r s = (.ok a, t)) : r s.1 = (.ok a, t.1) := by
  unfold answerFrom at answered
  rcases outcome : r s.1 with ⟨result, q⟩
  rw [outcome] at answered
  rcases result with (failure | _) | b
  · cases answered
  · cases answered
  · obtain ⟨same, rfl⟩ := Prod.mk.inj answered
    cases same
    rfl

def libraryEnvironment (sys : System σ) (settings : PortSettings) (host : Environment τ) :
    Environment (Port σ × τ) where
  answer
    | .openPort port, s => answerFrom (construct sys settings port) s
    | .readline, s => answerFrom (SerialImpl.readline sys settings 65536 newline) s
    | .read size, s => answerFrom (SerialImpl.read sys settings size) s
    | .write data, s => answerFrom (do let _ ← SerialImpl.write sys settings data) s
    | .available, s => answerFrom (available sys) s
    | .flush, s => answerFrom (flush sys) s
    | .flushInput, s => answerFrom (flushInput sys) s
    | .close, s => answerFrom (SerialImpl.close sys) s
    | .findPort, s => ((host.answer .findPort s.2).1, (s.1, (host.answer .findPort s.2).2))
    | .connectCb up info, s =>
      ((host.answer (.connectCb up info) s.2).1, (s.1, (host.answer (.connectCb up info) s.2).2))
    | .pointCloudCb timestamp points, s =>
      ((host.answer (.pointCloudCb timestamp points) s.2).1,
        (s.1, (host.answer (.pointCloudCb timestamp points) s.2).2))
    | .imuCb samples, s => ((host.answer (.imuCb samples) s.2).1, (s.1, (host.answer (.imuCb samples) s.2).2))
  stops s := ((host.stops s.2).1, (s.1, (host.stops s.2).2))
  now s := ((host.now s.2).1, (s.1, (host.now s.2).2))
  syncMode s := ((host.syncMode s.2).1, (s.1, (host.syncMode s.2).2))
  frameRateHz s := ((host.frameRateHz s.2).1, (s.1, (host.frameRateHz s.2).2))
  read_size := by
    intro size s t data answered
    exact (Total.value (read_total sys settings s.1 size) rfl (answerFrom_returned answered)).fits

/-! ## A stream that comes in time -/

/-- `rest` is what the system has still to deliver on a port in `Good`: what a read
returns is its next part, and a read that comes up short has reached its end. This
is so on every system that delivers in time (`Timely.punctual`). -/
structure Punctual (sys : System σ) (settings : PortSettings) (rest : σ → Octets) (Good : Port σ → Prop) : Prop where
  reads : ∀ p size, Good p → ∃ data q, SerialImpl.read sys settings size p = (.ok data, q) ∧ Good q ∧
    rest p.system = data ++ rest q.system ∧ (data.length < size → rest q.system = [])

variable {sys : System σ} {settings : PortSettings} {rest : σ → Octets} {Good : Port σ → Prop}

/-- A counted read takes what it asks for, as far as it is there. -/
theorem Punctual.read_take (punctual : Punctual sys settings rest Good) {p : Port σ} (good : Good p) (size : Nat) :
    ∃ q, SerialImpl.read sys settings size p = (.ok ((rest p.system).take size), q) ∧ Good q ∧
      rest q.system = (rest p.system).drop size := by
  obtain ⟨data, q, returned, good', split, short⟩ := punctual.reads p size good
  have fits := (Total.value (read_total sys settings p size) rfl returned).fits
  by_cases full : data.length = size
  · subst full
    refine ⟨q, ?_, good', ?_⟩
    · rw [split, List.take_left]
      exact returned
    · rw [split, List.drop_left]
  · have ended := short (by omega)
    rw [ended, List.append_nil] at split
    refine ⟨q, ?_, good', ?_⟩
    · rw [split, List.take_of_length_le fits]
      exact returned
    · rw [split, List.drop_of_length_le fits, ended]

/-! ## Lines of the stream -/

theorem not_newline {stream front : Octets} (within : front <+: stream.takeWhile (· ≠ 0x0A)) :
    ¬ newline <:+ front := by
  intro ends
  have listed : (0x0A : BitVec 8) ∈ front := ends.subset (List.mem_singleton.mpr rfl)
  have other := List.mem_takeWhile_imp (within.subset listed)
  exact absurd other (by decide)

theorem not_empty_end : ¬ IsLineEnd 65536 newline [] := by
  rintro (ends | full)
  · exact absurd ends.length_le (by decide)
  · exact absurd full (by decide)

/-- The line is read up to its first end, or there is none in all that comes. -/
theorem nextLine_first (stream : Octets) :
    nextLine stream <+: stream ∧ (FirstEnd (IsLineEnd 65536 newline) (nextLine stream) ∨
      nextLine stream = stream ∧ Unended (IsLineEnd 65536 newline) stream) := by
  have split : stream.takeWhile (· ≠ 0x0A) ++ stream.dropWhile (· ≠ 0x0A) = stream :=
    List.takeWhile_append_dropWhile
  have plain : ∀ front, front <+: stream.takeWhile (· ≠ 0x0A) → ¬ newline <:+ front := fun _ => not_newline
  have mark : ∀ c ∈ (stream.dropWhile (· ≠ 0x0A)).head?, c = 0x0A := by
    intro c first
    have stopped := List.head?_dropWhile_not (· ≠ 0x0A) stream
    rw [Option.mem_def.mp first] at stopped
    simpa using stopped
  unfold nextLine
  generalize stream.takeWhile (· ≠ 0x0A) = text at *
  generalize stream.dropWhile (· ≠ 0x0A) = behind at *
  subst split
  by_cases long : 65536 ≤ text.length
  · have sized : (text.take 65536).length = 65536 := by
      rw [List.length_take]
      omega
    have cut : (text ++ behind.take 1).take 65536 = text.take 65536 := List.take_append_of_le_length long
    rw [cut]
    refine ⟨(List.take_prefix ..).trans (List.prefix_append ..), .inl ⟨.inr sized, ?_⟩⟩
    rintro front within - proper (ends | full)
    · exact plain front (within.trans (List.take_prefix ..)) ends
    · exact proper (within.eq_of_length (full.trans sized.symm))
  · have uncut : (text ++ behind.take 1).take 65536 = text ++ behind.take 1 := by
      apply List.take_of_length_le
      rw [List.length_append, List.length_take]
      omega
    have goes_on : ∀ front, front <+: text → ¬ IsLineEnd 65536 newline front := by
      rintro front within (ends | full)
      · exact plain front within ends
      · have fits := within.length_le
        omega
    rw [uncut]
    cases behind with
    | nil =>
      refine ⟨List.prefix_refl _, .inr ⟨rfl, ?_⟩⟩
      intro front within _
      rw [List.append_nil] at within
      exact goes_on front within
    | cons c behind =>
      obtain rfl : c = 0x0A := mark c rfl
      refine ⟨List.prefix_append_right_inj text |>.mpr (List.take_prefix ..), .inl ⟨.inl ⟨text, rfl⟩, ?_⟩⟩
      intro front within _ proper
      rcases List.prefix_concat_iff.mp within with same | earlier
      · exact absurd same proper
      · exact goes_on front earlier

/-- A reader that stops where a line ends has read the next line. -/
theorem first_line_read {stream line : Octets} (within : line <+: stream)
    (stopped : FirstEnd (IsLineEnd 65536 newline) line ∨
      Unended (IsLineEnd 65536 newline) line ∧ line = stream) : line = nextLine stream := by
  have some_ : ∀ {front : Octets}, FirstEnd (IsLineEnd 65536 newline) front → front ≠ [] := by
    rintro front reached rfl
    exact not_empty_end reached.ends
  obtain ⟨next, whole⟩ := nextLine_first stream
  rcases stopped with reached | ⟨unended, rfl⟩
  · rcases whole with reached' | ⟨-, unended⟩
    · exact reached.unique reached' (some_ reached) (some_ reached') within next
    · exact absurd reached.ends (unended line within (some_ reached))
  · rcases whole with reached' | ⟨same, -⟩
    · exact absurd reached'.ends (unended _ next (some_ reached'))
    · exact same.symm

theorem Punctual.readline (punctual : Punctual sys settings rest Good) {p : Port σ} (good : Good p) :
    ∃ q, SerialImpl.readline sys settings 65536 newline p = (.ok (nextLine (rest p.system)), q) ∧ Good q ∧
      rest q.system = (rest p.system).drop (nextLine (rest p.system)).length := by
  have octet : OctetRule sys settings (fun buffer t => Good t ∧ rest p.system = buffer ++ rest t.system)
      (fun _ t => rest t.system = []) fun _ _ _ => False := by
    intro buffer
    apply Total.of_ok
    rintro t ⟨good', split⟩
    obtain ⟨u, taken, good'', left⟩ := punctual.read_take good' 1
    refine ⟨_, u, taken, by rw [List.length_take]; omega, ?_, good'', ?_⟩
    · intro none
      rw [left, List.drop_eq_nil_of_le]
      have short := congrArg List.length none
      rw [List.length_take, List.length_nil] at short
      omega
    · rw [left, List.append_assoc, List.take_append_drop]
      exact split
  rcases (readline_rule default_roomy octet).ends (s := p) ⟨good, rfl⟩ with
    ⟨line, q, returned, ⟨good', split⟩, whole⟩ | ⟨_, _, _, _, _, impossible⟩
  · have same : line = nextLine (rest p.system) := by
      apply first_line_read (split ▸ List.prefix_append ..)
      apply whole.imp_right
      rintro ⟨unended, ended⟩
      refine ⟨unended, ?_⟩
      rw [split, ended, List.append_nil]
    refine ⟨q, same ▸ returned, good', ?_⟩
    rw [← same, split, List.drop_left]
  · exact impossible.elim

/-! ## The library in place of the plain stream -/

/-- The callbacks return and `stop()` is not called; the `k`-th time asked for is
`times k`. There is no port. -/
def calmHost (times : Nat → BitVec 64) : Environment Nat where
  answer
    | .findPort, k | .readline, k => (.ok [], k)
    | .read _, k => (.ok [], k)
    | .available, k => (.ok 0, k)
    | .openPort _, k | .write _, k | .flush, k | .flushInput, k | .close, k => (.ok (), k)
    | .connectCb _ _, k | .pointCloudCb _ _, k | .imuCb _, k => (.ok (), k)
  stops k := (false, k)
  now k := (times k, k + 1)
  syncMode k := (.none, k)
  frameRateHz k := (.initial, k)
  read_size := by
    intro size s t data answered
    cases answered
    exact Nat.zero_le _

/-- A host on which nothing but the clock, asked for the `k`-th time, moves `clocks`. -/
structure Calm (times : Nat → BitVec 64) (host : Environment τ) (clocks : τ → Nat) : Prop where
  pointCloudCb : ∀ timestamp points h, (host.answer (.pointCloudCb timestamp points) h).1 = .ok () ∧
    clocks (host.answer (.pointCloudCb timestamp points) h).2 = clocks h
  imuCb : ∀ samples h, (host.answer (.imuCb samples) h).1 = .ok () ∧
    clocks (host.answer (.imuCb samples) h).2 = clocks h
  stops : ∀ h, (host.stops h).1 = false ∧ clocks (host.stops h).2 = clocks h
  now : ∀ h, (host.now h).1 = times (clocks h) ∧ clocks (host.now h).2 = clocks h + 1

theorem calmHost_calm (times : Nat → BitVec 64) : Calm times (calmHost times) id where
  pointCloudCb _ _ _ := ⟨rfl, rfl⟩
  imuCb _ _ := ⟨rfl, rfl⟩
  stops _ := ⟨rfl, rfl⟩
  now _ := ⟨rfl, rfl⟩

/-- A port of the library, and the stream of which it has read as much. -/
structure SameStream (rest : σ → Octets) (Good : Port σ → Prop) (clocks : τ → Nat) (bound : Nat) (s : Port σ × τ)
    (t : StreamState) : Prop where
  good : Good s.1
  rest : rest s.1.system = t.rest
  clocks : clocks s.2 = t.clocks
  bounded : t.rest.length ≤ bound

/-- A punctual library answers as the stream does that delivers all that it is asked for. -/
theorem library_alike (punctual : Punctual sys settings rest Good) (bound : Nat) {times : Nat → BitVec 64}
    {host : Environment τ} {clocks : τ → Nat} (calm : Calm times host clocks) :
    FrameAlike (SameStream rest Good clocks bound) (libraryEnvironment sys settings host)
      (streamEnvironment (fun _ => bound) times) where
  readline := by
    intro s t same
    obtain ⟨q, line, good, left⟩ := punctual.readline same.good
    rw [same.rest] at line left
    have answered : (libraryEnvironment sys settings host).answer .readline s =
        (.ok (nextLine t.rest), (q, s.2)) := answerFrom_ok line
    rw [answered]
    refine ⟨rfl, good, left, same.clocks, ?_⟩
    show (t.rest.drop _).length ≤ bound
    rw [List.length_drop]
    exact Nat.le_trans (Nat.sub_le ..) same.bounded
  read := by
    intro size s t same
    obtain ⟨q, taken, good, left⟩ := punctual.read_take same.good size
    rw [same.rest] at taken left
    have answered : (libraryEnvironment sys settings host).answer (.read size) s =
        (.ok (t.rest.take size), (q, s.2)) := answerFrom_ok taken
    have bounded := same.bounded
    have all_taken : t.rest.take (min size bound) = t.rest.take size := by
      rw [List.take_eq_take_iff]
      omega
    have all_dropped : t.rest.drop (min size bound) = t.rest.drop size := by
      by_cases within : size ≤ bound
      · rw [Nat.min_eq_left within]
      · rw [List.drop_of_length_le (by omega), List.drop_of_length_le (by omega)]
    rw [answered]
    refine ⟨congrArg Except.ok all_taken.symm, good, left.trans all_dropped.symm, same.clocks, ?_⟩
    show (t.rest.drop _).length ≤ bound
    rw [List.length_drop]
    exact Nat.le_trans (Nat.sub_le ..) bounded
  pointCloudCb timestamp points s _ same := by
    obtain ⟨returned, kept⟩ := calm.pointCloudCb timestamp points s.2
    exact ⟨returned, same.good, same.rest, kept.trans same.clocks, same.bounded⟩
  imuCb samples s _ same := by
    obtain ⟨returned, kept⟩ := calm.imuCb samples s.2
    exact ⟨returned, same.good, same.rest, kept.trans same.clocks, same.bounded⟩
  stops s _ same := by
    obtain ⟨up, kept⟩ := calm.stops s.2
    exact ⟨up, same.good, same.rest, kept.trans same.clocks, same.bounded⟩
  now s t same := by
    obtain ⟨time, next⟩ := calm.now s.2
    refine ⟨time.trans (congrArg times same.clocks), same.good, same.rest, ?_, same.bounded⟩
    exact next.trans (congrArg (· + 1) same.clocks)

end AsDt1.Source
