import AsDt1.Source.SerialLines

/-!
# The octets that go through the serial library

Whatever the system answers, every call ends, and what it returns is the next part
of the stream that the system delivers; what a write has sent is the first part of
its data. An exception loses what its own call had read, and nothing else.
-/
namespace AsDt1.Guarantees
open AsDt1.Lib AsDt1.Source AsDt1.Source.SerialImpl Routine

variable {σ : Type}

/-- A short read has used up its time. -/
theorem read_takes_next_octets (sys : System σ) (settings : PortSettings) (p : Port σ) (size : Nat) :
    (∃ data q, SerialImpl.read sys settings size p = (.ok data, q) ∧ q.received = p.received ++ data ∧
      q.sent = p.sent ∧ data.length ≤ size ∧
      (data.length < size → ∃ readings, q.readings = p.readings ++ readings ∧
        Expired (readTimeoutMs settings size) readings)) ∨
    ∃ failure lost q, SerialImpl.read sys settings size p = (.error (.thrown failure), q) ∧
      failure.isException = true ∧ q.received = p.received ++ lost ∧ q.sent = p.sent ∧
      (lost = [] ∨ lost.length < size) := by
  rcases (read_total sys settings p size).ends rfl with ⟨data, q, returned, taken, fits, short⟩ |
    ⟨failure, q, thrown, exception, lost, taken, fewer⟩
  · exact .inl ⟨data, q, returned, taken.received, taken.nothing_sent, fits, short⟩
  · exact .inr ⟨failure, lost, q, thrown, exception, taken.received, taken.nothing_sent, fewer⟩

/-- A write that stops early, and one that throws, has sent the front of the data. -/
theorem write_sends_first_octets (sys : System σ) (settings : PortSettings) (p : Port σ) (data : Octets) :
    ∃ written q, written ≤ data.length ∧ q.sent = p.sent ++ data.take written ∧ q.received = p.received ∧
      (SerialImpl.write sys settings data p = (.ok written, q) ∨
        ∃ failure, SerialImpl.write sys settings data p = (.error (.thrown failure), q) ∧
          failure.isException = true) := by
  rcases (write_total sys settings p data).ends rfl with ⟨written, q, returned, given, fits⟩ |
    ⟨failure, q, thrown, exception, written, given, fits⟩
  · exact ⟨written, q, fits, given.sent, given.nothing_received, .inl returned⟩
  · exact ⟨written, q, fits, given.sent, given.nothing_received, .inr ⟨failure, thrown, exception⟩⟩

/-! ## Lines -/

/-- No octet behind the first end of a line is taken. -/
theorem readline_takes_first_line (sys : System σ) (settings : PortSettings) (p : Port σ) (size : Nat)
    (eol : Octets) (room : Roomy size eol) :
    (∃ line q, SerialImpl.readline sys settings size eol p = (.ok line, q) ∧
      q.received = p.received ++ line ∧ q.sent = p.sent ∧
      (FirstEnd (IsLineEnd size eol) line ∨
        Unended (IsLineEnd size eol) line ∧ TimedOut settings p q)) ∨
    ∃ failure lost q, SerialImpl.readline sys settings size eol p = (.error (.thrown failure), q) ∧
      failure.isException = true ∧ q.received = p.received ++ lost ∧ q.sent = p.sent ∧
      Unended (IsLineEnd size eol) lost := by
  rcases (readline_total sys settings room p).ends rfl with ⟨line, q, returned, taken, whole⟩ |
    ⟨failure, q, thrown, exception, lost, taken, unended⟩
  · exact .inl ⟨line, q, returned, taken.received, taken.nothing_sent, whole⟩
  · exact .inr ⟨failure, lost, q, thrown, exception, taken.received, taken.nothing_sent, unended⟩

/-! ## A system with octets to deliver -/

structure PacedState where
  rest : Octets
  time : Nat
  deriving DecidableEq, Repr

/-- Delivers and accepts at most `chunk` octets a call. A call takes a nanosecond,
and a wait for nothing all of its time. -/
def pacedSystem (chunk : Nat) : System PacedState where
  answer
    | .clock, s => (s.time, { s with time := s.time + 1 })
    | .read size, s =>
      (if s.rest = [] then none else some (s.rest.take (min size chunk)),
        { rest := s.rest.drop (min size chunk), time := s.time + 1 })
    | .write data, s => (.ok (min data.length chunk), { s with time := s.time + 1 })
    | .selectRead millis, s =>
      if s.rest = [] then (.timeout, { s with time := s.time + millis.toNat * 1000000 + 1 })
      else (.ready true, { s with time := s.time + 1 })
    | .selectWrite _, s => (.ready true, { s with time := s.time + 1 })
    | .openDevice _, s => (.ok 3, { s with time := s.time + 1 })
    | .inputQueue, s => (.ok s.rest.length, { s with time := s.time + 1 })
    | .tcgetattr, s => (true, { s with time := s.time + 1 })
    | .wait _, s | .tcsetattr, s | .tcdrain, s | .tcflush, s => ((), { s with time := s.time + 1 })
    | .closeDevice _, s | .getSerial, s | .setSerial, s => (.ok (), { s with time := s.time + 1 })
  clock := PacedState.time
  clock_read _ := rfl
  clock_later _ := Nat.lt_succ_self _
  clock_onward := by
    intro α c s
    cases c with
    | selectRead millis =>
      show s.time ≤ PacedState.time (if s.rest = [] then (Selected.timeout, _) else (Selected.ready true, _)).2
      split
      · show s.time ≤ s.time + millis.toNat * 1000000 + 1
        omega
      · exact Nat.le_succ _
    | _ => exact Nat.le_succ _
  read_size := by
    intro size s data delivered
    by_cases none : s.rest = []
    · simp [none] at delivered
    · simp only [if_neg none] at delivered
      obtain rfl := Option.some.inj delivered
      rw [List.length_take]
      omega
  write_size := by
    intro data s n written
    obtain rfl : min data.length chunk = n := Except.ok.inj written
    exact Nat.min_le_left ..

/-- `Timeout::simpleTimeout(4000)`, as `connect` passes it. -/
def driverSettings : PortSettings := ⟨.simpleTimeout 4000, 400, true⟩

def freshPort (rest : Octets) : Port PacedState := ⟨⟨rest, 0⟩, { fd := some 3, isOpen := true, opened := 1 }, [], [], []⟩

theorem readline_takes_hello :
    (∃ line q, SerialImpl.readline (pacedSystem 3) driverSettings 8 [0x0D, 0x0A]
        (freshPort [0x68, 0x69, 0x0A, 0x0D, 0x0A, 0x21]) = (.ok line, q) ∧
      q.received = line ∧ q.sent = [] ∧
      (FirstEnd (IsLineEnd 8 [0x0D, 0x0A]) line ∨ Unended (IsLineEnd 8 [0x0D, 0x0A]) line ∧
        TimedOut driverSettings (freshPort [0x68, 0x69, 0x0A, 0x0D, 0x0A, 0x21]) q)) ∨
    ∃ failure lost q, SerialImpl.readline (pacedSystem 3) driverSettings 8 [0x0D, 0x0A]
        (freshPort [0x68, 0x69, 0x0A, 0x0D, 0x0A, 0x21]) = (.error (.thrown failure), q) ∧
      failure.isException = true ∧ q.received = lost ∧ q.sent = [] ∧
      Unended (IsLineEnd 8 [0x0D, 0x0A]) lost :=
  readline_takes_first_line (pacedSystem 3) driverSettings (freshPort [0x68, 0x69, 0x0A, 0x0D, 0x0A, 0x21]) 8
    [0x0D, 0x0A] ⟨by decide, by decide⟩

example : (SerialImpl.readline (pacedSystem 3) driverSettings 8 [0x0D, 0x0A]
    (freshPort [0x68, 0x69, 0x0A, 0x0D, 0x0A, 0x21])).2.received = [0x68, 0x69, 0x0A, 0x0D, 0x0A] := by
  decide +kernel

/-! ## The end of the buffer -/

theorem paced_octet {p : Port PacedState} {c : BitVec 8} {rest : Octets} (opened : p.handle.isOpen = true)
    (ahead : p.system.rest = c :: rest) :
    ∃ q, SerialImpl.read (pacedSystem 1) driverSettings 1 p = (.ok [c], q) ∧ q.handle.isOpen = true ∧
      q.system.rest = rest := by
  obtain ⟨⟨stream, time⟩, ⟨fd, isOpen, opened, closed⟩, received, sent, readings⟩ := p
  obtain rfl : isOpen = true := opened
  obtain rfl : stream = c :: rest := ahead
  exact ⟨_, rfl, rfl, rfl⟩

/-- A buffer that the tests leave alone is filled, and one octet more comes. -/
theorem paced_overrun {size : Nat} {eol : Octets} (cramped : ¬ Roomy size eol) {buffer : Octets} {left : Nat}
    (counted : buffer.length + left = size) {p : Port PacedState} (opened : p.handle.isOpen = true)
    (ahead : left < p.system.rest.length) {fuel : Nat} (enough : left < fuel) :
    (loop (readlineRound (pacedSystem 1) driverSettings size eol) fuel buffer p).1 =
      .error (.thrown (.overrun size)) := by
  induction left generalizing buffer p fuel with
  | zero =>
    obtain ⟨fuel, rfl⟩ : ∃ fewer, fuel = fewer + 1 := ⟨fuel - 1, by omega⟩
    obtain ⟨c, rest, stream⟩ := List.exists_cons_of_length_pos ahead
    obtain ⟨q, octet, -⟩ := paced_octet opened stream
    apply congrArg Prod.fst (loop_stop (t := q) _)
    unfold readlineRound
    rw [bind_ok octet, if_pos (by rw [List.length_singleton]; omega)]
    rfl
  | succ left ih =>
    obtain ⟨fuel, rfl⟩ : ∃ fewer, fuel = fewer + 1 := ⟨fuel - 1, by omega⟩
    obtain ⟨c, rest, stream⟩ := List.exists_cons_of_length_pos (Nat.lt_of_le_of_lt (Nat.zero_le _) ahead)
    obtain ⟨q, octet, opened', behind⟩ := paced_octet opened stream
    have filled : (buffer ++ [c]).length + left = size := by
      rw [List.length_append, List.length_singleton]
      omega
    have short : (buffer ++ [c]).length < eol.length := by
      by_contra long
      exact cramped ⟨by omega, by omega⟩
    have again : readlineRound (pacedSystem 1) driverSettings size eol buffer p =
        (.ok (.inl (buffer ++ [c])), q) := by
      unfold readlineRound
      rw [bind_ok octet, if_neg (by rw [List.length_singleton]; omega)]
      simp only [List.length_singleton, Nat.one_ne_zero, if_false, if_pos short]
      rfl
    rw [loop_again again]
    apply ih filled opened' _ (by omega)
    rw [stream, List.length_cons] at ahead
    rw [behind]
    omega

/-- `readline` writes into its buffer only, exactly if the buffer holds at least one
octet and the end of a line: the test of the size stands behind that of the line's
length. -/
theorem readline_stays_inside_iff (size : Nat) (eol : Octets) :
    (∀ (σ : Type) (sys : System σ) (settings : PortSettings) (p : Port σ),
      (SerialImpl.readline sys settings size eol p).1 ≠ .error (.thrown (.overrun size))) ↔ Roomy size eol := by
  constructor
  · intro inside
    by_contra cramped
    apply inside PacedState (pacedSystem 1) driverSettings (freshPort (List.replicate (size + 1) 0))
    apply paced_overrun cramped (Nat.zero_add size)
    · rfl
    · show size < (List.replicate (size + 1) 0).length
      rw [List.length_replicate]
      exact Nat.lt_succ_self size
    · omega
  · intro room σ sys settings p overruns
    rcases (readline_total sys settings room p).ends rfl with ⟨line, q, returned, -⟩ |
      ⟨failure, q, thrown, exception, -⟩
    · rw [returned] at overruns
      cases overruns
    · rw [thrown] at overruns
      cases overruns
      cases exception

/-! ## Calls in a row -/

/-- The replies put together are what was delivered and what was accepted since the
first call. Only the call that throws keeps anything for itself. -/
theorem transfers_keep_streams (sys : System σ) (settings : PortSettings) (transfers : List Transfer) (p : Port σ) :
    (∃ replies q, performAll sys settings transfers p = (.ok replies, q) ∧
      q.received = p.received ++ replies.flatMap Prod.fst ∧ q.sent = p.sent ++ replies.flatMap Prod.snd) ∨
    ∃ failure replies lost given q, performAll sys settings transfers p = (.error (.thrown failure), q) ∧
      failure.isException = true ∧ replies.length < transfers.length ∧
      (performAll sys settings (transfers.take replies.length) p).1 = .ok replies ∧
      q.received = p.received ++ (replies.flatMap Prod.fst ++ lost) ∧
      q.sent = p.sent ++ (replies.flatMap Prod.snd ++ given) := by
  induction transfers generalizing p with
  | nil => exact .inl ⟨[], p, rfl, (List.append_nil _).symm, (List.append_nil _).symm⟩
  | cons transfer transfers ih =>
    rcases (perform_total sys settings p transfer).ends rfl with ⟨reply, u, replied, moved⟩ |
      ⟨failure, q, thrown, exception, lost, given, moved⟩
    · rcases ih u with ⟨replies, q, rest, received, sent⟩ |
        ⟨failure, replies, lost, given, q, rest, exception, fewer, ahead, received, sent⟩
      · refine .inl ⟨reply :: replies, q, ?_, ?_, ?_⟩
        · show (_ >>= _ : PortRoutine σ _) p = _
          rw [bind_ok replied, bind_ok rest]
          rfl
        · rw [received, moved.received, List.flatMap_cons, List.append_assoc]
        · rw [sent, moved.sent, List.flatMap_cons, List.append_assoc]
      · refine .inr ⟨failure, reply :: replies, lost, given, q, ?_, exception, Nat.succ_lt_succ fewer, ?_, ?_, ?_⟩
        · show (_ >>= _ : PortRoutine σ _) p = _
          rw [bind_ok replied, bind_stop rest]
        · show ((_ >>= _ : PortRoutine σ _) p).1 = _
          have replies_ahead : performAll sys settings (transfers.take replies.length) u = (.ok replies, _) :=
            Prod.ext ahead rfl
          rw [bind_ok replied, bind_ok replies_ahead]
          rfl
        · rw [received, moved.received, List.flatMap_cons, List.append_assoc, List.append_assoc]
        · rw [sent, moved.sent, List.flatMap_cons, List.append_assoc, List.append_assoc]
    · refine .inr ⟨failure, [], lost, given, q, ?_, exception, Nat.zero_lt_succ _, rfl, moved.received, moved.sent⟩
      show (_ >>= _ : PortRoutine σ _) p = _
      rw [bind_stop thrown]

end AsDt1.Guarantees
