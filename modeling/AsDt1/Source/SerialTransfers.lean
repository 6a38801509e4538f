import AsDt1.Lib.Total
import AsDt1.Source.SerialImpl

/-!
# One transfer through the port

What `SerialImpl::read` and `SerialImpl::write` have moved when they end: a part of
the stream of octets in its order, however the system cuts it into pieces,
interrupts the calls or fails.
-/
namespace AsDt1.Source.SerialImpl
open AsDt1.Lib Routine

variable {σ : Type} (sys : System σ) (settings : PortSettings)

/-- From `p` to `q` the system has delivered `received` and accepted `sent`. -/
structure Transferred (p q : Port σ) (received sent : Octets) : Prop where
  received : q.received = p.received ++ received
  sent : q.sent = p.sent ++ sent
  handle : q.handle = p.handle
  readings : p.readings <+: q.readings
  clock : sys.clock p.system ≤ sys.clock q.system

namespace Transferred

variable {sys} {p q r : Port σ} {received sent received' sent' : Octets}

theorem refl (p : Port σ) : Transferred sys p p [] [] where
  received := (List.append_nil _).symm
  sent := (List.append_nil _).symm
  handle := rfl
  readings := List.prefix_refl _
  clock := Nat.le_refl _

theorem trans (first : Transferred sys p q received sent) (second : Transferred sys q r received' sent') :
    Transferred sys p r (received ++ received') (sent ++ sent') where
  received := by rw [second.received, first.received, List.append_assoc]
  sent := by rw [second.sent, first.sent, List.append_assoc]
  handle := second.handle.trans first.handle
  readings := first.readings.trans second.readings
  clock := Nat.le_trans first.clock second.clock

theorem after (first : Transferred sys p q received sent) (second : Transferred sys q r [] []) :
    Transferred sys p r received sent := by
  have both := first.trans second
  rwa [List.append_nil, List.append_nil] at both

theorem before (first : Transferred sys p q [] []) (second : Transferred sys q r received sent) :
    Transferred sys p r received sent := first.trans second

theorem nothing_sent (moved : Transferred sys p q received []) : q.sent = p.sent := by
  rw [moved.sent, List.append_nil]

theorem nothing_received (moved : Transferred sys p q [] sent) : q.received = p.received := by
  rw [moved.received, List.append_nil]

end Transferred

/-! ## Single calls -/

section Calls

variable {p q : Port σ}

theorem call_transferred {α : Type} (c : SystemCall α) :
    ∃ q, call sys c p = (.ok (sys.answer c p.system).1, q) ∧ Transferred sys p q [] [] :=
  ⟨_, rfl, (List.append_nil _).symm, (List.append_nil _).symm, rfl, List.prefix_refl _, sys.clock_onward c _⟩

theorem call_total {α : Type} (c : SystemCall α) {X : PortFailure → Port σ → Prop} :
    Total (fun t => Transferred sys p t [] []) (call sys c) (fun _ t => Transferred sys p t [] []) X := by
  apply Total.of_ok
  intro t moved
  obtain ⟨u, called, again⟩ := call_transferred sys c (p := t)
  exact ⟨_, u, called, moved.after again⟩

theorem timespecNow_reads :
    ∃ q, timespecNow sys p = (.ok (sys.clock p.system), q) ∧ Transferred sys p q [] [] ∧
      sys.clock p.system < sys.clock q.system ∧ q.readings = p.readings ++ [sys.clock p.system] := by
  refine ⟨{ p with system := (sys.answer .clock p.system).2, readings := p.readings ++ [sys.clock p.system] },
    ?_, ⟨(List.append_nil _).symm, (List.append_nil _).symm, rfl, List.prefix_append .., ?_⟩,
    sys.clock_later _, rfl⟩
  · rw [← sys.clock_read]
    rfl
  · exact sys.clock_onward .clock _

theorem millisecondTimer_starts (millis : BitVec 32) :
    ∃ q, millisecondTimer sys millis p = (.ok (sys.clock p.system + millis.toNat * 1000000), q) ∧
      Transferred sys p q [] [] ∧ sys.clock p.system < sys.clock q.system ∧
      q.readings = p.readings ++ [sys.clock p.system] := by
  obtain ⟨q, now, moved, later, noted⟩ := timespecNow_reads sys (p := p)
  refine ⟨q, ?_, moved, later, noted⟩
  unfold millisecondTimer
  rw [bind_ok now]
  rfl

theorem remaining_reads (expiry : Nat) :
    ∃ q, remaining sys expiry p = (.ok (Int.tdiv (expiry - sys.clock p.system) 1000000), q) ∧
      Transferred sys p q [] [] ∧ sys.clock p.system < sys.clock q.system ∧
      q.readings = p.readings ++ [sys.clock p.system] := by
  obtain ⟨q, now, moved, later, noted⟩ := timespecNow_reads sys (p := p)
  refine ⟨q, ?_, moved, later, noted⟩
  unfold remaining
  rw [bind_ok now]
  rfl

/-- What is left of the time, when the timer was started at `start`. -/
theorem remaining_positive (start now : Nat) (millis : BitVec 32) :
    Int.tdiv ((start + millis.toNat * 1000000 : Nat) - now) 1000000 ≤ 0 ↔
      start + millis.toNat * 1000000 < now + 1000000 := by
  by_cases early : (0 : Int) ≤ (start + millis.toNat * 1000000 : Nat) - now
  · rw [Int.tdiv_eq_ediv_of_nonneg early]
    omega
  · have late : 0 ≤ Int.tdiv (-((start + millis.toNat * 1000000 : Nat) - now)) 1000000 :=
      Int.tdiv_nonneg (by omega) (by omega)
    rw [Int.neg_tdiv] at late
    omega

theorem sysRead_total (size : Nat) {X : PortFailure → Port σ → Prop} :
    Total (fun t => Transferred sys p t [] []) (sysRead sys size)
      (fun data t => Transferred sys p t (data.getD []) [] ∧ (data.getD []).length ≤ size) X := by
  apply Total.of_ok
  intro t moved
  refine ⟨_, _, rfl, moved.before ⟨rfl, (List.append_nil _).symm, rfl, List.prefix_refl _, ?_⟩, ?_⟩
  · exact sys.clock_onward _ _
  · cases read : (sys.answer (.read size) t.system).1 with
    | none => exact Nat.zero_le _
    | some data => exact sys.read_size size _ data read

end Calls

/-! ## Reading -/

section Reading

variable {p q : Port σ}

/-- An exception, with nothing delivered since `p`. -/
def Thrown (sys : System σ) (p : Port σ) (failure : PortFailure) (t : Port σ) : Prop :=
  failure.isException = true ∧ Transferred sys p t [] []

theorem waitReadable_total (timeout : BitVec 32) :
    Total (fun t => Transferred sys p t [] []) (waitReadable sys timeout)
      (fun _ t => Transferred sys p t [] []) (Thrown sys p) := by
  apply Total.bind (call_total sys _)
  intro selected
  rcases selected with (_ | _ | errno) | _ | (_ | _)
  · exact Total.pure fun _ moved => moved
  · exact Total.throw fun _ moved => ⟨rfl, moved⟩
  · exact Total.throw fun _ moved => ⟨rfl, moved⟩
  · exact Total.pure fun _ moved => moved
  · exact Total.throw fun _ moved => ⟨rfl, moved⟩
  · exact Total.pure fun _ moved => moved

theorem callOrThrow_total {α : Type} (c : SystemCall (Except Errno α)) :
    Total (fun t => Transferred sys p t [] []) (callOrThrow sys c)
      (fun _ t => Transferred sys p t [] []) (Thrown sys p) := by
  apply Total.bind (call_total sys _)
  intro answer
  cases answer with
  | ok a => exact Total.pure fun _ moved => moved
  | error errno => exact Total.throw fun _ moved => ⟨rfl, moved⟩

theorem available_total :
    Total (fun t => Transferred sys p t [] []) (available sys)
      (fun _ t => Transferred sys p t [] []) (Thrown sys p) := by
  apply Total.get
  intro t moved
  by_cases closed : (!t.handle.isOpen) = true
  · rw [if_pos closed]
    apply Total.pure
    rintro u rfl
    exact moved
  · rw [if_neg closed]
    rintro u rfl
    exact callOrThrow_total sys .inputQueue u moved

theorem awaitRest_total (size bytesRead : Nat) :
    Total (fun t => Transferred sys p t [] []) (awaitRest sys settings size bytesRead)
      (fun _ t => Transferred sys p t [] []) (Thrown sys p) := by
  unfold awaitRest
  split
  · apply Total.bind (available_total sys)
    intro bytesAvailable
    split
    · exact call_total sys _
    · exact Total.pure fun _ moved => moved
  · exact Total.pure fun _ moved => moved

/-- Where a pass of the loop leaves the buffer. -/
def Filled (sys : System σ) (p : Port σ) (size : Nat) (buf : Octets) :
    (answer : Octets ⊕ Octets) → Port σ → Prop
  | .inl buf', t => ∃ data, buf' = buf ++ data ∧ Transferred sys p t data [] ∧ buf'.length < size
  | .inr buf', t => ∃ data, buf' = buf ++ data ∧ Transferred sys p t data [] ∧ buf'.length = size

theorem takeOctets_total {size : Nat} {buf : Octets} (more : buf.length < size) (data : Option Octets) :
    Total (fun t => Transferred sys p t (data.getD []) [] ∧ (data.getD []).length ≤ size - buf.length)
      (takeOctets size buf data) (Filled sys p size buf) (Thrown sys p) := by
  rcases data with _ | (_ | ⟨octet, data⟩)
  · exact Total.throw fun _ moved => ⟨rfl, moved.1⟩
  · exact Total.throw fun _ moved => ⟨rfl, moved.1⟩
  · intro t ⟨moved, fits⟩
    simp only [Option.getD_some] at moved fits
    have sized : (buf ++ octet :: data).length = buf.length + (octet :: data).length := List.length_append
    unfold takeOctets
    by_cases full : (buf ++ octet :: data).length = size
    · simp only [if_pos full]
      exact ⟨_, rfl, moved, full⟩
    · have less : (buf ++ octet :: data).length < size := by omega
      simp only [if_neg full, if_pos less]
      exact ⟨_, rfl, moved, less⟩

/-- A pass behind its test of the time. -/
theorem attempt_total {size : Nat} {buf : Octets} (more : buf.length < size) (timeout : BitVec 32) :
    Total (fun t => Transferred sys p t [] [])
      (do
        let readable ← waitReadable sys timeout
        if readable then
          awaitRest sys settings size buf.length
          let data ← sysRead sys (size - buf.length)
          takeOctets size buf data
        else return .inl buf)
      (Filled sys p size buf) (Thrown sys p) := by
  apply Total.bind (waitReadable_total sys timeout)
  intro readable
  split
  · apply Total.bind (awaitRest_total sys settings size buf.length)
    intro _
    apply Total.bind (sysRead_total sys _)
    exact takeOctets_total sys more
  · exact Total.pure fun t moved => ⟨[], (List.append_nil _).symm, moved, more⟩

/-- The clock was read in time for the timer, and again when it had run out. -/
def Expired (millis : BitVec 32) (readings : List Nat) : Prop :=
  ∃ start middle last, readings = start :: (middle ++ [last]) ∧
    start + millis.toNat * 1000000 < last + 1000000

/-- What `read` has read when it returns: all, or what came before the timeout. -/
structure ReadEnds (sys : System σ) (millis : BitVec 32) (size : Nat) (p : Port σ) (data : Octets) (q : Port σ) :
    Prop where
  transferred : Transferred sys p q data []
  fits : data.length ≤ size
  short : data.length < size → ∃ readings, q.readings = p.readings ++ readings ∧ Expired millis readings

/-- An exception of `read`, and the octets of the request that had come. -/
def Lost (sys : System σ) (size : Nat) (p : Port σ) (failure : PortFailure) (t : Port σ) : Prop :=
  failure.isException = true ∧ ∃ lost, Transferred sys p t lost [] ∧ (lost = [] ∨ lost.length < size)

theorem readLoop_total {start : Nat} (millis : BitVec 32) {size : Nat} {got : Octets}
    (timed : Transferred sys p q got []) (noted : p.readings ++ [start] <+: q.readings)
    (due : start < sys.clock q.system) (fits : got.length ≤ size) :
    Total (fun t => t = q)
      (loop (readRound sys settings (start + millis.toNat * 1000000) size) (roundsWithin millis) got)
      (ReadEnds sys millis size p) (Lost sys size p) := by
  let expiry := start + millis.toNat * 1000000
  let I : Octets → Port σ → Prop := fun buf t =>
    Transferred sys p t buf [] ∧ p.readings ++ [start] <+: t.readings ∧ buf.length ≤ size
  have looped := Total.loop (I := I) (R := ReadEnds sys millis size p) (X := Lost sys size p)
    (readRound sys settings expiry size)
    (fun _ t => expiry + 1 - sys.clock t.system) ?_ (roundsWithin millis) got
  · apply Total.conseq looped
    · rintro t rfl
      refine ⟨⟨timed, noted, fits⟩, ?_⟩
      show start + millis.toNat * 1000000 + 1 - _ < millis.toNat * 1000000 + 3
      omega
    · exact fun _ _ holds => holds
    · exact fun _ _ holds => holds
  · intro buf n t ⟨⟨moved, since, room⟩, measured⟩
    unfold readRound
    by_cases more : buf.length < size
    · rw [if_pos more]
      obtain ⟨u, reading, waited, later, noted'⟩ := remaining_reads sys expiry (p := t)
      rw [bind_ok reading]
      by_cases late : Int.tdiv ((expiry : Nat) - sys.clock t.system) 1000000 ≤ 0
      · rw [if_pos late]
        obtain ⟨middle, split⟩ := since
        refine ⟨moved.after waited, room, fun _ => ⟨start :: (middle ++ [sys.clock t.system]), ?_, start, middle,
          _, rfl, (remaining_positive _ _ _).mp late⟩⟩
        rw [noted', ← split]
        simp
      · rw [if_neg late]
        have attempt := attempt_total sys settings (p := u) more
          (selectTimeout settings (Int.tdiv ((expiry : Nat) - sys.clock t.system) 1000000))
        apply attempt.conseq (fun _ same => same) _ _ u (Transferred.refl u)
        · intro answer v filled
          cases answer with
          | inl buf' =>
            obtain ⟨data, rfl, moved', less⟩ := filled
            have onward := moved'.clock
            refine ⟨⟨(moved.after waited).trans moved', ?_, Nat.le_of_lt less⟩, ?_⟩
            · exact since.trans (waited.readings.trans moved'.readings)
            · have early := mt (remaining_positive _ _ _).mpr late
              show expiry + 1 - _ < n
              have : ¬ expiry < sys.clock t.system + 1000000 := early
              omega
          | inr buf' =>
            obtain ⟨data, rfl, moved', full⟩ := filled
            exact ⟨(moved.after waited).trans moved', Nat.le_of_eq full, fun less => absurd full (Nat.ne_of_lt less)⟩
        · rintro failure v ⟨exception, moved'⟩
          exact ⟨exception, buf, (moved.after waited).after moved', .inr more⟩
    · rw [if_neg more]
      exact ⟨moved, room, fun less => absurd less more⟩

/-- `read` on an open port, behind the start of its timer. -/
theorem readOpen_total (size : Nat) {start : Nat} {millis : BitVec 32} (moved : Transferred sys p q [] [])
    (noted : p.readings ++ [start] <+: q.readings) (due : start < sys.clock q.system) :
    Total (fun t => t = q)
      (do
        let available ← sysRead sys size
        loop (readRound sys settings (start + millis.toNat * 1000000) size) (roundsWithin millis)
          (available.getD []))
      (ReadEnds sys millis size p) (Lost sys size p) := by
  apply Total.bind (Q := fun data t => Transferred sys q t (data.getD []) [] ∧ (data.getD []).length ≤ size)
  · rintro t rfl
    exact sysRead_total sys size (X := Lost sys size p) t (.refl t)
  · intro data
    apply Total.from_each
    intro u read
    obtain ⟨prefilled, fits⟩ := read
    exact readLoop_total sys settings millis (moved.before prefilled) (noted.trans prefilled.readings)
      (Nat.lt_of_lt_of_le due prefilled.clock) fits

theorem read_total (p : Port σ) (size : Nat) :
    Total (fun t => t = p) (read sys settings size) (ReadEnds sys (readTimeoutMs settings size) size p)
      (Lost sys size p) := by
  apply Total.get
  intro t (same : t = p)
  rw [same]
  by_cases closed : (!p.handle.isOpen) = true
  · rw [if_pos closed]
    apply Total.throw
    rintro _ rfl
    exact ⟨rfl, [], .refl _, .inl rfl⟩
  · rw [if_neg closed]
    obtain ⟨q, timer, moved, later, noted⟩ := millisecondTimer_starts sys (p := p) (readTimeoutMs settings size)
    rintro _ rfl
    rw [bind_ok timer]
    exact readOpen_total sys settings size moved (noted ▸ List.prefix_refl _) later q rfl

end Reading

/-! ## Writing -/

section Writing

variable {p q : Port σ}

theorem sysWrite_total (data : Octets) {X : PortFailure → Port σ → Prop} :
    Total (fun t => Transferred sys p t [] []) (sysWrite sys data)
      (fun n t => Transferred sys p t [] (accepted data n) ∧ ∀ m, n = .ok m → m ≤ data.length) X := by
  apply Total.of_ok
  intro t moved
  refine ⟨_, _, rfl, moved.before ⟨(List.append_nil _).symm, rfl, rfl, List.prefix_refl _, ?_⟩, ?_⟩
  · exact sys.clock_onward _ _
  · exact fun m written => sys.write_size data _ m written

/-- Where a pass of the loop has come to. -/
def Given (sys : System σ) (p : Port σ) (data : Octets) (written : Nat) :
    (answer : (Nat × Bool) ⊕ Nat) → Port σ → Prop
  | .inl (written', firstIteration), t => ∃ n, written' = written + n ∧ firstIteration = false ∧
      Transferred sys p t [] ((data.drop written).take n) ∧ written' < data.length
  | .inr written', t => ∃ n, written' = written + n ∧
      Transferred sys p t [] ((data.drop written).take n) ∧ written' ≤ data.length

theorem giveOctets_total {data : Octets} {written : Nat} (more : written < data.length) (n : Except Errno Nat) :
    Total (fun t => Transferred sys p t [] (accepted (data.drop written) n) ∧
        ∀ m, n = .ok m → m ≤ (data.drop written).length)
      (giveOctets data written n) (Given sys p data written) (Thrown sys p) := by
  rcases n with (_ | _ | errno) | (_ | n)
  · exact Total.pure fun _ moved => ⟨0, rfl, rfl, moved.1, more⟩
  · exact Total.throw fun _ moved => ⟨rfl, moved.1⟩
  · exact Total.throw fun _ moved => ⟨rfl, moved.1⟩
  · exact Total.throw fun _ moved => ⟨rfl, moved.1⟩
  · intro t ⟨moved, bound⟩
    have fits := bound (n + 1) rfl
    rw [List.length_drop] at fits
    have counted : (giveOctets data written (.ok (n + 1)) : PortRoutine σ _) = bytesWritten data written (n + 1) := rfl
    rw [counted]
    unfold bytesWritten
    by_cases whole : written + (n + 1) = data.length
    · rw [if_pos whole]
      exact ⟨n + 1, rfl, moved, Nat.le_of_eq whole⟩
    · have less : written + (n + 1) < data.length := by omega
      rw [if_neg whole, if_pos less]
      exact ⟨n + 1, rfl, rfl, moved, less⟩

theorem writeSelected_total {data : Octets} {written : Nat} (more : written < data.length)
    (selected : Selected) :
    Total (fun t => Transferred sys p t [] []) (writeSelected sys data written selected)
      (Given sys p data written) (Thrown sys p) := by
  rcases selected with (_ | _ | errno) | _ | (_ | _)
  · exact Total.pure fun _ moved => ⟨0, rfl, rfl, moved, more⟩
  · exact Total.throw fun _ moved => ⟨rfl, moved⟩
  · exact Total.throw fun _ moved => ⟨rfl, moved⟩
  · exact Total.pure fun _ moved => ⟨0, rfl, moved, Nat.le_of_lt more⟩
  · exact Total.throw fun _ moved => ⟨rfl, moved⟩
  · apply Total.bind (sysWrite_total sys _)
    exact giveOctets_total sys more

/-- What `write` has written when it ends, if `written` octets: the first ones. -/
structure WriteEnds (sys : System σ) (data : Octets) (p : Port σ) (written : Nat) (q : Port σ) : Prop where
  transferred : Transferred sys p q [] (data.take written)
  fits : written ≤ data.length

/-- An exception of `write`, behind some first part of the data. -/
def Broken (sys : System σ) (data : Octets) (p : Port σ) (failure : PortFailure) (t : Port σ) : Prop :=
  failure.isException = true ∧ ∃ written, WriteEnds sys data p written t

theorem WriteEnds.onward {data : Octets} {t u : Port σ} {written n : Nat} (ends : WriteEnds sys data p written t)
    (moved : Transferred sys t u [] ((data.drop written).take n)) (fits : written + n ≤ data.length) :
    WriteEnds sys data p (written + n) u := by
  refine ⟨?_, fits⟩
  have both := ends.transferred.trans moved
  rwa [List.append_nil, ← List.take_add] at both

theorem writeLoop_total {start : Nat} {millis : BitVec 32} {data : Octets} (timed : Transferred sys p q [] [])
    (due : start < sys.clock q.system) :
    Total (fun t => t = q)
      (loop (writeRound sys (start + millis.toNat * 1000000) data) (roundsWithin millis) (0, true))
      (WriteEnds sys data p) (Broken sys data p) := by
  let expiry := start + millis.toNat * 1000000
  have looped := Total.loop (I := fun carried => WriteEnds sys data p carried.1) (R := WriteEnds sys data p)
    (X := Broken sys data p) (writeRound sys expiry data)
    (fun carried t => (expiry + 1 - sys.clock t.system) + (if carried.2 = true then 1 else 0)) ?_
    (roundsWithin millis) (0, true)
  · apply Total.conseq looped
    · rintro t rfl
      refine ⟨⟨timed, Nat.zero_le _⟩, ?_⟩
      show start + millis.toNat * 1000000 + 1 - _ + 1 < millis.toNat * 1000000 + 3
      omega
    · exact fun _ _ holds => holds
    · exact fun _ _ holds => holds
  · rintro ⟨written, firstIteration⟩ n t ⟨ends, measured⟩
    unfold writeRound
    by_cases more : written < data.length
    · simp only [if_pos more]
      obtain ⟨u, reading, waited, later, -⟩ := remaining_reads sys expiry (p := t)
      rw [bind_ok reading]
      by_cases late : firstIteration = false ∧ Int.tdiv ((expiry : Nat) - sys.clock t.system) 1000000 ≤ 0
      · rw [if_pos late]
        exact ⟨ends.transferred.after waited, ends.fits⟩
      · rw [if_neg late]
        have attempt : Total (fun v => Transferred sys u v [] []) _ (Given sys u data written) (Thrown sys u) :=
          Total.bind (call_total sys (.selectWrite (BitVec.ofInt 32
            (Int.tdiv ((expiry : Nat) - sys.clock t.system) 1000000)))) (writeSelected_total sys more)
        apply attempt.conseq (fun _ same => same) _ _ u (Transferred.refl u)
        · intro answer v given
          cases answer with
          | inl carried =>
            obtain ⟨m, written', first', moved, less⟩ := given
            obtain ⟨_, _⟩ := carried
            subst written' first'
            have onward := moved.clock
            refine ⟨ends.onward sys (waited.before moved) (Nat.le_of_lt less), ?_⟩
            rw [← measured]
            cases firstIteration with
            | false =>
              have early : ¬ expiry < sys.clock t.system + 1000000 :=
                fun run_out => late ⟨rfl, (remaining_positive _ _ _).mpr run_out⟩
              simp only [Bool.false_eq_true, if_false]
              omega
            | true =>
              simp only [Bool.false_eq_true, if_false, if_true]
              omega
          | inr written' =>
            obtain ⟨m, rfl, moved, within⟩ := given
            exact ends.onward sys (waited.before moved) within
        · rintro failure v ⟨exception, moved⟩
          exact ⟨exception, written, (ends.transferred.after waited).after moved, ends.fits⟩
    · simp only [if_neg more]
      exact ends

theorem write_total (p : Port σ) (data : Octets) :
    Total (fun t => t = p) (write sys settings data) (WriteEnds sys data p) (Broken sys data p) := by
  apply Total.get
  intro t (same : t = p)
  rw [same]
  by_cases closed : (!p.handle.isOpen) = true
  · rw [if_pos closed]
    apply Total.throw
    rintro _ rfl
    exact ⟨rfl, 0, .refl _, Nat.zero_le _⟩
  · rw [if_neg closed]
    obtain ⟨q, timer, moved, later, -⟩ := millisecondTimer_starts sys (p := p) (writeTimeoutMs settings data.length)
    rintro _ rfl
    rw [bind_ok timer]
    exact writeLoop_total sys moved later q rfl

end Writing
end AsDt1.Source.SerialImpl
