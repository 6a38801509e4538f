import AsDt1.Source.LibraryPort

/-!
# Reads on a system that delivers in time

When the system reports and delivers the octets of a stream as long as there are
any, and its calls are quick, the library's reads are punctual: the passes of a read
that take an octet each end before its timer does.
-/
namespace AsDt1.Source
open AsDt1.Lib Routine SerialImpl

variable {σ : Type} (sys : System σ) (rest : σ → Octets)

/-! ## The condition -/

/-- Nothing of the stream is delivered, and at most `n` nanoseconds pass. -/
structure Passes (n : Nat) (s t : σ) : Prop where
  rest : rest t = rest s
  time : sys.clock t ≤ sys.clock s + n

/-- The system delivers the stream, some of it whenever it is asked and there is more,
and reports when there is. A call takes at most `each` nanoseconds, unless it waits:
for `n` of them at most `wait n`. -/
structure Timely (each : Nat) (wait : Nat → Nat) : Prop where
  now : ∀ s, Passes sys rest each s (sys.answer .clock s).2
  queue : ∀ s, Passes sys rest each s (sys.answer .inputQueue s).2 ∧ ∃ n, (sys.answer .inputQueue s).1 = .ok n
  waits : ∀ n s, Passes sys rest (wait n) s (sys.answer (.wait n) s).2
  longer : Monotone wait
  ready : ∀ millis s, rest s ≠ [] →
    (sys.answer (.selectRead millis) s).1 = .ready true ∧ Passes sys rest each s (sys.answer (.selectRead millis) s).2
  silent : ∀ millis s, rest s = [] →
    (sys.answer (.selectRead millis) s).1 = .timeout ∧ rest (sys.answer (.selectRead millis) s).2 = []
  next : ∀ size s, rest s = (sys.answer (.read size) s).1.getD [] ++ rest (sys.answer (.read size) s).2
  some_ : ∀ size s, 0 < size → rest s ≠ [] → (sys.answer (.read size) s).1.getD [] ≠ []
  read_time : ∀ size s, sys.clock (sys.answer (.read size) s).2 ≤ sys.clock s + each

/-- What a pass of the loop in `read` takes. -/
def passTime (settings : PortSettings) (each : Nat) (wait : Nat → Nat) (size : Nat) : Nat :=
  4 * each + wait (settings.byteTimeNs * size)

/-- An open port on which the whole stream can be read, an octet a pass, before the
timer of a read has less than a millisecond left. -/
structure InTime (settings : PortSettings) (each : Nat) (wait : Nat → Nat) (p : Port σ) : Prop where
  opened : p.handle.isOpen = true
  enough : ∀ size, 2 * each + (rest p.system).length * passTime settings each wait size + 1000000 ≤
    (readTimeoutMs settings size).toNat * 1000000

/-! ## Calls -/

/-- From `p` to `q` at most `n` nanoseconds have passed and nothing was read. -/
structure Spent (n : Nat) (p q : Port σ) : Prop where
  handle : q.handle = p.handle
  passes : Passes sys rest n p.system q.system
  later : sys.clock p.system ≤ sys.clock q.system

variable {sys rest} {settings : PortSettings} {each : Nat} {wait : Nat → Nat} {p q r : Port σ}
  {n m : Nat} {X : PortFailure → Port σ → Prop}

theorem Spent.trans (first : Spent sys rest n p q) (second : Spent sys rest m q r) : Spent sys rest (n + m) p r where
  handle := second.handle.trans first.handle
  passes := ⟨second.passes.rest.trans first.passes.rest, by
    have one := first.passes.time
    have two := second.passes.time
    omega⟩
  later := Nat.le_trans first.later second.later

theorem Spent.weaken (spent : Spent sys rest n p q) (few : n ≤ m) : Spent sys rest m p q :=
  { spent with passes := ⟨spent.passes.rest, Nat.le_trans spent.passes.time (Nat.add_le_add_left few _)⟩ }

theorem call_spent {α : Type} (c : SystemCall α) (passes : Passes sys rest n p.system (sys.answer c p.system).2) :
    ∃ q, SerialImpl.call sys c p = (.ok (sys.answer c p.system).1, q) ∧ Spent sys rest n p q :=
  ⟨_, rfl, rfl, passes, sys.clock_onward c _⟩

theorem Timely.timespecNow (timely : Timely sys rest each wait) (p : Port σ) :
    ∃ q, SerialImpl.timespecNow sys p = (.ok (sys.clock p.system), q) ∧ Spent sys rest each p q ∧
      sys.clock p.system < sys.clock q.system := by
  refine ⟨{ p with system := (sys.answer .clock p.system).2, readings := p.readings ++ [sys.clock p.system] }, ?_,
    ⟨rfl, timely.now _, sys.clock_onward .clock _⟩, sys.clock_later _⟩
  rw [← sys.clock_read]
  rfl

theorem Timely.millisecondTimer (timely : Timely sys rest each wait) (p : Port σ) (millis : BitVec 32) :
    ∃ q, SerialImpl.millisecondTimer sys millis p = (.ok (sys.clock p.system + millis.toNat * 1000000), q) ∧
      Spent sys rest each p q ∧ sys.clock p.system < sys.clock q.system := by
  obtain ⟨q, now, spent, onward⟩ := timely.timespecNow p
  refine ⟨q, ?_, spent, onward⟩
  unfold SerialImpl.millisecondTimer
  rw [bind_ok now]
  rfl

theorem Timely.remaining (timely : Timely sys rest each wait) (p : Port σ) (expiry : Nat) :
    ∃ q, SerialImpl.remaining sys expiry p = (.ok (Int.tdiv (expiry - sys.clock p.system) 1000000), q) ∧
      Spent sys rest each p q ∧ sys.clock p.system < sys.clock q.system := by
  obtain ⟨q, now, spent, later⟩ := timely.timespecNow p
  refine ⟨q, ?_, spent, later⟩
  unfold SerialImpl.remaining
  rw [bind_ok now]
  rfl

theorem Timely.awaitRest (timely : Timely sys rest each wait) (opened : p.handle.isOpen = true)
    (size bytesRead : Nat) :
    Total (fun t => Spent sys rest n p t) (SerialImpl.awaitRest sys settings size bytesRead)
      (fun _ t => Spent sys rest (n + each + wait (settings.byteTimeNs * size)) p t) X := by
  unfold SerialImpl.awaitRest
  split
  · apply Total.bind (Q := fun _ t => Spent sys rest (n + each) p t)
    · apply Total.of_ok
      intro t spent
      obtain ⟨counted, bytes, queued⟩ := timely.queue t.system
      obtain ⟨u, called, spent'⟩ := call_spent .inputQueue counted
      refine ⟨bytes, u, ?_, spent.trans spent'⟩
      unfold SerialImpl.available callOrThrow
      rw [bind_ok (get_apply t), if_neg (by rw [spent.handle, opened]; decide), bind_ok called, queued]
      rfl
    · intro available
      split
      · apply Total.of_ok
        intro t spent
        obtain ⟨u, waited, spent'⟩ := call_spent (p := t) (.wait (settings.byteTimeNs * (size - (available + bytesRead))))
          (timely.waits _ _)
        have fewer : size - (available + bytesRead) ≤ size := Nat.sub_le ..
        have no_longer := timely.longer (Nat.mul_le_mul_left settings.byteTimeNs fewer)
        exact ⟨(), u, waited, (spent.trans spent').weaken (Nat.add_le_add_left no_longer _)⟩
      · exact Total.pure fun t spent => spent.weaken (Nat.le_add_right ..)
  · exact Total.pure fun t spent => spent.weaken (by omega)

/-! ## A pass of the loop -/

/-- Where the loop stands: the timer has cost two calls, and each octet one pass. -/
structure ReadSoFar (sys : System σ) (rest : σ → Octets) (each pass : Nat) (p : Port σ) (size : Nat) (buf : Octets)
    (t : Port σ) : Prop where
  opened : t.handle.isOpen = true
  stream : rest p.system = buf ++ rest t.system
  fits : buf.length ≤ size
  time : rest t.system ≠ [] → sys.clock t.system ≤ sys.clock p.system + 2 * each + buf.length * pass

/-- Where a pass leaves the loop. -/
def PassEnds (sys : System σ) (rest : σ → Octets) (each pass : Nat) (p : Port σ) (size : Nat) (t : Port σ) :
    (answer : Octets ⊕ Octets) → Port σ → Prop
  | .inl buf, v => ReadSoFar sys rest each pass p size buf v ∧ sys.clock t.system < sys.clock v.system
  | .inr buf, v => ReadSoFar sys rest each pass p size buf v ∧ (buf.length < size → rest v.system = [])

variable {size : Nat} {buf : Octets} {t : Port σ}

theorem Timely.sysRead (timely : Timely sys rest each wait) (size : Nat) (u : Port σ) :
    ∃ data v, SerialImpl.sysRead sys size u = (.ok data, v) ∧ v.handle = u.handle ∧
      rest u.system = data.getD [] ++ rest v.system ∧ (data.getD []).length ≤ size ∧
      (0 < size → rest u.system ≠ [] → data.getD [] ≠ []) ∧
      sys.clock v.system ≤ sys.clock u.system + each ∧ sys.clock u.system ≤ sys.clock v.system := by
  have fits := ((sysRead_total sys size (X := fun _ _ => False)).value (Transferred.refl u) rfl).2
  exact ⟨_, _, rfl, rfl, timely.next size _, fits, timely.some_ size _, timely.read_time size _,
    sys.clock_onward _ _⟩

theorem Timely.takeOctets (timely : Timely sys rest each wait) {pass : Nat} (more : buf.length < size)
    (before : ReadSoFar sys rest each pass p size buf t) (ahead : rest t.system ≠ []) {v : Port σ}
    (ready : Spent sys rest (2 * each) t v) (onward : sys.clock t.system < sys.clock v.system)
    (within : 2 * each + n + each ≤ pass) :
    Total (fun u => Spent sys rest n v u)
      (do
        let data ← SerialImpl.sysRead sys (size - buf.length)
        SerialImpl.takeOctets size buf data)
      (PassEnds sys rest each pass p size t) X := by
  intro u waited
  have spent := ready.trans waited
  obtain ⟨data, x, read, handle, split, fits, some_, time, later⟩ := timely.sysRead (size - buf.length) u
  rw [bind_ok read]
  have delivered := some_ (by omega) (by rw [spent.passes.rest]; exact ahead)
  rcases data with _ | (_ | ⟨c, data⟩)
  · exact absurd rfl delivered
  · exact absurd rfl delivered
  · rw [Option.getD_some] at split fits
    have grown : (buf ++ c :: data).length = buf.length + (c :: data).length := List.length_append
    have so_far : ReadSoFar sys rest each pass p size (buf ++ c :: data) x := by
      refine ⟨by rw [handle, spent.handle, before.opened], ?_, by omega, ?_⟩
      · rw [before.stream, ← spent.passes.rest, split, List.append_assoc]
      · intro _
        have earlier := before.time ahead
        have taken := spent.passes.time
        have passes : buf.length * pass + pass ≤ (buf ++ c :: data).length * pass := by
          rw [grown, ← Nat.succ_mul]
          exact Nat.mul_le_mul_right pass (Nat.add_le_add_left (Nat.succ_pos _) _)
        omega
    unfold SerialImpl.takeOctets
    by_cases full : (buf ++ c :: data).length = size
    · simp only [if_pos full]
      exact ⟨so_far, fun less => absurd full (Nat.ne_of_lt less)⟩
    · have less : (buf ++ c :: data).length < size := by omega
      have since := waited.later
      simp only [if_neg full, if_pos less]
      exact ⟨so_far, by omega⟩

/-- A pass that still has time. -/
theorem Timely.attempt (timely : Timely sys rest each wait) {pass : Nat}
    (within : 4 * each + wait (settings.byteTimeNs * size) ≤ pass) (more : buf.length < size)
    (before : ReadSoFar sys rest each pass p size buf t) {u : Port σ} (spent : Spent sys rest each t u)
    (onward : sys.clock t.system < sys.clock u.system) (timeout : BitVec 32) :
    Total (fun v => v = u)
      (do
        let readable ← waitReadable sys timeout
        if readable then
          SerialImpl.awaitRest sys settings size buf.length
          let data ← SerialImpl.sysRead sys (size - buf.length)
          SerialImpl.takeOctets size buf data
        else return .inl buf)
      (PassEnds sys rest each pass p size t) X := by
  intro s (same : s = u)
  rw [same]
  have selected (answer : Selected) (same : (sys.answer (.selectRead timeout) u.system).1 = answer) :
      waitReadable sys timeout u =
        isReadable answer { u with system := (sys.answer (.selectRead timeout) u.system).2 } := by
    rw [← same]
    rfl
  by_cases ahead : rest u.system = []
  · obtain ⟨timed_out, still⟩ := timely.silent timeout u.system ahead
    have since := sys.clock_onward (.selectRead timeout) u.system
    rw [bind_ok (selected _ timed_out)]
    refine ⟨⟨by rw [← before.opened, ← spent.handle], ?_, Nat.le_of_lt more, fun some_ => absurd still some_⟩, ?_⟩
    · show rest p.system = buf ++ rest (sys.answer (.selectRead timeout) u.system).2
      rw [before.stream, ← spent.passes.rest, ahead, still]
    · exact Nat.lt_of_lt_of_le onward since
  · obtain ⟨ready, passes⟩ := timely.ready timeout u.system ahead
    let v : Port σ := { u with system := (sys.answer (.selectRead timeout) u.system).2 }
    have waited : Spent sys rest each u v := ⟨rfl, passes, sys.clock_onward _ _⟩
    have both : Spent sys rest (2 * each) t v := (spent.trans waited).weaken (by omega)
    have since := waited.later
    rw [bind_ok (selected _ ready)]
    have opened : v.handle.isOpen = true := by rw [both.handle, before.opened]
    have start : Spent sys rest 0 v v := ⟨rfl, ⟨rfl, Nat.le_refl _⟩, Nat.le_refl _⟩
    have awaited : Total (fun x => Spent sys rest 0 v x) (SerialImpl.awaitRest sys settings size buf.length)
        (fun _ x => Spent sys rest (0 + each + wait (settings.byteTimeNs * size)) v x) X :=
      timely.awaitRest opened size buf.length
    have attempt := Total.bind awaited
      fun _ => timely.takeOctets (X := X) more before (spent.passes.rest ▸ ahead) both (by omega) (by omega)
    exact attempt v start

/-! ## A read -/

/-- The loop, as long as the passes for the whole stream take less than the timer. -/
theorem Timely.readLoop (timely : Timely sys rest each wait) {pass : Nat} {millis : BitVec 32}
    (within : 4 * each + wait (settings.byteTimeNs * size) ≤ pass)
    (enough : 2 * each + (rest p.system).length * pass + 1000000 ≤ millis.toNat * 1000000)
    (before : ReadSoFar sys rest each pass p size buf q) (started : sys.clock p.system < sys.clock q.system) :
    Total (fun t => t = q)
      (loop (readRound sys settings (sys.clock p.system + millis.toNat * 1000000) size) (roundsWithin millis) buf)
      (fun data t => ReadSoFar sys rest each pass p size data t ∧ (data.length < size → rest t.system = [])) X := by
  let expiry := sys.clock p.system + millis.toNat * 1000000
  have looped := Total.loop (I := fun buf t => ReadSoFar sys rest each pass p size buf t)
    (R := fun data t => ReadSoFar sys rest each pass p size data t ∧ (data.length < size → rest t.system = []))
    (X := X) (readRound sys settings expiry size) (fun _ t => expiry + 1 - sys.clock t.system) ?_
    (roundsWithin millis) buf
  · apply looped.conseq _ (fun _ _ holds => holds) fun _ _ holds => holds
    rintro t rfl
    refine ⟨before, ?_⟩
    show sys.clock p.system + millis.toNat * 1000000 + 1 - _ < millis.toNat * 1000000 + 3
    omega
  · intro buf n t ⟨before, measured⟩
    unfold readRound
    by_cases more : buf.length < size
    · obtain ⟨u, reading, spent, onward⟩ := timely.remaining t expiry
      have positive := remaining_positive (sys.clock p.system) (sys.clock t.system) millis
      rw [if_pos more, bind_ok reading]
      by_cases late : Int.tdiv (expiry - sys.clock t.system) 1000000 ≤ 0
      · have run_out : sys.clock p.system + millis.toNat * 1000000 < sys.clock t.system + 1000000 := positive.mp late
        have none_ : rest t.system = [] := by
          by_contra ahead
          have in_time := before.time ahead
          have got : buf.length ≤ (rest p.system).length := by
            rw [before.stream, List.length_append]
            exact Nat.le_add_right ..
          have passes := Nat.mul_le_mul_right pass got
          omega
        have still : rest u.system = [] := spent.passes.rest.trans none_
        rw [if_pos late]
        refine ⟨⟨spent.handle ▸ before.opened, ?_, before.fits, fun ahead => absurd still ahead⟩, fun _ => still⟩
        rw [before.stream, spent.passes.rest]
      · have early : ¬ sys.clock p.system + millis.toNat * 1000000 < sys.clock t.system + 1000000 := mt positive.mpr late
        rw [if_neg late]
        apply (timely.attempt (X := X) within more before spent onward _).conseq (fun _ same => same) _
          (fun _ _ holds => holds) u rfl
        rintro (buf' | buf') v answered
        · have further := answered.2
          refine ⟨answered.1, ?_⟩
          show sys.clock p.system + millis.toNat * 1000000 + 1 - _ < n
          rw [← measured]
          show _ < sys.clock p.system + millis.toNat * 1000000 + 1 - _
          omega
        · exact answered
    · rw [if_neg more]
      exact ⟨before, fun less => absurd less more⟩

/-- The rest of a stream that can be read in time can be read in time. -/
theorem InTime.rest_of (in_time : InTime rest settings each wait p) (opened : q.handle.isOpen = true) {data : Octets}
    (split : rest p.system = data ++ rest q.system) : InTime rest settings each wait q := by
  refine ⟨opened, fun size => ?_⟩
  have enough := in_time.enough size
  have fewer : (rest q.system).length ≤ (rest p.system).length := by
    rw [split, List.length_append]
    exact Nat.le_add_left ..
  have passes := Nat.mul_le_mul_right (passTime settings each wait size) fewer
  omega

/-- On a timely system reads are punctual. -/
theorem Timely.punctual (timely : Timely sys rest each wait) (settings : PortSettings) :
    Punctual sys settings rest (InTime rest settings each wait) := by
  refine ⟨fun p size in_time => ?_⟩
  obtain ⟨timer, started, spent, onward⟩ := timely.millisecondTimer p (readTimeoutMs settings size)
  obtain ⟨data, q, read, handle, split, fits, -, time, later⟩ := timely.sysRead size timer
  have before : ReadSoFar sys rest each (passTime settings each wait size) p size (data.getD []) q := by
    refine ⟨by rw [handle, spent.handle, in_time.opened], by rw [← split, spent.passes.rest], fits, fun _ => ?_⟩
    have timed := spent.passes.time
    omega
  have looped := timely.readLoop (X := fun _ _ => False) (Nat.le_refl _) (in_time.enough size) before (by omega)
  rcases looped.ends rfl with ⟨whole, t, returned, so_far, ended⟩ | ⟨_, _, _, impossible⟩
  · refine ⟨whole, t, ?_, in_time.rest_of so_far.opened so_far.stream, so_far.stream, ended⟩
    unfold SerialImpl.read
    rw [bind_ok (get_apply p), if_neg (by rw [in_time.opened]; decide), bind_ok started, bind_ok read]
    exact returned
  · exact impossible.elim

end AsDt1.Source
