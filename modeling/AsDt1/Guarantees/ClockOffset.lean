import AsDt1.Source.WorkerHandles

/-!
# The clock offset in the stamps of point clouds

The serial worker stores `_clock_offset`; the video worker stamps its clouds with
it once it is positive. `start()` does not reset the offset, so in every session
after the first the guard can pass on a value the session has not measured.
-/
namespace AsDt1.Guarantees
open AsDt1.Lib AsDt1.Source

/-- Every cloud that can be published now carries an offset measured from a
serial frame of the session of the last raised flag. -/
def FreshStamps (s : State) : Prop :=
  ∀ a t offsetFrom, step .hist s a = some t → publishedOffset s a = some offsetFrom →
    offsetFrom = some s.session

/-- The video worker is at its test of the offset. -/
def atOffsetCheck : Worker V4l2Pc → Bool
  | .live _ .offsetCheck => true
  | _ => false

/-- The video worker has passed its test and not read the offset again. -/
def atStamp : Worker V4l2Pc → Bool
  | .live _ .stamp => true
  | _ => false

/-- The video worker is between its test of the offset and the callback. -/
def isStamping : Worker V4l2Pc → Bool
  | .live _ .stamp | .live _ (.cloudCall _ _) => true
  | _ => false

/-- The serial worker is about to store an offset without a parsed timestamp. -/
def storesUnmeasured : Worker SerialPc → Bool
  | .live _ (.offset false) => true
  | _ => false

/-- The guard `_clock_offset > 0` can be trusted: it never sees a value left by an
earlier session, and neither a new session nor an unparsed timestamp gets
between it and the stamp. -/
def GuardTrusted (s : State) : Action → Prop
  | .v4l2 _ => atOffsetCheck s.v4l2 = true → s.clockOffset = 0 ∨ s.offsetFrom = some s.session
  | .api _ => s.api = .startRaise → isStamping s.v4l2 = false
  | .serial _ => storesUnmeasured s.serial = true → atStamp s.v4l2 = false
  | .call _ => True

instance (s : State) : (a : Action) → Decidable (GuardTrusted s a)
  | .v4l2 _ => inferInstanceAs (Decidable (_ → _))
  | .api _ => inferInstanceAs (Decidable (_ → _))
  | .serial _ => inferInstanceAs (Decidable (_ → _))
  | .call _ => .isTrue trivial

/-- The offset the video worker is about to read, and the one it has read, are
the session's own. -/
structure StampCurrent (s : State) : Prop where
  to_read : atStamp s.v4l2 = true → s.offsetFrom = some s.session
  taken : ∀ n offset offsetFrom, s.v4l2 = .live n (.cloudCall offset offsetFrom) →
    offsetFrom = some s.session

theorem StampCurrent.of_not_stamping {s : State} (idle : isStamping s.v4l2 = false) :
    StampCurrent s := by
  constructor
  · intro reading
    unfold atStamp at reading
    split at reading
    · next at_ => simp [at_, isStamping] at idle
    · cases reading
  · intro n offset offsetFrom at_
    simp [at_, isStamping] at idle

/-- A step that leaves the video worker, the offset's origin and the session
alone keeps the stamp current. -/
theorem StampCurrent.frame {s t : State} (h : StampCurrent s) (v4l2 : t.v4l2 = s.v4l2)
    (offsetFrom : t.offsetFrom = s.offsetFrom) (session : t.session = s.session) :
    StampCurrent t := by
  constructor
  · rw [v4l2, offsetFrom, session]
    exact h.to_read
  · rw [v4l2, session]
    exact h.taken

/-- The two moves that lead to the callback. -/
theorem v4l2_to_stamp {running opened : Bool} {offset : BitVec 64} {offsetFrom : Option Nat}
    {pc : V4l2Pc} {o : V4l2Outcome}
    (made : v4l2Move running opened offset offsetFrom pc o = some (.goto .stamp)) :
    pc = .offsetCheck ∧ offset ≠ 0 := by
  cases pc <;> simp only [v4l2Move] at made <;> split at made
  all_goals grind

theorem v4l2_to_cloudCall {running opened : Bool} {offset taken : BitVec 64}
    {offsetFrom takenFrom : Option Nat} {pc : V4l2Pc} {o : V4l2Outcome}
    (made : v4l2Move running opened offset offsetFrom pc o =
      some (.goto (.cloudCall taken takenFrom))) :
    pc = .stamp ∧ takenFrom = offsetFrom := by
  cases pc <;> simp only [v4l2Move] at made <;> split at made
  all_goals grind

theorem stamp_current_v4l2 {s : State} {n : Nat} {pc : V4l2Pc} {o : V4l2Outcome} {move : V4l2Move}
    (h : StampCurrent s) (met : GuardTrusted s (.v4l2 o)) (live : s.v4l2 = .live n pc)
    (made : v4l2Move s.running s.fd.isSome s.clockOffset s.offsetFrom pc o = some move) :
    StampCurrent (applyV4l2 s n move) := by
  cases move with
  | goto pc' =>
    cases pc' with
    | stamp =>
      obtain ⟨rfl, positive⟩ := v4l2_to_stamp made
      have fresh : s.offsetFrom = some s.session := by
        rcases met (by rw [live]; rfl) with zero | fresh
        · exact absurd zero positive
        · exact fresh
      exact ⟨fun _ => fresh, fun n offset offsetFrom at_ => (by cases at_)⟩
    | cloudCall offset offsetFrom =>
      obtain ⟨rfl, same⟩ := v4l2_to_cloudCall made
      have fresh : s.offsetFrom = some s.session := h.to_read (by rw [live]; rfl)
      refine ⟨fun reading => (by cases reading), fun n' offset' offsetFrom' at_ => ?_⟩
      cases at_
      rw [same, fresh]
      rfl
    | _ => exact .of_not_stamping rfl
  | terminate => exact h.frame rfl rfl rfl
  | _ => exact .of_not_stamping rfl

theorem stamp_current_serial {s : State} {n : Nat} {pc : SerialPc} {o : SerialOutcome}
    {move : SerialMove} (h : StampCurrent s) (handles : JoinedHandles .hist s)
    (met : GuardTrusted s (.serial o)) (live : s.serial = .live n pc)
    (made : serialMove .hist s.running s.serialPort pc o = some move) :
    StampCurrent (applySerial s n move) := by
  cases move with
  | storeOffset value measured next =>
    have at_ : pc = .offset measured := by
      cases pc <;> simp only [serialMove] at made <;> split at made
      all_goals grind
    subst at_
    constructor
    · intro reading
      have reading' : atStamp s.v4l2 = true := by simpa using reading
      cases measured with
      | true =>
        have current : n = s.session := handles.serial_session n _ live
        simp [applySerial, current]
      | false =>
        have idle : atStamp s.v4l2 = false := met (by rw [live]; rfl)
        rw [idle] at reading'
        cases reading'
    · simpa using h.taken
  | _ => exact h.frame rfl rfl rfl

theorem stamp_current_kept {s t : State} {a : Action} (handles : JoinedHandles .hist s)
    (h : StampCurrent s) (met : GuardTrusted s a) (taken : step .hist s a = some t) :
    StampCurrent t := by
  cases a with
  | call c =>
    obtain ⟨-, rfl⟩ := step_call taken
    cases c <;> exact h.frame rfl rfl rfl
  | serial o =>
    obtain ⟨n, pc, move, live, made, rfl⟩ := step_serial taken
    exact stamp_current_serial h handles met live made
  | v4l2 o =>
    obtain ⟨n, pc, move, live, made, rfl⟩ := step_v4l2 taken
    exact stamp_current_v4l2 h met live made
  | api o =>
    cases api_taken taken with
    | raised at_ => exact .of_not_stamping (met at_)
    | spawnedV4l2 | joinedInStop | joinedInStart => exact .of_not_stamping rfl
    | control | begun | lowered | joinedSerial | spawnedSerial | droppedV4l2 | droppedSerial
    | aborted => exact h.frame rfl rfl rfl
    | returned r =>
      obtain ⟨settings, pc, same⟩ := returnStop_eq .hist s r
      rw [same]
      exact h.frame rfl rfl rfl
    | released =>
      obtain ⟨fd, buffers, ledger, same⟩ := releaseVideo_eq s
      rw [same]
      exact h.frame rfl rfl rfl
    | stopped r =>
      obtain ⟨settings, pc, same⟩ := returnStop_eq .hist { s with serial := .absent } r
      rw [same]
      exact h.frame rfl rfl rfl

/-- In every run in which the guard can be trusted at each of its tests, every
published cloud carries an offset of its own session. -/
theorem stamps_fresh {s : State} (reached : (deviceMachine .hist).Reached GuardTrusted s) :
    FreshStamps s := by
  have current : StampCurrent s :=
    reached.invariant_with (fun _ r => handles_of_reached r) (.of_not_stamping rfl)
      fun _ _ _ handles h met taken => stamp_current_kept handles h met taken
  intro a t offsetFrom taken published
  cases a with
  | v4l2 o =>
    obtain ⟨n, pc, move, live, -, -⟩ := step_v4l2 taken
    cases pc with
    | cloudCall offset offsetFrom' =>
      obtain rfl : offsetFrom' = offsetFrom := by simpa [publishedOffset, live] using published
      exact current.taken n offset offsetFrom' live
    | _ => simp [publishedOffset, live] at published
  | call | api | serial => cases published

/-- Two sessions; in the second the serial worker stores a new offset before the
video worker tests it, and the cloud about to be published carries that one. -/
theorem stamps_fresh_restart :
    ∃ s, (deviceMachine .hist).Reached GuardTrusted s ∧ FreshStamps s ∧
      (publishedOffset s (.v4l2 .proceed) == some (some 2)) = true := by
  obtain ⟨s, reached, published⟩ := (deviceMachine .hist).exists_of_guardedRun GuardTrusted
    (startSession ++ firstFrame ++ stopSession 2 7 ++ startSession ++ firstFrame ++ videoFrame)
    (fun s => publishedOffset s (.v4l2 .proceed) == some (some 2)) (by decide)
  exact ⟨s, reached, stamps_fresh reached, published⟩

/-- Session 1 measures the offset 1 and is stopped; in session 2 the video worker
publishes its first cloud before the serial worker has found the camera. -/
theorem second_session_publishes_stale_offset :
    ¬ ∀ s, (deviceMachine .hist).Reached Machine.Unrestricted s → FreshStamps s := by
  intro always
  obtain ⟨s, reached, seen⟩ := (deviceMachine .hist).exists_of_guardedRun Machine.Unrestricted
    (startSession ++ firstFrame ++ stopSession 2 7 ++ startSession ++ videoFrame)
    (fun s => decide ((step .hist s (.v4l2 .proceed)).isSome = true ∧
      publishedOffset s (.v4l2 .proceed) = some (some 1) ∧ s.session = 2))
    (by decide)
  obtain ⟨enabled, published, session⟩ := of_decide_eq_true seen
  obtain ⟨t, taken⟩ := Option.isSome_iff_exists.mp enabled
  have same : some 1 = some s.session := always s reached _ t (some 1) taken published
  have one : 1 = s.session := Option.some.inj same
  omega

end AsDt1.Guarantees
