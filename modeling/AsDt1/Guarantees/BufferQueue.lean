import AsDt1.Source.CaptureLoop

/-!
# Capture buffers across iterations

At most one buffer is away from the driver, the one in hand. A refused
`VIDIOC_QBUF` ends the loop where the frame was looked at, and is ignored where it
had an error: that buffer is never handed out again, so it stays away for good.
-/
namespace AsDt1.Guarantees
open AsDt1.Lib AsDt1.Source

/-- Every requested buffer is queued, and what was dequeued has been requeued once. -/
structure AllRequeued (count : Nat) (s : CaptureState) : Prop where
  queued : ∀ i < count, i ∈ s.queued
  once : ∃ indices : List Nat, s.history = indices.flatMap fun i => [.dequeued i, .requeued i]

structure BuffersHeld (count : Nat) (s : CaptureState) : Prop where
  starting : ∀ i, s.pc = .queueing i → s.queued = Finset.range i ∧ i ≤ count ∧ s.history = []
  held : ∀ i, s.pc.inHand = some i → i < count ∧ i ∉ s.queued
  known : ∀ i ∈ s.queued, i < count

/-- A buffer is neither queued nor in hand. -/
def Leaked (count : Nat) (s : CaptureState) : Prop :=
  s.pc.capturing = true ∧ ∃ i < count, i ∉ s.queued ∧ s.pc.inHand ≠ some i

variable {mode : ModeNbr} {count : Nat} {s t : CaptureState} {a : CaptureAnswer}

theorem BuffersHeld.aside (on : t.pc.capturing = true)
    (held : ∀ i, t.pc.inHand = some i → i < count ∧ i ∉ t.queued)
    (known : ∀ i ∈ t.queued, i < count) : BuffersHeld count t where
  starting i at_ := by
    rw [at_] at on
    cases on
  held
  known

theorem buffers_held_kept (h : BuffersHeld count s) (taken : CaptureTaken count s a t) : BuffersHeld count t := by
  cases taken with
  | moved pc on on' kept fine => exact .aside on' (fun i held => h.held i (kept ▸ held)) h.known
  | queuedFirst i at_ below =>
    obtain ⟨range, -, empty⟩ := h.starting i at_
    refine ⟨fun j next => ?_, fun j held => (nomatch held), fun j listed => ?_⟩
    · obtain rfl : i + 1 = j := by simpa using next
      exact ⟨by rw [range, Finset.range_add_one], below, empty⟩
    · rcases Finset.mem_insert.mp listed with rfl | before
      · exact below
      · exact h.known j before
  | started i at_ all => exact .aside rfl (fun j held => nomatch held) h.known
  | notStarted i at_ => exact ⟨fun j next => (nomatch next), fun j held => (nomatch held), h.known⟩
  | dequeued index pc at_ listed on' held =>
    refine .aside on' (fun j held' => ?_) (fun j before => h.known j (Finset.mem_of_mem_erase before))
    obtain rfl : index = j := Option.some.inj (held.symm.trans held')
    exact ⟨h.known _ listed, Finset.notMem_erase _ _⟩
  | requeued index on held fine =>
    refine .aside rfl (fun j held => nomatch held) (fun j listed => ?_)
    rcases Finset.mem_insert.mp listed with rfl | before
    · exact (h.held _ held).1
    · exact h.known j before
  | dropped buf at_ refused => exact .aside rfl (fun j held => nomatch held) h.known

theorem not_leaked_ahead (off : s.pc.capturing = false) : ¬ Leaked count s := by
  rintro ⟨on, -⟩
  rw [off] at on
  cases on

theorem neither_ahead {i : Nat} (at_ : s.pc = .queueing i) : ¬ (Leaked count s ∨ SkipRefused s a) := by
  have ahead : ¬ Leaked count s := not_leaked_ahead (by rw [at_]; rfl)
  have fine : ¬ SkipRefused s a := not_skipRefused (by simp [at_])
  exact not_or.mpr ⟨ahead, fine⟩

/-- A buffer leaks exactly where the driver refuses one that is skipped, and stays away. -/
theorem leaked_step_iff (h : BuffersHeld count s) (taken : CaptureTaken count s a t) :
    Leaked count t ↔ Leaked count s ∨ SkipRefused s a := by
  cases taken with
  | moved pc on on' kept fine => simp [Leaked, CaptureState.goto, on, on', kept, fine]
  | queuedFirst i at_ below =>
    exact iff_of_false (not_leaked_ahead rfl) (neither_ahead at_)
  | started i at_ all =>
    refine iff_of_false ?_ (neither_ahead at_)
    rintro ⟨-, j, below, missing, -⟩
    apply missing
    change j ∈ s.queued
    rw [(h.starting i at_).1, Finset.mem_range]
    omega
  | notStarted i at_ =>
    exact iff_of_false (not_leaked_ahead rfl) (neither_ahead at_)
  | dequeued index pc at_ listed on' held =>
    have fine : ¬ SkipRefused s a := not_skipRefused (by simp [at_])
    have away : ∀ j, (j ∉ s.queued.erase index ∧ pc.inHand ≠ some j) ↔ j ∉ s.queued := by
      intro j
      rw [held, Finset.mem_erase]
      by_cases same : index = j
      · subst same
        simp [listed]
      · simp [same, Ne.symm same]
    have before : Leaked count s ↔ ∃ j < count, j ∉ s.queued := by
      simp [Leaked, at_, CapturePc.capturing, CapturePc.inHand]
    have after : Leaked count (s.dequeue index pc) ↔ ∃ j < count, j ∉ s.queued := by
      simp only [Leaked, CaptureState.dequeue, on', away, true_and]
    rw [before, after]
    simp [fine]
  | requeued index on held fine =>
    have away : ∀ j, j ∉ insert index s.queued ↔ j ∉ s.queued ∧ s.pc.inHand ≠ some j := by
      intro j
      rw [held, Finset.mem_insert]
      simp [eq_comm, and_comm]
    simp only [Leaked, CaptureState.requeue, away, fine, on, or_false]
    simp [CapturePc.capturing, CapturePc.inHand]
  | dropped buf at_ refused =>
    refine iff_of_true ?_ (.inr ⟨⟨buf, at_⟩, refused⟩)
    obtain ⟨below, away⟩ := h.held buf.index (by rw [at_]; rfl)
    refine ⟨rfl, buf.index, below, away, ?_⟩
    intro held
    cases held

/-! ## The history -/

/-- What was dequeued was requeued right away, but for the buffer in hand. -/
def Paired (s : CaptureState) : Prop :=
  ∃ indices : List Nat, s.history =
    (indices.flatMap fun i => [.dequeued i, .requeued i]) ++ s.pc.inHand.toList.map BufferEvent.dequeued

theorem paired_kept (h : BuffersHeld count s) (before : s.pc.capturing = true → Paired s)
    (fine : ¬ SkipRefused s a) (taken : CaptureTaken count s a t) : t.pc.capturing = true → Paired t := by
  intro on'
  cases taken with
  | moved pc on _ kept =>
    obtain ⟨indices, paired⟩ := before on
    exact ⟨indices, by simpa [CaptureState.goto, kept] using paired⟩
  | queuedFirst | notStarted => cases on'
  | started i at_ all =>
    obtain ⟨-, -, empty⟩ := h.starting i at_
    exact ⟨[], by simpa [CaptureState.goto, CapturePc.inHand] using empty⟩
  | dequeued index pc at_ listed _ held =>
    obtain ⟨indices, paired⟩ := before (by rw [at_]; rfl)
    have free : s.pc.inHand = none := by rw [at_]; rfl
    rw [free] at paired
    exact ⟨indices, by simp [CaptureState.dequeue, paired, held]⟩
  | requeued index on held =>
    obtain ⟨indices, paired⟩ := before on
    have free : CapturePc.loopTest.inHand = none := rfl
    rw [held] at paired
    exact ⟨indices ++ [index], by simp [CaptureState.requeue, paired, free]⟩
  | dropped buf at_ refused => exact absurd ⟨⟨buf, at_⟩, refused⟩ fine

/-- What every state satisfies: either a buffer has leaked or the history is paired. -/
structure Accounted (count : Nat) (s : CaptureState) : Prop where
  buffers : BuffersHeld count s
  paired : s.pc.capturing = true → Leaked count s ∨ Paired s

theorem accounted_start (mode : ModeNbr) (count : Nat) : Accounted count (captureMachine mode count).start where
  buffers := ⟨fun i at_ => by cases at_; exact ⟨rfl, Nat.zero_le count, rfl⟩, fun i held => (nomatch held),
    fun i listed => absurd listed (Finset.notMem_empty i)⟩
  paired on := nomatch on

theorem accounted_kept (h : Accounted count s) (taken : CaptureTaken count s a t) : Accounted count t where
  buffers := buffers_held_kept h.buffers taken
  paired on := by
    by_cases leaked : Leaked count t
    · exact .inl leaked
    · have fine := not_or.mp (mt (leaked_step_iff h.buffers taken).mpr leaked)
      exact .inr (paired_kept h.buffers (fun on => (h.paired on).resolve_left fine.1) fine.2 taken on)

/-- At the start of an iteration of any run of the loop, over all answers of the
driver: all buffers are queued if and only if the driver has never refused a buffer
that was captured with an error. -/
theorem buffers_requeued_iff {as : List CaptureAnswer} (ran : (captureMachine mode count).run
      (captureMachine mode count).start as = some t) (iteration : t.pc = .loopTest) :
    AllRequeued count t ↔
      ¬ (captureMachine mode count).Sometimes SkipRefused (captureMachine mode count).start as := by
  have everywhere : (captureMachine mode count).Meets Machine.Unrestricted (captureMachine mode count).start as :=
    (captureMachine mode count).meets_of_forall (fun _ _ _ => trivial) _
  have kept : ∀ s a t, Accounted count s → Machine.Unrestricted s a →
      (captureMachine mode count).step s a = some t → Accounted count t := by
    intro s a t h _ taken
    exact accounted_kept h (capture_taken taken)
  have accounted := (captureMachine mode count).run_invariant kept (accounted_start mode count) everywhere ran
  have latch : Leaked count t ↔ Leaked count (captureMachine mode count).start ∨
      (captureMachine mode count).Sometimes SkipRefused (captureMachine mode count).start as := by
    refine (captureMachine mode count).run_latch kept ?_ (accounted_start mode count) everywhere ran
    intro s a t h _ taken
    exact leaked_step_iff h.buffers (capture_taken taken)
  have none : ¬ Leaked count (captureMachine mode count).start := not_leaked_ahead rfl
  rw [or_iff_right none] at latch
  rw [← latch]
  have free : t.pc.inHand = Option.none := by rw [iteration]; rfl
  constructor
  · rintro all ⟨-, i, below, missing, -⟩
    exact missing (all.queued i below)
  · intro fine
    refine ⟨fun i below => ?_, ?_⟩
    · by_contra missing
      exact fine ⟨by rw [iteration]; rfl, i, below, missing, by rw [free]; nofun⟩
    · obtain ⟨indices, paired⟩ := (accounted.paired (by rw [iteration]; rfl)).resolve_left fine
      exact ⟨indices, by simpa [free] using paired⟩

/-! ## Three buffers -/

def flagged : V4l2Buffer := ⟨0, V4l2Buffer.flagError, 0⟩

/-- The stream is started and a buffer with an error captured; then `VIDIOC_QBUF` answers. -/
def errorCaptured (accepted : Bool) : List CaptureAnswer :=
  List.replicate 3 (.queued true) ++
    [.streamOn true, .running true, .selected 1, .dequeued flagged, .queued accepted]

/-- The run ends at the start of an iteration, with or without the buffer queued again. -/
theorem errorCaptured_runs (mode : ModeNbr) (accepted : Bool) :
    ∃ t, (captureMachine mode 3).run (captureMachine mode 3).start (errorCaptured accepted) = some t ∧
      t.pc = .loopTest ∧ (0 ∈ t.queued ↔ accepted = true) := by
  have checked : ((captureMachine mode 3).run (captureMachine mode 3).start (errorCaptured accepted)).any
      (fun t => decide (t.pc = .loopTest ∧ (0 ∈ t.queued ↔ accepted = true))) = true := by
    revert mode accepted
    decide
  obtain ⟨t, ran, test⟩ := (Option.any_eq_true _ _).mp checked
  exact ⟨t, ran, of_decide_eq_true test⟩

theorem error_requeued :
    ∃ mode t, (captureMachine mode 3).run (captureMachine mode 3).start (errorCaptured true) = some t ∧
      AllRequeued 3 t := by
  obtain ⟨t, ran, iteration, -⟩ := errorCaptured_runs ⟨0, by decide⟩ true
  refine ⟨_, t, ran, (buffers_requeued_iff ran iteration).mpr fun refused => ?_⟩
  obtain ⟨a, listed, s, -, rfl⟩ := Machine.exists_of_sometimes _ refused
  exact absurd listed (by decide)

/-- The driver refuses the buffer, and the next iteration starts without it. -/
theorem skipped_buffer_lost :
    ¬ ∀ (mode : ModeNbr) (count : Nat) (as : List CaptureAnswer) (t : CaptureState),
      (captureMachine mode count).run (captureMachine mode count).start as = some t → t.pc = .loopTest →
      AllRequeued count t := by
  intro always
  obtain ⟨t, ran, iteration, present⟩ := errorCaptured_runs ⟨0, by decide⟩ false
  have queued := (always _ 3 _ t ran iteration).queued 0 (by decide)
  cases present.mp queued

end AsDt1.Guarantees
