import AsDt1.Source.WorkerHandles

/-!
# Descriptors and mappings of the video device

`v4l2_stream_off` and the reset of `_fd` stand in `stop_impl` only, which
`stop()` reaches only where it finds the flag up. A video worker that ends by
itself lowers the flag and leaves the descriptor and the mappings to the next
session. The invariant ties `_fd` and `_buffers` to what is open and mapped; it
holds as long as each video worker starts with `_fd = -1`.
-/
namespace AsDt1.Guarantees
open AsDt1.Lib AsDt1.Source

/-- At most one video descriptor is open, and a step that opens one finds every
earlier one closed and every earlier mapping unmapped exactly once. -/
structure DescriptorsReleased (s : State) : Prop where
  one_open : s.ledger.openNow.length ≤ 1
  settled : ∀ a t, step .hist s a = some t → opensVideo s a = true → s.ledger.Settled

/-- `start_impl()` finds `_fd` already released when it starts a video worker. -/
def DescriptorReleased (s : State) (a : Action) : Prop :=
  a = .api .proceed → s.api = .implSpawn → s.fd = none

instance (s : State) (a : Action) : Decidable (DescriptorReleased s a) :=
  inferInstanceAs (Decidable (_ → _ → _))

/-- The descriptor that a capability probe holds open. -/
def probedAt : V4l2Pc → List Nat
  | .probing descriptor => [descriptor]
  | _ => []

/-- The worker has not opened the device for streaming. -/
def unopenedAt : V4l2Pc → Bool
  | .openLoop | .searching | .probing _ => true
  | _ => false

/-- The worker has not reset `_buffers`. -/
def unmappedAt : V4l2Pc → Bool
  | .openLoop | .searching | .probing _ | .openedCheck | .streamOn => true
  | _ => false

def probed : Worker V4l2Pc → List Nat
  | .live _ pc => probedAt pc
  | _ => []

structure VideoLedger (s : State) : Prop where
  open_now : s.ledger.openNow = s.fd.toList ++ probed s.v4l2
  unopened : ∀ n pc, s.v4l2 = .live n pc → unopenedAt pc = true → s.fd = none
  holds : s.ledger.Holds (mappings s.buffers)
  released : s.fd = none → mappings s.buffers = []
  unmapped : ∀ n pc, s.v4l2 = .live n pc → unmappedAt pc = true → mappings s.buffers = []
  mapping : ∀ n i count, s.v4l2 = .live n (.mapping i count) →
    s.fd.isSome = true ∧
      ∃ done, done.length = i ∧ s.buffers = done ++ List.replicate (count - i) BufferStart.null

@[simp] theorem mappings_replicate_null (count : Nat) :
    mappings (List.replicate count .null) = [] := by
  simp [mappings]

theorem mappings_append (first second : List BufferStart) :
    mappings (first ++ second) = mappings first ++ mappings second :=
  List.filterMap_append

/-- Buffer `i` is set while the buffers behind it are still null. -/
theorem set_next (done : List BufferStart) {i count : Nat} (start : BufferStart)
    (length : done.length = i) (bound : i < count) :
    (done ++ List.replicate (count - i) BufferStart.null).set i start =
      (done ++ [start]) ++ List.replicate (count - (i + 1)) BufferStart.null := by
  have more : count - i = (count - (i + 1)) + 1 := by omega
  rw [more, List.replicate_succ, ← length, List.set_append_right _ _ (Nat.le_refl _), Nat.sub_self,
    List.set_cons_zero, List.append_assoc, List.singleton_append]

/-- The control point each move is made from. -/
theorem v4l2_made_at {running opened : Bool} {offset : BitVec 64} {offsetFrom : Option Nat}
    {pc : V4l2Pc} {o : V4l2Outcome} {move : V4l2Move}
    (made : v4l2Move running opened offset offsetFrom pc o = some move) :
    match move with
    | .probeOpen | .openVideo | .openFailed => pc = .searching
    | .probeClose descriptor => pc = .probing descriptor
    | .resetBuffers _ => pc = .streamOn ∧ opened = true
    | .mapBuffer i count => pc = .mapping i count ∧ i < count
    | .mapFailed i => ∃ count, pc = .mapping i count ∧ i < count
    | .lower => pc = .streamFailed
    | .leave => pc = .openedCheck
    | .lowerAndReturn => pc = .lower
    | .goto _ | .terminate => True := by
  cases pc <;> simp only [v4l2Move] at made <;> split at made
  all_goals grind

/-- Moves that only change control never lead back before an opening. -/
theorem v4l2_goto_from {running opened : Bool} {offset : BitVec 64} {offsetFrom : Option Nat}
    {pc pc' : V4l2Pc} {o : V4l2Outcome}
    (made : v4l2Move running opened offset offsetFrom pc o = some (.goto pc')) :
    probedAt pc = [] ∧ probedAt pc' = [] ∧ (unopenedAt pc' = true → unopenedAt pc = true) ∧
      (unmappedAt pc' = true → unmappedAt pc = true) ∧ ∀ i count, pc' ≠ .mapping i count := by
  cases pc <;> simp only [v4l2Move] at made <;> split at made
  all_goals grind [probedAt, unopenedAt, unmappedAt]

/-- A step that leaves descriptor, buffers and ledger alone keeps the invariant
where the worker holds no probe and is not about to open or map. -/
theorem VideoLedger.frame {s t : State} (h : VideoLedger s) (fd : t.fd = s.fd)
    (buffers : t.buffers = s.buffers) (ledger : t.ledger = s.ledger)
    (sameProbe : probed t.v4l2 = probed s.v4l2)
    (noOpening : ∀ n pc, t.v4l2 = .live n pc → unopenedAt pc = true → s.fd = none)
    (noReset : ∀ n pc, t.v4l2 = .live n pc → unmappedAt pc = true → mappings s.buffers = [])
    (noMapping : ∀ n i count, t.v4l2 ≠ .live n (.mapping i count)) : VideoLedger t := by
  constructor
  · rw [ledger, fd, sameProbe]
    exact h.open_now
  · rw [fd]
    exact noOpening
  · rw [ledger, buffers]
    exact h.holds
  · rw [fd, buffers]
    exact h.released
  · rw [buffers]
    exact noReset
  · intro n i count at_
    exact absurd at_ (noMapping n i count)

/-- A step that leaves the worker alone as well. -/
theorem VideoLedger.same {s t : State} (h : VideoLedger s) (fd : t.fd = s.fd)
    (buffers : t.buffers = s.buffers) (ledger : t.ledger = s.ledger) (v4l2 : t.v4l2 = s.v4l2) :
    VideoLedger t := by
  constructor
  · rw [ledger, fd, v4l2]
    exact h.open_now
  · rw [v4l2, fd]
    exact h.unopened
  · rw [ledger, buffers]
    exact h.holds
  · rw [fd, buffers]
    exact h.released
  · rw [v4l2, buffers]
    exact h.unmapped
  · rw [v4l2, fd, buffers]
    exact h.mapping

theorem probed_of_not_live {w : Worker V4l2Pc} (gone : w.isLive = false) : probed w = [] := by
  cases w with
  | live n pc => cases gone
  | absent | finished => rfl

/-- A step after which no video worker runs, from one that held no probe. -/
theorem VideoLedger.ended {s t : State} (h : VideoLedger s) (fd : t.fd = s.fd)
    (buffers : t.buffers = s.buffers) (ledger : t.ledger = s.ledger) (noProbe : probed s.v4l2 = [])
    (gone : t.v4l2.isLive = false) : VideoLedger t := by
  have nowhere : ∀ n pc, t.v4l2 ≠ .live n pc := by
    intro n pc live
    rw [live] at gone
    cases gone
  refine h.frame fd buffers ledger ((probed_of_not_live gone).trans noProbe.symm) ?_ ?_ ?_
  · exact fun n pc live => absurd live (nowhere n pc)
  · exact fun n pc live => absurd live (nowhere n pc)
  · exact fun n i count => nowhere n (.mapping i count)

/-! ## Steps of the video worker -/

section VideoWorker

variable {s : State} {n : Nat}

theorem video_ledger_goto {pc pc' : V4l2Pc} {o : V4l2Outcome} (h : VideoLedger s)
    (live : s.v4l2 = .live n pc)
    (made : v4l2Move s.running s.fd.isSome s.clockOffset s.offsetFrom pc o = some (.goto pc')) :
    VideoLedger (applyV4l2 s n (.goto pc')) := by
  obtain ⟨noProbe, noProbe', opening, reset, noMapping⟩ := v4l2_goto_from made
  refine h.frame rfl rfl rfl ?_ ?_ ?_ ?_
  · rw [live]
    exact noProbe'.trans noProbe.symm
  · intro n' pc'' at_ before
    cases at_
    exact h.unopened n pc live (opening before)
  · intro n' pc'' at_ before
    cases at_
    exact h.unmapped n pc live (reset before)
  · intro n' i count at_
    cases at_
    exact noMapping i count rfl

/-- While the worker searches nothing is open. -/
theorem searching_nothing_open (h : VideoLedger s) (live : s.v4l2 = .live n .searching) :
    s.fd = none ∧ s.ledger.openNow = [] ∧ mappings s.buffers = [] := by
  have closed : s.fd = none := h.unopened n _ live rfl
  refine ⟨closed, ?_, h.released closed⟩
  rw [h.open_now, closed, live]
  rfl

theorem video_ledger_probeOpen (h : VideoLedger s) (live : s.v4l2 = .live n .searching) :
    VideoLedger (applyV4l2 s n .probeOpen) := by
  obtain ⟨closed, nothing, none⟩ := searching_nothing_open h live
  constructor
  · simp [applyV4l2, Ledger.openOne, closed, nothing, probed, probedAt]
  · exact fun _ _ _ _ => closed
  · exact h.holds.frame rfl rfl
  · exact h.released
  · exact fun _ _ _ _ => none
  · exact fun _ _ _ at_ => (by cases at_)

theorem video_ledger_probeClose {descriptor : Nat} (h : VideoLedger s)
    (live : s.v4l2 = .live n (.probing descriptor)) :
    VideoLedger (applyV4l2 s n (.probeClose descriptor)) := by
  have closed : s.fd = none := h.unopened n _ live rfl
  have nothing : s.ledger.openNow = [descriptor] := by
    rw [h.open_now, closed, live]
    rfl
  constructor
  · simp [applyV4l2, Ledger.close, closed, nothing, probed, probedAt]
  · exact fun _ _ _ _ => closed
  · exact h.holds.frame rfl rfl
  · exact h.released
  · exact fun _ _ _ _ => h.released closed
  · exact fun _ _ _ at_ => (by cases at_)

theorem video_ledger_openVideo (h : VideoLedger s) (live : s.v4l2 = .live n .searching) :
    VideoLedger (applyV4l2 s n .openVideo) := by
  obtain ⟨closed, nothing, none⟩ := searching_nothing_open h live
  constructor
  · simp [applyV4l2, Ledger.openOne, nothing, probed, probedAt]
  · intro n' pc at_ before
    cases at_
    cases before
  · exact h.holds.frame rfl rfl
  · exact fun closed => (by cases closed)
  · exact fun _ _ _ _ => none
  · exact fun _ _ _ at_ => (by cases at_)

theorem video_ledger_openFailed (h : VideoLedger s) (live : s.v4l2 = .live n .searching) :
    VideoLedger (applyV4l2 s n .openFailed) := by
  obtain ⟨closed, nothing, none⟩ := searching_nothing_open h live
  constructor
  · simp [applyV4l2, nothing, probed, probedAt]
  · exact fun _ _ _ _ => rfl
  · exact h.holds
  · exact fun _ => none
  · exact fun _ _ _ _ => none
  · exact fun _ _ _ at_ => (by cases at_)

theorem video_ledger_resetBuffers (count : Nat) (h : VideoLedger s)
    (live : s.v4l2 = .live n .streamOn) (opened : s.fd.isSome = true) :
    VideoLedger (applyV4l2 s n (.resetBuffers count)) := by
  have none : mappings s.buffers = [] := h.unmapped n _ live rfl
  have nothing : mappings (List.replicate count BufferStart.null) = mappings s.buffers := by
    rw [none, mappings_replicate_null]
  constructor
  · have same := h.open_now
    rw [live] at same
    exact same
  · intro n' pc at_ before
    cases at_
    cases before
  · show s.ledger.Holds (mappings (List.replicate count BufferStart.null))
    rw [nothing]
    exact h.holds
  · exact fun _ => mappings_replicate_null count
  · intro n' pc at_ before
    cases at_
    cases before
  · intro n' i count' at_
    cases at_
    exact ⟨opened, [], rfl, rfl⟩

/-- What the buffers hold before and after buffer `i` is set. -/
theorem buffers_set {i count : Nat} (h : VideoLedger s) (start : BufferStart)
    (live : s.v4l2 = .live n (.mapping i count)) (bound : i < count) :
    ∃ done, done.length = i ∧ mappings s.buffers = mappings done ∧
      s.buffers.set i start = (done ++ [start]) ++ List.replicate (count - (i + 1)) BufferStart.null := by
  obtain ⟨-, done, length, split⟩ := h.mapping n i count live
  refine ⟨done, length, ?_, ?_⟩
  · rw [split, mappings_append, mappings_replicate_null, List.append_nil]
  · rw [split, set_next done start length bound]

theorem video_ledger_mapBuffer {i count : Nat} (h : VideoLedger s)
    (live : s.v4l2 = .live n (.mapping i count)) (bound : i < count) :
    VideoLedger (applyV4l2 s n (.mapBuffer i count)) := by
  obtain ⟨opened, -⟩ := h.mapping n i count live
  obtain ⟨done, length, before, after⟩ := buffers_set h (.mapped s.ledger.mapped) live bound
  have added : mappings (s.buffers.set i (.mapped s.ledger.mapped)) =
      mappings s.buffers ++ [s.ledger.mapped] := by
    rw [after, mappings_append, mappings_append, mappings_replicate_null, List.append_nil, before]
    rfl
  constructor
  · have same := h.open_now
    rw [live] at same
    exact same
  · intro n' pc at_ before
    cases at_
    cases before
  · show s.ledger.mapOne.Holds (mappings (s.buffers.set i (.mapped s.ledger.mapped)))
    rw [added]
    exact h.holds.mapOne
  · intro closed
    rw [show s.fd = none from closed] at opened
    cases opened
  · intro n' pc at_ before
    cases at_
    cases before
  · intro n' i' count' at_
    cases at_
    exact ⟨opened, done ++ [BufferStart.mapped s.ledger.mapped], by simp [length], after⟩

theorem video_ledger_mapFailed {i count : Nat} (h : VideoLedger s)
    (live : s.v4l2 = .live n (.mapping i count)) (bound : i < count) :
    VideoLedger (applyV4l2 s n (.mapFailed i)) := by
  obtain ⟨done, length, before, after⟩ := buffers_set h .failed live bound
  have same : mappings (s.buffers.set i .failed) = mappings s.buffers := by
    rw [after, mappings_append, mappings_append, mappings_replicate_null, before]
    simp [mappings]
  constructor
  · have sameOpen := h.open_now
    rw [live] at sameOpen
    exact sameOpen
  · intro n' pc at_ before
    cases at_
    cases before
  · show s.ledger.Holds (mappings (s.buffers.set i .failed))
    rw [same]
    exact h.holds
  · intro closed
    exact same.trans (h.released closed)
  · intro n' pc at_ before
    cases at_
    cases before
  · exact fun _ _ _ at_ => (by cases at_)

theorem video_ledger_v4l2 {pc : V4l2Pc} {o : V4l2Outcome} {move : V4l2Move} (h : VideoLedger s)
    (live : s.v4l2 = .live n pc)
    (made : v4l2Move s.running s.fd.isSome s.clockOffset s.offsetFrom pc o = some move) :
    VideoLedger (applyV4l2 s n move) := by
  have at_ := v4l2_made_at made
  cases move with
  | goto pc' => exact video_ledger_goto h live made
  | probeOpen => exact video_ledger_probeOpen h (at_ ▸ live)
  | probeClose descriptor => exact video_ledger_probeClose h (at_ ▸ live)
  | openVideo => exact video_ledger_openVideo h (at_ ▸ live)
  | openFailed => exact video_ledger_openFailed h (at_ ▸ live)
  | resetBuffers count => exact video_ledger_resetBuffers count h (at_.1 ▸ live) at_.2
  | mapBuffer i count => exact video_ledger_mapBuffer h (at_.1 ▸ live) at_.2
  | mapFailed i =>
    obtain ⟨count, at_, bound⟩ := at_
    exact video_ledger_mapFailed h (at_ ▸ live) bound
  | terminate => exact h.same rfl rfl rfl rfl
  | lower =>
    refine h.frame rfl rfl rfl ?_ ?_ ?_ ?_
    · rw [live, show pc = .streamFailed from at_]
      rfl
    · intro n' pc at_ before
      cases at_
      cases before
    · intro n' pc at_ before
      cases at_
      cases before
    · exact fun _ _ _ at_ => (by cases at_)
  | leave =>
    have at_ : pc = .openedCheck := at_
    exact h.ended rfl rfl rfl (by rw [live, at_]; rfl) rfl
  | lowerAndReturn =>
    have at_ : pc = .lower := at_
    exact h.ended rfl rfl rfl (by rw [live, at_]; rfl) rfl

end VideoWorker

/-! ## Steps of the calling thread -/

/-- `v4l2_stream_off` and `_fd = -1`, after the worker was joined. -/
theorem video_ledger_release {s : State} (h : VideoLedger s) (absent : s.v4l2 = .absent) :
    VideoLedger (releaseVideo s) := by
  unfold releaseVideo
  split
  · next descriptor opened =>
    have openNow : s.ledger.openNow = [descriptor] := by
      rw [h.open_now, opened, absent]
      rfl
    constructor
    · simp [Ledger.close, Ledger.unmapAll, openNow, absent, probed]
    · exact fun _ _ _ _ => rfl
    · exact h.holds.unmapAll.frame rfl rfl
    · exact fun _ => rfl
    · exact fun _ _ _ _ => rfl
    · intro n i count at_
      rw [show s.v4l2 = .live n (.mapping i count) from at_] at absent
      cases absent
  · exact h

theorem video_ledger_kept {s t : State} {a : Action} (handles : JoinedHandles .hist s)
    (h : VideoLedger s) (met : DescriptorReleased s a) (taken : step .hist s a = some t) :
    VideoLedger t := by
  cases a with
  | call c =>
    obtain ⟨-, rfl⟩ := step_call taken
    cases c <;> exact h.same rfl rfl rfl rfl
  | serial o =>
    obtain ⟨n, pc, move, -, -, rfl⟩ := step_serial taken
    exact h.same (by simp) (by simp) (by simp) (by simp)
  | v4l2 o =>
    obtain ⟨n, pc, move, live, made, rfl⟩ := step_v4l2 taken
    exact video_ledger_v4l2 h live made
  | api o =>
    cases api_taken taken with
    | control | begun | lowered | joinedSerial | raised | spawnedSerial | droppedV4l2
    | droppedSerial | aborted => exact h.same rfl rfl rfl rfl
    | joinedInStop r at_ gone => exact h.ended rfl rfl rfl (probed_of_not_live gone) rfl
    | joinedInStart at_ gone => exact h.ended rfl rfl rfl (probed_of_not_live gone) rfl
    | spawnedV4l2 at_ =>
      have proceeds : o = .proceed := api_proceeds taken (by rw [at_]; rfl)
      have closed : s.fd = none := met (by rw [proceeds]) at_
      have absent : s.v4l2 = .absent := handles.v4l2_absent (by rw [at_]; rfl)
      refine h.frame rfl rfl rfl ?_ (fun _ _ _ _ => closed) (fun _ _ _ _ => h.released closed)
        (fun _ _ _ at_ => (by cases at_))
      rw [absent]
      rfl
    | released r at_ =>
      have absent : s.v4l2 = .absent := handles.v4l2_absent (by rw [at_]; cases r <;> rfl)
      exact (video_ledger_release h absent).same rfl rfl rfl rfl
    | returned r =>
      obtain ⟨settings, pc, same⟩ := returnStop_eq .hist s r
      rw [same]
      exact h.same rfl rfl rfl rfl
    | stopped r =>
      obtain ⟨settings, pc, same⟩ := returnStop_eq .hist { s with serial := .absent } r
      rw [same]
      exact h.same rfl rfl rfl rfl

theorem video_ledger_start : VideoLedger (deviceMachine .hist).start :=
  ⟨rfl, fun _ _ at_ => (by cases at_), .empty, fun _ => rfl, fun _ _ at_ => (by cases at_),
    fun _ _ _ at_ => (by cases at_)⟩

theorem released_of_ledger {s : State} (h : VideoLedger s) : DescriptorsReleased s := by
  constructor
  · rw [h.open_now]
    cases live : s.v4l2 with
    | live n pc =>
      cases pc with
      | probing descriptor => simp [probed, probedAt, h.unopened n _ live rfl]
      | _ => cases s.fd <;> simp [probed, probedAt]
    | absent | finished => cases s.fd <;> simp [probed]
  · intro a t taken opens
    cases a with
    | v4l2 o =>
      obtain ⟨n, pc, move, live, made, -⟩ := step_v4l2 taken
      have opening : move.opensVideo = true := by simpa [opensVideo, live, made] using opens
      have at_ : pc = .searching := by
        have from_ := v4l2_made_at made
        cases move with
        | probeOpen | openVideo => exact from_
        | _ => cases opening
      obtain ⟨-, nothing, none⟩ := searching_nothing_open h (at_ ▸ live)
      exact (none ▸ h.holds).settled nothing
    | call | api | serial => cases opens

/-- In every run in which `start_impl()` never starts a video worker while `_fd`
still holds a descriptor, descriptors and mappings are released in time. -/
theorem descriptors_released {s : State}
    (reached : (deviceMachine .hist).Reached DescriptorReleased s) : DescriptorsReleased s :=
  released_of_ledger <|
    reached.invariant_with (fun _ r => handles_of_reached r) video_ledger_start
      fun _ _ _ handles h met taken => video_ledger_kept handles h met taken

/-- Session 1 maps a buffer and publishes; an orderly `stop()` releases both, and
session 2 is about to open the device again. -/
theorem descriptors_released_restart :
    ∃ s, (deviceMachine .hist).Reached DescriptorReleased s ∧ DescriptorsReleased s ∧
      (opensVideo s (.v4l2 .proceed) && s.ledger.opened == 1 && s.ledger.mapped == 1) = true := by
  obtain ⟨s, reached, opening⟩ := (deviceMachine .hist).exists_of_guardedRun DescriptorReleased
    (startSession ++ firstFrame ++ videoFrame ++ stopSession 4 7 ++ startSession ++ [.v4l2 .proceed])
    (fun s => opensVideo s (.v4l2 .proceed) && s.ledger.opened == 1 && s.ledger.mapped == 1)
    (by decide)
  exact ⟨s, reached, descriptors_released reached, opening⟩

/-- The stream of session 1 fails to start, which lowers the flag and leaves
descriptor 0 open; session 2 then opens the device a second time. -/
theorem second_session_opens_second_descriptor :
    ¬ ∀ s, (deviceMachine .hist).Reached Machine.Unrestricted s → DescriptorsReleased s := by
  intro always
  obtain ⟨s, reached, seen⟩ := (deviceMachine .hist).exists_of_guardedRun Machine.Unrestricted
    (startSession ++ streamOnFails ++ List.replicate 2 (.v4l2 .proceed) ++
      List.replicate 6 (.serial .proceed) ++ startSession ++ List.replicate 2 (.v4l2 .proceed))
    (fun s => s.ledger.openNow == [1, 0]) (by decide)
  have openNow : s.ledger.openNow = [1, 0] := by simpa using seen
  have bound := (always s reached).one_open
  rw [openNow] at bound
  exact absurd bound (by decide)

end AsDt1.Guarantees
