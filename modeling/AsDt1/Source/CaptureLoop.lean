import AsDt1.Lib.Machine
import AsDt1.Source.HistFrame
import AsDt1.Source.V4l2Worker

/-!
# The capture loop

The loop of `run_v4l2` (dt1_device_hist.cpp:134-191) and the queueing in
`v4l2_stream_on` (343-362), with the buffers of the video driver: what `select`,
`VIDIOC_DQBUF` and `VIDIOC_QBUF` answer is the action of a step. The driver hands
out only buffers that are queued. `xioctl` repeats interrupted calls itself; log
messages are left out.
-/
namespace AsDt1.Source
open AsDt1.Lib

/-- The fields of `v4l2_buffer` that the loop reads. -/
structure V4l2Buffer where
  index : Nat
  flags : BitVec 32
  bytesused : BitVec 32
  deriving DecidableEq, Repr

namespace V4l2Buffer

/-- `V4L2_BUF_FLAG_ERROR` -/
def flagError : BitVec 32 := 0x40

def hasError (buf : V4l2Buffer) : Bool := buf.flags &&& flagError ≠ 0

end V4l2Buffer

inductive CapturePc where
  | queueing (i : Nat)         -- 343-355: VIDIOC_QBUF of buffer i
  | streamFailed               -- 131: _running = false, the loop is not entered
  | loopTest                   -- 135: while (_running)
  | selecting                  -- 142: select
  | dequeueing                 -- 158: VIDIOC_DQBUF
  | skipping (buf : V4l2Buffer)   -- 168: VIDIOC_QBUF of a buffer with an error
  | unpacking (buf : V4l2Buffer)  -- 176: unpack_hist_frame
  | requeueing (buf : V4l2Buffer)  -- 183: VIDIOC_QBUF
  | ended (inHand : Option Nat)  -- the loop was left, perhaps with a buffer dequeued
  deriving DecidableEq, Repr

inductive CaptureAnswer where
  | running (up : Bool)
  | selected (r : Int)
  | dequeued (buf : V4l2Buffer)
  | dequeueRefused (again : Bool)  -- `errno == EAGAIN`
  | unpacked (threw : Bool)
  | queued (accepted : Bool)
  | streamOn (accepted : Bool)
  deriving DecidableEq, Repr

inductive BufferEvent where
  | dequeued (index : Nat)
  | requeued (index : Nat)
  deriving DecidableEq, Repr

structure CaptureState where
  pc : CapturePc
  /-- The buffers that the driver has. -/
  queued : Finset Nat
  /-- What the loop has taken from the driver and given back. -/
  history : List BufferEvent
  deriving DecidableEq

namespace CaptureState

def goto (s : CaptureState) (pc : CapturePc) : CaptureState := { s with pc }

def dequeue (s : CaptureState) (index : Nat) (pc : CapturePc) : CaptureState :=
  ⟨pc, s.queued.erase index, s.history ++ [.dequeued index]⟩

def requeue (s : CaptureState) (index : Nat) (pc : CapturePc) : CaptureState :=
  ⟨pc, insert index s.queued, s.history ++ [.requeued index]⟩

end CaptureState

/-- Where the loop goes with a dequeued buffer. -/
def afterDequeue (mode : ModeNbr) (buf : V4l2Buffer) : CapturePc :=
  if buf.hasError then .skipping buf
  else if buf.bytesused = BitVec.ofNat 32 mode.frameSize then .unpacking buf
  else .requeueing buf

/-- One step; `count` is `req.count`. An answer to another call is refused. -/
def captureStep (mode : ModeNbr) (count : Nat) (s : CaptureState) : CaptureAnswer → Option CaptureState
  | .queued accepted =>
    match s.pc with
    | .queueing i =>
      if i < count then
        if accepted then some ⟨.queueing (i + 1), insert i s.queued, s.history⟩ else some (s.goto .streamFailed)
      else none
    | .skipping buf => some (if accepted then s.requeue buf.index .loopTest else s.goto .loopTest)
    | .requeueing buf =>
      some (if accepted then s.requeue buf.index .loopTest else s.goto (.ended (some buf.index)))
    | _ => none
  | .streamOn accepted =>
    match s.pc with
    | .queueing i =>
      if i < count then none else some (s.goto (if accepted then .loopTest else .streamFailed))
    | _ => none
  | .running up =>
    match s.pc with
    | .loopTest => some (s.goto (if up then .selecting else .ended none))
    | _ => none
  | .selected r =>
    match s.pc with
    | .selecting => some (s.goto (if r < 0 ∨ r = 0 then .ended none else .dequeueing))
    | _ => none
  | .dequeueRefused again =>
    match s.pc with
    | .dequeueing => some (s.goto (if again then .loopTest else .ended none))
    | _ => none
  | .dequeued buf =>
    match s.pc with
    | .dequeueing => if buf.index ∈ s.queued then some (s.dequeue buf.index (afterDequeue mode buf)) else none
    | _ => none
  | .unpacked threw =>
    match s.pc with
    | .unpacking buf => some (s.goto (if threw then .ended (some buf.index) else .requeueing buf))
    | _ => none

def captureMachine (mode : ModeNbr) (count : Nat) : Machine CaptureState CaptureAnswer where
  start := ⟨.queueing 0, ∅, []⟩
  step := captureStep mode count

/-! ## What a step does to the buffers -/

/-- The buffer that is dequeued and not given back yet. -/
def CapturePc.inHand : CapturePc → Option Nat
  | .skipping buf | .unpacking buf | .requeueing buf => some buf.index
  | .ended inHand => inHand
  | _ => none

/-- The stream is on, or has been. -/
def CapturePc.capturing : CapturePc → Bool
  | .queueing _ | .streamFailed => false
  | _ => true

/-- The driver refuses a buffer that the loop skips. -/
def SkipRefused (s : CaptureState) (a : CaptureAnswer) : Prop :=
  (∃ buf, s.pc = .skipping buf) ∧ a = .queued false

/-- Every step, by what becomes of the buffers. -/
inductive CaptureTaken (count : Nat) (s : CaptureState) (a : CaptureAnswer) : CaptureState → Prop
  /-- No buffer changes hands. -/
  | moved (pc : CapturePc) (on : s.pc.capturing = true) (on' : pc.capturing = true)
      (kept : pc.inHand = s.pc.inHand) (fine : ¬ SkipRefused s a) : CaptureTaken count s a (s.goto pc)
  | queuedFirst (i : Nat) (at_ : s.pc = .queueing i) (below : i < count) :
      CaptureTaken count s a ⟨.queueing (i + 1), insert i s.queued, s.history⟩
  | started (i : Nat) (at_ : s.pc = .queueing i) (all : count ≤ i) : CaptureTaken count s a (s.goto .loopTest)
  | notStarted (i : Nat) (at_ : s.pc = .queueing i) : CaptureTaken count s a (s.goto .streamFailed)
  | dequeued (index : Nat) (pc : CapturePc) (at_ : s.pc = .dequeueing) (listed : index ∈ s.queued)
      (on' : pc.capturing = true) (held : pc.inHand = some index) : CaptureTaken count s a (s.dequeue index pc)
  | requeued (index : Nat) (on : s.pc.capturing = true) (held : s.pc.inHand = some index)
      (fine : ¬ SkipRefused s a) : CaptureTaken count s a (s.requeue index .loopTest)
  | dropped (buf : V4l2Buffer) (at_ : s.pc = .skipping buf) (refused : a = .queued false) :
      CaptureTaken count s a (s.goto .loopTest)

theorem afterDequeue_inHand (mode : ModeNbr) (buf : V4l2Buffer) :
    (afterDequeue mode buf).inHand = some buf.index ∧ (afterDequeue mode buf).capturing = true := by
  unfold afterDequeue
  split
  · exact ⟨rfl, rfl⟩
  · split
    · exact ⟨rfl, rfl⟩
    · exact ⟨rfl, rfl⟩

theorem not_skipRefused {s : CaptureState} {a : CaptureAnswer} (elsewhere : ∀ buf, s.pc ≠ .skipping buf) :
    ¬ SkipRefused s a := by
  rintro ⟨⟨buf, skips⟩, -⟩
  exact elsewhere buf skips

theorem capture_taken {mode : ModeNbr} {count : Nat} {s t : CaptureState} {a : CaptureAnswer}
    (taken : captureStep mode count s a = some t) : CaptureTaken count s a t := by
  cases at_ : s.pc with
  | queueing i =>
    cases a with
    | queued accepted =>
      simp only [captureStep, at_] at taken
      split at taken
      · next below =>
        cases accepted with
        | true => exact Option.some.inj taken ▸ .queuedFirst i at_ below
        | false => exact Option.some.inj taken ▸ .notStarted i at_
      · cases taken
    | streamOn accepted =>
      simp only [captureStep, at_] at taken
      split at taken
      · cases taken
      · next all =>
        cases accepted with
        | true => exact Option.some.inj taken ▸ .started i at_ (by omega)
        | false => exact Option.some.inj taken ▸ .notStarted i at_
    | _ => simp [captureStep, at_] at taken
  | loopTest =>
    cases a with
    | running up =>
      simp only [captureStep, at_] at taken
      obtain rfl := Option.some.inj taken
      refine .moved _ (by rw [at_]; rfl) ?_ ?_ (not_skipRefused (by simp [at_]))
      all_goals cases up <;> simp [CapturePc.capturing, CapturePc.inHand, at_]
    | _ => simp [captureStep, at_] at taken
  | selecting =>
    cases a with
    | selected r =>
      simp only [captureStep, at_] at taken
      obtain rfl := Option.some.inj taken
      refine .moved _ (by rw [at_]; rfl) ?_ ?_ (not_skipRefused (by simp [at_]))
      all_goals split <;> simp [CapturePc.capturing, CapturePc.inHand, at_]
    | _ => simp [captureStep, at_] at taken
  | dequeueing =>
    cases a with
    | dequeued buf =>
      simp only [captureStep, at_] at taken
      split at taken
      · next listed =>
        obtain rfl := Option.some.inj taken
        obtain ⟨held, on⟩ := afterDequeue_inHand mode buf
        exact .dequeued _ _ at_ listed on held
      · cases taken
    | dequeueRefused again =>
      simp only [captureStep, at_] at taken
      obtain rfl := Option.some.inj taken
      refine .moved _ (by rw [at_]; rfl) ?_ ?_ (not_skipRefused (by simp [at_]))
      all_goals cases again <;> simp [CapturePc.capturing, CapturePc.inHand, at_]
    | _ => simp [captureStep, at_] at taken
  | skipping buf =>
    cases a with
    | queued accepted =>
      simp only [captureStep, at_] at taken
      obtain rfl := Option.some.inj taken
      cases accepted with
      | true => exact .requeued _ (by rw [at_]; rfl) (by rw [at_]; rfl) (by simp [SkipRefused])
      | false => exact .dropped buf at_ rfl
    | _ => simp [captureStep, at_] at taken
  | unpacking buf =>
    cases a with
    | unpacked threw =>
      simp only [captureStep, at_] at taken
      obtain rfl := Option.some.inj taken
      refine .moved _ (by rw [at_]; rfl) ?_ ?_ (not_skipRefused (by simp [at_]))
      all_goals cases threw <;> simp [CapturePc.capturing, CapturePc.inHand, at_]
    | _ => simp [captureStep, at_] at taken
  | requeueing buf =>
    cases a with
    | queued accepted =>
      simp only [captureStep, at_] at taken
      obtain rfl := Option.some.inj taken
      cases accepted with
      | true => exact .requeued _ (by rw [at_]; rfl) (by rw [at_]; rfl) (not_skipRefused (by simp [at_]))
      | false => exact .moved _ (by rw [at_]; rfl) rfl (by rw [at_]; rfl) (not_skipRefused (by simp [at_]))
    | _ => simp [captureStep, at_] at taken
  | streamFailed | ended inHand => cases a <;> simp [captureStep, at_] at taken

/-! ## The loop within the worker's model -/

/-- The place of the video worker's model, which leaves the buffers out. -/
def CapturePc.workerPc : CapturePc → V4l2Pc
  | .queueing _ => .queueing
  | .streamFailed => .streamFailed
  | .loopTest => .captureLoop
  | .selecting | .dequeueing | .skipping _ => .capture
  | .unpacking _ => .cloudCheck
  | .requeueing _ => .requeue
  | .ended _ => .lower

/-- The worker's model goes from one place to the other, on a device that is open. -/
def WorkerGoes (pc pc' : V4l2Pc) : Prop := ∃ running o, v4l2Move running true 0 none pc o = some (.goto pc')

theorem afterDequeue_simulated (mode : ModeNbr) (buf : V4l2Buffer) :
    (afterDequeue mode buf).workerPc = .capture ∨ WorkerGoes .capture (afterDequeue mode buf).workerPc := by
  unfold afterDequeue
  split
  · exact .inl rfl
  · split
    · exact .inr ⟨true, .proceed, rfl⟩
    · exact .inr ⟨true, .wrongSize, rfl⟩

/-- Unless the callback throws, a step of the loop is one of the worker's model or
stays at the same place of it. -/
theorem capture_simulated {mode : ModeNbr} {count : Nat} {s t : CaptureState} {a : CaptureAnswer}
    (taken : captureStep mode count s a = some t) (returns : a ≠ .unpacked true) :
    t.pc.workerPc = s.pc.workerPc ∨ WorkerGoes s.pc.workerPc t.pc.workerPc := by
  obtain ⟨pc, queued, history⟩ := s
  cases a with
  | queued accepted =>
    cases pc with
    | queueing i =>
      simp only [captureStep] at taken
      split at taken
      · cases accepted
        · obtain rfl := Option.some.inj taken
          exact .inr ⟨true, .refuse, rfl⟩
        · obtain rfl := Option.some.inj taken
          exact .inl rfl
      · cases taken
    | skipping buf =>
      obtain rfl := Option.some.inj taken
      cases accepted <;> exact .inr ⟨true, .again, rfl⟩
    | requeueing buf =>
      obtain rfl := Option.some.inj taken
      cases accepted
      · exact .inr ⟨true, .refuse, rfl⟩
      · exact .inr ⟨true, .proceed, rfl⟩
    | _ => cases taken
  | streamOn accepted =>
    cases pc with
    | queueing i =>
      simp only [captureStep] at taken
      split at taken
      · cases taken
      · obtain rfl := Option.some.inj taken
        cases accepted
        · exact .inr ⟨true, .refuse, rfl⟩
        · exact .inr ⟨true, .proceed, rfl⟩
    | _ => cases taken
  | running up =>
    cases pc with
    | loopTest =>
      obtain rfl := Option.some.inj taken
      cases up
      · exact .inr ⟨false, .proceed, rfl⟩
      · exact .inr ⟨true, .proceed, rfl⟩
    | _ => cases taken
  | selected r =>
    cases pc with
    | selecting =>
      obtain rfl := Option.some.inj taken
      simp only [CaptureState.goto]
      split
      · exact .inr ⟨true, .refuse, rfl⟩
      · exact .inl rfl
    | _ => cases taken
  | dequeueRefused again =>
    cases pc with
    | dequeueing =>
      obtain rfl := Option.some.inj taken
      cases again
      · exact .inr ⟨true, .refuse, rfl⟩
      · exact .inr ⟨true, .again, rfl⟩
    | _ => cases taken
  | dequeued buf =>
    cases pc with
    | dequeueing =>
      simp only [captureStep] at taken
      split at taken
      · obtain rfl := Option.some.inj taken
        exact afterDequeue_simulated mode buf
      · cases taken
    | _ => cases taken
  | unpacked threw =>
    cases pc with
    | unpacking buf =>
      obtain rfl := Option.some.inj taken
      cases threw
      · exact .inr ⟨true, .nothing, rfl⟩
      · exact absurd rfl returns
    | _ => cases taken

theorem capture_run_simulated {mode : ModeNbr} {count : Nat} {s t : CaptureState} {as : List CaptureAnswer}
    (ran : (captureMachine mode count).run s as = some t) (returns : .unpacked true ∉ as) :
    Relation.ReflTransGen WorkerGoes s.pc.workerPc t.pc.workerPc := by
  induction as generalizing s with
  | nil =>
    obtain rfl : s = t := by simpa using ran
    exact .refl
  | cons a as ih =>
    obtain ⟨u, taken, rest⟩ := (captureMachine mode count).run_cons.mp ran
    have onward := ih rest fun listed => returns (List.mem_cons_of_mem a listed)
    rcases capture_simulated taken (fun same => returns (by rw [same]; exact List.mem_cons_self)) with same | goes
    · rwa [same] at onward
    · exact .head goes onward

end AsDt1.Source
