import Mathlib.Data.List.Induction
import AsDt1.Source.FrameData

/-!
# Timestamps of the IMU samples

`_latest_imu_sample_ts` is carried from frame to frame: a reset record sets it and
every other record moves it on by 10 ms. A second reset record ends the loop over
a frame, and the records behind it are abandoned. So a sample's timestamp counts
the records since the last reset that were not abandoned.
-/
namespace AsDt1.Guarantees
open AsDt1.Lib AsDt1.Source

/-- What one call of `unpack_imu_data` works on. -/
structure SerialFrame where
  frameTs : BitVec 64
  clockOffset : BitVec 64
  imuData : List Octets
  deriving DecidableEq, Repr

/-- `_latest_imu_sample_ts` after `start()` and the frames. -/
def latestAfter (frames : List SerialFrame) : Int :=
  frames.foldl (fun latest frame => (unpackImuData frame.frameTs frame.clockOffset latest frame.imuData).1) 0

/-- The samples that the first `i` records of frame `k` give. -/
def samplesUpTo (frames : List SerialFrame) (k : Nat) (frame : SerialFrame) (i : Nat) : List ImuSample :=
  (unpackImuData frame.frameTs frame.clockOffset (latestAfter (frames.take k)) (frame.imuData.take i)).2

/-- Record `i` of frame `k` is published as `sample`. -/
def SampleOf (frames : List SerialFrame) (k i : Nat) (frame : SerialFrame) (record : Octets)
    (sample : ImuSample) : Prop :=
  frames[k]? = some frame ∧ frame.imuData[i]? = some record ∧
    samplesUpTo frames k frame (i + 1) = samplesUpTo frames k frame i ++ [sample]

instance (frames : List SerialFrame) (k i : Nat) (frame : SerialFrame) (record : Octets) (sample : ImuSample) :
    Decidable (SampleOf frames k i frame record sample) := inferInstanceAs (Decidable (_ ∧ _ ∧ _))

/-! ## The records that count -/

/-- The records up to a second reset. -/
def keptRecords : (gotReset : Bool) → List Octets → List Octets
  | _, [] => []
  | gotReset, record :: rest =>
    if isReset record && gotReset then [] else record :: keptRecords (gotReset || isReset record) rest

/-- The records of the frames that were not abandoned, in order of arrival. -/
def counted (frames : List SerialFrame) : List (SerialFrame × Octets) :=
  frames.flatMap fun frame => (keptRecords false frame.imuData).map (frame, ·)

/-- How many records before record `i` of frame `k` were not abandoned. -/
def countedBefore (frames : List SerialFrame) (k i : Nat) : Nat := (counted (frames.take k)).length + i

theorem keptRecords_prefix (gotReset : Bool) (records : List Octets) :
    keptRecords gotReset records <+: records := by
  induction records generalizing gotReset with
  | nil => exact List.prefix_rfl
  | cons record rest ih =>
    unfold keptRecords
    split
    · exact List.nil_prefix
    · exact List.prefix_cons_inj record |>.mpr (ih _)

theorem unpackRecords_last (frameTs clockOffset : BitVec 64) (gotReset : Bool) (latest : Int)
    (records : List Octets) :
    (unpackRecords frameTs clockOffset gotReset latest records).1 =
      (keptRecords gotReset records).foldl (nextSampleTs frameTs) latest := by
  induction records generalizing gotReset latest with
  | nil => rfl
  | cons record rest ih =>
    unfold unpackRecords keptRecords
    by_cases second : (isReset record && gotReset) = true
    · rw [if_pos second, if_pos second]
      rfl
    · rw [if_neg second, if_neg second, List.foldl_cons, ← ih]
      simp only
      split <;> rfl

/-- A record that adds a sample is kept, and its sample carries the clock after it. -/
theorem sample_of_kept {frameTs clockOffset : BitVec 64} {gotReset : Bool} {latest : Int}
    {records : List Octets}
    {i : Nat} {sample : ImuSample}
    (adds : (unpackRecords frameTs clockOffset gotReset latest (records.take (i + 1))).2 =
      (unpackRecords frameTs clockOffset gotReset latest (records.take i)).2 ++ [sample]) :
    ∃ record, (keptRecords gotReset records)[i]? = some record ∧
      0 < ((keptRecords gotReset records).take (i + 1)).foldl (nextSampleTs frameTs) latest ∧
      sample = imuSampleOf (BitVec.ofInt 64 (((keptRecords gotReset records).take (i + 1)).foldl
        (nextSampleTs frameTs) latest) + clockOffset) record := by
  induction records generalizing gotReset latest i with
  | nil => simp [unpackRecords] at adds
  | cons record rest ih =>
    by_cases second : (isReset record && gotReset) = true
    · cases i <;> simp [unpackRecords, second] at adds
    · unfold keptRecords
      rw [if_neg second]
      cases i with
      | zero =>
        simp only [List.take_succ_cons, List.take_zero, unpackRecords, if_neg second] at adds
        refine ⟨record, rfl, ?_⟩
        simp only [List.take_succ_cons, List.take_zero, List.foldl_cons, List.foldl_nil]
        by_cases positive : nextSampleTs frameTs latest record > 0
        · rw [if_pos positive] at adds
          exact ⟨positive, (List.singleton_inj.mp adds).symm⟩
        · rw [if_neg positive] at adds
          simp at adds
      | succ i =>
        simp only [List.take_succ_cons, unpackRecords, if_neg second] at adds
        simp only [List.getElem?_cons_succ, List.take_succ_cons, List.foldl_cons]
        apply ih
        split at adds
        · simpa using adds
        · exact adds

/-! ## The clock over all frames -/

/-- The clock after one more counted record. -/
def tick (latest : Int) (entry : SerialFrame × Octets) : Int := nextSampleTs entry.1.frameTs latest entry.2

theorem tick_reset {frame : SerialFrame} {record : Octets} (reset : isReset record = true) (latest : Int) :
    tick latest (frame, record) = resetTs frame.frameTs record := if_pos reset

/-- A clock that stands still was never set. -/
theorem tick_normal {frame : SerialFrame} {record : Octets} (normal : isReset record = false) {latest : Int}
    (running : 0 < tick latest (frame, record)) :
    0 < latest ∧ tick latest (frame, record) = latest + 10000000 := by
  unfold tick nextSampleTs at running ⊢
  simp only [normal, Bool.false_eq_true, if_false] at running ⊢
  by_cases was_running : latest > 0
  · exact ⟨was_running, if_pos was_running⟩
  · rw [if_neg was_running] at running
    exact absurd running was_running

theorem foldl_tick_frame (frame : SerialFrame) (records : List Octets) (latest : Int) :
    (records.map (frame, ·)).foldl tick latest = records.foldl (nextSampleTs frame.frameTs) latest := by
  rw [List.foldl_map]
  rfl

theorem latestAfter_eq (frames : List SerialFrame) : latestAfter frames = (counted frames).foldl tick 0 := by
  unfold latestAfter counted
  generalize (0 : Int) = latest
  induction frames generalizing latest with
  | nil => rfl
  | cons frame rest ih =>
    rw [List.foldl_cons, List.flatMap_cons, List.foldl_append, ← ih, foldl_tick_frame]
    exact congrArg (List.foldl _ · rest) (unpackRecords_last _ _ _ _ _)

theorem counted_split {frames : List SerialFrame} {k : Nat} {frame : SerialFrame}
    (found : frames[k]? = some frame) :
    ∃ later, counted frames =
      counted (frames.take k) ++ ((keptRecords false frame.imuData).map (frame, ·) ++ later) := by
  obtain ⟨listed, rfl⟩ := List.getElem?_eq_some_iff.mp found
  refine ⟨counted (frames.drop (k + 1)), ?_⟩
  unfold counted
  conv_lhs => rw [← List.take_append_drop k frames, List.drop_eq_getElem_cons listed]
  rw [List.flatMap_append, List.flatMap_cons]

/-- A published sample belongs to a counted record, and carries the clock after it. -/
theorem sample_counted {frames : List SerialFrame} {k i : Nat} {frame : SerialFrame} {record : Octets}
    {sample : ImuSample} (published : SampleOf frames k i frame record sample) :
    (counted frames)[countedBefore frames k i]? = some (frame, record) ∧
      0 < ((counted frames).take (countedBefore frames k i + 1)).foldl tick 0 ∧
      sample.timestamp = BitVec.ofInt 64
        (((counted frames).take (countedBefore frames k i + 1)).foldl tick 0) + frame.clockOffset := by
  obtain ⟨found, of_frame, adds⟩ := published
  obtain ⟨record', kept, positive, rfl⟩ := sample_of_kept adds
  have in_frame : i < (keptRecords false frame.imuData).length := (List.getElem?_eq_some_iff.mp kept).1
  have same_record : record' = record := by
    obtain ⟨abandoned, whole⟩ := keptRecords_prefix false frame.imuData
    rw [← whole, List.getElem?_append_left in_frame, kept] at of_frame
    exact Option.some.inj of_frame
  subst same_record
  obtain ⟨later, split⟩ := counted_split found
  have clock : ((counted frames).take (countedBefore frames k i + 1)).foldl tick 0 =
      ((keptRecords false frame.imuData).take (i + 1)).foldl (nextSampleTs frame.frameTs)
        (latestAfter (frames.take k)) := by
    unfold countedBefore
    rw [split, Nat.add_assoc, List.take_length_add_append,
      List.take_append_of_le_length (by simpa using in_frame),
      List.foldl_append, ← latestAfter_eq, ← List.map_take, foldl_tick_frame]
  rw [clock]
  refine ⟨?_, positive, rfl⟩
  unfold countedBefore
  rw [split, List.getElem?_append_right (by omega), Nat.add_sub_cancel_left,
    List.getElem?_append_left (by simpa using in_frame), List.getElem?_map, kept]
  rfl

/-- The clock stands at the last reset plus 10 ms for every record since. -/
theorem clock_since_reset {entries : List (SerialFrame × Octets)} (running : 0 < entries.foldl tick 0) :
    ∃ q frame reset, entries[q]? = some (frame, reset) ∧ isReset reset = true ∧
      (∀ p entry, q < p → entries[p]? = some entry → isReset entry.2 = false) ∧
      entries.foldl tick 0 = resetTs frame.frameTs reset + 10000000 * (entries.length - 1 - q : Nat) := by
  induction entries using List.reverseRecOn with
  | nil => simp at running
  | append_singleton entries last ih =>
    obtain ⟨frame, record⟩ := last
    rw [List.foldl_append, List.foldl_cons, List.foldl_nil] at running ⊢
    cases reset : isReset record with
    | true =>
      refine ⟨entries.length, frame, record, by simp, reset, fun p entry after found => ?_, ?_⟩
      · have listed := (List.getElem?_eq_some_iff.mp found).1
        simp only [List.length_append, List.length_singleton] at listed
        omega
      · rw [tick_reset reset]
        simp
    | false =>
      obtain ⟨was_running, ticked⟩ := tick_normal reset running
      obtain ⟨q, frame', reset', found, is_reset, none_later, clock⟩ := ih was_running
      have listed := (List.getElem?_eq_some_iff.mp found).1
      refine ⟨q, frame', reset', ?_, is_reset, fun p entry after found' => ?_, ?_⟩
      · rw [List.getElem?_append_left listed]
        exact found
      · by_cases before : p < entries.length
        · rw [List.getElem?_append_left before] at found'
          exact none_later p entry after found'
        · rw [List.getElem?_append_right (by omega)] at found'
          obtain rfl : (frame, record) = entry := List.mem_singleton.mp (List.mem_of_getElem? found') |>.symm
          exact reset
      · rw [ticked, clock, List.length_append, List.length_singleton]
        omega

/-- The timestamp of every published sample of a normal record, before the clock
offset is added: that of the latest reset record that was not abandoned, plus
10 ms for every record after it up to and including this one that was not. -/
theorem sample_clock {frames : List SerialFrame} {k i : Nat} {frame : SerialFrame} {record : Octets}
    {sample : ImuSample} (published : SampleOf frames k i frame record sample)
    (normal : isReset record = false) :
    ∃ q resetFrame reset, (counted frames)[q]? = some (resetFrame, reset) ∧ isReset reset = true ∧
      q < countedBefore frames k i ∧
      (∀ p entry, q < p → p ≤ countedBefore frames k i → (counted frames)[p]? = some entry →
        isReset entry.2 = false) ∧
      (counted frames)[countedBefore frames k i]? = some (frame, record) ∧
      sample.timestamp = BitVec.ofInt 64 (resetTs resetFrame.frameTs reset +
        10000000 * (countedBefore frames k i - q : Nat)) + frame.clockOffset := by
  obtain ⟨at_record, running, stamp⟩ := sample_counted published
  have listed := (List.getElem?_eq_some_iff.mp at_record).1
  obtain ⟨q, resetFrame, reset, found, is_reset, none_later, clock⟩ := clock_since_reset running
  have taken :
      ((counted frames).take (countedBefore frames k i + 1)).length = countedBefore frames k i + 1 := by
    rw [List.length_take]
    omega
  have within : q < countedBefore frames k i + 1 := by
    have inside := (List.getElem?_eq_some_iff.mp found).1
    omega
  rw [List.getElem?_take_of_lt within] at found
  have not_itself : q ≠ countedBefore frames k i := by
    rintro rfl
    rw [at_record] at found
    cases found
    rw [normal] at is_reset
    cases is_reset
  refine ⟨q, resetFrame, reset, found, is_reset, by omega, fun p entry after upto at_p => ?_, at_record, ?_⟩
  · apply none_later p entry after
    rw [List.getElem?_take_of_lt (by omega)]
    exact at_p
  · rw [stamp, clock, taken, Nat.add_sub_cancel]

/-! ## A double reset -/

def resetRecord : Octets := 0x6C :: List.replicate 15 0

def normalRecord : Octets := List.replicate 16 0

/-- The device repeats its reset in the first frame. -/
def doubleReset : List SerialFrame :=
  [⟨1000000, 5, [resetRecord, normalRecord, resetRecord, normalRecord]⟩, ⟨2000000, 5, [normalRecord]⟩]

/-- How many records the device sent before record `i` of frame `k`. -/
def receivedBefore (frames : List SerialFrame) (k i : Nat) : Nat :=
  ((frames.take k).flatMap SerialFrame.imuData).length + i

theorem doubleReset_sample : SampleOf doubleReset 1 0 ⟨2000000, 5, [normalRecord]⟩ normalRecord
    (imuSampleOf 21000005 normalRecord) := by
  decide

/-- Four records came after the reset; the timestamp counts two of them. -/
theorem abandoned_records_not_counted : ∃ sample,
    SampleOf doubleReset 1 0 ⟨2000000, 5, [normalRecord]⟩ normalRecord sample ∧
      receivedBefore doubleReset 1 0 - receivedBefore doubleReset 0 0 = 4 ∧
      sample.timestamp ≠ BitVec.ofInt 64 (resetTs 1000000 resetRecord +
        10000000 * (receivedBefore doubleReset 1 0 - receivedBefore doubleReset 0 0 : Nat)) + 5 :=
  ⟨_, doubleReset_sample, by decide, by decide⟩

theorem double_reset_clock : ∃ q frame reset, (counted doubleReset)[q]? = some (frame, reset) ∧
    isReset reset = true ∧ q < countedBefore doubleReset 1 0 ∧
    (21000005 : BitVec 64) = BitVec.ofInt 64 (resetTs frame.frameTs reset +
      10000000 * (countedBefore doubleReset 1 0 - q : Nat)) + 5 := by
  obtain ⟨q, frame, reset, found, is_reset, before, -, -, stamp⟩ :=
    sample_clock doubleReset_sample (by decide)
  exact ⟨q, frame, reset, found, is_reset, before, stamp⟩

end AsDt1.Guarantees
