import AsDt1.Source.HistFrame

/-!
# What the loops over a histogram frame compute

For a frame of the mode's size: the views of its parts, the dots of which a point
is written, and the points themselves, with the time that `ts` holds by then. All
accesses are inside, and `_points_xyzitr` has room for every dot.
-/
namespace AsDt1.Source
open AsDt1.Lib

/-! ## Views -/

def fieldAt (frame : Octets) (pos : Nat) : BitVec 32 := BitVec.ofNat 32 (ofLittleEndian (window frame pos 3))

def firstPeakAt (frame : Octets) (bank mp : Nat) : PeakData where
  x := fieldAt frame (firstPeakPos bank mp + 4)
  y := fieldAt frame (firstPeakPos bank mp + 8)
  z := fieldAt frame (firstPeakPos bank mp + 12)
  height := fieldAt frame (firstPeakPos bank mp + 16)
  err := BitVec.ofNat 32 (ofLittleEndian (window frame (firstPeakPos bank mp + 20) 4))

def sensorTsAt (frame : Octets) (bank : Nat) : BitVec 32 :=
  bigEndianTicks (window frame (bank * bankSize + 232) 8)

def cpuTsAt (frame : Octets) : BitVec 32 := BitVec.ofNat 32 (ofLittleEndian (window frame 654 4))

/-- `bank_to_ring` inside its tables -/
def ringOf (mode : ModeNbr) (bank mp : Nat) : Nat :=
  if mode.val = cdcMode30m30f then bankToRingHalf.getD bank 0 + mp / 24
  else bankToRingFull.getD bank 0 + 2 * (mp / 24)

section Loads

variable {frame : Octets} {banks bank mp : Nat}

theorem loadField_eq {pos : Nat} (inside : pos + 3 ≤ frame.length) :
    loadField frame pos = .ok (fieldAt frame pos) := by
  unfold loadField
  rw [load_eq_ok_iff.mpr ⟨inside, rfl⟩]
  rfl

theorem firstPeakPos_inside (sized : frame.length = banks * bankSize) (below : bank < banks) (dot : mp < 48) :
    firstPeakPos bank mp + 24 ≤ frame.length := by
  have whole : (bank + 1) * bankSize ≤ banks * bankSize := Nat.mul_le_mul_right _ below
  unfold firstPeakPos
  unfold bankSize ebdSize at *
  omega

theorem loadFirstPeak_eq (sized : frame.length = banks * bankSize) (below : bank < banks) (dot : mp < 48) :
    loadFirstPeak frame bank mp = .ok (firstPeakAt frame bank mp) := by
  have inside := firstPeakPos_inside sized below dot
  have err_loaded : load frame (firstPeakPos bank mp + 20) 4 = .ok (window frame (firstPeakPos bank mp + 20) 4) :=
    load_eq_ok_iff.mpr ⟨by omega, rfl⟩
  unfold loadFirstPeak
  simp only [err_loaded, loadField_eq (by omega : firstPeakPos bank mp + 4 + 3 ≤ frame.length),
    loadField_eq (by omega : firstPeakPos bank mp + 8 + 3 ≤ frame.length),
    loadField_eq (by omega : firstPeakPos bank mp + 12 + 3 ≤ frame.length),
    loadField_eq (by omega : firstPeakPos bank mp + 16 + 3 ≤ frame.length), ok_bind]
  rfl

theorem loadSensorTs_eq (sized : frame.length = banks * bankSize) (below : bank < banks) :
    loadSensorTs frame bank = .ok (sensorTsAt frame bank) := by
  have whole : (bank + 1) * bankSize ≤ banks * bankSize := Nat.mul_le_mul_right _ below
  have inside : bank * bankSize + 232 + 8 ≤ frame.length := by
    unfold bankSize ebdSize at *
    omega
  unfold loadSensorTs
  rw [load_eq_ok_iff.mpr ⟨inside, rfl⟩]
  rfl

theorem loadCpuTs_eq (sized : frame.length = banks * bankSize) (some_bank : 0 < banks) :
    loadCpuTs frame = .ok (cpuTsAt frame) := by
  have whole : 1 * bankSize ≤ banks * bankSize := Nat.mul_le_mul_right _ some_bank
  have inside : 654 + 4 ≤ frame.length := by
    unfold bankSize ebdSize at *
    omega
  unfold loadCpuTs
  rw [load_eq_ok_iff.mpr ⟨inside, rfl⟩]
  rfl

end Loads

/-! ## The modes -/

/-- The banks that a frame of the mode holds: twice as many as are gone through in
the 20 m mode, for the two exposures. -/
def ModeNbr.frameBanks (mode : ModeNbr) : Nat := mode.info.nbrBanks

theorem frameSize_eq (mode : ModeNbr) : mode.frameSize = mode.frameBanks * bankSize := by
  revert mode
  decide

theorem nbrBanks_le_frameBanks (mode : ModeNbr) : 0 < mode.nbrBanks ∧ mode.nbrBanks ≤ mode.frameBanks := by
  revert mode
  decide

theorem high_bank_inside {mode : ModeNbr} (two_exposures : mode.val = cdcMode20m) :
    mode.nbrBanks + 12 ≤ mode.frameBanks := by
  revert mode
  decide

/-- `_points_xyzitr` has one entry for each dot of the banks gone through. -/
theorem pointCount_eq (mode : ModeNbr) : mode.info.pointCount = mode.nbrBanks * 48 := by
  revert mode
  decide

theorem bankToRing_eq {mode : ModeNbr} {bank mp : Nat} (below : bank < mode.nbrBanks) (dot : mp < 48) :
    bankToRing bank mp mode = .ok (ringOf mode bank mp) := by
  have half : ∀ bank < 6, lookUp bankToRingHalf bank = .ok (bankToRingHalf.getD bank 0) ∧
      bankToRingHalf.getD bank 0 ≤ 10 := by decide
  have full : ∀ bank < 12, lookUp bankToRingFull bank = .ok (bankToRingFull.getD bank 0) ∧
      bankToRingFull.getD bank 0 ≤ 21 := by decide
  have half_banks : ∀ mode : ModeNbr, mode.val = cdcMode30m30f → mode.nbrBanks = 6 := by decide
  have full_banks : ∀ mode : ModeNbr, mode.nbrBanks ≤ 12 := by decide
  unfold bankToRing ringOf
  by_cases halved : mode.val = cdcMode30m30f
  · obtain ⟨found, small⟩ := half bank (half_banks mode halved ▸ below)
    rw [if_pos halved, if_pos halved, found, ok_bind]
    exact congrArg Except.ok (Nat.mod_eq_of_lt (by omega))
  · obtain ⟨found, small⟩ := full bank (below.trans_le (full_banks mode))
    rw [if_neg halved, if_neg halved, found, ok_bind]
    exact congrArg Except.ok (Nat.mod_eq_of_lt (by omega))

/-! ## Dots -/

/-- The peak of the high exposure is taken for a dot. -/
def takesHigh (mode : ModeNbr) (frame : Octets) (bank mp : Nat) : Bool :=
  mode.val = cdcMode20m ∧ (firstPeakAt frame bank mp).err = 0 ∧
    prefersHigh (firstPeakAt frame bank mp) (firstPeakAt frame (bank + 12) mp)

/-- The bank that a dot is read from. -/
def sourceBank (mode : ModeNbr) (frame : Octets) (bank mp : Nat) : Nat :=
  if takesHigh mode frame bank mp then bank + 12 else bank

def selectedPeak (mode : ModeNbr) (frame : Octets) (bank mp : Nat) : PeakData :=
  firstPeakAt frame (sourceBank mode frame bank mp) mp

theorem selectedPeak_high {mode : ModeNbr} {frame : Octets} {bank mp : Nat}
    (high : takesHigh mode frame bank mp = true) :
    selectedPeak mode frame bank mp = firstPeakAt frame (bank + 12) mp := by
  unfold selectedPeak sourceBank
  rw [if_pos high]

theorem selectedPeak_low {mode : ModeNbr} {frame : Octets} {bank mp : Nat}
    (low : takesHigh mode frame bank mp = false) :
    selectedPeak mode frame bank mp = firstPeakAt frame bank mp := by
  unfold selectedPeak sourceBank
  rw [if_neg (by rw [low]; decide)]

/-- A point is written for the dot. -/
def emits (K : Type) [NatCast K] [Div K] [OfScientific K] [LT K] [DecidableLT K] (mode : ModeNbr) (frame : Octets)
    (bank mp : Nat) : Bool :=
  (firstPeakAt frame bank mp).err = 0 ∧ farEnough K (selectedPeak mode frame bank mp)

/-- The time of a bank after bank 0. -/
def bankTime (K : Type) [NatCast K] [Mul K] (frame : Octets) (bank : Nat) : K :=
  ticksToNs (sensorTsAt frame bank) (sensorTsAt frame 0)

/-- What `ts` holds after the first `k` dots of a bank: the time of the bank's high
exposure from the first dot on that took it. -/
def carriedTime (K : Type) [NatCast K] [Mul K] (mode : ModeNbr) (frame : Octets) (bank k : Nat) : K :=
  bankTime K frame (if (List.range k).any (takesHigh mode frame bank) then bank + 12 else bank)

/-- The point of a dot. -/
def dotPoint (K : Type) [NatCast K] [Neg K] [Mul K] [Div K] (mode : ModeNbr) (frame : Octets) (bank mp : Nat) :
    Vector6f K :=
  peakPoint (selectedPeak mode frame bank mp) (carriedTime K mode frame bank (mp + 1)) (ringOf mode bank mp)

/-- The points of the first `k` dots of a bank. -/
def bankPoints (K : Type) [NatCast K] [Neg K] [Mul K] [Div K] [OfScientific K] [LT K] [DecidableLT K]
    (mode : ModeNbr) (frame : Octets) (bank k : Nat) : List (Vector6f K) :=
  ((List.range k).filter (emits K mode frame bank)).map (dotPoint K mode frame bank)

theorem carriedTime_succ {K : Type} [NatCast K] [Mul K] (mode : ModeNbr) (frame : Octets) (bank k : Nat) :
    carriedTime K mode frame bank (k + 1) =
      if takesHigh mode frame bank k then bankTime K frame (bank + 12) else carriedTime K mode frame bank k := by
  unfold carriedTime
  rw [List.range_succ, List.any_append]
  cases earlier : (List.range k).any (takesHigh mode frame bank) with
  | true => simp
  | false =>
    cases here : takesHigh mode frame bank k with
    | true => simp [here]
    | false => simp [here]

/-! ## The loops -/

/-- The entries of `_points_xyzitr` in front of `dest_idx`. -/
def Unpacking.written {K : Type} (s : Unpacking K) : List (Vector6f K) := s.points.take s.destIdx

/-- The loops have written `front` into a vector of `size` entries. -/
structure Written {K : Type} (size : Nat) (front : List (Vector6f K)) (s : Unpacking K) : Prop where
  sized : s.points.length = size
  index : s.destIdx = front.length
  written : s.written = front

theorem resize_length {K : Type} (blank : Nat → Vector6f K) (points : List (Vector6f K)) (size : Nat) :
    (resize blank points size).length = size := by
  unfold resize
  rw [List.length_append, List.length_take, List.length_map, List.length_range']
  omega

theorem emit_written {K : Type} {size : Nat} {front : List (Vector6f K)} {s : Unpacking K}
    (holds : Written size front s) (room : front.length < size) (point : Vector6f K) :
    ∃ s', s.emit point = .ok s' ∧ Written size (front ++ [point]) s' := by
  obtain ⟨sized, index, written⟩ := holds
  have inside : s.destIdx < s.points.length := by omega
  refine ⟨_, if_pos inside, ?_, ?_, ?_⟩
  · rw [List.length_set, sized]
  · rw [List.length_append, index, List.length_singleton]
  · unfold Unpacking.written at written ⊢
    rw [List.take_add_one, List.take_set_of_le (Nat.le_refl _), written, List.getElem?_set_self inside]
    rfl

theorem selectPeak_eq {K : Type} [NatCast K] [Mul K] {mode : ModeNbr} {frame : Octets}
    (sized : frame.length = mode.frameSize) {bank mp : Nat} (below : bank < mode.nbrBanks) (dot : mp < 48)
    (valid : (firstPeakAt frame bank mp).err = 0) :
    selectPeak mode frame (sensorTsAt frame 0) bank mp (firstPeakAt frame bank mp)
        (carriedTime K mode frame bank mp) =
      .ok (selectedPeak mode frame bank mp, carriedTime K mode frame bank (mp + 1)) := by
  rw [frameSize_eq] at sized
  rw [carriedTime_succ]
  unfold selectPeak selectedPeak sourceBank takesHigh
  by_cases two_exposures : mode.val = cdcMode20m
  · have high := high_bank_inside two_exposures
    rw [if_pos two_exposures, loadFirstPeak_eq sized (by omega) dot, ok_bind]
    by_cases prefers : prefersHigh (firstPeakAt frame bank mp) (firstPeakAt frame (bank + 12) mp)
    · rw [if_pos prefers, loadSensorTs_eq sized (by omega), ok_bind]
      simp only [two_exposures, valid, prefers, and_self, decide_true, if_true]
      rfl
    · rw [if_neg prefers]
      simp [prefers]
      rfl
  · rw [if_neg two_exposures]
    simp [two_exposures]
    rfl

section Dots

variable {K : Type} [NatCast K] [Neg K] [Mul K] [Div K] [OfScientific K] [LT K] [DecidableLT K]

theorem bankPoints_succ (mode : ModeNbr) (frame : Octets) (bank k : Nat) :
    bankPoints K mode frame bank (k + 1) = bankPoints K mode frame bank k ++
      if emits K mode frame bank k then [dotPoint K mode frame bank k] else [] := by
  unfold bankPoints
  rw [List.range_succ, List.filter_append, List.map_append]
  cases written : emits K mode frame bank k with
  | true => simp [written]
  | false => simp [written]

theorem bankPoints_length (mode : ModeNbr) (frame : Octets) (bank k : Nat) :
    (bankPoints K mode frame bank k).length ≤ k := by
  unfold bankPoints
  rw [List.length_map]
  exact (List.length_filter_le _ _).trans List.length_range.le

variable {mode : ModeNbr} {frame : Octets}

/-- One dot: a point is appended if it emits, and `ts` moves on. -/
theorem unpackDot_written (sized : frame.length = mode.frameSize) {bank mp : Nat} (below : bank < mode.nbrBanks)
    (dot : mp < 48) {size : Nat} {front : List (Vector6f K)} {s : Unpacking K}
    (holds : Written size (front ++ bankPoints K mode frame bank mp) s) (room : front.length + 48 ≤ size) :
    ∃ s', unpackDot mode frame (sensorTsAt frame 0) bank (carriedTime K mode frame bank mp, s) mp =
        .ok (carriedTime K mode frame bank (mp + 1), s') ∧
      Written size (front ++ bankPoints K mode frame bank (mp + 1)) s' := by
  have banks := sized
  rw [frameSize_eq] at banks
  have inside := (nbrBanks_le_frameBanks mode).2
  unfold unpackDot
  simp only [loadFirstPeak_eq banks (below.trans_le inside) dot, bankToRing_eq below dot, ok_bind]
  rw [bankPoints_succ, ← List.append_assoc]
  by_cases valid : (firstPeakAt frame bank mp).err = 0
  · rw [if_pos valid, selectPeak_eq sized below dot valid, ok_bind]
    cases far : farEnough K (selectedPeak mode frame bank mp) with
    | true =>
      have written : emits K mode frame bank mp = true := by simp [emits, valid, far]
      have some_room : (front ++ bankPoints K mode frame bank mp).length < size := by
        have few := bankPoints_length (K := K) mode frame bank mp
        rw [List.length_append]
        omega
      obtain ⟨s', stored, holds'⟩ := emit_written holds some_room (dotPoint K mode frame bank mp)
      rw [if_pos written]
      refine ⟨s', ?_, holds'⟩
      simp only [if_true]
      unfold dotPoint at stored
      rw [stored]
      rfl
    | false =>
      have not_written : ¬ emits K mode frame bank mp = true := by simp [emits, far]
      rw [if_neg not_written, List.append_nil]
      exact ⟨s, rfl, holds⟩
  · have not_written : ¬ emits K mode frame bank mp = true := fun written => valid (of_decide_eq_true written).1
    have not_high : ¬ takesHigh mode frame bank mp = true := fun high => valid (of_decide_eq_true high).2.1
    rw [if_neg valid, if_neg not_written, List.append_nil, carriedTime_succ, if_neg not_high]
    exact ⟨s, rfl, holds⟩

/-- One bank: the points of its dots are appended. -/
theorem unpackBank_written (sized : frame.length = mode.frameSize) {bank : Nat} (below : bank < mode.nbrBanks)
    {size : Nat} {front : List (Vector6f K)} {s : Unpacking K} (holds : Written size front s)
    (room : front.length + 48 ≤ size) :
    ∃ s', unpackBank mode frame (sensorTsAt frame 0) s bank = .ok s' ∧
      Written size (front ++ bankPoints K mode frame bank 48) s' := by
  have banks := sized
  rw [frameSize_eq] at banks
  have inside := (nbrBanks_le_frameBanks mode).2
  obtain ⟨⟨ts, s'⟩, looped, -, holds'⟩ : ∃ state : K × Unpacking K,
      (List.range 48).foldlM (unpackDot mode frame (sensorTsAt frame 0) bank)
        ((ticksToNs (sensorTsAt frame bank) (sensorTsAt frame 0) : K), s) = .ok state ∧
      state.1 = carriedTime K mode frame bank 48 ∧
        Written size (front ++ bankPoints K mode frame bank 48) state.2 := by
    apply foldlM_range_inv fun k (state : K × Unpacking K) => state.1 = carriedTime K mode frame bank k ∧
      Written size (front ++ bankPoints K mode frame bank k) state.2
    · exact ⟨rfl, by simpa [bankPoints] using holds⟩
    · rintro k dot ⟨ts, s⟩ ⟨rfl, holds⟩
      obtain ⟨s', stepped, holds'⟩ := unpackDot_written sized below dot holds room
      exact ⟨_, stepped, rfl, holds'⟩
  refine ⟨s', ?_, holds'⟩
  unfold unpackBank
  rw [loadSensorTs_eq banks (below.trans_le inside), ok_bind, looped]
  rfl

/-- The points of a frame. -/
def framePoints (K : Type) [NatCast K] [Neg K] [Mul K] [Div K] [OfScientific K] [LT K] [DecidableLT K]
    (mode : ModeNbr) (frame : Octets) : List (Vector6f K) :=
  (List.range mode.nbrBanks).flatMap fun bank => bankPoints K mode frame bank 48

/-- The loops write the points of the frame, whatever was in the vector before. -/
theorem unpackBanks_written (sized : frame.length = mode.frameSize) (blank : Nat → Vector6f K)
    (points : List (Vector6f K)) :
    ∃ s, unpackBanks blank mode frame points = .ok s ∧
      Written mode.info.pointCount (framePoints K mode frame) s := by
  have banks := sized
  rw [frameSize_eq] at banks
  obtain ⟨some_bank, inside⟩ := nbrBanks_le_frameBanks mode
  obtain ⟨s, looped, holds, -⟩ : ∃ s,
      (List.range mode.nbrBanks).foldlM (unpackBank mode frame (sensorTsAt frame 0))
        (⟨0, resize blank points mode.info.pointCount⟩ : Unpacking K) = .ok s ∧
      Written mode.info.pointCount
        ((List.range mode.nbrBanks).flatMap fun bank => bankPoints K mode frame bank 48) s ∧
        ((List.range mode.nbrBanks).flatMap fun bank => bankPoints K mode frame bank 48).length ≤
          mode.nbrBanks * 48 := by
    apply foldlM_range_inv fun k (s : Unpacking K) =>
      Written mode.info.pointCount ((List.range k).flatMap fun bank => bankPoints K mode frame bank 48) s ∧
        ((List.range k).flatMap fun bank => bankPoints K mode frame bank 48).length ≤ k * 48
    · exact ⟨⟨resize_length _ _ _, rfl, rfl⟩, Nat.zero_le _⟩
    · rintro k below s ⟨holds, few⟩
      have room : ((List.range k).flatMap fun bank => bankPoints K mode frame bank 48).length + 48 ≤
          mode.info.pointCount := by
        rw [pointCount_eq]
        omega
      obtain ⟨s', stepped, holds'⟩ := unpackBank_written sized below holds room
      refine ⟨s', stepped, ?_⟩
      rw [List.range_succ, List.flatMap_append, List.flatMap_singleton, List.length_append]
      have one := bankPoints_length (K := K) mode frame k 48
      exact ⟨holds', by omega⟩
  refine ⟨s, ?_, holds⟩
  unfold unpackBanks
  rw [loadSensorTs_eq banks (some_bank.trans_le inside), ok_bind]
  exact looped

/-! ## Frames -/

/-- What the callback is called with. -/
def published (K : Type) [NatCast K] [Neg K] [Mul K] [Div K] [OfScientific K] [LT K] [DecidableLT K]
    (captured : CapturedFrame) : Option (BitVec 64 × List (Vector6f K)) :=
  if captured.frame.length = captured.mode.frameSize ∧ captured.wanted ∧ captured.clockOffset > 0 then
    some (BitVec.ofNat 64 ((cpuTsAt captured.frame).toNat * 1000000) + captured.clockOffset,
      framePoints K captured.mode captured.frame)
  else none

theorem unpackHistFrame_eq {captured : CapturedFrame} (sized : captured.frame.length = captured.mode.frameSize)
    (blank : Nat → Vector6f K) (points : List (Vector6f K)) :
    ∃ kept, unpackHistFrame blank points captured = .ok (kept, published K captured) := by
  obtain ⟨some_bank, inside⟩ := nbrBanks_le_frameBanks captured.mode
  obtain ⟨s, looped, holds⟩ := unpackBanks_written sized blank points
  have short : s.destIdx ≤ s.points.length := by
    have written := congrArg List.length holds.written
    rw [← holds.index] at written
    unfold Unpacking.written at written
    rw [List.length_take] at written
    omega
  have cut : resize blank s.points s.destIdx = framePoints K captured.mode captured.frame := by
    unfold resize
    rw [Nat.sub_eq_zero_of_le short]
    exact (List.append_nil _).trans holds.written
  unfold unpackHistFrame published
  rw [loadCpuTs_eq (sized.trans (frameSize_eq _)) (some_bank.trans_le inside), ok_bind, looped, ok_bind, cut]
  by_cases publishes : captured.wanted ∧ captured.clockOffset > 0
  · rw [if_pos publishes, if_pos ⟨sized, publishes⟩]
    exact ⟨_, rfl⟩
  · rw [if_neg publishes, if_neg fun all => publishes all.2]
    exact ⟨_, rfl⟩

/-- Over any sequence of buffers, each call publishes the points of its own frame. -/
theorem unpackFrames_eq (blank : Nat → Vector6f K) (points : List (Vector6f K)) (captures : List CapturedFrame) :
    unpackFrames blank points captures = .ok (captures.map (published K)) := by
  induction captures generalizing points with
  | nil => rfl
  | cons captured rest ih =>
    unfold unpackFrames
    by_cases sized : captured.frame.length = captured.mode.frameSize
    · obtain ⟨kept, unpacked⟩ := unpackHistFrame_eq sized blank points
      rw [if_pos sized, unpacked, ok_bind]
      simp only [ih, ok_bind]
      rfl
    · have nothing : published K captured = none := if_neg fun all => sized all.1
      rw [if_neg sized, List.map_cons, nothing]
      simp only [pure_bind, ih, ok_bind]
      rfl

end Dots

end AsDt1.Source
