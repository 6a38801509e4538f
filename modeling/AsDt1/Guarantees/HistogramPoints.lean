import AsDt1.Source.HistDots

/-!
# The points of a histogram frame

Which dots of a frame become points, and of which peak: the coordinates and the
height of a point are those of the peak that was selected for its dot. Its time is
not always, since `ts` keeps the time of a high exposure for the dots after it; and
the error of the peak of the high exposure is not looked at.
-/
namespace AsDt1.Guarantees
open AsDt1.Lib AsDt1.Source

section Frames

variable {K : Type} [NatCast K] [Neg K] [Mul K] [Div K] [OfScientific K] [LT K] [DecidableLT K]
  {mode : ModeNbr} {frame : Octets}

/-! ## The time of a point -/

/-- The point of a dot that is read from the first peak of a bank: bit 21 is the sign
of `x` and `y`, 4000 counts are a metre, and a tick of `sensor_ts` since that of bank 0
is 500 ns. -/
def pointOfBank (K : Type) [NatCast K] [Neg K] [Mul K] [Div K] (frame : Octets) (source mp ring : Nat) :
    Vector6f K :=
  let peak := firstPeakAt frame source mp
  { x := -(if peak.y &&& 0x200000 = 0 then (peak.y.toNat : K) / ((4000 : Nat) : K)
      else -((0x400000 - peak.y).toNat : K) / ((4000 : Nat) : K))
    y := if peak.x &&& 0x200000 = 0 then (peak.x.toNat : K) / ((4000 : Nat) : K)
      else -((0x400000 - peak.x).toNat : K) / ((4000 : Nat) : K)
    z := (peak.z.toNat : K) / ((4000 : Nat) : K)
    height := (peak.height.toNat : K)
    ts := ((sensorTsAt frame source - sensorTsAt frame 0).toNat : K) * ((500 : Nat) : K)
    ring := (ring : K) }

/-- The points of a frame, each with all its data from one bank. -/
def onePeakPoints (K : Type) [NatCast K] [Neg K] [Mul K] [Div K] [OfScientific K] [LT K] [DecidableLT K]
    (mode : ModeNbr) (frame : Octets) : List (Vector6f K) :=
  (List.range mode.nbrBanks).flatMap fun bank =>
    ((List.range 48).filter (emits K mode frame bank)).map fun mp =>
      pointOfBank K frame (sourceBank mode frame bank mp) mp (ringOf mode bank mp)

/-- This is the code's computation at the bank's peak and time. -/
theorem pointOfBank_eq {K : Type} [NatCast K] [Neg K] [Mul K] [Div K] (frame : Octets) (source mp ring : Nat) :
    pointOfBank K frame source mp ring = peakPoint (firstPeakAt frame source mp) (bankTime K frame source) ring := rfl

/-- Where a dot of a bank took the high exposure, no later point of the bank is of
the low exposure, or the two exposures have the same time. -/
def NoTimeCarried (K : Type) [NatCast K] [Mul K] [Div K] [OfScientific K] [LT K] [DecidableLT K] (mode : ModeNbr)
    (frame : Octets) : Prop :=
  ∀ bank < mode.nbrBanks, ∀ mp < 48, emits K mode frame bank mp = true → takesHigh mode frame bank mp = false →
    ∀ earlier < mp, takesHigh mode frame bank earlier = true →
      bankTime K frame (bank + 12) = bankTime K frame bank

theorem carriedTime_own_iff {K : Type} [NatCast K] [Mul K] {mode : ModeNbr} {frame : Octets} {bank mp : Nat} :
    carriedTime K mode frame bank (mp + 1) = bankTime K frame (sourceBank mode frame bank mp) ↔
      (takesHigh mode frame bank mp = false → ∀ earlier < mp, takesHigh mode frame bank earlier = true →
        bankTime K frame (bank + 12) = bankTime K frame bank) := by
  rw [carriedTime_succ]
  unfold sourceBank
  cases here : takesHigh mode frame bank mp with
  | true => simp
  | false =>
    simp only [Bool.false_eq_true, if_false, true_implies]
    unfold carriedTime
    cases before : (List.range mp).any (takesHigh mode frame bank) with
    | true =>
      obtain ⟨earlier, listed, high⟩ := List.any_eq_true.mp before
      rw [if_pos rfl]
      exact ⟨fun same _ _ _ => same, fun kept => kept earlier (List.mem_range.mp listed) high⟩
    | false =>
      refine iff_of_true rfl fun earlier below high => ?_
      have none_high := List.any_eq_false.mp before earlier (List.mem_range.mpr below)
      exact absurd high none_high

/-- The points have the times of their own banks if and only if no time is carried. -/
theorem framePoints_eq_iff :
    framePoints K mode frame = onePeakPoints K mode frame ↔ NoTimeCarried K mode frame := by
  unfold framePoints onePeakPoints bankPoints
  rw [flatMap_eq_flatMap_iff fun bank _ => by rw [List.length_map, List.length_map]]
  unfold NoTimeCarried
  simp only [List.map_inj_left, List.mem_range, List.mem_filter, and_imp, pointOfBank_eq, dotPoint, peakPoint,
    selectedPeak, Vector6f.mk.injEq, true_and, and_true, carriedTime_own_iff]

/-- For every mode and every frame of the mode's size: the loops succeed, and the
points they write take all their data from one peak each, and their time from its
bank, if and only if no dot keeps the time of another dot's choice. -/
theorem points_from_one_peak_iff (sized : frame.length = mode.frameSize) (blank : Nat → Vector6f K)
    (points : List (Vector6f K)) :
    ∃ s, unpackBanks blank mode frame points = .ok s ∧
      (s.written = onePeakPoints K mode frame ↔ NoTimeCarried K mode frame) := by
  obtain ⟨s, unpacked, holds⟩ := unpackBanks_written sized blank points
  refine ⟨s, unpacked, ?_⟩
  rw [holds.written]
  exact framePoints_eq_iff

/-! ## The error of a peak -/

/-- The dots of which points are written, in order. -/
def emittedDots (K : Type) [NatCast K] [Div K] [OfScientific K] [LT K] [DecidableLT K] (mode : ModeNbr)
    (frame : Octets) : List (Nat × Nat) :=
  (List.range mode.nbrBanks).flatMap fun bank =>
    ((List.range 48).filter (emits K mode frame bank)).map fun mp => (bank, mp)

theorem mem_emittedDots {K : Type} [NatCast K] [Div K] [OfScientific K] [LT K] [DecidableLT K] {mode : ModeNbr}
    {frame : Octets} {bank mp : Nat} : (bank, mp) ∈ emittedDots K mode frame ↔
    bank < mode.nbrBanks ∧ mp < 48 ∧ emits K mode frame bank mp = true := by
  simp [emittedDots]

theorem framePoints_eq_map : framePoints K mode frame =
    (emittedDots K mode frame).map fun dot => dotPoint K mode frame dot.1 dot.2 := by
  unfold framePoints emittedDots bankPoints
  rw [List.map_flatMap]
  simp only [List.map_map]
  rfl

/-- Where the peak of the high exposure is taken and far enough, it has no error. -/
def HighPeaksValid (K : Type) [NatCast K] [Div K] [OfScientific K] [LT K] [DecidableLT K] (mode : ModeNbr)
    (frame : Octets) : Prop :=
  ∀ bank < mode.nbrBanks, ∀ mp < 48, takesHigh mode frame bank mp = true →
    farEnough K (firstPeakAt frame (bank + 12) mp) = true → (firstPeakAt frame (bank + 12) mp).err = 0

theorem emitted_valid_iff {K : Type} [NatCast K] [Div K] [OfScientific K] [LT K] [DecidableLT K] {mode : ModeNbr}
    {frame : Octets} : (∀ dot ∈ emittedDots K mode frame, (selectedPeak mode frame dot.1 dot.2).err = 0) ↔
    HighPeaksValid K mode frame := by
  constructor
  · intro valid bank below mp dot high far
    have selected := selectedPeak_high high
    have low_valid := (of_decide_eq_true high).2.1
    have listed : (bank, mp) ∈ emittedDots K mode frame :=
      mem_emittedDots.mpr ⟨below, dot, decide_eq_true ⟨low_valid, by rw [selected]; exact far⟩⟩
    rw [← selected]
    exact valid (bank, mp) listed
  · rintro high_valid ⟨bank, mp⟩ listed
    obtain ⟨below, dot, written⟩ := mem_emittedDots.mp listed
    obtain ⟨low_valid, far⟩ := of_decide_eq_true written
    cases high : takesHigh mode frame bank mp with
    | true =>
      rw [selectedPeak_high high] at far ⊢
      exact high_valid bank below mp dot high far
    | false =>
      rw [selectedPeak_low high]
      exact low_valid

/-- For every mode and every frame of the mode's size: the points written are those
of the emitted dots, and none has its coordinates from a peak with an error if and
only if no peak of the high exposure that is taken has one. -/
theorem points_without_error_iff (sized : frame.length = mode.frameSize) (blank : Nat → Vector6f K)
    (points : List (Vector6f K)) :
    ∃ s, unpackBanks blank mode frame points = .ok s ∧
      List.Forall₂ (fun dot point => ∃ ts, point = peakPoint (selectedPeak mode frame dot.1 dot.2) ts
        (ringOf mode dot.1 dot.2)) (emittedDots K mode frame) s.written ∧
      ((∀ dot ∈ emittedDots K mode frame, (selectedPeak mode frame dot.1 dot.2).err = 0) ↔
        HighPeaksValid K mode frame) := by
  obtain ⟨s, unpacked, holds⟩ := unpackBanks_written sized blank points
  refine ⟨s, unpacked, ?_, emitted_valid_iff⟩
  rw [holds.written, framePoints_eq_map, List.forall₂_map_right_iff, List.forall₂_same]
  exact fun dot _ => ⟨_, rfl⟩

end Frames

/-! ## The dots of a frame, with exact numbers -/

/-- The dots whose low exposure has no error and whose selected peak is more than
800 quarter millimetres away, bank by bank. -/
def validDots (mode : ModeNbr) (frame : Octets) : List (Nat × Nat) :=
  (List.range mode.nbrBanks).flatMap fun bank =>
    ((List.range 48).filter fun mp =>
      (firstPeakAt frame bank mp).err = 0 ∧ 800 < (selectedPeak mode frame bank mp).z).map fun mp => (bank, mp)

theorem farEnough_iff (peak : PeakData) : farEnough ℚ peak = true ↔ 800 < peak.z := by
  unfold farEnough countsPerMetre
  rw [decide_eq_true_iff, BitVec.lt_def, lt_div_iff₀ (by norm_num)]
  have scaled : (0.2 : ℚ) * ((4000 : Nat) : ℚ) = ((800 : Nat) : ℚ) := by norm_num
  rw [scaled, Nat.cast_lt]
  rfl

theorem emittedDots_eq (mode : ModeNbr) (frame : Octets) : emittedDots ℚ mode frame = validDots mode frame := by
  unfold emittedDots validDots emits
  simp only [farEnough_iff]

theorem mem_validDots {mode : ModeNbr} {frame : Octets} {bank mp : Nat}
    (listed : (bank, mp) ∈ validDots mode frame) :
    bank < mode.nbrBanks ∧ mp < 48 := by
  rw [← emittedDots_eq, mem_emittedDots] at listed
  exact ⟨listed.1, listed.2.1⟩

theorem validDots_nodup (mode : ModeNbr) (frame : Octets) : (validDots mode frame).Nodup := by
  unfold validDots
  rw [List.nodup_flatMap]
  constructor
  · intro bank _
    exact (List.nodup_range.filter _).map fun mp mp' same => (Prod.mk.inj same).2
  · refine List.nodup_range.imp fun different => ?_
    rintro ⟨bank, mp⟩ here there
    obtain ⟨_, -, same⟩ := List.mem_map.mp here
    obtain ⟨_, -, same'⟩ := List.mem_map.mp there
    exact different ((Prod.mk.inj same).1.trans (Prod.mk.inj same').1.symm)

/-! ## Rings -/

/-- The half banks of a table have different rings. -/
theorem half_banks_distinct : (∀ k < 24, ∀ k' < 24,
      bankToRingFull.getD (k / 2) 0 + 2 * (k % 2) = bankToRingFull.getD (k' / 2) 0 + 2 * (k' % 2) → k = k') ∧
    ∀ k < 12, ∀ k' < 12,
      bankToRingHalf.getD (k / 2) 0 + k % 2 = bankToRingHalf.getD (k' / 2) 0 + k' % 2 → k = k' := by decide

/-- A ring is a line of the mode and belongs to one half of one bank. -/
theorem ringOf_facts (mode : ModeNbr) {bank mp : Nat} (below : bank < mode.nbrBanks) (dot : mp < 48) :
    ringOf mode bank mp < mode.info.nbrPointsY ∧ ∀ bank' mp', bank' < mode.nbrBanks → mp' < 48 →
      ringOf mode bank mp = ringOf mode bank' mp' → bank = bank' ∧ mp / 24 = mp' / 24 := by
  have full_lines : ∀ bank < 12, bankToRingFull.getD bank 0 + 2 < 24 := by decide
  have half_lines : ∀ bank < 6, bankToRingHalf.getD bank 0 + 1 < 12 := by decide
  have half_mode : ∀ mode : ModeNbr, mode.val = cdcMode30m30f →
      mode.nbrBanks = 6 ∧ mode.info.nbrPointsY = 12 := by decide
  have full_mode : ∀ mode : ModeNbr, mode.val ≠ cdcMode30m30f →
      mode.nbrBanks = 12 ∧ mode.info.nbrPointsY = 24 := by decide
  have half_bank (bank mp : Nat) (dot : mp < 48) :
      (2 * bank + mp / 24) / 2 = bank ∧ (2 * bank + mp / 24) % 2 = mp / 24 := by omega
  obtain ⟨which, half⟩ := half_bank bank mp dot
  unfold ringOf
  by_cases halved : mode.val = cdcMode30m30f
  · obtain ⟨banks, lines⟩ := half_mode mode halved
    rw [banks] at below ⊢
    have line := half_lines bank below
    simp only [if_pos halved, lines]
    refine ⟨by omega, fun bank' mp' below' dot' same => ?_⟩
    obtain ⟨which', half'⟩ := half_bank bank' mp' dot'
    have once := half_banks_distinct.2 (2 * bank + mp / 24) (by omega) (2 * bank' + mp' / 24) (by omega)
    rw [which, half, which', half'] at once
    have same_half := once same
    omega
  · obtain ⟨banks, lines⟩ := full_mode mode halved
    rw [banks] at below ⊢
    have line := full_lines bank below
    simp only [if_neg halved, lines]
    refine ⟨by omega, fun bank' mp' below' dot' same => ?_⟩
    obtain ⟨which', half'⟩ := half_bank bank' mp' dot'
    have once := half_banks_distinct.1 (2 * bank + mp / 24) (by omega) (2 * bank' + mp' / 24) (by omega)
    rw [which, half, which', half'] at once
    have same_half := once same
    omega

/-- A ring has at most one point for each dot of its half bank. -/
theorem ring_dots_le (mode : ModeNbr) (frame : Octets) (ring : Nat) :
    ((validDots mode frame).filter fun dot => ringOf mode dot.1 dot.2 = ring).length ≤ 24 := by
  generalize same_ring : (validDots mode frame).filter (fun dot => ringOf mode dot.1 dot.2 = ring) = dots
  have distinct : dots.Nodup := same_ring ▸ (validDots_nodup mode frame).filter _
  have of_ring : ∀ dot ∈ dots, dot.1 < mode.nbrBanks ∧ dot.2 < 48 ∧ ringOf mode dot.1 dot.2 = ring := by
    rintro ⟨bank, mp⟩ listed
    rw [← same_ring, List.mem_filter] at listed
    obtain ⟨below, dot⟩ := mem_validDots listed.1
    exact ⟨below, dot, of_decide_eq_true listed.2⟩
  cases dots with
  | nil => exact Nat.zero_le _
  | cons first rest =>
    obtain ⟨below, dot, at_ring⟩ := of_ring first List.mem_cons_self
    have of_half : first :: rest ⊆ (List.range' (first.2 / 24 * 24) 24).map fun mp => (first.1, mp) := by
      rintro ⟨bank, mp⟩ listed
      obtain ⟨below', dot', at_ring'⟩ := of_ring _ listed
      obtain ⟨same_bank, same_half⟩ :=
        (ringOf_facts mode below dot).2 bank mp below' dot' (at_ring.trans at_ring'.symm)
      rw [List.mem_map]
      refine ⟨mp, List.mem_range'_1.mpr ?_, by rw [same_bank]⟩
      omega
    have few := (List.subperm_of_subset distinct of_half).length_le
    rwa [List.length_map, List.length_range'] at few

/-! ## Published frames -/

/-- The points shown are those of the valid dots of the frame, one for each and in
order; their rings are lines of the mode, each of one half bank and with at most 24
points. -/
structure ShowsFrame (mode : ModeNbr) (frame : Octets) (points : List (Vector6f ℚ)) : Prop where
  dots : List.Forall₂ (fun dot point => ∃ ts, point = peakPoint (selectedPeak mode frame dot.1 dot.2) ts
    (ringOf mode dot.1 dot.2)) (validDots mode frame) points
  lines : ∀ point ∈ points, ∃ ring < mode.info.nbrPointsY, point.ring = (ring : ℚ)
  half_banks : ∀ dot ∈ validDots mode frame, ∀ other ∈ validDots mode frame,
    ringOf mode dot.1 dot.2 = ringOf mode other.1 other.2 → dot.1 = other.1 ∧ dot.2 / 24 = other.2 / 24
  few : ∀ ring : ℚ, (points.filter fun point => point.ring = ring).length ≤ 24

theorem framePoints_shown (mode : ModeNbr) (frame : Octets) :
    ShowsFrame mode frame (framePoints ℚ mode frame) := by
  rw [framePoints_eq_map, emittedDots_eq]
  refine ⟨?_, ?_, ?_, fun ring => ?_⟩
  · rw [List.forall₂_map_right_iff, List.forall₂_same]
    exact fun dot _ => ⟨_, rfl⟩
  · intro point listed
    obtain ⟨⟨bank, mp⟩, among, rfl⟩ := List.mem_map.mp listed
    obtain ⟨below, dot⟩ := mem_validDots among
    exact ⟨_, (ringOf_facts mode below dot).1, rfl⟩
  · rintro ⟨bank, mp⟩ listed ⟨bank', mp'⟩ listed' same
    obtain ⟨below, dot⟩ := mem_validDots listed
    obtain ⟨below', dot'⟩ := mem_validDots listed'
    exact (ringOf_facts mode below dot).2 bank' mp' below' dot' same
  · rw [List.filter_map, List.length_map]
    by_cases natural : ∃ line : Nat, ring = line
    · obtain ⟨line, rfl⟩ := natural
      refine le_trans (le_of_eq ?_) (ring_dots_le mode frame line)
      congr 1
      apply List.filter_congr
      intro dot _
      simp [dotPoint, peakPoint]
    · rw [List.filter_eq_nil_iff.mpr]
      · exact Nat.zero_le _
      · intro dot _ same
        exact natural ⟨_, (of_decide_eq_true same).symm⟩

/-- For every sequence of frames of their modes' sizes, whatever was in the vector
before: no access is outside, and each call that publishes shows its own frame. -/
theorem frames_shown (blank : Nat → Vector6f ℚ) (points : List (Vector6f ℚ)) (captures : List CapturedFrame)
    (sized : ∀ captured ∈ captures, captured.frame.length = captured.mode.frameSize) :
    ∃ outcomes, unpackFrames blank points captures = .ok outcomes ∧
      List.Forall₂ (fun captured outcome =>
        (outcome.isSome ↔ captured.wanted ∧ captured.clockOffset > 0) ∧
          ∀ shown ∈ outcome, ShowsFrame captured.mode captured.frame shown.2) captures outcomes := by
  refine ⟨_, unpackFrames_eq blank points captures, ?_⟩
  rw [List.forall₂_map_right_iff, List.forall₂_same]
  intro captured listed
  unfold published
  by_cases publishes : captured.wanted ∧ captured.clockOffset > 0
  · rw [if_pos ⟨sized captured listed, publishes⟩]
    refine ⟨iff_of_true rfl publishes, ?_⟩
    rintro _ ⟨⟩
    exact framePoints_shown captured.mode captured.frame
  · rw [if_neg fun all => publishes all.2]
    exact ⟨iff_of_false (by decide) publishes, fun shown absurd_shown => by cases absurd_shown⟩

/-! ## Frames with few octets -/

/-- A frame with these octets, and zeros elsewhere. -/
@[irreducible] def frameOf (mode : ModeNbr) (octets : List (Nat × BitVec 8)) : Octets :=
  (List.range mode.frameSize).map fun pos => (octets.lookup pos).getD 0

theorem frameOf_length (mode : ModeNbr) (octets : List (Nat × BitVec 8)) :
    (frameOf mode octets).length = mode.frameSize := by
  unfold frameOf
  rw [List.length_map, List.length_range]

theorem frameOf_window {mode : ModeNbr} {octets : List (Nat × BitVec 8)} {pos len : Nat}
    (inside : pos + len ≤ mode.frameSize) : window (frameOf mode octets) pos len =
      (List.range' pos len).map fun pos => (octets.lookup pos).getD 0 := by
  unfold frameOf
  exact window_map_range _ inside

/-- Where no octet is given there are zeros. -/
theorem frameOf_blank {mode : ModeNbr} {octets : List (Nat × BitVec 8)} {pos len : Nat}
    (inside : pos + len ≤ mode.frameSize) (apart : ∀ entry ∈ octets, entry.1 < pos ∨ pos + len ≤ entry.1) :
    window (frameOf mode octets) pos len = List.replicate len 0 := by
  rw [frameOf_window inside, List.eq_replicate_iff]
  refine ⟨by rw [List.length_map, List.length_range'], fun octet listed => ?_⟩
  obtain ⟨at_, among, rfl⟩ := List.mem_map.mp listed
  have inside_window := List.mem_range'_1.mp among
  have unlisted : octets.lookup at_ = none := by
    rw [List.lookup_eq_none_iff]
    intro entry given
    have outside := apart entry given
    have different : at_ ≠ entry.1 := by omega
    simpa using different
  rw [unlisted]
  rfl

def twoExposureMode : ModeNbr := ⟨cdcMode20m, by decide⟩

/-- The first dot of bank 0 is 3000 away in both exposures, the second one 1000 in
the low exposure; the high exposure is one tick later. -/
def highThenLow (highErr : BitVec 8) : Octets :=
  frameOf twoExposureMode
    [(firstPeakPos 0 0 + 12, 0xb8), (firstPeakPos 0 0 + 13, 0x0b), (firstPeakPos 12 0 + 12, 0xb8),
      (firstPeakPos 12 0 + 13, 0x0b), (firstPeakPos 12 0 + 20, highErr), (firstPeakPos 0 1 + 12, 0xe8),
      (firstPeakPos 0 1 + 13, 0x03), (12 * bankSize + 238, 1)]

theorem highThenLow_length (highErr : BitVec 8) : (highThenLow highErr).length = twoExposureMode.frameSize :=
  frameOf_length twoExposureMode _

theorem highThenLow_peaks {highErr : BitVec 8} (tested : highErr = 0 ∨ highErr = 1) :
    firstPeakAt (highThenLow highErr) 0 0 = ⟨0, 0, 3000, 0, 0⟩ ∧
      firstPeakAt (highThenLow highErr) 12 0 = ⟨0, 0, 3000, 0, highErr.setWidth 32⟩ ∧
      firstPeakAt (highThenLow highErr) 0 1 = ⟨0, 0, 1000, 0, 0⟩ ∧
      sensorTsAt (highThenLow highErr) 0 = 0 ∧ sensorTsAt (highThenLow highErr) 12 = 1 := by
  unfold firstPeakAt fieldAt sensorTsAt highThenLow
  simp (disch := decide) only [frameOf_window]
  rcases tested with rfl | rfl <;> decide

theorem highThenLow_choice {highErr : BitVec 8} (tested : highErr = 0 ∨ highErr = 1) :
    takesHigh twoExposureMode (highThenLow highErr) 0 0 = true ∧
      takesHigh twoExposureMode (highThenLow highErr) 0 1 = false := by
  obtain ⟨low, high, second, -, -⟩ := highThenLow_peaks tested
  unfold takesHigh prefersHigh
  constructor
  · rw [low, high]
    simp [thrExposure, twoExposureMode]
  · rw [second]
    simp [thrExposure]

/-- The second point is timed as if it were of the high exposure. -/
theorem second_dot_time_carried : ∃ s,
    unpackBanks (fun _ => (⟨0, 0, 0, 0, 0, 0⟩ : Vector6f ℚ)) twoExposureMode (highThenLow 0) [] = .ok s ∧
      s.written ≠ onePeakPoints ℚ twoExposureMode (highThenLow 0) := by
  obtain ⟨s, unpacked, holds⟩ := unpackBanks_written (K := ℚ) (highThenLow_length 0)
    (fun _ => ⟨0, 0, 0, 0, 0, 0⟩) []
  refine ⟨s, unpacked, ?_⟩
  rw [holds.written, Ne, framePoints_eq_iff]
  intro none_carried
  obtain ⟨-, -, second, first_ticks, high_ticks⟩ := highThenLow_peaks (Or.inl rfl : (0 : BitVec 8) = 0 ∨ _)
  obtain ⟨high, low⟩ := highThenLow_choice (Or.inl rfl : (0 : BitVec 8) = 0 ∨ _)
  have written : emits ℚ twoExposureMode (highThenLow 0) 0 1 = true := by
    unfold emits
    rw [decide_eq_true_iff, selectedPeak_low low, farEnough_iff, second]
    decide
  have same_time := none_carried 0 (by decide) 1 (by decide) written low 0 (by decide) high
  unfold bankTime ticksToNs at same_time
  rw [first_ticks, high_ticks] at same_time
  norm_num at same_time
  exact absurd same_time (by decide)

/-- The point of the first dot has the coordinates of a peak with an error. -/
theorem first_dot_with_error : ∃ s,
    unpackBanks (fun _ => (⟨0, 0, 0, 0, 0, 0⟩ : Vector6f ℚ)) twoExposureMode (highThenLow 1) [] = .ok s ∧
      s.written = (emittedDots ℚ twoExposureMode (highThenLow 1)).map (fun dot =>
        dotPoint ℚ twoExposureMode (highThenLow 1) dot.1 dot.2) ∧
      (0, 0) ∈ emittedDots ℚ twoExposureMode (highThenLow 1) ∧
        (selectedPeak twoExposureMode (highThenLow 1) 0 0).err = 1 := by
  obtain ⟨s, unpacked, holds⟩ := unpackBanks_written (K := ℚ) (highThenLow_length 1)
    (fun _ => ⟨0, 0, 0, 0, 0, 0⟩) []
  obtain ⟨first, faulty, -, -, -⟩ := highThenLow_peaks (Or.inr rfl : (1 : BitVec 8) = 0 ∨ _)
  obtain ⟨high, -⟩ := highThenLow_choice (Or.inr rfl : (1 : BitVec 8) = 0 ∨ _)
  have selected := selectedPeak_high high
  rw [Nat.zero_add, faulty] at selected
  refine ⟨s, unpacked, holds.written.trans framePoints_eq_map, ?_, ?_⟩
  · refine mem_emittedDots.mpr ⟨by decide, by decide, ?_⟩
    unfold emits
    rw [decide_eq_true_iff, farEnough_iff, selected, first]
    decide
  · rw [selected]
    decide

/-- The first dot of bank 0 is 1000 away in the low exposure, the second one 3000 in
both; the high exposure is one tick later. -/
def lowThenHigh : Octets :=
  frameOf twoExposureMode
    [(firstPeakPos 0 0 + 12, 0xe8), (firstPeakPos 0 0 + 13, 0x03), (firstPeakPos 0 1 + 12, 0xb8),
      (firstPeakPos 0 1 + 13, 0x0b), (firstPeakPos 12 1 + 12, 0xb8), (firstPeakPos 12 1 + 13, 0x0b),
      (12 * bankSize + 238, 1)]

theorem lowThenHigh_length : lowThenHigh.length = twoExposureMode.frameSize := frameOf_length twoExposureMode _

theorem lowThenHigh_peaks :
    firstPeakAt lowThenHigh 0 0 = ⟨0, 0, 1000, 0, 0⟩ ∧ firstPeakAt lowThenHigh 0 1 = ⟨0, 0, 3000, 0, 0⟩ ∧
      firstPeakAt lowThenHigh 12 1 = ⟨0, 0, 3000, 0, 0⟩ ∧
      sensorTsAt lowThenHigh 0 = 0 ∧ sensorTsAt lowThenHigh 12 = 1 := by
  unfold firstPeakAt fieldAt sensorTsAt lowThenHigh
  simp (disch := decide) only [frameOf_window]
  decide

/-- The other dots of the low exposure have no distance. -/
theorem lowThenHigh_blank {bank mp : Nat} (below : bank < 12) (dot : mp < 48) (other : ¬ (bank = 0 ∧ mp < 2)) :
    (firstPeakAt lowThenHigh bank mp).z = 0 := by
  have size : twoExposureMode.frameSize = 24 * bankSize := by decide
  have nothing : window lowThenHigh (firstPeakPos bank mp + 12) 3 = List.replicate 3 0 := by
    apply frameOf_blank
    · rw [size]
      unfold firstPeakPos bankSize ebdSize
      omega
    · simp only [List.forall_mem_cons, firstPeakPos, bankSize, ebdSize]
      refine ⟨by omega, by omega, by omega, by omega, by omega, by omega, by omega, by simp⟩
  show BitVec.ofNat 32 (ofLittleEndian (window lowThenHigh (firstPeakPos bank mp + 12) 3)) = 0
  rw [nothing]
  decide

/-- Only the second dot of bank 0 takes its high exposure. -/
theorem lowThenHigh_choice {bank mp : Nat} (below : bank < 12) (dot : mp < 48) :
    takesHigh twoExposureMode lowThenHigh bank mp = true ↔ bank = 0 ∧ mp = 1 := by
  obtain ⟨first, second, high, -, -⟩ := lowThenHigh_peaks
  unfold takesHigh prefersHigh
  by_cases given : bank = 0 ∧ mp < 2
  · obtain ⟨rfl, two⟩ := given
    interval_cases mp
    · rw [first]
      simp [thrExposure]
    · rw [second, high]
      simp [thrExposure, twoExposureMode]
  · rw [lowThenHigh_blank below dot given]
    simp only [thrExposure]
    refine iff_of_false (by simp) fun same => given ⟨same.1, by omega⟩

/-- Both dots are far enough. -/
theorem lowThenHigh_emits {bank mp : Nat} (below : bank < 12) (dot : mp < 48) :
    emits ℚ twoExposureMode lowThenHigh bank mp = true ↔ bank = 0 ∧ mp < 2 := by
  obtain ⟨first, second, high, -, -⟩ := lowThenHigh_peaks
  unfold emits
  rw [decide_eq_true_iff, farEnough_iff]
  by_cases given : bank = 0 ∧ mp < 2
  · obtain ⟨rfl, two⟩ := given
    interval_cases mp
    · rw [selectedPeak_low (Bool.eq_false_iff.mpr (mt (lowThenHigh_choice below dot).mp (by decide))), first]
      decide
    · rw [selectedPeak_high ((lowThenHigh_choice below dot).mpr ⟨rfl, rfl⟩), second, high]
      decide
  · have low : takesHigh twoExposureMode lowThenHigh bank mp = false := by
      rw [Bool.eq_false_iff, Ne, lowThenHigh_choice below dot]
      omega
    rw [selectedPeak_low low, lowThenHigh_blank below dot given]
    exact iff_of_false (fun emitted => absurd emitted.2 (by decide)) given

theorem lowThenHigh_dots {bank : Nat} (below : bank < 12) :
    (List.range 48).filter (emits ℚ twoExposureMode lowThenHigh bank) = if bank = 0 then [0, 1] else [] := by
  have same : ∀ mp ∈ List.range 48, emits ℚ twoExposureMode lowThenHigh bank mp = decide (bank = 0 ∧ mp < 2) := by
    intro mp listed
    rw [Bool.eq_iff_iff, lowThenHigh_emits below (List.mem_range.mp listed), decide_eq_true_iff]
  rw [List.filter_congr same]
  by_cases zero : bank = 0
  · simp only [zero, true_and, if_true]
    decide
  · simp [zero]

theorem lowThenHigh_points : onePeakPoints ℚ twoExposureMode lowThenHigh =
    [⟨0, 0, 1 / 4, 0, 0, 0⟩, ⟨0, 0, 3 / 4, 0, 500, 0⟩] := by
  obtain ⟨first, second, high, ticks, high_ticks⟩ := lowThenHigh_peaks
  have low_source : sourceBank twoExposureMode lowThenHigh 0 0 = 0 :=
    if_neg (mt (lowThenHigh_choice (by decide) (by decide)).mp (by decide))
  have high_source : sourceBank twoExposureMode lowThenHigh 0 1 = 12 :=
    if_pos ((lowThenHigh_choice (by decide) (by decide)).mpr (by decide))
  have rings : ringOf twoExposureMode 0 0 = 0 ∧ ringOf twoExposureMode 0 1 = 0 := by decide
  have others : (List.range' 1 11).flatMap (fun bank =>
      ((List.range 48).filter (emits ℚ twoExposureMode lowThenHigh bank)).map fun mp =>
        pointOfBank ℚ lowThenHigh (sourceBank twoExposureMode lowThenHigh bank mp) mp
          (ringOf twoExposureMode bank mp)) = [] := by
    rw [List.flatMap_eq_nil_iff]
    intro bank listed
    have range := List.mem_range'_1.mp listed
    rw [lowThenHigh_dots (by omega), if_neg (by omega), List.map_nil]
  have banks : List.range twoExposureMode.nbrBanks = 0 :: List.range' 1 11 := by decide
  have positive : (0 : BitVec 32) &&& 0x200000 = 0 := by decide
  have counts : (1000 : BitVec 32).toNat = 1000 ∧ (3000 : BitVec 32).toNat = 3000 := by decide
  have one_tick : ((1 : BitVec 32) - 0).toNat = 1 := by decide
  unfold onePeakPoints
  rw [banks, List.flatMap_cons, others, lowThenHigh_dots (by decide), List.append_nil, if_pos rfl]
  simp only [List.map_cons, List.map_nil, low_source, high_source, rings, pointOfBank, first, high, ticks, high_ticks]
  simp only [positive, if_true, counts, one_tick]
  norm_num

/-- Two points, the first one of the low exposure and the second one of the high. -/
theorem low_then_high_own_time : ∃ s,
    unpackBanks (fun _ => (⟨0, 0, 0, 0, 0, 0⟩ : Vector6f ℚ)) twoExposureMode lowThenHigh [] = .ok s ∧
      s.written = onePeakPoints ℚ twoExposureMode lowThenHigh ∧
      s.written = [⟨0, 0, 1 / 4, 0, 0, 0⟩, ⟨0, 0, 3 / 4, 0, 500, 0⟩] := by
  obtain ⟨s, unpacked, own_iff⟩ := points_from_one_peak_iff (K := ℚ) lowThenHigh_length (fun _ => ⟨0, 0, 0, 0, 0, 0⟩) []
  have none_carried : NoTimeCarried ℚ twoExposureMode lowThenHigh := by
    intro bank below mp dot written _ earlier before high
    obtain ⟨-, second⟩ := (lowThenHigh_choice below (before.trans dot)).mp high
    have at_most := ((lowThenHigh_emits below dot).mp written).2
    omega
  have own := own_iff.mpr none_carried
  exact ⟨s, unpacked, own, own.trans lowThenHigh_points⟩

/-- The peak of the high exposure that is taken has no error. -/
theorem low_then_high_valid : ∃ s,
    unpackBanks (fun _ => (⟨0, 0, 0, 0, 0, 0⟩ : Vector6f ℚ)) twoExposureMode lowThenHigh [] = .ok s ∧
      (∀ dot ∈ emittedDots ℚ twoExposureMode lowThenHigh,
        (selectedPeak twoExposureMode lowThenHigh dot.1 dot.2).err = 0) ∧
      (0, 1) ∈ emittedDots ℚ twoExposureMode lowThenHigh ∧ takesHigh twoExposureMode lowThenHigh 0 1 = true := by
  obtain ⟨s, unpacked, -, valid_iff⟩ := points_without_error_iff (K := ℚ) lowThenHigh_length
    (fun _ => ⟨0, 0, 0, 0, 0, 0⟩) []
  have high_valid : HighPeaksValid ℚ twoExposureMode lowThenHigh := by
    intro bank below mp dot high _
    obtain ⟨rfl, rfl⟩ := (lowThenHigh_choice below dot).mp high
    obtain ⟨-, -, second, -, -⟩ := lowThenHigh_peaks
    rw [second]
  refine ⟨s, unpacked, valid_iff.mpr high_valid, ?_, ?_⟩
  · exact mem_emittedDots.mpr ⟨by decide, by decide, (lowThenHigh_emits (by decide) (by decide)).mpr (by decide)⟩
  · exact (lowThenHigh_choice (by decide) (by decide)).mpr (by decide)

def oneExposureMode : ModeNbr := ⟨1, by decide⟩

/-- One point at 704 quarter metres, in a mode of one exposure. -/
def onePointFrame : Octets := frameOf oneExposureMode [(firstPeakPos 0 0 + 14, 0x2b)]

theorem onePointFrame_length : onePointFrame.length = oneExposureMode.frameSize :=
  frameOf_length oneExposureMode _

/-- Two frames of different modes through one vector. -/
theorem two_modes_shown : ∃ first second,
    unpackFrames (fun _ => (⟨0, 0, 0, 0, 0, 0⟩ : Vector6f ℚ)) []
      [⟨twoExposureMode, highThenLow 0, true, 5⟩, ⟨oneExposureMode, onePointFrame, true, 5⟩] =
        .ok [some first, some second] ∧
      ShowsFrame twoExposureMode (highThenLow 0) first.2 ∧
      ShowsFrame oneExposureMode onePointFrame second.2 := by
  have sized : ∀ captured ∈ [(⟨twoExposureMode, highThenLow 0, true, 5⟩ : CapturedFrame),
      ⟨oneExposureMode, onePointFrame, true, 5⟩], captured.frame.length = captured.mode.frameSize := by
    intro captured listed
    rw [List.mem_pair] at listed
    rcases listed with rfl | rfl
    · exact highThenLow_length 0
    · exact onePointFrame_length
  obtain ⟨outcomes, unpacked, shown⟩ := frames_shown (fun _ => (⟨0, 0, 0, 0, 0, 0⟩ : Vector6f ℚ)) [] _ sized
  rcases shown with _ | ⟨⟨first_shown, first_frame⟩, _ | ⟨⟨second_shown, second_frame⟩, _ | _⟩⟩
  obtain ⟨first, rfl⟩ := Option.isSome_iff_exists.mp (first_shown.mpr ⟨rfl, by decide⟩)
  obtain ⟨second, rfl⟩ := Option.isSome_iff_exists.mp (second_shown.mpr ⟨rfl, by decide⟩)
  exact ⟨first, second, unpacked, first_frame first rfl, second_frame second rfl⟩

end AsDt1.Guarantees
