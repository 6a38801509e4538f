import AsDt1.Source.FrameData

/-!
# Histogram frames

`unpack_hist_frame` (dt1_device_hist.cpp:32-45, 193-269) on a frame as it lies in
a capture buffer, with the packed structures of hist_frame.h as positions in it.
`K` is the type of the floats. A read outside the received octets, outside a ring
table or a write outside `_points_xyzitr` is an error. A peak is read whole, where
the code reads the fields it uses; log messages are left out.
-/
namespace AsDt1.Source
open AsDt1.Lib

/-- Row of a mode in the table. -/
abbrev ModeNbr := Fin dt1ModesList.length

def ModeNbr.info (mode : ModeNbr) : ModeInfo := dt1ModesList.get mode

def cdcMode20m : Nat := 0
def cdcMode30m30f : Nat := 3

/-! ## The packed structures -/

/-- `sizeof(ebd_data)`, also that of `mp_data` -/
def ebdSize : Nat := 672

/-- `sizeof(bank_data)`: the EBD, a reserved part of the same size, and 48 dots. -/
def bankSize : Nat := 50 * ebdSize

/-- `&bank[bank].mp[mp].first` -/
def firstPeakPos (bank mp : Nat) : Nat := bank * bankSize + 2 * ebdSize + mp * ebdSize + 600

/-- `peak_data`, with the coordinates and the height as the `uint32_t` made of their
first three octets. -/
structure PeakData where
  x : BitVec 32
  y : BitVec 32
  z : BitVec 32
  height : BitVec 32
  err : BitVec 32
  deriving DecidableEq, Repr

/-- `field[2] << 16 | field[1] << 8 | field[0]` -/
def loadField (frame : Octets) (pos : Nat) : Except OutOfBounds (BitVec 32) := do
  return BitVec.ofNat 32 (ofLittleEndian (← load frame pos 3))

def loadFirstPeak (frame : Octets) (bank mp : Nat) : Except OutOfBounds PeakData := do
  let pos := firstPeakPos bank mp
  return {
    x := ← loadField frame (pos + 4)
    y := ← loadField frame (pos + 8)
    z := ← loadField frame (pos + 12)
    height := ← loadField frame (pos + 16)
    err := BitVec.ofNat 32 (ofLittleEndian (← load frame (pos + 20) 4)) }

/-- `sensor_ts[0] << 24 | sensor_ts[2] << 16 | sensor_ts[4] << 8 | sensor_ts[6]` -/
def bigEndianTicks (sensorTs : Octets) : BitVec 32 :=
  sensorTs.getD 0 0 ++ sensorTs.getD 2 0 ++ sensorTs.getD 4 0 ++ sensorTs.getD 6 0

def loadSensorTs (frame : Octets) (bank : Nat) : Except OutOfBounds (BitVec 32) := do
  return bigEndianTicks (← load frame (bank * bankSize + 232) 8)

/-- `cpu_ts[3] << 24 | cpu_ts[2] << 16 | cpu_ts[1] << 8 | cpu_ts[0]` of bank 0 -/
def loadCpuTs (frame : Octets) : Except OutOfBounds (BitVec 32) := do
  return BitVec.ofNat 32 (ofLittleEndian (← load frame 654 4))

/-! ## Rings -/

def bankToRingFull : List Nat := [0, 12, 4, 16, 8, 20, 1, 13, 5, 17, 9, 21]
def bankToRingHalf : List Nat := [0, 6, 2, 8, 4, 10]

def lookUp (table : List Nat) (bank : Nat) : Except OutOfBounds Nat :=
  match table[bank]? with
  | some ring => .ok ring
  | none => .error ⟨bank, 1, table.length⟩

def bankToRing (bank mpIdx : Nat) (mode : ModeNbr) : Except OutOfBounds Nat := do
  if mode.val = cdcMode30m30f then return ((← lookUp bankToRingHalf bank) + mpIdx / 24) % 256
  else return ((← lookUp bankToRingFull bank) + 2 * (mpIdx / 24)) % 256

/-! ## Points -/

/-- `Vector6f` -/
structure Vector6f (K : Type) where
  x : K
  y : K
  z : K
  height : K
  ts : K
  ring : K
  deriving DecidableEq, Repr

section Points

variable {K : Type} [NatCast K] [Neg K] [Mul K] [Div K] [OfScientific K] [LT K] [DecidableLT K]

/-- `4000.0f` -/
def countsPerMetre : K := ((4000 : Nat) : K)

/-- `static_cast<float>(sensor_ts - initial_bank_ts) * 500.0f` -/
def ticksToNs (sensorTs initialBankTs : BitVec 32) : K :=
  ((sensorTs - initialBankTs).toNat : K) * ((500 : Nat) : K)

/-- `x_f` and `y_f`, with a sign in bit 21. -/
def signedCoordinate (v : BitVec 32) : K :=
  if v &&& 0x200000 = 0 then (v.toNat : K) / countsPerMetre else -((0x400000 - v).toNat : K) / countsPerMetre

/-- The point of a peak. -/
def peakPoint (peak : PeakData) (ts : K) (ring : Nat) : Vector6f K where
  x := -signedCoordinate peak.y
  y := signedCoordinate peak.x
  z := (peak.z.toNat : K) / countsPerMetre
  height := (peak.height.toNat : K)
  ts
  ring := (ring : K)

/-- `z_f > 0.2f` -/
def farEnough (K : Type) [NatCast K] [Div K] [OfScientific K] [LT K] [DecidableLT K] (peak : PeakData) : Bool :=
  ((0.2 : K) < (peak.z.toNat : K) / countsPerMetre)

/-! ## The loops -/

def thrExposure : BitVec 32 := 2000

/-- The test of the 20 m mode for the high-exposure peak. -/
def prefersHigh (low high : PeakData) : Bool :=
  thrExposure < low.z ∧ ¬(low.z ≠ 65536 ∧ high.z ≤ thrExposure)

/-- `_points_xyzitr` and the index of its next entry. -/
structure Unpacking (K : Type) where
  destIdx : Nat
  points : List (Vector6f K)

/-- `_points_xyzitr[dest_idx++] = point` -/
def Unpacking.emit (s : Unpacking K) (point : Vector6f K) : Except OutOfBounds (Unpacking K) :=
  if s.destIdx < s.points.length then
    .ok ⟨s.destIdx + 1, s.points.set s.destIdx point⟩
  else .error ⟨s.destIdx, 1, s.points.length⟩

/-- The low or the high first peak of a dot, with `ts` after the choice. -/
def selectPeak (mode : ModeNbr) (frame : Octets) (initialBankTs : BitVec 32) (bank mp : Nat) (low : PeakData)
    (ts : K) : Except OutOfBounds (PeakData × K) := do
  if mode.val = cdcMode20m then
    let high ← loadFirstPeak frame (bank + 12) mp
    if prefersHigh low high then return (high, ticksToNs (← loadSensorTs frame (bank + 12)) initialBankTs)
    else return (low, ts)
  else return (low, ts)

/-- The body of the loop over the dots of a bank; `ts` is a variable of the bank. -/
def unpackDot (mode : ModeNbr) (frame : Octets) (initialBankTs : BitVec 32) (bank : Nat) (state : K × Unpacking K)
    (mp : Nat) : Except OutOfBounds (K × Unpacking K) := do
  let (ts, s) := state
  let low ← loadFirstPeak frame bank mp
  let ring ← bankToRing bank mp mode
  if low.err = 0 then
    let (peak, ts) ← selectPeak mode frame initialBankTs bank mp low ts
    if farEnough K peak then return (ts, ← s.emit (peakPoint peak ts ring)) else return (ts, s)
  else return (ts, s)

/-- The body of the loop over the banks. -/
def unpackBank (mode : ModeNbr) (frame : Octets) (initialBankTs : BitVec 32) (s : Unpacking K) (bank : Nat) :
    Except OutOfBounds (Unpacking K) := do
  let sensorTs ← loadSensorTs frame bank
  let (_, s) ← (List.range 48).foldlM (unpackDot mode frame initialBankTs bank)
    (ticksToNs sensorTs initialBankTs, s)
  return s

/-- `std::min(nbr_banks, 12)` -/
def ModeNbr.nbrBanks (mode : ModeNbr) : Nat := min mode.info.nbrBanks 12

/-- `std::vector::resize`; `blank` is what the entries are that it adds. -/
def resize (blank : Nat → Vector6f K) (points : List (Vector6f K)) (size : Nat) : List (Vector6f K) :=
  points.take size ++ (List.range' points.length (size - points.length)).map blank

/-- Lines 195 to 262; the result holds `_points_xyzitr` and `dest_idx`. -/
def unpackBanks (blank : Nat → Vector6f K) (mode : ModeNbr) (frame : Octets) (points : List (Vector6f K)) :
    Except OutOfBounds (Unpacking K) := do
  let initialBankTs ← loadSensorTs frame 0
  let points := resize blank points mode.info.pointCount
  (List.range mode.nbrBanks).foldlM (unpackBank mode frame initialBankTs) ⟨0, points⟩

/-- A dequeued buffer, with what `unpack_hist_frame` tests before it publishes. -/
structure CapturedFrame where
  mode : ModeNbr
  /-- The `bytesused` first octets. -/
  frame : Octets
  /-- `_running && _point_cloud_cb` -/
  wanted : Bool
  clockOffset : BitVec 64

/-- `_points_xyzitr` after the call, and the stamp and the points of the callback. -/
def unpackHistFrame (blank : Nat → Vector6f K) (points : List (Vector6f K)) (captured : CapturedFrame) :
    Except OutOfBounds (List (Vector6f K) × Option (BitVec 64 × List (Vector6f K))) := do
  let cpuTs ← loadCpuTs captured.frame
  let s ← unpackBanks blank captured.mode captured.frame points
  if captured.wanted ∧ captured.clockOffset > 0 then
    let points := resize blank s.points s.destIdx
    return (points, some (BitVec.ofNat 64 (cpuTs.toNat * 1000000) + captured.clockOffset, points))
  else return (s.points, none)

/-- The expected `bytesused` of a mode. -/
def ModeNbr.frameSize (mode : ModeNbr) : Nat := mode.info.histFrameWidth * mode.info.histFrameHeight * 2

/-- `run_v4l2` on one buffer after another (lines 172 to 181). -/
def unpackFrames (blank : Nat → Vector6f K) :
    List (Vector6f K) → List CapturedFrame → Except OutOfBounds (List (Option (BitVec 64 × List (Vector6f K))))
  | _, [] => .ok []
  | points, captured :: rest => do
    let (points, published) ←
      if captured.frame.length = captured.mode.frameSize then unpackHistFrame blank points captured
      else pure (points, none)
    return published :: (← unpackFrames blank points rest)

end Points

end AsDt1.Source
