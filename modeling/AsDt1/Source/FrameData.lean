import AsDt1.Lib.Lists
import AsDt1.Lib.Octets
import AsDt1.Source.ImuMessage
import AsDt1.Source.Modes

/-!
# The data of a serial frame

What the driver computes from a frame that has been read: the points of a CDC
payload (dt1_device_cdc.cpp:15-47, 101-106) and the IMU samples
(dt1_device.cpp:506-546). The first peak's coordinates are exact rationals; the
scale factors of the IMU readings are left out, which are in counts here.
-/
namespace AsDt1.Source
open AsDt1.Lib

/-! ## The payload -/

def lineOrder : List Nat :=
  [0, 2, 12, 14, 4, 6, 16, 18, 8, 10, 20, 22, 1, 3, 13, 15, 5, 7, 17, 19, 9, 11, 21, 23]

def getOffsetFullRes (pointNbr : Nat) : Nat := 15 * (24 * lineOrder.getD (pointNbr / 24) 0 + pointNbr % 24)

def getOffsetHalfRes (pointNbr : Nat) : Nat := 15 * (24 * lineOrder.getD (pointNbr / 24) 0 / 2 + pointNbr % 24)

/-- `if (v & 0x80000) { v = 0 - (0x100000 - v); }` -/
def signed20 (v : Nat) : Int := if v &&& 0x80000 ≠ 0 then 0 - (0x100000 - v) else v

/-- `none` is the point of three NaNs; the failure is the `std::out_of_range`. -/
def extractFirstPeak (data : Octets) (offset : Nat) : Except OutOfBounds (Option (Vec3 ℚ)) := do
  let record ← load data offset 15
  let octet (i : Nat) : Nat := (record.getD i 0).toNat
  let x1 := signed20 (octet 0 <<< 12 ||| octet 1 <<< 4 ||| octet 2 >>> 4)
  let y1 := signed20 ((octet 2 &&& 0x0f) <<< 16 ||| octet 3 <<< 8 ||| octet 4)
  let z1 := signed20 (octet 5 <<< 12 ||| octet 6 <<< 4 ||| octet 7 >>> 4)
  let peak1 : Vec3 ℚ := ⟨-y1 / 1000 * (1 / 4), x1 / 1000 * (1 / 4), z1 / 1000 * (1 / 4)⟩
  return if peak1 = 0 then none else some peak1

/-- `nbr_points_x * nbr_points_y` -/
def ModeInfo.pointCount (mode : ModeInfo) : Nat := mode.nbrPointsX * mode.nbrPointsY

/-- The bytes of `_receive_buf` that `start_impl` allocates. -/
def ModeInfo.payloadSize (mode : ModeInfo) : Nat := mode.pointCount * 15

/-- The loop that fills `_point_cloud`. -/
def unpackPointCloud (mode : ModeInfo) (receiveBuf : Octets) : Except OutOfBounds (List (Option (Vec3 ℚ))) :=
  let offset := if mode.nbrPointsY = 24 then getOffsetFullRes else getOffsetHalfRes
  (List.range mode.pointCount).mapM fun i => extractFirstPeak receiveBuf (offset i)

theorem getOffsetFullRes_inside {i : Nat} (point : i < 576) : getOffsetFullRes i + 15 ≤ 576 * 15 := by
  have rows : ∀ row < 24, lineOrder.getD row 0 ≤ 23 := by decide
  have row := rows (i / 24) (by omega)
  unfold getOffsetFullRes
  omega

/-- With half the rows only the even entries of `line_order` are used. -/
theorem getOffsetHalfRes_inside {i : Nat} (point : i < 288) : getOffsetHalfRes i + 15 ≤ 288 * 15 := by
  have rows : ∀ row < 12, lineOrder.getD row 0 ≤ 22 := by decide
  have row := rows (i / 24) (by omega)
  unfold getOffsetHalfRes
  omega

theorem extractFirstPeak_ok {data : Octets} {offset : Nat} (inside : offset + 15 ≤ data.length) :
    ∃ peak, extractFirstPeak data offset = .ok peak := by
  unfold extractFirstPeak load
  rw [if_pos inside]
  exact ⟨_, rfl⟩

/-- A buffer of the size that `start_impl` allocates holds every point. -/
theorem unpackPointCloud_ok {mode : ModeInfo} (listed : mode ∈ dt1ModesList) {receiveBuf : Octets}
    (sized : receiveBuf.length = mode.payloadSize) :
    ∃ points, unpackPointCloud mode receiveBuf = .ok points := by
  have shapes : ∀ mode ∈ dt1ModesList,
      mode.nbrPointsX = 24 ∧ (mode.nbrPointsY = 24 ∨ mode.nbrPointsY = 12) := by decide
  obtain ⟨columns, rows⟩ := shapes mode listed
  unfold unpackPointCloud
  apply mapM_ok
  intro i point
  have below : i < mode.pointCount := List.mem_range.mp point
  apply extractFirstPeak_ok
  unfold ModeInfo.payloadSize ModeInfo.pointCount at sized
  unfold ModeInfo.pointCount at below
  rcases rows with full | half
  · rw [columns, full] at sized below
    rw [if_pos full, sized]
    exact getOffsetFullRes_inside below
  · rw [columns, half] at sized below
    rw [if_neg (by omega), sized]
    exact getOffsetHalfRes_inside below

/-! ## The IMU records -/

/-- `imu_sample`, with the readings in counts of their scale factors. -/
structure ImuSample where
  timestamp : BitVec 64
  accel : Vec3 Int
  gyro : Vec3 Int
  temp : BitVec 8
  deriving DecidableEq, Repr

/-- `static_cast<uint16_t>(record[i]) << 8 | record[i + 1]` -/
def bigEndian16 (record : Octets) (i : Nat) : BitVec 16 := record.getD i 0 ++ record.getD (i + 1) 0

/-- `head == 0x6C` -/
def isReset (record : Octets) : Bool := record.getD 0 0 = 0x6C

/-- `frame_ts + sample_ts * 1'000LL` as `int64_t` -/
def resetTs (frameTs : BitVec 64) (record : Octets) : Int :=
  (frameTs + BitVec.ofNat 64 ((bigEndian16 record 14).toNat * 1000)).toInt

def imuSampleOf (timestamp : BitVec 64) (record : Octets) : ImuSample where
  timestamp
  accel := ⟨(bigEndian16 record 3).toInt, (bigEndian16 record 1).toInt, (bigEndian16 record 5).toInt⟩
  gyro := ⟨(bigEndian16 record 9).toInt, (bigEndian16 record 7).toInt, (bigEndian16 record 11).toInt⟩
  temp := record.getD 13 0

/-- `_latest_imu_sample_ts` after a record that the loop body does not stop at; the
signed sum does not overflow. -/
def nextSampleTs (frameTs : BitVec 64) (latest : Int) (record : Octets) : Int :=
  if isReset record then resetTs frameTs record
  else if latest > 0 then latest + 10000000 else latest

/-- The loop over `_imu_data`: the last value of `_latest_imu_sample_ts` and the samples. -/
def unpackRecords (frameTs clockOffset : BitVec 64) : (gotReset : Bool) → (latest : Int) → List Octets →
    Int × List ImuSample
  | _, latest, [] => (latest, [])
  | gotReset, latest, record :: rest =>
    if isReset record && gotReset then (latest, [])
    else
      let latest := nextSampleTs frameTs latest record
      let (last, samples) := unpackRecords frameTs clockOffset (gotReset || isReset record) latest rest
      if latest > 0 then (last, imuSampleOf (BitVec.ofInt 64 latest + clockOffset) record :: samples)
      else (last, samples)

def unpackImuData (frameTs clockOffset : BitVec 64) (latest : Int) (imuData : List Octets) :
    Int × List ImuSample :=
  unpackRecords frameTs clockOffset false latest imuData

end AsDt1.Source
