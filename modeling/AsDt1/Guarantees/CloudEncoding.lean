import AsDt1.Source.Combiner
import AsDt1.Source.DriverCloud
import AsDt1.Guarantees.HistogramPoints

/-!
# Encoded clouds

What `on_point_cloud` encodes is read back by a subscriber that knows the message
alone, and by the combiner at the offsets that it finds. The heights and rings
survive their time as floats; a list of so many points that the message cannot
count its octets is cut.
-/
namespace AsDt1.Guarantees
open AsDt1.Lib AsDt1.Source

/-! ## Readers -/

/-- A value of a point: its name, where it starts and its number of octets. -/
structure Member where
  name : String
  pos : Nat
  len : Nat
  deriving DecidableEq, Repr

def readMember (data : Octets) (bigendian : Bool) (base : Nat) (member : Member) :
    Except OutOfBounds (String × Nat) := do
  let octets ← load data (base + member.pos) member.len
  return (member.name, ofLittleEndian (if bigendian then octets.reverse else octets))

/-- The octets of one value of a `PointField` datatype. -/
def datatypeSize (datatype : BitVec 8) : Nat :=
  match datatype.toNat with
  | 1 | 2 => 1
  | 3 | 4 => 2
  | 5 | 6 | 7 => 4
  | 8 => 8
  | _ => 0

def declared (field : PointField) : Member := ⟨field.name, field.offset.toNat, datatypeSize field.datatype⟩

/-- Every point of a message, by the fields and steps that it declares. -/
def decode (cloud : PointCloud2) : Except OutOfBounds (List (List (String × Nat))) :=
  (List.range cloud.pointCount).mapM fun k =>
    let base := k / cloud.width.toNat * cloud.rowStep.toNat + k % cloud.width.toNat * cloud.pointStep.toNat
    (cloud.fields.map declared).mapM (readMember cloud.data cloud.isBigendian base)

/-- The six offsets of the combiner; a negative one is a field that was not found. -/
def members (offsets : Offsets) : List Member :=
  [("x", offsets.x, 4), ("y", offsets.y, 4), ("z", offsets.z, 4), ("intensity", offsets.intensity, 4),
    ("time", offsets.time, 4), ("ring", offsets.ring, 2)].filterMap fun (name, offset, len) =>
      if offset ≥ 0 then some ⟨name, offset.toNat, len⟩ else none

/-- Every point of a message, at the offsets of the combiner. -/
def decodeAt (offsets : Offsets) (cloud : PointCloud2) : Except OutOfBounds (List (List (String × Nat))) :=
  (List.range cloud.pointCount).mapM fun k =>
    (members offsets).mapM (readMember cloud.data false (k * cloud.pointStep.toNat))

/-! ## Points of the devices -/

/-- A point as `unpack_hist_frame` writes it, if its time fits 32 bits. -/
structure HistPoint where
  x : Binary32
  y : Binary32
  z : Binary32
  height : BitVec 24
  ts : Binary32
  ring : Fin 24
  ts_finite : ts.isFinite
  ts_nonneg : 0 ≤ ts.value
  ts_below : ts.value < 2 ^ 32

namespace HistPoint

def vector (p : HistPoint) : Vector6f Binary32 :=
  ⟨p.x, p.y, p.z, (p.height.toNat : Binary32), p.ts, (p.ring.val : Binary32)⟩

/-- The truncated time. -/
def time (p : HistPoint) : Nat := ⌊p.ts.value⌋₊

def octets (p : HistPoint) : Octets :=
  littleEndian 4 p.x.word.toNat ++ littleEndian 4 p.y.word.toNat ++ littleEndian 4 p.z.word.toNat ++
    littleEndian 4 p.height.toNat ++ littleEndian 4 p.time ++ littleEndian 2 p.ring.val

def reading (p : HistPoint) : List (String × Nat) :=
  [("x", p.x.word.toNat), ("y", p.y.word.toNat), ("z", p.z.word.toNat), ("intensity", p.height.toNat),
    ("time", p.time), ("ring", p.ring.val)]

theorem octets_length (p : HistPoint) : p.octets.length = 22 := by
  unfold octets
  simp only [List.length_append, littleEndian_length]

theorem time_lt (p : HistPoint) : p.time < 2 ^ 32 := by
  unfold time
  rw [Nat.floor_lt p.ts_nonneg]
  exact_mod_cast p.ts_below

end HistPoint

/-- What a device hands to the callback, with the output format it is created for. -/
inductive DeviceCloud where
  | xyz (points : List (Vec3 Binary32))
  | xyzitr (points : List HistPoint)

namespace DeviceCloud

def outputFormat : DeviceCloud → String
  | xyz _ => "XYZ"
  | xyzitr _ => "XYZITR"

def data : DeviceCloud → PointsData
  | xyz points => .xyz points
  | xyzitr points => .xyzitr (points.map HistPoint.vector)

def size : DeviceCloud → Nat
  | xyz points => points.length
  | xyzitr points => points.length

def pointStep : DeviceCloud → Nat
  | xyz _ => 12
  | xyzitr _ => 22

def readings : DeviceCloud → List (List (String × Nat))
  | xyz points => points.map fun p => [("x", p.x.word.toNat), ("y", p.y.word.toNat), ("z", p.z.word.toNat)]
  | xyzitr points => points.map HistPoint.reading

/-- Where the driver writes the values of a point. -/
def offsets : DeviceCloud → Offsets
  | xyz _ => ⟨0, 4, 8, -1, -1, -1⟩
  | xyzitr _ => ⟨0, 4, 8, 12, 16, 20⟩

end DeviceCloud

/-- The message says what the device measured. -/
structure Encodes (cloud : PointCloud2) (points : DeviceCloud) : Prop where
  one_row : cloud.height = 1 ∧ cloud.width.toNat = points.size ∧ cloud.pointStep.toNat = points.pointStep
  data_size : cloud.data.length = cloud.width.toNat * cloud.pointStep.toNat
  row_step : cloud.rowStep.toNat = cloud.data.length
  decoded : decode cloud = .ok points.readings
  found : findOffsets cloud = some points.offsets
  decoded_at : decodeAt points.offsets cloud = .ok points.readings

/-! ## Reading back -/

section Reading

variable {α : Type} {octets : α → Octets} {step : Nat} {points : List α}

theorem window_of_point (positive : 0 < step) (sized : ∀ p, (octets p).length = step) {k pos len : Nat}
    (below : k < points.length) (inside : pos + len ≤ step) :
    window (points.flatMap octets) (k * step + pos) len = window (octets points[k]) pos len := by
  have cut : records step (points.flatMap octets) = points.map octets := by
    rw [records_flatMap positive fun p _ => Dvd.intro 1 (by rw [sized, Nat.mul_one])]
    simp only [records_single positive (sized _), List.map_eq_flatMap]
  have listed : k < (records step (points.flatMap octets)).length := by
    rw [cut, List.length_map]
    exact below
  rw [← window_records listed inside]
  simp only [cut, List.getElem_map]

theorem length_of_points (sized : ∀ p, (octets p).length = step) :
    (points.flatMap octets).length = points.length * step := by
  induction points with
  | nil => simp
  | cons p rest ih =>
    rw [List.flatMap_cons, List.length_append, sized, ih, List.length_cons, Nat.succ_mul, Nat.add_comm]

theorem read_point (positive : 0 < step) (sized : ∀ p, (octets p).length = step) {layout : List Member}
    (inside : ∀ member ∈ layout, member.pos + member.len ≤ step) {k : Nat} (below : k < points.length) :
    layout.mapM (readMember (points.flatMap octets) false (k * step)) = .ok (layout.map fun member =>
      (member.name, ofLittleEndian (window (octets points[k]) member.pos member.len))) := by
  apply mapM_eq_ok
  intro member listed
  have whole : (k + 1) * step ≤ points.length * step := Nat.mul_le_mul_right step below
  rw [Nat.succ_mul] at whole
  have inside_point := inside member listed
  have loaded : load (points.flatMap octets) (k * step + member.pos) member.len =
      .ok (window (points.flatMap octets) (k * step + member.pos) member.len) := by
    refine load_eq_ok_iff.mpr ⟨?_, rfl⟩
    rw [length_of_points sized]
    omega
  unfold readMember
  rw [loaded, ok_bind, window_of_point positive sized below inside_point]
  rfl

end Reading

/-! ## Writing -/

theorem assign_eq {data octets : Octets} {pos : Nat} (inside : pos + octets.length ≤ data.length) :
    assign data pos octets = .ok (patched data pos octets) := by
  unfold assign
  rw [store_inside inside]

theorem assign_behind {data front octets : Octets} {pos behind : Nat} (adjacent : behind = pos + front.length)
    (inside : behind + octets.length ≤ data.length) :
    assign (patched data pos front) behind octets = .ok (patched data pos (front ++ octets)) := by
  have front_inside : pos + front.length ≤ data.length := by omega
  have sized := patched_length front_inside
  rw [assign_eq (by omega), adjacent, patched_patched octets front_inside]

theorem convert_eq {width n : Nat} {value : Binary32}
    (converted : value.toUnsigned width = some (BitVec.ofNat width n)) :
    convert width value = .ok (BitVec.ofNat width n) := by
  unfold convert
  rw [converted]

/-- One pass of the loop writes the point's octets, one value behind the other. -/
theorem storePoint_eq {data : Octets} {pos : Nat} (p : HistPoint) (inside : pos + 22 ≤ data.length) :
    storePoint data pos p.vector = .ok (patched data pos p.octets) := by
  have height_lt := p.height.isLt
  have ring_lt := p.ring.isLt
  have height : convert 32 p.vector.height = .ok (BitVec.ofNat 32 p.height.toNat) :=
    convert_eq (Binary32.toUnsigned_natCast height_lt (by omega))
  have time : convert 32 p.vector.ts = .ok (BitVec.ofNat 32 p.time) :=
    convert_eq (Binary32.toUnsigned_eq p.ts_finite p.ts_nonneg p.ts_below)
  have ring : convert 16 p.vector.ring = .ok (BitVec.ofNat 16 p.ring.val) :=
    convert_eq (Binary32.toUnsigned_natCast (by omega) (by omega))
  have height_kept : (BitVec.ofNat 32 p.height.toNat).toNat = p.height.toNat := by
    rw [BitVec.toNat_ofNat, Nat.mod_eq_of_lt (by omega)]
  have time_kept : (BitVec.ofNat 32 p.time).toNat = p.time := by
    rw [BitVec.toNat_ofNat, Nat.mod_eq_of_lt p.time_lt]
  have ring_kept : (BitVec.ofNat 16 p.ring.val).toNat = p.ring.val := by
    rw [BitVec.toNat_ofNat, Nat.mod_eq_of_lt (by omega)]
  unfold storePoint
  rw [assign_eq (by rw [littleEndian_length]; omega), ok_bind]
  simp only [height, time, ring, ok_bind, height_kept, time_kept, ring_kept]
  iterate 4
    rw [assign_behind (by simp only [List.length_append, littleEndian_length])
      (by rw [littleEndian_length]; omega), ok_bind]
  rw [assign_behind (by simp only [List.length_append, littleEndian_length])
    (by rw [littleEndian_length]; omega)]
  rfl

theorem storePoints_eq {data : Octets} {pos : Nat} {points : List HistPoint}
    (inside : pos + points.length * 22 ≤ data.length) :
    storePoints data pos (points.map HistPoint.vector) =
      .ok (patched data pos (points.flatMap HistPoint.octets)) := by
  induction points generalizing data pos with
  | nil => simp [storePoints, patched]
  | cons p rest ih =>
    rw [List.length_cons, Nat.succ_mul] at inside
    have first_inside : pos + p.octets.length ≤ data.length := by
      rw [p.octets_length]
      omega
    rw [List.map_cons, storePoints, storePoint_eq p (by omega), ok_bind,
      ih (by rw [patched_length first_inside]; omega), ← p.octets_length, patched_patched _ first_inside]
    rfl

/-! ## Messages -/

/-- The message of `count` points with these octets. -/
def oneRow (header : Header) (fields : List PointField) (pointStep : BitVec 32) (count : Nat) (data : Octets) :
    PointCloud2 :=
  { header, height := 1, width := BitVec.ofNat 32 count, fields, isBigendian := false, pointStep,
    rowStep := pointStep * BitVec.ofNat 32 count, data, isDense := false }

theorem vector3fOctets_length (p : Vec3 Binary32) : (vector3fOctets p).length = 12 := by
  unfold vector3fOctets
  simp only [List.length_append, littleEndian_length]

/-- What the driver publishes of a list of any length. -/
theorem xyz_message (stampOf : BitVec 64 → Time) (frameId : String) (fields : List PointField)
    (frameTs : BitVec 64) (points : List (Vec3 Binary32)) :
    onPointCloud stampOf ⟨true, frameId, fields⟩ frameTs (.xyz points) =
      .ok (some (oneRow ⟨stampOf frameTs, frameId⟩ fields xyzPointStep points.length
        ((points.flatMap vector3fOctets).take (xyzPointStep * BitVec.ofNat 32 points.length).toNat))) := by
  have counted : (xyzPointStep * BitVec.ofNat 32 points.length).toNat ≤
      (points.flatMap vector3fOctets).length := by
    have at_most : xyzPointStep.toNat * (BitVec.ofNat 32 points.length).toNat ≤ 12 * points.length := by
      rw [BitVec.toNat_ofNat]
      exact Nat.mul_le_mul_left 12 (Nat.mod_le _ _)
    rw [BitVec.toNat_mul, length_of_points vector3fOctets_length, Nat.mul_comm points.length]
    exact (Nat.mod_le _ _).trans at_most
  have copied : copyOctets (List.replicate (xyzPointStep * BitVec.ofNat 32 points.length).toNat 0)
      (points.flatMap vector3fOctets) (xyzPointStep * BitVec.ofNat 32 points.length).toNat =
        .ok ((points.flatMap vector3fOctets).take (xyzPointStep * BitVec.ofNat 32 points.length).toNat) := by
    have taken := List.length_take_of_le counted
    unfold copyOctets
    rw [load_eq_ok_iff.mpr ⟨by omega, rfl⟩]
    change assign _ 0 ((points.flatMap vector3fOctets).take _) = _
    rw [assign_eq (by rw [taken, List.length_replicate]; omega),
      patched_whole (by rw [taken, List.length_replicate])]
  have one_row (rowStep : BitVec 32) : rowStep * 1 = rowStep := BitVec.mul_one rowStep
  unfold onPointCloud
  simp only [not_true_eq_false, if_false, one_row, copied, ok_bind]
  rfl

theorem xyzitr_message (stampOf : BitVec 64 → Time) (frameId : String) (fields : List PointField)
    (frameTs : BitVec 64) {points : List HistPoint} (fits : points.length * 22 < 2 ^ 32) :
    onPointCloud stampOf ⟨true, frameId, fields⟩ frameTs (.xyzitr (points.map HistPoint.vector)) =
      .ok (some (oneRow ⟨stampOf frameTs, frameId⟩ fields xyzitrPointStep points.length
        (points.flatMap HistPoint.octets))) := by
  have counted : (xyzitrPointStep * BitVec.ofNat 32 points.length).toNat = points.length * 22 := by
    have step : xyzitrPointStep.toNat = 22 := by decide
    rw [BitVec.toNat_mul, BitVec.toNat_ofNat, step, Nat.mod_eq_of_lt (by omega : points.length < 2 ^ 32),
      Nat.mul_comm, Nat.mod_eq_of_lt fits]
  have whole : (points.flatMap HistPoint.octets).length = points.length * 22 :=
    length_of_points HistPoint.octets_length
  have stored : storePoints (List.replicate (points.length * 22) 0) 0 (points.map HistPoint.vector) =
      .ok (points.flatMap HistPoint.octets) := by
    rw [storePoints_eq (by rw [List.length_replicate]; omega),
      patched_whole (by rw [whole, List.length_replicate])]
  have one_row (rowStep : BitVec 32) : rowStep * 1 = rowStep := BitVec.mul_one rowStep
  unfold onPointCloud
  simp only [not_true_eq_false, if_false, one_row, List.length_map, counted, stored, ok_bind]
  rfl

section OneRow

variable {α : Type} {octets : α → Octets} {step : Nat} {points : List α} {header : Header}
  {fields : List PointField}

theorem oneRow_numbers (positive : 0 < step) (small : step < 2 ^ 32) (fits : points.length * step < 2 ^ 32)
    {cloud : PointCloud2}
    (built : cloud = oneRow header fields (BitVec.ofNat 32 step) points.length (points.flatMap octets)) :
    cloud.width.toNat = points.length ∧ cloud.pointStep.toNat = step ∧ cloud.pointCount = points.length ∧
      cloud.rowStep.toNat = points.length * step := by
  have below : points.length < 2 ^ 32 := Nat.lt_of_le_of_lt (Nat.le_mul_of_pos_right _ positive) fits
  have width : (BitVec.ofNat 32 points.length).toNat = points.length := by
    rw [BitVec.toNat_ofNat, Nat.mod_eq_of_lt below]
  have steps : (BitVec.ofNat 32 step).toNat = step := by rw [BitVec.toNat_ofNat, Nat.mod_eq_of_lt small]
  subst built
  refine ⟨width, steps, (Nat.mul_one _).trans width, ?_⟩
  change (BitVec.ofNat 32 step * BitVec.ofNat 32 points.length).toNat = points.length * step
  rw [BitVec.toNat_mul, width, steps, Nat.mul_comm, Nat.mod_eq_of_lt fits]

/-- Both readers see the points of a message whose octets fit. -/
theorem decode_oneRow (positive : 0 < step) (small : step < 2 ^ 32) (fits : points.length * step < 2 ^ 32)
    (sized : ∀ p, (octets p).length = step)
    (inside : ∀ member ∈ fields.map declared, member.pos + member.len ≤ step) :
    decode (oneRow header fields (BitVec.ofNat 32 step) points.length (points.flatMap octets)) =
      .ok (points.map fun p => (fields.map declared).map fun member =>
        (member.name, ofLittleEndian (window (octets p) member.pos member.len))) := by
  obtain ⟨width, steps, count, rows⟩ := oneRow_numbers positive small fits (rfl : oneRow header _ _ _ _ = _)
  unfold decode
  rw [count]
  apply mapM_range_eq_ok
  intro k below
  rw [width, steps, Nat.div_eq_of_lt below, Nat.mod_eq_of_lt below, Nat.zero_mul, Nat.zero_add]
  exact read_point positive sized inside below

theorem decodeAt_oneRow (positive : 0 < step) (small : step < 2 ^ 32) (fits : points.length * step < 2 ^ 32)
    (sized : ∀ p, (octets p).length = step) {offsets : Offsets}
    (inside : ∀ member ∈ members offsets, member.pos + member.len ≤ step) :
    decodeAt offsets (oneRow header fields (BitVec.ofNat 32 step) points.length (points.flatMap octets)) =
      .ok (points.map fun p => (members offsets).map fun member =>
        (member.name, ofLittleEndian (window (octets p) member.pos member.len))) := by
  obtain ⟨-, steps, count, -⟩ := oneRow_numbers positive small fits (rfl : oneRow header _ _ _ _ = _)
  unfold decodeAt
  rw [count, steps]
  exact mapM_range_eq_ok fun k below => read_point positive sized inside below

/-- A message of points whose values lie where both readers look for them. -/
theorem oneRow_encodes (positive : 0 < step) (small : step < 2 ^ 32) (fits : points.length * step < 2 ^ 32)
    (sized : ∀ p, (octets p).length = step) {device : DeviceCloud} {layout : List Member}
    (counted : device.size = points.length ∧ device.pointStep = step) (declares : fields.map declared = layout)
    (finds : members device.offsets = layout) (inside : ∀ member ∈ layout, member.pos + member.len ≤ step)
    (found : findOffsets (oneRow header fields (BitVec.ofNat 32 step) points.length (points.flatMap octets)) =
      some device.offsets)
    (reads : (points.map fun p => layout.map fun member =>
      (member.name, ofLittleEndian (window (octets p) member.pos member.len))) = device.readings) :
    Encodes (oneRow header fields (BitVec.ofNat 32 step) points.length (points.flatMap octets)) device := by
  obtain ⟨width, steps, -, rows⟩ := oneRow_numbers positive small fits (rfl : oneRow header _ _ _ _ = _)
  have sized_data : (points.flatMap octets).length = points.length * step := length_of_points sized
  refine ⟨⟨rfl, width.trans counted.1.symm, steps.trans counted.2.symm⟩, ?_, rows.trans sized_data.symm, ?_,
    found, ?_⟩
  · rw [width, steps]
    exact sized_data
  · rw [decode_oneRow positive small fits sized (by rwa [declares]), declares, reads]
  · rw [decodeAt_oneRow positive small fits sized (by rwa [finds]), finds, reads]

end OneRow

def xyzLayout : List Member := [⟨"x", 0, 4⟩, ⟨"y", 4, 4⟩, ⟨"z", 8, 4⟩]

def xyzitrLayout : List Member :=
  xyzLayout ++ [⟨"intensity", 12, 4⟩, ⟨"time", 16, 4⟩, ⟨"ring", 20, 2⟩]

/-- Both readers look for the values where the driver writes them. -/
theorem layouts_agree : (msgFields "XYZ").map declared = xyzLayout ∧
    members (DeviceCloud.xyz []).offsets = xyzLayout ∧ (msgFields "XYZITR").map declared = xyzitrLayout ∧
    members (DeviceCloud.xyzitr []).offsets = xyzitrLayout := by decide

theorem xyz_read (p : Vec3 Binary32) : (xyzLayout.map fun member =>
    (member.name, ofLittleEndian (window (vector3fOctets p) member.pos member.len))) =
      [("x", p.x.word.toNat), ("y", p.y.word.toNat), ("z", p.z.word.toNat)] := by
  simp [xyzLayout, vector3fOctets, window, List.take_append, List.drop_append, List.drop_of_length_le,
    List.take_of_length_le, ofLittleEndian_littleEndian]
  exact ⟨p.x.word.isLt, p.y.word.isLt, p.z.word.isLt⟩

theorem xyzitr_read (p : HistPoint) : (xyzitrLayout.map fun member =>
    (member.name, ofLittleEndian (window p.octets member.pos member.len))) = p.reading := by
  have height := p.height.isLt
  have ring := p.ring.isLt
  simp [xyzitrLayout, xyzLayout, HistPoint.octets, HistPoint.reading, window, List.take_append, List.drop_append,
    List.drop_of_length_le, List.take_of_length_le, ofLittleEndian_littleEndian]
  exact ⟨p.x.word.isLt, p.y.word.isLt, p.z.word.isLt, by omega, p.time_lt, by omega⟩

section Published

variable {stampOf : BitVec 64 → Time} {frameId : String} {frameTs : BitVec 64}

theorem xyz_encodes {points : List (Vec3 Binary32)} (fits : points.length * 12 < 2 ^ 32) :
    ∃ cloud, onPointCloud stampOf ⟨true, frameId, msgFields "XYZ"⟩ frameTs (.xyz points) = .ok (some cloud) ∧
      Encodes cloud (.xyz points) := by
  obtain ⟨declares, finds, -, -⟩ := layouts_agree
  refine ⟨_, xyz_message stampOf frameId _ frameTs points, ?_⟩
  have whole : (points.flatMap vector3fOctets).length = points.length * 12 :=
    length_of_points vector3fOctets_length
  have taken : (xyzPointStep * BitVec.ofNat 32 points.length).toNat = points.length * 12 :=
    (oneRow_numbers (by decide) (by decide) fits
      (rfl : oneRow ⟨stampOf frameTs, frameId⟩ [] _ _ (points.flatMap vector3fOctets) = _)).2.2.2
  rw [taken, ← whole, List.take_length]
  refine oneRow_encodes (by decide) (by decide) fits vector3fOctets_length ⟨rfl, rfl⟩ declares finds
    (by decide) rfl ?_
  exact List.map_congr_left fun p _ => xyz_read p

theorem xyzitr_encodes {points : List HistPoint} (fits : points.length * 22 < 2 ^ 32) :
    ∃ cloud, onPointCloud stampOf ⟨true, frameId, msgFields "XYZITR"⟩ frameTs
        (.xyzitr (points.map HistPoint.vector)) = .ok (some cloud) ∧ Encodes cloud (.xyzitr points) := by
  obtain ⟨-, -, declares, finds⟩ := layouts_agree
  refine ⟨_, xyzitr_message stampOf frameId _ frameTs fits, ?_⟩
  refine oneRow_encodes (by decide) (by decide) fits HistPoint.octets_length ⟨rfl, rfl⟩ declares finds
    (by decide) rfl ?_
  exact List.map_congr_left fun p _ => xyzitr_read p

/-- Every list whose octets a message can count comes back from both readers. -/
theorem cloud_encodes {points : DeviceCloud} (fits : points.size * points.pointStep < 2 ^ 32) :
    ∃ cloud, onPointCloud stampOf ⟨true, frameId, msgFields points.outputFormat⟩ frameTs points.data =
      .ok (some cloud) ∧ Encodes cloud points := by
  cases points with
  | xyz points => exact xyz_encodes fits
  | xyzitr points => exact xyzitr_encodes fits

end Published

/-- A point whose x is a NaN with a payload. -/
def nanPoint : HistPoint where
  x := ⟨0x7fc00001⟩
  y := ⟨0⟩
  z := (3 : Nat)
  height := 0xffffff
  ts := (500 : Nat)
  ring := ⟨23, by decide⟩
  ts_finite := (Binary32.natCast_exact (by decide)).1
  ts_nonneg := by rw [(Binary32.natCast_exact (by decide)).2]; positivity
  ts_below := by rw [(Binary32.natCast_exact (by decide)).2]; norm_num

theorem nanPoint_encodes : ∃ cloud, onPointCloud (fun _ => ⟨0, 0⟩) ⟨true, "dt1", msgFields "XYZITR"⟩ 0
    (DeviceCloud.xyzitr [nanPoint]).data = .ok (some cloud) ∧ Encodes cloud (.xyzitr [nanPoint]) :=
  cloud_encodes (show (DeviceCloud.xyzitr [nanPoint]).size * (DeviceCloud.xyzitr [nanPoint]).pointStep <
    2 ^ 32 by decide)

/-- A list of which `row_step` counts only the octets beyond 2^32. -/
theorem repeated_points_cut (p : Vec3 Binary32) (n : Nat) :
    ∃ cloud, onPointCloud (fun _ => ⟨0, 0⟩) ⟨true, "dt1", msgFields "XYZ"⟩ 0
        (DeviceCloud.xyz (List.replicate n p)).data = .ok (some cloud) ∧
      cloud.data.length = 12 * (n % 2 ^ 32) % 2 ^ 32 ∧
        cloud.width.toNat * cloud.pointStep.toNat = n % 2 ^ 32 * 12 := by
  have whole : ((List.replicate n p).flatMap vector3fOctets).length = (List.replicate n p).length * 12 :=
    length_of_points vector3fOctets_length
  have counted : (xyzPointStep * BitVec.ofNat 32 (List.replicate n p).length).toNat =
      12 * (n % 2 ^ 32) % 2 ^ 32 := by
    rw [List.length_replicate, BitVec.toNat_mul, BitVec.toNat_ofNat]
    rfl
  refine ⟨_, xyz_message _ _ _ _ _, ?_, ?_⟩
  · change List.length (List.take _ _) = _
    rw [counted, List.length_take, whole, List.length_replicate]
    omega
  · change (BitVec.ofNat 32 (List.replicate n p).length).toNat * 12 = _
    rw [List.length_replicate, BitVec.toNat_ofNat]

theorem long_list_cut : ∃ cloud, onPointCloud (fun _ => ⟨0, 0⟩) ⟨true, "dt1", msgFields "XYZ"⟩ 0
    (DeviceCloud.xyz (List.replicate 357913942 ⟨⟨0⟩, ⟨0⟩, ⟨0⟩⟩)).data = .ok (some cloud) ∧
      cloud.data.length = 8 ∧ cloud.width.toNat * cloud.pointStep.toNat = 4294967304 ∧
        ¬Encodes cloud (.xyz (List.replicate 357913942 ⟨⟨0⟩, ⟨0⟩, ⟨0⟩⟩)) := by
  obtain ⟨cloud, published, cut, announced⟩ := repeated_points_cut ⟨⟨0⟩, ⟨0⟩, ⟨0⟩⟩ 357913942
  refine ⟨cloud, published, cut, announced, fun encodes => ?_⟩
  have sized := encodes.data_size
  rw [cut, announced] at sized
  exact absurd sized (by decide)

/-! ## Points of a histogram frame -/

/-- The time of a point can be converted to 32 bits. -/
def TimeFits (p : Vector6f Binary32) : Prop := p.ts.isFinite ∧ 0 ≤ p.ts.value ∧ p.ts.value < 2 ^ 32

/-- The height and the ring of every point come from whole numbers of few bits. -/
theorem dotPoint_hist {mode : ModeNbr} {frame : Octets} {bank mp : Nat} (below : bank < mode.nbrBanks)
    (dot : mp < 48) (timed : TimeFits (dotPoint Binary32 mode frame bank mp)) :
    ∃ p : HistPoint, p.vector = dotPoint Binary32 mode frame bank mp := by
  have few_lines : ∀ mode : ModeNbr, mode.info.nbrPointsY ≤ 24 := by decide
  have ring : ringOf mode bank mp < 24 := (ringOf_facts mode below dot).1.trans_le (few_lines mode)
  have height : (selectedPeak mode frame bank mp).height.toNat < 2 ^ 24 := by
    have bound (pos : Nat) : ofLittleEndian (window frame pos 3) < 2 ^ 24 := by
      have three : (window frame pos 3).length ≤ 3 := List.length_take_le 3 _
      exact (ofLittleEndian_lt _).trans_le (Nat.pow_le_pow_right (by decide) three)
    have small := bound (firstPeakPos (sourceBank mode frame bank mp) mp + 16)
    unfold selectedPeak firstPeakAt fieldAt
    rw [BitVec.toNat_ofNat]
    omega
  let point := dotPoint Binary32 mode frame bank mp
  refine ⟨⟨point.x, point.y, point.z, BitVec.ofNat 24 (selectedPeak mode frame bank mp).height.toNat, point.ts,
    ⟨_, ring⟩, timed.1, timed.2.1, timed.2.2⟩, ?_⟩
  unfold HistPoint.vector
  rw [BitVec.toNat_ofNat, Nat.mod_eq_of_lt height]
  rfl

theorem framePoints_length_le {mode : ModeNbr} {frame : Octets} (sized : frame.length = mode.frameSize) :
    (framePoints Binary32 mode frame).length ≤ 576 := by
  have at_most : ∀ mode : ModeNbr, mode.info.pointCount ≤ 576 := by decide
  obtain ⟨s, -, holds⟩ := unpackBanks_written (K := Binary32) sized (fun _ => ⟨⟨0⟩, ⟨0⟩, ⟨0⟩, ⟨0⟩, ⟨0⟩, ⟨0⟩⟩) []
  have written := congrArg List.length holds.written
  unfold Unpacking.written at written
  rw [List.length_take, holds.sized] at written
  exact (written.symm.le.trans (Nat.min_le_right _ _)).trans (at_most mode)

/-- What is published of a histogram frame comes back from both readers, if all of
its times can be converted. -/
theorem hist_frame_encodes {captured : CapturedFrame} (sized : captured.frame.length = captured.mode.frameSize)
    (publishes : captured.wanted ∧ captured.clockOffset > 0)
    (timed : ∀ p ∈ framePoints Binary32 captured.mode captured.frame, TimeFits p)
    (stampOf : BitVec 64 → Time) (frameId : String) (blank : Nat → Vector6f Binary32)
    (points : List (Vector6f Binary32)) :
    ∃ kept stamp handed cloud,
      unpackHistFrame blank points captured = .ok (kept, some (stamp, handed.map HistPoint.vector)) ∧
      onPointCloud stampOf ⟨true, frameId, msgFields "XYZITR"⟩ stamp (.xyzitr (handed.map HistPoint.vector)) =
        .ok (some cloud) ∧ Encodes cloud (.xyzitr handed) := by
  obtain ⟨kept, unpacked⟩ := unpackHistFrame_eq (K := Binary32) sized blank points
  obtain ⟨handed, same⟩ : framePoints Binary32 captured.mode captured.frame ∈
      Set.range (List.map HistPoint.vector) := by
    rw [Set.range_list_map]
    intro p listed
    have fits := timed p listed
    rw [framePoints_eq_map] at listed
    obtain ⟨⟨bank, mp⟩, dot, rfl⟩ := List.mem_map.mp listed
    obtain ⟨below, inside, -⟩ := mem_emittedDots.mp dot
    exact dotPoint_hist below inside fits
  have few : handed.length ≤ 576 := by
    rw [← List.length_map (f := HistPoint.vector), same]
    exact framePoints_length_le sized
  unfold published at unpacked
  rw [if_pos ⟨sized, publishes⟩, ← same] at unpacked
  obtain ⟨cloud, encoded, encodes⟩ := @xyzitr_encodes stampOf frameId _ handed (by omega)
  exact ⟨kept, _, handed, cloud, unpacked, encoded, encodes⟩

end AsDt1.Guarantees
