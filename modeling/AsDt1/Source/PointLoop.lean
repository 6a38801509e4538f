import AsDt1.Source.CombinerRounds

/-!
# The point loop

What the loop of `transform_to_target_frame` accesses and computes: exactly when
all of its accesses lie inside the buffer, and which words each point has when it
ends. No point reads what another has written, as long as the fields lie inside
the point step.
-/
namespace AsDt1.Source
open AsDt1.Lib

/-! ## Accesses -/

/-- The loop body for the point at `base` stays inside a buffer of `size` octets. -/
structure Offsets.InBounds (offsets : Offsets) (base size : Nat) : Prop where
  x : position base offsets.x + 4 ≤ size
  y : position base offsets.y + 4 ≤ size
  z : position base offsets.z + 4 ≤ size
  ring : 0 ≤ offsets.ring → position base offsets.ring + 2 ≤ size

/-- The word of a float, and the number of a ring, at a position of a buffer. -/
def floatAt (data : Octets) (pos : Nat) : BitVec 32 := BitVec.ofNat 32 (ofLittleEndian (window data pos 4))

def ringAt (data : Octets) (pos : Nat) : Nat := ofLittleEndian (window data pos 2)

theorem loadFloat_eq_ok_iff {data : Octets} {pos : Nat} {word : BitVec 32} :
    loadFloat data pos = .ok word ↔ pos + 4 ≤ data.length ∧ word = floatAt data pos := by
  constructor
  · intro loaded
    obtain ⟨octets, found, ends⟩ := bind_eq_ok loaded
    obtain ⟨inside, rfl⟩ := load_eq_ok_iff.mp found
    cases ends
    exact ⟨inside, rfl⟩
  · rintro ⟨inside, rfl⟩
    unfold loadFloat
    rw [load_eq_ok_iff.mpr ⟨inside, rfl⟩]
    rfl

theorem storeFloat_ok_iff {data : Octets} {pos : Nat} {value : BitVec 32} :
    (∃ out, storeFloat data pos value = .ok out) ↔ pos + 4 ≤ data.length := store_ok_iff

theorem shiftRing_ok_iff {data : Octets} {pos : Nat} {ringOffset maxRing : Int} :
    (∃ result, shiftRing pos ringOffset data maxRing = .ok result) ↔ pos + 2 ≤ data.length := by
  constructor
  · rintro ⟨result, shifted⟩
    obtain ⟨octets, found, -⟩ := bind_eq_ok shifted
    exact (load_eq_ok_iff.mp found).1
  · intro inside
    unfold shiftRing
    rw [load_eq_ok_iff.mpr ⟨inside, rfl⟩, ok_bind]
    obtain ⟨out, stored⟩ : ∃ out, store data pos (littleEndian 2
        (BitVec.ofInt 16 ((ofLittleEndian (window data pos 2) : Int) + ringOffset)).toNat) = .ok out :=
      store_ok_iff.mpr inside
    simp only [stored, ok_bind]
    exact ⟨_, rfl⟩

/-- The loop body succeeds if and only if its accesses lie inside the buffer. -/
theorem transformPoint_ok_iff {rigid : Point3 → Point3} {offsets : Offsets} {pointStep i : Nat}
    {ringOffset maxRing : Int} {data : Octets} :
    (∃ result, transformPoint rigid offsets pointStep ringOffset i data maxRing = .ok result) ↔
      offsets.InBounds (i * pointStep % 2 ^ 64) data.length := by
  constructor
  · rintro ⟨result, moved⟩
    unfold transformPoint at moved
    obtain ⟨x, loaded_x, moved⟩ := bind_eq_ok moved
    obtain ⟨y, loaded_y, moved⟩ := bind_eq_ok moved
    obtain ⟨z, loaded_z, moved⟩ := bind_eq_ok moved
    obtain ⟨data_x, stored_x, moved⟩ := bind_eq_ok moved
    obtain ⟨data_y, stored_y, moved⟩ := bind_eq_ok moved
    obtain ⟨data_z, stored_z, moved⟩ := bind_eq_ok moved
    have sized_x := (storeFloat_frame stored_x).1
    have sized_y := (storeFloat_frame stored_y).1
    have sized_z := (storeFloat_frame stored_z).1
    refine ⟨(loadFloat_eq_ok_iff.mp loaded_x).1, (loadFloat_eq_ok_iff.mp loaded_y).1,
      (loadFloat_eq_ok_iff.mp loaded_z).1, fun ringed => ?_⟩
    rw [if_pos ringed] at moved
    have inside := shiftRing_ok_iff.mp ⟨result, moved⟩
    omega
  · rintro ⟨in_x, in_y, in_z, in_ring⟩
    unfold transformPoint
    simp only [loadFloat_eq_ok_iff.mpr ⟨in_x, rfl⟩, loadFloat_eq_ok_iff.mpr ⟨in_y, rfl⟩,
      loadFloat_eq_ok_iff.mpr ⟨in_z, rfl⟩, ok_bind]
    obtain ⟨data_x, stored_x⟩ := storeFloat_ok_iff.mpr in_x
    have sized_x := (storeFloat_frame stored_x).1
    rw [stored_x, ok_bind]
    obtain ⟨data_y, stored_y⟩ := storeFloat_ok_iff.mpr (sized_x ▸ in_y)
    have sized_y := (storeFloat_frame stored_y).1
    rw [stored_y, ok_bind]
    obtain ⟨data_z, stored_z⟩ := storeFloat_ok_iff.mpr ((sized_y.trans sized_x) ▸ in_z)
    have sized_z := (storeFloat_frame stored_z).1
    rw [stored_z, ok_bind]
    by_cases ringed : offsets.ring ≥ 0
    · rw [if_pos ringed]
      apply shiftRing_ok_iff.mpr
      have inside := in_ring ringed
      omega
    · rw [if_neg ringed]
      exact ⟨_, rfl⟩

/-- So does the loop. -/
theorem transformPoints_ok_iff {rigid : Point3 → Point3} {offsets : Offsets} {pointStep remaining i : Nat}
    {ringOffset maxRing : Int} {data : Octets} :
    (∃ result, transformPoints rigid offsets pointStep ringOffset remaining i data maxRing = .ok result) ↔
      ∀ j, i ≤ j → j < i + remaining → offsets.InBounds (j * pointStep % 2 ^ 64) data.length := by
  induction remaining generalizing i data maxRing with
  | zero =>
    refine iff_of_true ⟨_, rfl⟩ fun j from_i upto => ?_
    omega
  | succ remaining ih =>
    constructor
    · rintro ⟨result, moved⟩ j from_i upto
      obtain ⟨⟨next, nextMax⟩, one, rest⟩ := bind_eq_ok moved
      have sized := (transformPoint_frame one).1
      rcases Nat.eq_or_lt_of_le from_i with rfl | later
      · exact transformPoint_ok_iff.mp ⟨_, one⟩
      · have inside := ih.mp ⟨result, rest⟩ j later (by omega)
        rwa [sized] at inside
    · intro inside
      obtain ⟨⟨next, nextMax⟩, one⟩ : ∃ result,
          transformPoint rigid offsets pointStep ringOffset i data maxRing = .ok result :=
        transformPoint_ok_iff.mpr (inside i (Nat.le_refl i) (by omega))
      have sized := (transformPoint_frame one).1
      unfold transformPoints
      rw [one, ok_bind]
      apply ih.mpr
      intro j later upto
      rw [sized]
      exact inside j (by omega) (by omega)

/-! ## Offsets -/

/-- The last field of that name and type counts. -/
theorem offsetOf_eq (name : String) (datatype : BitVec 8) (fields : List PointField) :
    offsetOf name datatype fields = lastWritten (-1)
      ((fields.filter fun field => field.name = name ∧ field.datatype = datatype).map fun field =>
        field.offset.toInt) := by
  unfold offsetOf
  generalize (-1 : Int) = start
  induction fields generalizing start with
  | nil => rfl
  | cons field rest ih =>
    rw [List.foldl_cons, ih]
    by_cases found : field.name = name ∧ field.datatype = datatype
    · rw [if_pos found, List.filter_cons_of_pos (by simpa using found), List.map_cons, lastWritten_cons]
    · rw [if_neg found, List.filter_cons_of_neg (by simpa using found)]

theorem offsetOf_lt (name : String) (datatype : BitVec 8) (fields : List PointField) :
    offsetOf name datatype fields < 2 ^ 31 := by
  rw [offsetOf_eq]
  generalize fields.filter _ = found
  rcases List.eq_nil_or_concat found with rfl | ⟨front, field, rfl⟩
  · decide
  · rw [List.concat_eq_append, List.map_append, lastWritten_append]
    exact BitVec.toInt_lt

/-- What `find_offsets` ensures. -/
theorem findOffsets_bounds {cloud : PointCloud2} {offsets : Offsets} (found : findOffsets cloud = some offsets) :
    (0 ≤ offsets.x ∧ offsets.x < 2 ^ 31) ∧ (0 ≤ offsets.y ∧ offsets.y < 2 ^ 31) ∧
      (0 ≤ offsets.z ∧ offsets.z < 2 ^ 31) ∧ offsets.ring < 2 ^ 31 := by
  simp only [findOffsets, Option.ite_none_left_eq_some, Option.some.injEq] at found
  obtain ⟨all_there, rfl⟩ := found
  have := offsetOf_lt "x" PointField.float32 cloud.fields
  have := offsetOf_lt "y" PointField.float32 cloud.fields
  have := offsetOf_lt "z" PointField.float32 cloud.fields
  have := offsetOf_lt "ring" PointField.uint16 cloud.fields
  refine ⟨⟨?_, ?_⟩, ⟨?_, ?_⟩, ⟨?_, ?_⟩, ?_⟩ <;> simp only <;> omega

/-- The offset of a field that is listed once. -/
theorem offsetOf_single {name : String} {datatype : BitVec 8} {fields : List PointField} {field : PointField}
    (single : fields.filter (fun field => field.name = name ∧ field.datatype = datatype) = [field])
    (small : field.offset.toNat < 2 ^ 31) : offsetOf name datatype fields = field.offset.toNat := by
  rw [offsetOf_eq, single, List.map_singleton, lastWritten_cons, lastWritten_nil, BitVec.toInt_eq_toNat_cond,
    if_pos (by omega)]

theorem offsetOf_absent {name : String} {datatype : BitVec 8} {fields : List PointField}
    (absent : fields.filter (fun field => field.name = name ∧ field.datatype = datatype) = []) :
    offsetOf name datatype fields = -1 := by
  rw [offsetOf_eq, absent, List.map_nil, lastWritten_nil]

/-! ## Values -/

/-- The fields that are rewritten lie inside the point step. -/
structure Offsets.Fit (offsets : Offsets) (step : Nat) : Prop where
  x : 0 ≤ offsets.x ∧ offsets.x + 4 ≤ step
  y : 0 ≤ offsets.y ∧ offsets.y + 4 ≤ step
  z : 0 ≤ offsets.z ∧ offsets.z + 4 ≤ step
  ring : 0 ≤ offsets.ring → offsets.ring + 2 ≤ step

/-- The ring shares no octet with the coordinates. -/
structure Offsets.RingApart (offsets : Offsets) : Prop where
  x : offsets.ring + 2 ≤ offsets.x ∨ offsets.x + 4 ≤ offsets.ring
  y : offsets.ring + 2 ≤ offsets.y ∨ offsets.y + 4 ≤ offsets.ring
  z : offsets.ring + 2 ≤ offsets.z ∨ offsets.z + 4 ≤ offsets.ring

/-- The coordinates share no octet. -/
structure Offsets.FloatsApart (offsets : Offsets) : Prop where
  xy : offsets.x + 4 ≤ offsets.y ∨ offsets.y + 4 ≤ offsets.x
  xz : offsets.x + 4 ≤ offsets.z ∨ offsets.z + 4 ≤ offsets.x
  yz : offsets.y + 4 ≤ offsets.z ∨ offsets.z + 4 ≤ offsets.y

/-- The coordinates of the point at `base`. -/
def Offsets.pointAt (offsets : Offsets) (data : Octets) (base : Nat) : Point3 :=
  ⟨floatAt data (base + offsets.x.toNat), floatAt data (base + offsets.y.toNat),
    floatAt data (base + offsets.z.toNat)⟩

/-- The ring of the point at `base`. -/
def Offsets.pointRing (offsets : Offsets) (data : Octets) (base : Nat) : Nat :=
  ringAt data (base + offsets.ring.toNat)

/-- `ring + ring_offset` as `uint16_t` -/
def shifted (ring : Nat) (ringOffset : Int) : Nat := (BitVec.ofInt 16 (ring + ringOffset)).toNat

theorem shifted_eq (ring : Nat) (ringOffset : Int) :
    (shifted ring ringOffset : Int) = (ring + ringOffset) % 2 ^ 16 := by
  unfold shifted
  rw [BitVec.toNat_ofInt]
  omega

/-- Nothing wraps where the point lies inside the address space. -/
theorem position_eq (base : Nat) {offset : Int} (nonneg : 0 ≤ offset) (below : base + offset < 2 ^ 64) :
    position (base % 2 ^ 64) offset = base + offset.toNat := by
  unfold position
  omega

/-- A point that lies inside the buffer is accessed inside the buffer. -/
theorem Offsets.Fit.inBounds {offsets : Offsets} {step base size : Nat} (fit : offsets.Fit step)
    (room : base + step ≤ size) (sized : size < 2 ^ 64) : offsets.InBounds (base % 2 ^ 64) size := by
  obtain ⟨⟨x_pos, x_in⟩, ⟨y_pos, y_in⟩, ⟨z_pos, z_in⟩, ring_in⟩ := fit
  have at_x := position_eq base x_pos (by omega)
  have at_y := position_eq base y_pos (by omega)
  have at_z := position_eq base z_pos (by omega)
  refine ⟨by omega, by omega, by omega, fun ringed => ?_⟩
  have in_ring := ring_in ringed
  have at_ring := position_eq base ringed (by omega)
  omega

theorem storeFloat_value {data out : Octets} {pos : Nat} {value : BitVec 32}
    (stored : storeFloat data pos value = .ok out) : floatAt out pos = value := by
  have written := window_store stored
  rw [littleEndian_length] at written
  unfold floatAt
  rw [written, ofLittleEndian_littleEndian, Nat.mod_eq_of_lt (by have := value.isLt; omega)]
  rw [BitVec.ofNat_toNat, BitVec.setWidth_eq]

theorem storeFloat_apart {data out : Octets} {pos pos' len : Nat} {value : BitVec 32}
    (stored : storeFloat data pos value = .ok out) (apart : pos' + len ≤ pos ∨ pos + 4 ≤ pos') :
    window out pos' len = window data pos' len := by
  apply window_store_apart stored
  rwa [littleEndian_length]

/-- The three coordinates read back after they were written one after the other. -/
theorem storeFloats_value {data data_x data_y data_z : Octets} {x y z : Nat} {value : Point3}
    (stored_x : storeFloat data x value.x = .ok data_x) (stored_y : storeFloat data_x y value.y = .ok data_y)
    (stored_z : storeFloat data_y z value.z = .ok data_z) (xy : x + 4 ≤ y ∨ y + 4 ≤ x)
    (xz : x + 4 ≤ z ∨ z + 4 ≤ x) (yz : y + 4 ≤ z ∨ z + 4 ≤ y) :
    (⟨floatAt data_z x, floatAt data_z y, floatAt data_z z⟩ : Point3) = value := by
  have kept_y : floatAt data_z y = floatAt data_y y := by
    unfold floatAt
    rw [storeFloat_apart stored_z yz]
  have kept_x : floatAt data_z x = floatAt data_x x := by
    unfold floatAt
    rw [storeFloat_apart stored_z xz, storeFloat_apart stored_y xy]
  rw [storeFloat_value stored_z, kept_y, storeFloat_value stored_y, kept_x, storeFloat_value stored_x]

/-- Fields apart in a point are apart in the buffer. -/
theorem window_apart_at {base : Nat} {pos pos' : Int} {len len' : Nat} (nonneg : 0 ≤ pos) (nonneg' : 0 ≤ pos')
    (apart : pos + len ≤ pos' ∨ pos' + len' ≤ pos) :
    base + pos.toNat + len ≤ base + pos'.toNat ∨ base + pos'.toNat + len' ≤ base + pos.toNat := by
  omega

theorem shiftRing_value {pos : Nat} {ringOffset maxRing maxRing' : Int} {data out : Octets}
    (shifting : shiftRing pos ringOffset data maxRing = .ok (out, maxRing')) :
    ringAt out pos = shifted (ringAt data pos) ringOffset ∧ maxRing' = max maxRing (ringAt data pos) := by
  obtain ⟨octets, loaded, shifting⟩ := bind_eq_ok shifting
  obtain ⟨-, rfl⟩ := load_eq_ok_iff.mp loaded
  obtain ⟨stored, storing, ends⟩ := bind_eq_ok shifting
  cases ends
  have written := window_store storing
  rw [littleEndian_length] at written
  constructor
  · unfold ringAt
    rw [written, ofLittleEndian_littleEndian]
    exact Nat.mod_eq_of_lt (BitVec.isLt _)
  · show (if (ringAt data pos : Int) > maxRing then (ringAt data pos : Int) else maxRing) = _
    by_cases larger : (ringAt data pos : Int) > maxRing
    · rw [if_pos larger]
      omega
    · rw [if_neg larger]
      omega

section Point

variable {rigid : Point3 → Point3} {offsets : Offsets} {step i : Nat} {ringOffset maxRing maxRing' : Int}
  {data out : Octets}

/-- The loop body leaves all fields of the other points as they are. -/
theorem transformPoint_other (fit : offsets.Fit step) (room : i * step + step ≤ 2 ^ 64)
    (moved : transformPoint rigid offsets step ringOffset i data maxRing = .ok (out, maxRing'))
    {j pos len : Nat} (other : j ≠ i) (inside : pos + len ≤ step) :
    window out (j * step + pos) len = window data (j * step + pos) len := by
  obtain ⟨⟨x_pos, x_in⟩, ⟨y_pos, y_in⟩, ⟨z_pos, z_in⟩, ring_in⟩ := fit
  have at_x := position_eq (i * step) x_pos (by omega)
  have at_y := position_eq (i * step) y_pos (by omega)
  have at_z := position_eq (i * step) z_pos (by omega)
  have apart : j * step + step ≤ i * step ∨ i * step + step ≤ j * step := by
    rcases Nat.lt_or_gt_of_ne other with before | behind
    · exact Or.inl (Nat.succ_mul j step ▸ Nat.mul_le_mul_right step before)
    · exact Or.inr (Nat.succ_mul i step ▸ Nat.mul_le_mul_right step behind)
  apply window_congr
  intro p from_pos upto
  apply (transformPoint_frame moved).2
  unfold Offsets.Rewrites
  rintro (in_x | in_y | in_z | ⟨ringed, in_ring⟩)
  · omega
  · omega
  · omega
  · have at_ring := position_eq (i * step) ringed (by have := ring_in ringed; omega)
    have := ring_in ringed
    omega

/-- The ring becomes the sum with the offset, and counts for the maximum. -/
theorem transformPoint_ring (fit : offsets.Fit step) (apart : offsets.RingApart) (ringed : 0 ≤ offsets.ring)
    (room : i * step + step ≤ 2 ^ 64)
    (moved : transformPoint rigid offsets step ringOffset i data maxRing = .ok (out, maxRing')) :
    offsets.pointRing out (i * step) = shifted (offsets.pointRing data (i * step)) ringOffset ∧
      maxRing' = max maxRing (offsets.pointRing data (i * step)) := by
  obtain ⟨⟨x_pos, x_in⟩, ⟨y_pos, y_in⟩, ⟨z_pos, z_in⟩, ring_in⟩ := fit
  obtain ⟨apart_x, apart_y, apart_z⟩ := apart
  have in_ring := ring_in ringed
  have at_x := position_eq (i * step) x_pos (by omega)
  have at_y := position_eq (i * step) y_pos (by omega)
  have at_z := position_eq (i * step) z_pos (by omega)
  have at_ring := position_eq (i * step) ringed (by omega)
  unfold transformPoint at moved
  simp only [at_x, at_y, at_z, at_ring, if_pos ringed] at moved
  obtain ⟨x, -, moved⟩ := bind_eq_ok moved
  obtain ⟨y, -, moved⟩ := bind_eq_ok moved
  obtain ⟨z, -, moved⟩ := bind_eq_ok moved
  obtain ⟨data_x, stored_x, moved⟩ := bind_eq_ok moved
  obtain ⟨data_y, stored_y, moved⟩ := bind_eq_ok moved
  obtain ⟨data_z, stored_z, moved⟩ := bind_eq_ok moved
  obtain ⟨ring_value, max_value⟩ := shiftRing_value moved
  have untouched : offsets.pointRing data_z (i * step) = offsets.pointRing data (i * step) := by
    unfold Offsets.pointRing ringAt
    rw [storeFloat_apart stored_z (by omega), storeFloat_apart stored_y (by omega),
      storeFloat_apart stored_x (by omega)]
  unfold Offsets.pointRing at untouched ⊢
  rw [ring_value, max_value, untouched]
  exact ⟨rfl, rfl⟩

/-- The coordinates become their transform. -/
theorem transformPoint_floats (fit : offsets.Fit step) (floats : offsets.FloatsApart)
    (apart : 0 ≤ offsets.ring → offsets.RingApart) (room : i * step + step ≤ 2 ^ 64)
    (moved : transformPoint rigid offsets step ringOffset i data maxRing = .ok (out, maxRing')) :
    offsets.pointAt out (i * step) = rigid (offsets.pointAt data (i * step)) := by
  obtain ⟨⟨x_pos, x_in⟩, ⟨y_pos, y_in⟩, ⟨z_pos, z_in⟩, ring_in⟩ := fit
  have at_x := position_eq (i * step) x_pos (by omega)
  have at_y := position_eq (i * step) y_pos (by omega)
  have at_z := position_eq (i * step) z_pos (by omega)
  unfold transformPoint at moved
  simp only [at_x, at_y, at_z] at moved
  obtain ⟨x, loaded_x, moved⟩ := bind_eq_ok moved
  obtain ⟨y, loaded_y, moved⟩ := bind_eq_ok moved
  obtain ⟨z, loaded_z, moved⟩ := bind_eq_ok moved
  obtain ⟨-, same_x⟩ := loadFloat_eq_ok_iff.mp loaded_x
  obtain ⟨-, same_y⟩ := loadFloat_eq_ok_iff.mp loaded_y
  obtain ⟨-, same_z⟩ := loadFloat_eq_ok_iff.mp loaded_z
  have read : offsets.pointAt data (i * step) = ⟨x, y, z⟩ := by
    unfold Offsets.pointAt
    rw [same_x, same_y, same_z]
  obtain ⟨data_x, stored_x, moved⟩ := bind_eq_ok moved
  obtain ⟨data_y, stored_y, moved⟩ := bind_eq_ok moved
  obtain ⟨data_z, stored_z, last⟩ := bind_eq_ok moved
  have written := storeFloats_value stored_x stored_y stored_z (window_apart_at x_pos y_pos floats.xy)
    (window_apart_at x_pos z_pos floats.xz) (window_apart_at y_pos z_pos floats.yz)
  have kept : offsets.pointAt out (i * step) = offsets.pointAt data_z (i * step) := by
    by_cases ringed : offsets.ring ≥ 0
    · have at_ring := position_eq (i * step) ringed (by have := ring_in ringed; omega)
      rw [if_pos ringed, at_ring] at last
      have behind {pos : Int} (nonneg : 0 ≤ pos) (elsewhere : offsets.ring + 2 ≤ pos ∨ pos + 4 ≤ offsets.ring) :
          floatAt out (i * step + pos.toNat) = floatAt data_z (i * step + pos.toNat) := by
        unfold floatAt
        rw [window_congr fun p from_pos upto => (shiftRing_frame last).2 p (by omega)]
      unfold Offsets.pointAt
      rw [behind x_pos (apart ringed).x, behind y_pos (apart ringed).y, behind z_pos (apart ringed).z]
    · rw [if_neg ringed] at last
      cases last
      rfl
  rw [kept, read]
  exact written

end Point

section Loop

variable {rigid : Point3 → Point3} {offsets : Offsets} {step remaining i : Nat}
  {ringOffset maxRing maxRing' : Int}
  {data out : Octets}

theorem transformPoints_other (fit : offsets.Fit step) (room : (i + remaining) * step ≤ 2 ^ 64)
    (moved : transformPoints rigid offsets step ringOffset remaining i data maxRing = .ok (out, maxRing'))
    {j pos len : Nat} (other : j < i ∨ i + remaining ≤ j) (inside : pos + len ≤ step) :
    window out (j * step + pos) len = window data (j * step + pos) len := by
  induction remaining generalizing i data maxRing with
  | zero =>
    cases moved
    rfl
  | succ remaining ih =>
    obtain ⟨⟨next, nextMax⟩, one, rest⟩ := bind_eq_ok moved
    have room_one : i * step + step ≤ 2 ^ 64 :=
      (Nat.succ_mul i step).symm.trans_le ((Nat.mul_le_mul_right step (by omega)).trans room)
    rw [ih (by rwa [Nat.add_assoc, Nat.add_comm 1]) rest (by omega),
      transformPoint_other fit room_one one (by omega) inside]

/-- Every ring of the loop becomes its sum with the offset; the maximum runs over
the rings as they were. -/
theorem transformPoints_rings (fit : offsets.Fit step) (apart : offsets.RingApart) (ringed : 0 ≤ offsets.ring)
    (room : (i + remaining) * step ≤ 2 ^ 64) {largest : Nat}
    (moved : transformPoints rigid offsets step ringOffset remaining i data largest = .ok (out, maxRing')) :
    (∀ j, i ≤ j → j < i + remaining →
      offsets.pointRing out (j * step) = shifted (offsets.pointRing data (j * step)) ringOffset) ∧
    maxRing' =
      (((List.range' i remaining).map fun j => offsets.pointRing data (j * step)).foldl max largest : Nat) := by
  induction remaining generalizing i data largest with
  | zero =>
    cases moved
    exact ⟨fun j from_i upto => absurd upto (by omega), rfl⟩
  | succ remaining ih =>
    obtain ⟨⟨next, nextMax⟩, one, rest⟩ := bind_eq_ok moved
    have room_one : i * step + step ≤ 2 ^ 64 :=
      (Nat.succ_mul i step).symm.trans_le ((Nat.mul_le_mul_right step (by omega)).trans room)
    have room_rest : (i + 1 + remaining) * step ≤ 2 ^ 64 := by rwa [Nat.add_assoc, Nat.add_comm 1]
    obtain ⟨ring_i, max_i⟩ := transformPoint_ring fit apart ringed room_one one
    have kept : ∀ j, j ≠ i → offsets.pointRing next (j * step) = offsets.pointRing data (j * step) := by
      intro j other
      unfold Offsets.pointRing ringAt
      rw [transformPoint_other fit room_one one other (by have := fit.ring ringed; omega)]
    obtain rfl : nextMax = (max largest (offsets.pointRing data (i * step)) : Nat) := by omega
    obtain ⟨rings, maximum⟩ := ih room_rest rest
    constructor
    · intro j from_i upto
      rcases Nat.eq_or_lt_of_le from_i with rfl | later
      · rw [← ring_i]
        unfold Offsets.pointRing ringAt
        rw [transformPoints_other fit room_rest rest (Or.inl (Nat.lt_succ_self _))
          (by have := fit.ring ringed; omega)]
      · rw [rings j later (by omega), kept j (by omega)]
    · rw [maximum, List.range'_succ, List.map_cons, List.foldl_cons]
      congr 2
      apply List.map_congr_left
      intro j listed
      have later := (List.mem_range'_1.mp listed).1
      exact kept j (by omega)

/-- Every point of the loop becomes its transform. -/
theorem transformPoints_floats (fit : offsets.Fit step) (floats : offsets.FloatsApart)
    (apart : 0 ≤ offsets.ring → offsets.RingApart) (room : (i + remaining) * step ≤ 2 ^ 64)
    (moved : transformPoints rigid offsets step ringOffset remaining i data maxRing = .ok (out, maxRing'))
    {j : Nat} (from_i : i ≤ j) (upto : j < i + remaining) :
    offsets.pointAt out (j * step) = rigid (offsets.pointAt data (j * step)) := by
  have same {before after : Octets} (kept : ∀ pos, pos + 4 ≤ step →
      window after (j * step + pos) 4 = window before (j * step + pos) 4) :
      offsets.pointAt after (j * step) = offsets.pointAt before (j * step) := by
    unfold Offsets.pointAt floatAt
    rw [kept _ (by have := fit.x; omega), kept _ (by have := fit.y; omega), kept _ (by have := fit.z; omega)]
  induction remaining generalizing i data maxRing with
  | zero => omega
  | succ remaining ih =>
    obtain ⟨⟨next, nextMax⟩, one, rest⟩ := bind_eq_ok moved
    have room_one : i * step + step ≤ 2 ^ 64 :=
      (Nat.succ_mul i step).symm.trans_le ((Nat.mul_le_mul_right step (by omega)).trans room)
    have room_rest : (i + 1 + remaining) * step ≤ 2 ^ 64 := by rwa [Nat.add_assoc, Nat.add_comm 1]
    rcases Nat.eq_or_lt_of_le from_i with rfl | later
    · rw [← transformPoint_floats fit floats apart room_one one]
      exact same fun pos inside => transformPoints_other fit room_rest rest (Or.inl (Nat.lt_succ_self _)) inside
    · rw [ih room_rest rest later (by omega)]
      congr 1
      exact same fun pos inside => transformPoint_other fit room_one one (by omega) inside

end Loop

end AsDt1.Source
