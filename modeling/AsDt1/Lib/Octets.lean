import Mathlib.Algebra.Ring.Nat
import Mathlib.Data.List.Basic

/-!
# Octet buffers

Reads and writes of a few octets at a computed position of a buffer, little-endian
numbers, and a buffer cut into records of equal length. A position outside the
buffer is an error of the access.
-/
namespace AsDt1.Lib

abbrev Octets := List (BitVec 8)

/-- An access of octets of which not all lie in the buffer. -/
structure OutOfBounds where
  pos : Nat
  len : Nat
  size : Nat
  deriving DecidableEq, Repr

def load (data : Octets) (pos len : Nat) : Except OutOfBounds Octets :=
  if pos + len ≤ data.length then .ok ((data.drop pos).take len) else .error ⟨pos, len, data.length⟩

def store (data : Octets) (pos : Nat) (octets : Octets) : Except OutOfBounds Octets :=
  if pos + octets.length ≤ data.length then
    .ok (data.take pos ++ octets ++ data.drop (pos + octets.length))
  else .error ⟨pos, octets.length, data.length⟩

/-- What a computation that succeeds went through. -/
theorem bind_eq_ok {ε α β : Type} {first : Except ε α} {rest : α → Except ε β} {result : β}
    (ends : first >>= rest = .ok result) : ∃ value, first = .ok value ∧ rest value = .ok result := by
  cases first with
  | error e => cases ends
  | ok value => exact ⟨value, rfl, ends⟩

theorem ok_bind {ε α β : Type} (value : α) (rest : α → Except ε β) :
    (Except.ok value >>= rest) = rest value := rfl

/-! ## Numbers -/

def littleEndian : Nat → Nat → Octets
  | 0, _ => []
  | len + 1, n => BitVec.ofNat 8 n :: littleEndian len (n / 256)

def ofLittleEndian : Octets → Nat
  | [] => 0
  | octet :: rest => octet.toNat + 256 * ofLittleEndian rest

@[simp] theorem littleEndian_length (len n : Nat) : (littleEndian len n).length = len := by
  induction len generalizing n with
  | zero => rfl
  | succ len ih => simp [littleEndian, ih]

/-! ## Frame of a write -/

theorem store_length {data out octets : Octets} {pos : Nat} (stored : store data pos octets = .ok out) :
    out.length = data.length := by
  unfold store at stored
  by_cases inside : pos + octets.length ≤ data.length
  · rw [if_pos inside] at stored
    cases stored
    simp only [List.length_append, List.length_take, List.length_drop]
    omega
  · rw [if_neg inside] at stored
    cases stored

/-- A write moves no octet outside its own window. -/
theorem store_frame {data out octets : Octets} {pos : Nat} (stored : store data pos octets = .ok out)
    {p : Nat} (outside : p < pos ∨ pos + octets.length ≤ p) : out[p]? = data[p]? := by
  unfold store at stored
  by_cases inside : pos + octets.length ≤ data.length
  · rw [if_pos inside] at stored
    cases stored
    have ahead : (data.take pos).length = pos := by simp; omega
    rcases outside with before | after
    · rw [List.append_assoc, List.getElem?_append_left (by omega), List.getElem?_take, if_pos before]
    · rw [List.getElem?_append_right (by simp; omega), List.getElem?_drop]
      congr 1
      simp only [List.length_append, ahead]
      omega
  · rw [if_neg inside] at stored
    cases stored

/-! ## Adjacent writes -/

/-- A buffer after a write inside it. -/
def patched (data : Octets) (pos : Nat) (octets : Octets) : Octets :=
  data.take pos ++ octets ++ data.drop (pos + octets.length)

theorem store_inside {data octets : Octets} {pos : Nat} (inside : pos + octets.length ≤ data.length) :
    store data pos octets = .ok (patched data pos octets) := if_pos inside

theorem patched_length {data octets : Octets} {pos : Nat} (inside : pos + octets.length ≤ data.length) :
    (patched data pos octets).length = data.length := store_length (store_inside inside)

/-- A write behind another is one write of both. -/
theorem patched_patched {data front : Octets} {pos : Nat} (back : Octets)
    (inside : pos + front.length ≤ data.length) :
    patched (patched data pos front) (pos + front.length) back = patched data pos (front ++ back) := by
  have ahead : (data.take pos ++ front).length = pos + front.length := by
    rw [List.length_append, List.length_take]
    omega
  unfold patched
  rw [← ahead, List.take_left, List.drop_length_add_append, List.drop_drop, ahead, List.length_append,
    List.append_assoc (data.take pos) front back, Nat.add_assoc]

theorem patched_whole {data octets : Octets} (sized : octets.length = data.length) :
    patched data 0 octets = octets := by
  unfold patched
  rw [List.take_zero, List.nil_append, Nat.zero_add, List.drop_of_length_le (by omega), List.append_nil]

/-! ## Windows -/

/-- The octets of a window. -/
def window (data : Octets) (pos len : Nat) : Octets := (data.drop pos).take len

theorem load_eq_ok_iff {data octets : Octets} {pos len : Nat} :
    load data pos len = .ok octets ↔ pos + len ≤ data.length ∧ octets = window data pos len := by
  unfold load window
  by_cases inside : pos + len ≤ data.length
  · rw [if_pos inside]
    simp [inside, eq_comm]
  · rw [if_neg inside]
    simp [inside]

theorem store_ok_iff {data octets : Octets} {pos : Nat} :
    (∃ out, store data pos octets = .ok out) ↔ pos + octets.length ≤ data.length := by
  unfold store
  by_cases inside : pos + octets.length ≤ data.length
  · simp [inside]
  · simp [inside]

/-- Two buffers that agree on a window hold the same octets in it. -/
theorem window_congr {data out : Octets} {pos len : Nat}
    (agree : ∀ p, pos ≤ p → p < pos + len → out[p]? = data[p]?) :
    window out pos len = window data pos len := by
  unfold window
  apply List.ext_getElem?
  intro k
  rw [List.getElem?_take, List.getElem?_take, List.getElem?_drop, List.getElem?_drop]
  by_cases within : k < len
  · rw [if_pos within, if_pos within, agree (pos + k) (by omega) (by omega)]
  · rw [if_neg within, if_neg within]

theorem load_congr {data out : Octets} {pos len : Nat} (sized : out.length = data.length)
    (agree : ∀ p, pos ≤ p → p < pos + len → out[p]? = data[p]?) :
    load out pos len = load data pos len := by
  unfold load
  rw [sized]
  by_cases inside : pos + len ≤ data.length
  · rw [if_pos inside, if_pos inside]
    exact congrArg Except.ok (window_congr agree)
  · rw [if_neg inside, if_neg inside]

/-- What is read back where it was written. -/
theorem window_store {data out octets : Octets} {pos : Nat} (stored : store data pos octets = .ok out) :
    window out pos octets.length = octets := by
  have inside := store_ok_iff.mp ⟨out, stored⟩
  unfold store at stored
  rw [if_pos inside] at stored
  cases stored
  unfold window
  have ahead : (data.take pos).length = pos := by
    rw [List.length_take]
    omega
  rw [List.append_assoc, List.drop_append_of_le_length (by omega), List.drop_of_length_le (by omega),
    List.nil_append, List.take_left]

theorem window_store_apart {data out octets : Octets} {pos pos' len : Nat}
    (stored : store data pos octets = .ok out) (apart : pos' + len ≤ pos ∨ pos + octets.length ≤ pos') :
    window out pos' len = window data pos' len := by
  apply window_congr
  intro p from_pos upto
  exact store_frame stored (by omega)

/-- A window of a window. -/
theorem window_window (data : Octets) {start pos len step : Nat} (inside : pos + len ≤ step) :
    window (window data start step) pos len = window data (start + pos) len := by
  unfold window
  rw [List.drop_take, List.take_take, List.drop_drop, Nat.min_eq_left (by omega)]

/-- A window of a tabulated buffer. -/
theorem window_map_range (octet : Nat → BitVec 8) {size pos len : Nat} (inside : pos + len ≤ size) :
    window ((List.range size).map octet) pos len = (List.range' pos len).map octet := by
  unfold window
  rw [← List.map_drop, ← List.map_take, List.range_eq_range', List.drop_range',
    List.take_range'_of_length_ge (by omega), Nat.zero_add, Nat.mul_one]

theorem ofLittleEndian_lt (octets : Octets) : ofLittleEndian octets < 256 ^ octets.length := by
  induction octets with
  | nil => decide
  | cons octet rest ih =>
    have bound := octet.isLt
    rw [ofLittleEndian, List.length_cons, Nat.pow_succ]
    omega

theorem ofLittleEndian_littleEndian (len n : Nat) : ofLittleEndian (littleEndian len n) = n % 256 ^ len := by
  induction len generalizing n with
  | zero => rw [Nat.pow_zero, Nat.mod_one]; rfl
  | succ len ih =>
    have split : 256 ^ (len + 1) = 256 * 256 ^ len := Nat.pow_succ'
    rw [littleEndian, ofLittleEndian, ih, BitVec.toNat_ofNat, split, Nat.mod_mul]

/-! ## Records -/

/-- The whole records of `step` octets that a buffer holds, in order. -/
def records (step : Nat) (data : Octets) : List Octets :=
  (List.range (data.length / step)).map fun k => (data.drop (k * step)).take step

@[simp] theorem records_length (step : Nat) (data : Octets) :
    (records step data).length = data.length / step := by simp [records]

/-- A buffer of whole records followed by another holds the records of both. -/
theorem records_append {step : Nat} (positive : 0 < step) {front : Octets} (back : Octets)
    (whole : step ∣ front.length) :
    records step (front ++ back) = records step front ++ records step back := by
  obtain ⟨count, counted⟩ := whole
  have front_count : front.length / step = count := by rw [counted, Nat.mul_div_cancel_left _ positive]
  have both_count : (front ++ back).length / step = count + back.length / step := by
    rw [List.length_append, counted, Nat.mul_add_div positive]
  unfold records
  rw [both_count, front_count, List.range_add, List.map_append, List.map_map]
  congr 1
  · apply List.map_congr_left
    intro k listed
    have below : k < count := List.mem_range.mp listed
    have room : k * step + step ≤ front.length := by
      rw [counted, Nat.mul_comm step count, ← Nat.succ_mul]
      exact Nat.mul_le_mul_right step below
    rw [List.drop_append_of_le_length (by omega), List.take_append_of_le_length]
    simp only [List.length_drop]
    omega
  · apply List.map_congr_left
    intro k _
    have shifted : (count + k) * step = front.length + k * step := by
      rw [counted, Nat.add_mul, Nat.mul_comm count step]
    simp only [Function.comp_apply, shifted, List.drop_length_add_append]

theorem records_flatMap {α : Type} {step : Nat} (positive : 0 < step) {octets : α → Octets} {entries : List α}
    (whole : ∀ a ∈ entries, step ∣ (octets a).length) :
    records step (entries.flatMap octets) = entries.flatMap fun a => records step (octets a) := by
  induction entries with
  | nil => simp [records]
  | cons a rest ih =>
    rw [List.flatMap_cons, List.flatMap_cons, records_append positive _ (whole a List.mem_cons_self),
      ih fun other listed => whole other (List.mem_cons_of_mem a listed)]

/-- A buffer of one record. -/
theorem records_single {step : Nat} (positive : 0 < step) {octets : Octets} (sized : octets.length = step) :
    records step octets = [octets] := by
  unfold records
  rw [sized, Nat.div_self positive]
  simp [← sized]

/-- A window of a record, as a window of the buffer. -/
theorem window_records {step pos len k : Nat} {data : Octets} (below : k < (records step data).length)
    (inside : pos + len ≤ step) :
    window (records step data)[k] pos len = window data (k * step + pos) len := by
  have found : (records step data)[k] = window data (k * step) step := by
    simp only [records, List.getElem_map, List.getElem_range, window]
  rw [found, window_window data inside]

/-- A window of one record holds no octet of another record, nor the octets of its
own record that lie outside it. -/
theorem window_apart {step pos len q i k : Nat} (window : pos + len ≤ step) (inside : q < step)
    (apart : q < pos ∨ pos + len ≤ q) :
    k * step + q < i * step + pos ∨ i * step + pos + len ≤ k * step + q := by
  rcases Nat.lt_trichotomy i k with before | same | after
  · have earlier : (i + 1) * step ≤ k * step := Nat.mul_le_mul_right step before
    rw [Nat.succ_mul] at earlier
    omega
  · subst same
    omega
  · have later : (k + 1) * step ≤ i * step := Nat.mul_le_mul_right step after
    rw [Nat.succ_mul] at later
    omega

/-- A window inside a record, read from the record and from the buffer. -/
theorem load_record {step pos len k : Nat} {data : Octets} (inside : pos + len ≤ step)
    (room : k * step + step ≤ data.length) :
    (load ((data.drop (k * step)).take step) pos len).toOption =
      (load data (k * step + pos) len).toOption := by
  have sized : (window data (k * step) step).length = step := by
    unfold window
    rw [List.length_take, List.length_drop]
    omega
  change (load (window data (k * step) step) pos len).toOption = _
  rw [load_eq_ok_iff.mpr ⟨by omega, rfl⟩, load_eq_ok_iff.mpr ⟨by omega, rfl⟩, window_window data inside]

/-- Two buffers that agree on one window of every record give the same reads of it. -/
theorem records_map_load_congr {step pos len : Nat} {data out : Octets} (positive : 0 < step)
    (window : pos + len ≤ step) (sized : out.length = data.length)
    (agree : ∀ k, k < data.length / step → ∀ p, pos ≤ p → p < pos + len →
      out[k * step + p]? = data[k * step + p]?) :
    (records step out).map (fun record => (load record pos len).toOption) =
      (records step data).map (fun record => (load record pos len).toOption) := by
  unfold records
  rw [sized, List.map_map, List.map_map]
  apply List.map_congr_left
  intro k listed
  have below : k < data.length / step := List.mem_range.mp listed
  have room : k * step + step ≤ data.length := by
    rw [← Nat.succ_mul]
    exact (Nat.le_div_iff_mul_le positive).mp below
  have same : load out (k * step + pos) len = load data (k * step + pos) len := by
    apply load_congr sized
    intro p from_pos upto
    have found := agree k below (p - k * step) (by omega) (by omega)
    rwa [show k * step + (p - k * step) = p by omega] at found
  simp only [Function.comp_apply]
  rw [load_record window (by omega), load_record window room, same]

end AsDt1.Lib
