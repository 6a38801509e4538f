import AsDt1.Lib.Lists
import AsDt1.Source.CdcStream

/-!
# Reads from a CDC stream

Each read takes its part off the front of the stream and changes nothing else,
however the port cuts the stream into pieces.
-/
namespace AsDt1.Source
open AsDt1.Lib Routine

/-! ## Numbers -/

theorem digit_plain {c : BitVec 8} (digit : isDigit c = true) :
    isSpace c = false ∧ c ≠ 0 ∧ c ≠ 0x2D ∧ c ≠ 0x2B := by
  revert c
  decide

/-- Nothing is skipped in front of a number, and it has no sign. -/
theorem number_leads {digits : Octets} (some_digit : digits ≠ []) (only : ∀ c ∈ digits, isDigit c = true)
    (more : Octets) :
    (digits ++ more).dropWhile isSpace = digits ++ more ∧ (digits ++ more).head? ≠ some 0x2D ∧
      (digits ++ more).head? ≠ some 0x2B := by
  obtain ⟨first, digits, rfl⟩ := List.exists_cons_of_ne_nil some_digit
  obtain ⟨not_space, -, not_minus, not_plus⟩ := digit_plain (only first (List.mem_cons_self ..))
  refine ⟨?_, by simpa using not_minus, by simpa using not_plus⟩
  rw [List.cons_append, List.dropWhile_cons_of_neg (by rw [not_space]; decide)]

theorem scanUnsigned_number {digits more : Octets} (some_digit : digits ≠ [])
    (only : ∀ c ∈ digits, isDigit c = true)
    (stops : ∀ c ∈ more.head?, isDigit c = false) (bound : decimal digits < 2 ^ 64) :
    scanUnsigned (digits ++ more) = BitVec.ofNat 64 (decimal digits) := by
  obtain ⟨kept, not_minus, not_plus⟩ := number_leads some_digit only more
  unfold scanUnsigned
  simp only [kept, not_minus, not_plus, or_self, if_false, takeWhile_stops only stops]
  rw [if_neg (by omega)]

/-- As a C string, a number behind the mark is whole, and still the whole number. -/
theorem takeWhile_number {digits more : Octets} (only : ∀ c ∈ digits, isDigit c = true)
    (stops : ∀ c ∈ more.head?, isDigit c = false) :
    ∃ cut, (ascii "tm=" ++ digits ++ more).takeWhile (· ≠ 0) = ascii "tm=" ++ (digits ++ cut) ∧
      ∀ c ∈ cut.head?, isDigit c = false := by
  refine ⟨more.takeWhile (· ≠ 0), ?_, fun c first => ?_⟩
  · have visible : ∀ c ∈ ascii "tm=" ++ digits, decide (c ≠ 0) = true := by
      intro c listed
      rcases List.mem_append.mp listed with mark | digit
      · have shown : ∀ c ∈ ascii "tm=", decide (c ≠ 0) = true := by decide
        exact shown c mark
      · exact decide_eq_true (digit_plain (only c digit)).2.1
    rw [List.takeWhile_append_of_pos visible, List.append_assoc]
  · cases more with
    | nil => cases first
    | cons d rest =>
      by_cases shown : d = 0
      · rw [List.takeWhile_cons_of_neg (by simpa using shown)] at first
        cases first
      · rw [List.takeWhile_cons_of_pos (by simpa using shown)] at first
        exact stops c first

theorem scanTimestamp_number {digits more : Octets} (some_digit : digits ≠ [])
    (only : ∀ c ∈ digits, isDigit c = true)
    (stops : ∀ c ∈ more.head?, isDigit c = false) (bound : decimal digits < 2 ^ 64) :
    scanTimestamp (ascii "tm=" ++ digits ++ more) = BitVec.ofNat 64 (decimal digits) := by
  obtain ⟨cut, text, stops'⟩ := takeWhile_number only stops
  unfold scanTimestamp
  rw [text]
  simp only [List.prefix_append, if_true]
  exact scanUnsigned_number some_digit only stops' bound

theorem scanTimestamp_stamp (line : StampLine) : scanTimestamp line.octets = BitVec.ofNat 64 line.stamp := by
  have stops : ∀ c ∈ (line.text ++ [0x0A]).head?, isDigit c = false := by
    intro c first
    cases ends : line.text with
    | nil =>
      rw [ends] at first
      obtain rfl : 0x0A = c := Option.some.inj first
      decide
    | cons d rest =>
      rw [ends] at first
      obtain rfl : d = c := Option.some.inj first
      exact line.number_ends d (by rw [ends]; rfl)
  have split : line.octets = ascii "tm=" ++ line.digits ++ (line.text ++ [0x0A]) := by
    show ascii "tm=" ++ line.digits ++ line.text ++ [0x0A] = _
    rw [List.append_assoc _ line.text]
  rw [split]
  exact scanTimestamp_number line.number.1 line.number.2 stops (lt_trans line.bound (by decide))

/-! ## One read -/

/-- Events that a caller sees, as opposed to the reads that lead to them. -/
def isOutcome : Event → Bool
  | .parsed _ _ _ _ | .pointCloud _ _ | .imuSamples _ => true
  | _ => false

def outcomes (w : World StreamState) : List Event := (w.log.map Prod.snd).filter isOutcome

/-- From `w` to `w'` the worker has only read: the stream goes on with `rest`, the
frame members are as given, all that the frame's end uses is unchanged. -/
structure ReadOn (w w' : World StreamState) (rest receiveBuf : Octets) (imuData : List Octets) : Prop where
  rest : w'.env.rest = rest
  receiveBuf : w'.receiveBuf = receiveBuf
  imuData : w'.imuData = imuData
  running : w'.running = w.running
  clocks : w'.env.clocks = w.env.clocks
  latest : w'.latestImuSampleTs = w.latestImuSampleTs
  outcomes : outcomes w' = outcomes w

theorem ReadOn.trans {u v w : World StreamState} {rest rest' buf buf' : Octets} {imu imu' : List Octets}
    (first : ReadOn u v rest buf imu) (second : ReadOn v w rest' buf' imu') : ReadOn u w rest' buf' imu' where
  rest := second.rest
  receiveBuf := second.receiveBuf
  imuData := second.imuData
  running := second.running.trans first.running
  clocks := second.clocks.trans first.clocks
  latest := second.latest.trans first.latest
  outcomes := second.outcomes.trans first.outcomes

section Reads

variable (chunks : Nat → Nat) (times : Nat → BitVec 64) {w : World StreamState} {tail : Octets}

theorem nextLine_line (line : TextLine) (tail : Octets) : nextLine (line.octets ++ tail) = line.octets := by
  have inside : ∀ c ∈ line.body, decide (c ≠ 0x0A) = true := by
    intro c listed
    exact decide_eq_true fun same => line.one_line (same ▸ listed)
  have split : line.octets ++ tail = line.body ++ 0x0A :: tail := by
    show line.body ++ [0x0A] ++ tail = _
    rw [List.append_assoc, List.singleton_append]
  have front : (line.octets ++ tail).takeWhile (· ≠ 0x0A) = line.body := by
    rw [split]
    apply takeWhile_stops inside
    intro c first
    obtain rfl : 0x0A = c := Option.some.inj first
    rfl
  have back : (line.octets ++ tail).dropWhile (· ≠ 0x0A) = 0x0A :: tail := by
    rw [split, List.dropWhile_append_of_pos inside, List.dropWhile_cons_of_neg (by decide)]
  unfold nextLine
  rw [front, back]
  apply List.take_of_length_le
  have short := line.short
  simp only [List.take_succ_cons, List.take_zero, List.length_append, List.length_singleton]
  omega

theorem readline_reads {line : TextLine} (stream : w.env.rest = line.octets ++ tail) :
    ∃ w', readline (streamEnvironment chunks times) w = (.ok line.octets, w') ∧
      ReadOn w w' tail w.receiveBuf w.imuData := by
  have next : nextLine w.env.rest = line.octets := by rw [stream, nextLine_line]
  have left : w.env.rest.drop (nextLine w.env.rest).length = tail := by rw [next, stream, List.drop_left]
  have answered : (streamEnvironment chunks times).answer .readline w.env =
      (.ok line.octets, { w.env with rest := tail }) := by
    rw [← left, ← next]
    rfl
  refine ⟨_, readline_ok answered, rfl, rfl, rfl, rfl, rfl, rfl, ?_⟩
  unfold outcomes
  rw [List.map_append, List.filter_append]
  exact List.append_nil _

theorem read_reads (size : Nat) :
    ∃ w', read (streamEnvironment chunks times) size w =
        (.ok (w.env.rest.take (min size (chunks w.env.reads))), w') ∧
      w'.env.reads = w.env.reads + 1 ∧
      ReadOn w w' (w.env.rest.drop (min size (chunks w.env.reads))) w.receiveBuf w.imuData := by
  refine ⟨_, read_ok rfl, rfl, rfl, rfl, rfl, rfl, rfl, rfl, ?_⟩
  unfold outcomes
  rw [List.map_append, List.filter_append]
  exact List.append_nil _

theorem isRunning_reads (running : w.running = true) :
    isRunning (streamEnvironment chunks times) w = (.ok true, w) := isRunning_up running rfl

/-! ## Lines -/

/-- Lines without the text are skipped, the line with it is returned whole. -/
theorem readLineUntil_ends {findStr : Octets} {lines : List TextLine} {last : TextLine}
    (skipped : ∀ line ∈ lines, ¬ findStr <:+: line.octets) (found : findStr <:+: last.octets)
    (running : w.running = true) (stream : w.env.rest = linesOctets lines ++ (last.octets ++ tail)) :
    ∃ w',
      Ends (fun fuel => readLineUntil (streamEnvironment chunks times) fuel findStr) w (.ok last.octets, w') ∧
      ReadOn w w' tail w.receiveBuf w.imuData := by
  suffices loops : ∃ w', Ends.Loop (fun _ _ => lineRound (streamEnvironment chunks times) findStr) () w
      (.ok last.octets, w') ∧ ReadOn w w' tail w.receiveBuf w.imuData by
    obtain ⟨w', loop, on⟩ := loops
    exact ⟨w', loop.ends, on⟩
  induction lines generalizing w with
  | nil =>
    obtain ⟨w', reads, on⟩ := readline_reads chunks times stream
    refine ⟨w', .done (.const ?_), on⟩
    unfold lineRound
    rw [bind_ok reads, if_pos found]
    rfl
  | cons line lines ih =>
    have ahead : w.env.rest = line.octets ++ (linesOctets lines ++ (last.octets ++ tail)) := by
      rw [stream]
      exact List.append_assoc ..
    obtain ⟨u, reads, on⟩ := readline_reads chunks times ahead
    have still : u.running = true := on.running.trans running
    obtain ⟨w', rest, on'⟩ :=
      ih (fun other listed => skipped other (List.mem_cons_of_mem _ listed)) still on.rest
    refine ⟨w', .again (.const ?_) rest, ?_⟩
    · unfold lineRound
      rw [bind_ok reads, if_neg (skipped line (List.mem_cons_self ..)),
        bind_ok (isRunning_reads chunks times still)]
      rfl
    · rw [on.receiveBuf, on.imuData] at on'
      exact on.trans on'

theorem readTimestamp_ends {lines : List TextLine} {line : StampLine}
    (skipped : ∀ line ∈ lines, ¬ ascii "tm=" <:+: line.octets) (running : w.running = true)
    (stream : w.env.rest = linesOctets lines ++ (line.octets ++ tail)) :
    ∃ w', Ends (fun fuel => readTimestamp (streamEnvironment chunks times) fuel) w
        (.ok (BitVec.ofNat 64 line.stamp), w') ∧
      ReadOn w w' tail w.receiveBuf w.imuData := by
  have found : ascii "tm=" <:+: line.toTextLine.octets := by
    refine ⟨[], line.digits ++ line.text ++ [0x0A], ?_⟩
    show _ = ascii "tm=" ++ line.digits ++ line.text ++ [0x0A]
    simp only [List.nil_append, List.append_assoc]
  obtain ⟨w', reads, on⟩ := readLineUntil_ends chunks times skipped found running stream
  refine ⟨w', .bind reads (.const ?_), on⟩
  have written : line.toTextLine.octets ≠ [] := by
    intro empty
    exact absurd (congrArg List.length empty) (by simp [TextLine.octets])
  rw [if_neg written, ← scanTimestamp_stamp line]
  rfl

/-! ## Counted reads -/

/-- No matter how often the port times out, more octets come in the end. -/
def Delivers : Prop := ∀ k, ∃ j, k ≤ j ∧ 0 < chunks j

/-- Induction over what is still to be read, by the reads that follow. -/
theorem chunk_induction {P : (left reads : Nat) → Prop} (delivers : Delivers chunks) (done : ∀ k, P 0 k)
    (round : ∀ left k, P (left + 1 - min (left + 1) (chunks k)) (k + 1) → P (left + 1) k) (left k : Nat) :
    P left k := by
  induction left using Nat.strongRecOn generalizing k with
  | ind left fewer =>
    cases left with
    | zero => exact done k
    | succ left =>
      obtain ⟨j, later, some_octet⟩ := delivers k
      -- empty reads up to read `j`, which is not
      induction wait : j - k generalizing k with
      | zero =>
        obtain rfl : k = j := by omega
        apply round
        exact fewer _ (by omega) _
      | succ wait ih =>
        apply round
        by_cases empty : chunks k = 0
        · rw [empty, Nat.min_zero, Nat.sub_zero]
          exact ih (k + 1) (by omega) (by omega)
        · exact fewer _ (by omega) _

/-- One round of a counted read takes the next piece of the octets it waits for. -/
theorem read_piece {data : Octets} (stream : w.env.rest = data ++ tail) :
    ∃ w', read (streamEnvironment chunks times) data.length w =
        (.ok (data.take (min data.length (chunks w.env.reads))), w') ∧
      w'.env.reads = w.env.reads + 1 ∧
      ReadOn w w' (data.drop (min data.length (chunks w.env.reads)) ++ tail) w.receiveBuf w.imuData := by
  obtain ⟨w', reads, counted, on⟩ := read_reads chunks times data.length (w := w)
  rw [stream, List.take_append_of_le_length (by omega)] at reads
  rw [stream, List.drop_append_of_le_length (by omega)] at on
  exact ⟨w', reads, counted, on⟩

theorem fill_ends {size : Nat} {got data : Octets} (delivers : Delivers chunks)
    (sized : got.length + data.length = size)
    (stream : w.env.rest = data ++ tail) :
    ∃ w', Ends (fun fuel => fill (streamEnvironment chunks times) fuel size got) w (.ok (got ++ data), w') ∧
      ReadOn w w' tail w.receiveBuf w.imuData := by
  suffices loops : ∃ w', Ends.Loop (fun _ => fillRound (streamEnvironment chunks times) size) got w
      (.ok (got ++ data), w') ∧ ReadOn w w' tail w.receiveBuf w.imuData by
    obtain ⟨w', loop, on⟩ := loops
    exact ⟨w', loop.ends, on⟩
  induction remaining : data.length, asked : w.env.reads using chunk_induction chunks delivers
    generalizing got data w with
  | done k =>
    obtain rfl : data = [] := List.length_eq_zero_iff.mp remaining
    rw [List.append_nil]
    refine ⟨w, .done (.const ?_), stream, rfl, rfl, rfl, rfl, rfl, rfl⟩
    unfold fillRound
    rw [if_neg (by rw [← sized]; exact Nat.lt_irrefl _)]
    rfl
  | round left k ih =>
    obtain ⟨u, reads, counted, on⟩ := read_piece chunks times stream
    rw [asked, remaining] at reads on
    have pieces : data.take (min (left + 1) (chunks k)) ++ data.drop (min (left + 1) (chunks k)) = data :=
      List.take_append_drop ..
    have sized' : (got ++ data.take (min (left + 1) (chunks k))).length +
        (data.drop (min (left + 1) (chunks k))).length = size := by
      rw [List.length_append, Nat.add_assoc, ← List.length_append, pieces, sized]
    obtain ⟨w', rest, on'⟩ := ih sized' on.rest (by rw [List.length_drop, remaining]) (by rw [counted, asked])
    rw [List.append_assoc, pieces] at rest
    rw [on.receiveBuf, on.imuData] at on'
    refine ⟨w', .again (.const ?_) rest, on.trans on'⟩
    have missing : size - got.length = left + 1 := by omega
    unfold fillRound
    rw [if_pos (by omega), missing, bind_ok reads]
    rfl

/-! ## Records and payload -/

theorem imuHead_ends {head : Octets} (delivers : Delivers chunks) (sized : head.length = 3)
    (stream : w.env.rest = head ++ tail) :
    ∃ w', Ends (fun fuel => fill (streamEnvironment chunks times) fuel 3 []) w (.ok head, w') ∧
      ReadOn w w' tail w.receiveBuf w.imuData := by
  have missing : ([] : Octets).length + head.length = 3 := by rw [sized]; rfl
  exact fill_ends chunks times delivers missing stream

theorem imuRecord_ends {record : Octets} (delivers : Delivers chunks) (sized : record.length = 16)
    (not_end : record.take 3 ≠ ascii "END") (stream : w.env.rest = record ++ tail) :
    ∃ w', Ends (fun fuel => imuRecord (streamEnvironment chunks times) fuel []) w (.ok (some record), w') ∧
      ReadOn w w' tail w.receiveBuf w.imuData := by
  have split : record.take 3 ++ record.drop 3 = record := List.take_append_drop ..
  have ahead : w.env.rest = record.take 3 ++ (record.drop 3 ++ tail) := by
    rw [stream, ← List.append_assoc, split]
  have head_sized : (record.take 3).length = 3 := by rw [List.length_take]; omega
  have rest_sized : (record.take 3).length + (record.drop 3).length = 16 := by
    rw [← List.length_append, split, sized]
  obtain ⟨u, head, on⟩ := imuHead_ends chunks times delivers head_sized ahead
  obtain ⟨w', whole, on'⟩ := fill_ends chunks times delivers rest_sized on.rest
  rw [split] at whole
  rw [on.receiveBuf, on.imuData] at on'
  refine ⟨w', .bind head ?_, on.trans on'⟩
  simp only [List.take_take, Nat.min_self, if_neg not_end]
  exact .bind whole (.const rfl)

theorem imuEnd_ends (delivers : Delivers chunks) (stream : w.env.rest = ascii "END" ++ tail) :
    ∃ w', Ends (fun fuel => imuRecord (streamEnvironment chunks times) fuel []) w (.ok none, w') ∧
      ReadOn w w' tail w.receiveBuf w.imuData := by
  obtain ⟨w', head, on⟩ := imuHead_ends chunks times delivers rfl stream
  exact ⟨w', .bind head (.const rfl), on⟩

theorem imuRecords_ends {records : List Octets} (delivers : Delivers chunks) (running : w.running = true)
    (sized : ∀ record ∈ records, record.length = 16) (not_end : ∀ record ∈ records, record.take 3 ≠ ascii "END")
    (stream : w.env.rest = records.flatten ++ (ascii "END" ++ tail)) :
    ∃ w', Ends (fun fuel => imuRecords (streamEnvironment chunks times) fuel) w (.ok (), w') ∧
      ReadOn w w' tail w.receiveBuf (w.imuData ++ records) := by
  suffices loops : ∃ w', Ends.Loop (fun fuel _ => imuRound (streamEnvironment chunks times) fuel) () w
      (.ok (), w') ∧ ReadOn w w' tail w.receiveBuf (w.imuData ++ records) by
    obtain ⟨w', loop, on⟩ := loops
    exact ⟨w', loop.ends, on⟩
  have up := isRunning_reads chunks times running
  induction records generalizing w with
  | nil =>
    obtain ⟨w', mark, on⟩ := imuEnd_ends chunks times delivers stream
    rw [List.append_nil]
    refine ⟨w', .done (.bind (.const up) ?_), on⟩
    exact .bind mark (.const rfl)
  | cons record records ih =>
    have ahead : w.env.rest = record ++ (records.flatten ++ (ascii "END" ++ tail)) := by
      rw [stream, List.flatten_cons, List.append_assoc]
    obtain ⟨u, whole, on⟩ := imuRecord_ends chunks times delivers (sized record (List.mem_cons_self ..))
      (not_end record (List.mem_cons_self ..)) ahead
    let kept : World StreamState := { u with imuData := u.imuData ++ [record] }
    have still : kept.running = true := on.running.trans running
    have on_kept : ReadOn w kept u.env.rest w.receiveBuf (w.imuData ++ [record]) :=
      ⟨rfl, on.receiveBuf, by rw [← on.imuData], on.running, on.clocks, on.latest, on.outcomes⟩
    obtain ⟨w', rest, on'⟩ := ih (w := kept) still
      (fun other listed => sized other (List.mem_cons_of_mem _ listed))
      (fun other listed => not_end other (List.mem_cons_of_mem _ listed)) on.rest
      (isRunning_reads chunks times still)
    rw [on_kept.receiveBuf, on_kept.imuData, List.append_assoc, List.singleton_append] at on'
    refine ⟨w', .again (.bind (.const up) ?_) rest, on_kept.trans on'⟩
    exact .bind whole (.const rfl)

theorem readImu_ends {lines : List TextLine} {mark : TextLine} {records : List Octets}
    (delivers : Delivers chunks)
    (skipped : ∀ line ∈ lines, ¬ ascii "BEGIN IMU" <:+: line.octets)
    (found : ascii "BEGIN IMU" <:+: mark.octets)
    (sized : ∀ record ∈ records, record.length = 16) (not_end : ∀ record ∈ records, record.take 3 ≠ ascii "END")
    (running : w.running = true)
    (stream : w.env.rest = linesOctets lines ++ (mark.octets ++ (records.flatten ++ (ascii "END" ++ tail)))) :
    ∃ w', Ends (fun fuel => readImu (streamEnvironment chunks times) fuel) w (.ok (), w') ∧
      ReadOn w w' tail w.receiveBuf records := by
  let cleared : World StreamState := { w with imuData := [] }
  obtain ⟨u, marked, on⟩ := readLineUntil_ends chunks times (w := cleared) skipped found running stream
  obtain ⟨w', rest, on'⟩ :=
    imuRecords_ends chunks times delivers (on.running.trans running) sized not_end on.rest
  rw [on.receiveBuf, on.imuData] at on'
  have from_cleared := on.trans on'
  refine ⟨w', .bind (.const rfl) (.bind marked rest), ?_⟩
  exact ⟨from_cleared.rest, from_cleared.receiveBuf, from_cleared.imuData, from_cleared.running,
    from_cleared.clocks,
    from_cleared.latest, from_cleared.outcomes⟩

/-- A piece written behind the octets that are there already. -/
theorem overwrite_take {buf piece : Octets} {n : Nat} (room : n + piece.length ≤ buf.length) :
    (overwrite buf n piece).length = buf.length ∧
      (overwrite buf n piece).take (n + piece.length) = buf.take n ++ piece := by
  have front : (buf.take n ++ piece).length = n + piece.length := by
    rw [List.length_append, List.length_take]
    omega
  unfold overwrite
  constructor
  · rw [List.length_append, front, List.length_drop]
    omega
  · rw [← front, List.take_left]

theorem pointCloudOctets_ends {n : Nat} {data : Octets} (delivers : Delivers chunks)
    (running : w.running = true)
    (sized : n + data.length = w.receiveBuf.length) (stream : w.env.rest = data ++ tail) :
    ∃ w', Ends (fun fuel => pointCloudOctets (streamEnvironment chunks times) fuel n) w (.ok (), w') ∧
      ReadOn w w' tail (w.receiveBuf.take n ++ data) w.imuData := by
  suffices loops : ∃ w',
      Ends.Loop (fun _ => pointCloudRound (streamEnvironment chunks times)) n w (.ok (), w') ∧
      ReadOn w w' tail (w.receiveBuf.take n ++ data) w.imuData by
    obtain ⟨w', loop, on⟩ := loops
    exact ⟨w', loop.ends, on⟩
  induction remaining : data.length, asked : w.env.reads using chunk_induction chunks delivers
    generalizing n data w with
  | done k =>
    obtain rfl : data = [] := List.length_eq_zero_iff.mp remaining
    have full : n = w.receiveBuf.length := sized
    rw [List.append_nil, full, List.take_length]
    refine ⟨w, .done (.const ?_), stream, rfl, rfl, rfl, rfl, rfl, rfl⟩
    unfold pointCloudRound
    rw [bind_ok (get_apply w), if_neg (Nat.lt_irrefl _)]
    rfl
  | round left k ih =>
    obtain ⟨u, reads, counted, on⟩ := read_piece chunks times stream
    rw [asked, remaining] at reads on
    let piece := data.take (min (left + 1) (chunks k))
    have pieces : piece ++ data.drop (min (left + 1) (chunks k)) = data := List.take_append_drop ..
    have lengths : piece.length + (data.drop (min (left + 1) (chunks k))).length = data.length := by
      rw [← List.length_append, pieces]
    let stored : World StreamState := { u with receiveBuf := overwrite u.receiveBuf n piece }
    have room : n + piece.length ≤ u.receiveBuf.length := by rw [on.receiveBuf]; omega
    obtain ⟨same_length, front⟩ := overwrite_take room
    have still : stored.running = true := on.running.trans running
    have on_stored : ReadOn w stored u.env.rest (overwrite u.receiveBuf n piece) w.imuData :=
      ⟨rfl, rfl, on.imuData, on.running, on.clocks, on.latest, on.outcomes⟩
    have sized' :
        n + piece.length + (data.drop (min (left + 1) (chunks k))).length = stored.receiveBuf.length := by
      rw [same_length, on.receiveBuf, Nat.add_assoc, lengths, sized]
    obtain ⟨w', rest, on'⟩ := ih (w := stored) still sized' on.rest (by rw [List.length_drop, remaining])
      (by rw [← asked, ← counted])
    rw [front, List.append_assoc, pieces, on.receiveBuf, on_stored.imuData] at on'
    refine ⟨w', .again (.const ?_) rest, on_stored.trans on'⟩
    unfold pointCloudRound
    have missing : w.receiveBuf.length - n = left + 1 := by omega
    rw [bind_ok (get_apply w), if_pos (by omega), missing, bind_ok reads, bind_ok (modify_apply _ u),
      bind_ok (isRunning_reads chunks times still)]
    rfl

theorem readSerialPointCloud_ends {mark : TextLine} {payload : Octets} (delivers : Delivers chunks)
    (found : ascii "BEGIN MP" <:+: mark.octets) (running : w.running = true)
    (sized : payload.length = w.receiveBuf.length) (stream : w.env.rest = mark.octets ++ (payload ++ tail)) :
    ∃ w', Ends (fun fuel => readSerialPointCloud (streamEnvironment chunks times) fuel) w (.ok (), w') ∧
      ReadOn w w' tail payload w.imuData := by
  have no_lines : ∀ line ∈ ([] : List TextLine), ¬ ascii "BEGIN MP" <:+: line.octets := by simp
  obtain ⟨u, marked, on⟩ := readLineUntil_ends chunks times no_lines found running stream
  have room : 0 + payload.length = u.receiveBuf.length := by rw [Nat.zero_add, on.receiveBuf, sized]
  obtain ⟨w', rest, on'⟩ := pointCloudOctets_ends chunks times delivers (on.running.trans running) room on.rest
  rw [List.take_zero, List.nil_append, on.imuData] at on'
  exact ⟨w', .bind marked rest, on.trans on'⟩

end Reads

end AsDt1.Source
