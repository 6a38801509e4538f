import AsDt1.Lib.Total
import AsDt1.Source.RestOfRun

/-!
# What the reads wait for

A loop that waits for a prompt, or for the octets of an IMU record, reads until they
have come. Each wait is a relation between two states of the port; it comes to an
end if and only if what arrives holds what is waited for. Once the flag is down
every other read routine takes one line, or makes one read.
-/
namespace AsDt1.Source
open AsDt1.Lib Routine

/-! ## Waiting -/

/-- A prompt is read, octet by octet. -/
inductive PromptRead (arrivals : Arrivals) : CameraPort → CameraPort → Prop
  | found {s : CameraPort} (prompt : (s.taken arrivals 1).head? = some 0x3E) :
      PromptRead arrivals s (s.afterRead arrivals 1)
  | passed {s t : CameraPort} (other : (s.taken arrivals 1).head? ≠ some 0x3E)
      (rest : PromptRead arrivals (s.afterRead arrivals 1) t) : PromptRead arrivals s t

/-- One prompt after another is read, and then `next` holds. -/
def AfterPrompts (arrivals : Arrivals) (next : CameraPort → Prop) : Nat → CameraPort → Prop
  | 0, s => next s
  | prompts + 1, s => ∃ t, PromptRead arrivals s t ∧ AfterPrompts arrivals next prompts t

/-- Reads fill a buffer of that size, of which the first part is there before. -/
inductive FilledUp (arrivals : Arrivals) (size : Nat) : Octets → CameraPort → Octets → CameraPort → Prop
  | full {got : Octets} {s : CameraPort} (enough : size ≤ got.length) : FilledUp arrivals size got s got s
  | more {got whole : Octets} {s t : CameraPort} (missing : got.length < size)
      (rest : FilledUp arrivals size (got ++ s.taken arrivals (size - got.length))
        (s.afterRead arrivals (size - got.length)) whole t) : FilledUp arrivals size got s whole t

/-- An IMU record of which `got` is there before, or the end mark. -/
def RecordRead (arrivals : Arrivals) (got : Octets) (s t : CameraPort) : Prop :=
  ∃ head u, FilledUp arrivals 3 got s head u ∧
    if head.take 3 = ascii "END" then t = u else ∃ record, FilledUp arrivals 16 head u record t

/-- What arrives in `count` reads. -/
def arriving (arrivals : Arrivals) : (start count : Nat) → Octets
  | _, 0 => []
  | start, count + 1 => arrivals start ++ arriving arrivals (start + 1) count

/-- What can be read in `count` reads. -/
def upcoming (arrivals : Arrivals) (s : CameraPort) (count : Nat) : Octets :=
  s.queue ++ arriving arrivals s.reads count

variable {arrivals : Arrivals} {s t u : CameraPort}

/-- What was read and what can be read from then on. -/
theorem available_read (arrivals : Arrivals) (s : CameraPort) (size count : Nat) :
    s.taken arrivals size ++ upcoming arrivals (s.afterRead arrivals size) count =
      upcoming arrivals s (count + 1) := by
  unfold upcoming CameraPort.taken CameraPort.afterRead
  rw [← List.append_assoc, List.take_append_drop, List.append_assoc]
  rfl

theorem received_append (arrivals : Arrivals) (start count more : Nat) :
    arriving arrivals start (count + more) =
      arriving arrivals start count ++ arriving arrivals (start + count) more := by
  induction count generalizing start with
  | zero => rw [Nat.zero_add, Nat.add_zero]; rfl
  | succ count ih =>
    have shifted : start + 1 + count = start + (count + 1) := by omega
    rw [Nat.succ_add_eq_add_succ, Nat.add_succ, arriving, ih (start + 1), shifted, ← List.append_assoc]
    rfl

/-- More reads only add to what can be read. -/
theorem available_grows (arrivals : Arrivals) (s : CameraPort) (count more : Nat) :
    upcoming arrivals s count <+: upcoming arrivals s (count + more) := by
  refine ⟨arriving arrivals (s.reads + count) more, ?_⟩
  unfold upcoming
  rw [received_append, List.append_assoc]

/-! ## Prompts -/

theorem PromptRead.isOpen (read : PromptRead arrivals s t) : t.isOpen = s.isOpen := by
  induction read with
  | found prompt => rfl
  | passed other rest ih => exact ih

theorem PromptRead.unique (read : PromptRead arrivals s t) (read' : PromptRead arrivals s u) : t = u := by
  induction read with
  | found prompt =>
    cases read' with
    | found prompt' => rfl
    | passed other rest => exact absurd prompt other
  | passed other rest ih =>
    cases read' with
    | found prompt => exact absurd prompt other
    | passed other' rest' => exact ih rest'

theorem afterPrompts_succ {next : CameraPort → Prop} {prompts : Nat} (read : PromptRead arrivals s t) :
    AfterPrompts arrivals next (prompts + 1) s ↔ AfterPrompts arrivals next prompts t := by
  constructor
  · intro later
    obtain ⟨u, read', later⟩ := later
    rwa [read.unique read']
  · exact fun later => ⟨t, read, later⟩

theorem not_afterPrompts {next : CameraPort → Prop} {prompts : Nat} (none : ¬ ∃ t, PromptRead arrivals s t) :
    ¬ AfterPrompts arrivals next (prompts + 1) s := by
  intro later
  obtain ⟨t, read, -⟩ := later
  exact none ⟨t, read⟩

theorem taken_one (arrivals : Arrivals) (s : CameraPort) :
    s.taken arrivals 1 = [] ∨ ∃ c, s.taken arrivals 1 = [c] := by
  unfold CameraPort.taken
  cases s.queue ++ arrivals s.reads with
  | nil => exact .inl rfl
  | cons c rest => exact .inr ⟨c, rfl⟩

theorem taken_prompt (prompt : (s.taken arrivals 1).head? = some 0x3E) : s.taken arrivals 1 = [0x3E] := by
  rcases taken_one arrivals s with nothing | ⟨c, octet⟩
  · rw [nothing] at prompt
    cases prompt
  · rw [octet] at prompt
    rw [octet, Option.some.inj prompt]

theorem not_mem_taken (other : (s.taken arrivals 1).head? ≠ some 0x3E) : 0x3E ∉ s.taken arrivals 1 := by
  intro listed
  rcases taken_one arrivals s with nothing | ⟨c, octet⟩
  · rw [nothing] at listed
    cases listed
  · rw [octet] at listed other
    exact other (congrArg some (List.mem_singleton.mp listed).symm)

/-- Nothing ahead of the prompt that is read is one. -/
theorem PromptRead.upcoming (read : PromptRead arrivals s t) :
    ∃ count front, 0x3E ∉ front ∧
      ∀ more, upcoming arrivals s (more + count) = front ++ 0x3E :: upcoming arrivals t more := by
  induction read with
  | @found s prompt =>
    refine ⟨1, [], List.not_mem_nil, fun more => ?_⟩
    rw [← available_read arrivals s 1, taken_prompt prompt]
    rfl
  | @passed s t other rest ih =>
    obtain ⟨count, front, none, split⟩ := ih
    refine ⟨count + 1, s.taken arrivals 1 ++ front, fun listed => ?_, fun more => ?_⟩
    · rcases List.mem_append.mp listed with first | later
      · exact not_mem_taken other first
      · exact none later
    · rw [← Nat.add_assoc, ← available_read arrivals s 1, split, List.append_assoc]

theorem promptRead_queued {front back : Octets} (queued : s.queue = front ++ 0x3E :: back) :
    ∃ t, PromptRead arrivals s t := by
  induction front generalizing s back with
  | nil =>
    refine ⟨_, .found ?_⟩
    unfold CameraPort.taken
    rw [queued]
    rfl
  | cons c front ih =>
    by_cases prompt : (s.taken arrivals 1).head? = some 0x3E
    · exact ⟨_, .found prompt⟩
    · have still : (s.afterRead arrivals 1).queue = front ++ 0x3E :: (back ++ arrivals s.reads) := by
        unfold CameraPort.afterRead
        simp [queued]
      obtain ⟨t, rest⟩ := ih still
      exact ⟨t, .passed prompt rest⟩

/-- A prompt that has arrived is read. -/
theorem promptRead_of_mem {count : Nat} (arrived : 0x3E ∈ upcoming arrivals s count) :
    ∃ t, PromptRead arrivals s t := by
  induction count generalizing s with
  | zero =>
    have queued : (0x3E : BitVec 8) ∈ s.queue := by
      unfold AsDt1.Source.upcoming arriving at arrived
      rwa [List.append_nil] at arrived
    obtain ⟨front, back, split⟩ := List.append_of_mem queued
    exact promptRead_queued split
  | succ count ih =>
    by_cases prompt : (s.taken arrivals 1).head? = some 0x3E
    · exact ⟨_, .found prompt⟩
    · rw [← available_read arrivals s 1] at arrived
      rcases List.mem_append.mp arrived with first | later
      · exact absurd first (not_mem_taken prompt)
      · obtain ⟨t, rest⟩ := ih later
        exact ⟨t, .passed prompt rest⟩

/-- Prompts can be read one after another exactly if as many arrive. -/
theorem afterPrompts_iff {prompts : Nat} :
    AfterPrompts arrivals (fun _ => True) prompts s ↔
      ∃ count, prompts ≤ (upcoming arrivals s count).count 0x3E := by
  induction prompts generalizing s with
  | zero => exact iff_of_true trivial ⟨0, Nat.zero_le _⟩
  | succ prompts ih =>
    constructor
    · intro later
      obtain ⟨t, read, rest⟩ := later
      obtain ⟨more, enough⟩ := ih.mp rest
      obtain ⟨count, front, -, split⟩ := read.upcoming
      refine ⟨more + count, ?_⟩
      rw [split, List.count_append, List.count_cons_self]
      omega
    · intro arrive
      obtain ⟨count, enough⟩ := arrive
      have some : 0 < (upcoming arrivals s count).count 0x3E := by omega
      obtain ⟨t, read⟩ := promptRead_of_mem (List.count_pos_iff.mp some)
      refine ⟨t, read, ih.mpr ⟨count, ?_⟩⟩
      obtain ⟨used, front, none, split⟩ := read.upcoming
      have grown := (available_grows arrivals s count used).sublist.count_le 0x3E
      rw [split, List.count_append, List.count_cons_self, List.count_eq_zero_of_not_mem none] at grown
      omega

/-! ## Records -/

theorem FilledUp.isOpen {size : Nat} {got whole : Octets} (filled : FilledUp arrivals size got s whole t) :
    t.isOpen = s.isOpen := by
  induction filled with
  | full enough => rfl
  | more missing rest ih => exact ih

theorem FilledUp.unique {size : Nat} {got whole whole' : Octets} (filled : FilledUp arrivals size got s whole t)
    (filled' : FilledUp arrivals size got s whole' u) : whole = whole' ∧ t = u := by
  induction filled with
  | full enough =>
    cases filled' with
    | full enough' => exact ⟨rfl, rfl⟩
    | more missing rest => omega
  | more missing rest ih =>
    cases filled' with
    | full enough => omega
    | more missing' rest' => exact ih rest'

theorem RecordRead.isOpen {got : Octets} (read : RecordRead arrivals got s t) : t.isOpen = s.isOpen := by
  obtain ⟨head, u, first, rest⟩ := read
  split at rest
  · rw [rest, first.isOpen]
  · obtain ⟨record, last⟩ := rest
    rw [last.isOpen, first.isOpen]

theorem RecordRead.unique {got : Octets} (read : RecordRead arrivals got s t) (read' : RecordRead arrivals got s u) :
    t = u := by
  obtain ⟨head, v, first, rest⟩ := read
  obtain ⟨head', v', first', rest'⟩ := read'
  obtain ⟨rfl, rfl⟩ := first.unique first'
  split at rest
  · next marked =>
    rw [if_pos marked] at rest'
    rw [rest, rest']
  · next unmarked =>
    rw [if_neg unmarked] at rest'
    obtain ⟨record, last⟩ := rest
    obtain ⟨record', last'⟩ := rest'
    exact (last.unique last').2

/-- Nothing is lost while a buffer is filled. -/
theorem FilledUp.upcoming {size : Nat} {got whole : Octets} (filled : FilledUp arrivals size got s whole t) :
    size ≤ whole.length ∧
      ∃ count, ∀ more, whole ++ upcoming arrivals t more = got ++ upcoming arrivals s (more + count) := by
  induction filled with
  | full enough => exact ⟨enough, 0, fun more => rfl⟩
  | @more got whole s t missing rest ih =>
    obtain ⟨long, count, same⟩ := ih
    refine ⟨long, count + 1, fun more => ?_⟩
    rw [same, List.append_assoc, available_read, Nat.add_assoc]

/-- A buffer is filled exactly if its octets arrive. -/
theorem filled_iff {size : Nat} {got : Octets} :
    (∃ whole t, FilledUp arrivals size got s whole t) ↔
      ∃ count, size ≤ (got ++ upcoming arrivals s count).length := by
  constructor
  · intro filled
    obtain ⟨whole, t, filled⟩ := filled
    obtain ⟨long, count, same⟩ := filled.upcoming
    refine ⟨0 + count, ?_⟩
    rw [← same, List.length_append]
    omega
  · intro arrive
    obtain ⟨count, enough⟩ := arrive
    induction count generalizing s got with
    | zero =>
      by_cases missing : got.length < size
      · -- all that is missing is in the queue
        have queued : size ≤ got.length + s.queue.length := by
          unfold AsDt1.Source.upcoming arriving at enough
          rwa [List.append_nil, List.length_append] at enough
        refine ⟨_, _, .more missing (.full ?_)⟩
        rw [List.length_append, CameraPort.taken, List.length_take, List.length_append]
        omega
      · exact ⟨_, _, .full (Nat.not_lt.mp missing)⟩
    | succ count ih =>
      by_cases missing : got.length < size
      · rw [← available_read arrivals s (size - got.length), ← List.append_assoc] at enough
        obtain ⟨whole, t, rest⟩ := ih enough
        exact ⟨whole, t, .more missing rest⟩
      · exact ⟨_, _, .full (Nat.not_lt.mp missing)⟩

theorem take_of_prefix {front whole : Octets} {n : Nat} (pre : front <+: whole) (long : n ≤ front.length) :
    whole.take n = front.take n := by
  obtain ⟨rest, rfl⟩ := pre
  exact List.take_append_of_le_length long

/-- A record is read exactly if three octets arrive that are the end mark, or sixteen. -/
theorem recordRead_iff {got : Octets} :
    (∃ t, RecordRead arrivals got s t) ↔
      ∃ count, 3 ≤ (got ++ upcoming arrivals s count).length ∧
        ((got ++ upcoming arrivals s count).take 3 = ascii "END" ∨
          16 ≤ (got ++ upcoming arrivals s count).length) := by
  constructor
  · intro read
    obtain ⟨t, head, u, first, rest⟩ := read
    obtain ⟨three, count, same⟩ := first.upcoming
    by_cases marked : head.take 3 = ascii "END"
    · refine ⟨0 + count, ?_⟩
      rw [← same, List.length_append, List.take_append_of_le_length three]
      exact ⟨by omega, .inl marked⟩
    · rw [if_neg marked] at rest
      obtain ⟨record, last⟩ := rest
      obtain ⟨sixteen, more, same'⟩ := last.upcoming
      refine ⟨0 + more + count, ?_⟩
      rw [← same, ← same', List.length_append]
      exact ⟨by omega, .inr (by omega)⟩
  · intro arrive
    obtain ⟨count, three, rest⟩ := arrive
    obtain ⟨head, u, first⟩ := filled_iff.mpr ⟨count, three⟩
    by_cases marked : head.take 3 = ascii "END"
    · exact ⟨u, head, u, first, by rw [if_pos marked]⟩
    · obtain ⟨long, used, same⟩ := first.upcoming
      have grown : got ++ upcoming arrivals s count <+: head ++ upcoming arrivals u count := by
        rw [same]
        exact (List.prefix_append_right_inj got).mpr (available_grows ..)
      have sixteen : 16 ≤ (head ++ upcoming arrivals u count).length := by
        rcases rest with ends | sixteen
        · have heads := take_of_prefix grown three
          rw [List.take_append_of_le_length long, ends] at heads
          exact absurd heads marked
        · exact sixteen.trans grown.length_le
      obtain ⟨record, t, last⟩ := filled_iff.mpr ⟨count, sixteen⟩
      exact ⟨t, head, u, first, by rw [if_neg marked]; exact ⟨record, last⟩⟩

/-! ## The reads of a stopped worker -/

/-- The flag is down, and the worker has an open port. -/
structure FlagDown (w : World CameraPort) : Prop where
  down : w.running = false
  connected : w.serial = true
  opened : w.env.isOpen = true

section Reads

variable {w : World CameraPort}

theorem FlagDown.moved (stopped : FlagDown w) (s : CameraPort) (opened : s.isOpen = true) (log : List (Phase × Event)) :
    FlagDown { w with env := s, log } := ⟨stopped.down, stopped.connected, opened⟩

variable (arrivals) (host : HostAnswers)

theorem readline_stopped (stopped : FlagDown w) :
    ∃ log, readline (deviceEnvironment arrivals host) w =
      (.ok (w.env.lineOf arrivals), { w with env := w.env.afterLine arrivals, log }) := by
  have answered : (deviceEnvironment arrivals host).answer .readline w.env =
      (.ok (w.env.lineOf arrivals), w.env.afterLine arrivals) := if_pos stopped.opened
  exact ⟨_, readline_ok answered⟩

theorem read_stopped (stopped : FlagDown w) (size : Nat) :
    ∃ log, read (deviceEnvironment arrivals host) size w =
      (.ok (w.env.taken arrivals size), { w with env := w.env.afterRead arrivals size, log }) := by
  have answered : (deviceEnvironment arrivals host).answer (.read size) w.env =
      (.ok (w.env.taken arrivals size), w.env.afterRead arrivals size) := if_pos stopped.opened
  exact ⟨_, read_ok answered⟩

theorem write_stopped (stopped : FlagDown w) (data : Octets) :
    ∃ log, write (deviceEnvironment arrivals host) data w = (.ok (), { w with log }) := by
  have answered : (deviceEnvironment arrivals host).answer (.write data) w.env = (.ok (), w.env) := by
    show (if w.env.isOpen = true then _ else _, _) = _
    rw [if_pos stopped.opened]
  refine ⟨w.log ++ [(w.phase, .wrote data)], ?_⟩
  unfold write
  rw [bind_ok (call_ok answered)]
  rfl

theorem readLineUntil_stopped (stopped : FlagDown w) (findStr : Octets) :
    ∃ log, Ends (fun fuel => readLineUntil (deviceEnvironment arrivals host) fuel findStr) w
      (.ok (w.env.lineOf arrivals), { w with env := w.env.afterLine arrivals, log }) := by
  obtain ⟨log, reads⟩ := readline_stopped arrivals host stopped
  have still := stopped.moved (w.env.afterLine arrivals) stopped.opened log
  refine ⟨log, (Ends.Loop.done (.const ?_)).ends⟩
  unfold lineRound
  rw [bind_ok reads]
  by_cases found : findStr <:+: w.env.lineOf arrivals
  · rw [if_pos found]
    rfl
  · rw [if_neg found, bind_ok (isRunning_down still.down)]
    rfl

theorem promptRound_stopped (stopped : FlagDown w) :
    ∃ log, promptRound (deviceEnvironment arrivals host) w =
      (.ok (if (w.env.taken arrivals 1).head? = some 0x3E then .inr true else .inl ()),
        { w with env := w.env.afterRead arrivals 1, log }) := by
  obtain ⟨log, reads⟩ := read_stopped arrivals host stopped 1
  refine ⟨log, ?_⟩
  unfold promptRound
  rw [bind_ok reads]
  rfl

theorem promptLoop_reads {s t : CameraPort} (read : PromptRead arrivals s t) (stopped : FlagDown w) (at_ : w.env = s) :
    ∃ log, Ends.Loop (fun _ _ => promptRound (deviceEnvironment arrivals host)) () w
      (.ok true, { w with env := t, log }) := by
  induction read generalizing w with
  | found prompt =>
    subst at_
    obtain ⟨log, round⟩ := promptRound_stopped arrivals host stopped
    rw [if_pos prompt] at round
    exact ⟨log, .done (.const round)⟩
  | passed other rest ih =>
    subst at_
    obtain ⟨log, round⟩ := promptRound_stopped arrivals host stopped
    rw [if_neg other] at round
    obtain ⟨log', later⟩ := ih (stopped.moved (w.env.afterRead arrivals 1) stopped.opened log) rfl
    exact ⟨log', .again (.const round) later⟩

/-- `read_to_prompt` returns with the prompt. -/
theorem readToPrompt_reads (read : PromptRead arrivals w.env t) (stopped : FlagDown w) :
    ∃ log, Ends (fun fuel => readToPrompt (deviceEnvironment arrivals host) fuel) w
      (.ok true, { w with env := t, log }) := by
  obtain ⟨log, loops⟩ := promptLoop_reads arrivals host read stopped rfl
  obtain ⟨least, ends⟩ := loops.ends
  exact ⟨log, least, fun fuel enough => tryCatch_ok (ends fuel enough)⟩

/-- With no prompt it never returns. -/
theorem readToPrompt_never (none : ¬ ∃ t, PromptRead arrivals w.env t) (stopped : FlagDown w) :
    Never (fun fuel => readToPrompt (deviceEnvironment arrivals host) fuel) w := by
  apply Never.tryCatch
  apply Never.loop (I := fun _ w => FlagDown w ∧ ¬ ∃ t, PromptRead arrivals w.env t) _ ⟨stopped, none⟩
  intro _ w still
  obtain ⟨stopped, none⟩ := still
  obtain ⟨log, round⟩ := promptRound_stopped arrivals host stopped
  have other : (w.env.taken arrivals 1).head? ≠ some 0x3E := fun prompt => none ⟨_, .found prompt⟩
  rw [if_neg other] at round
  refine ⟨(), _, round, stopped.moved (w.env.afterRead arrivals 1) stopped.opened log, ?_⟩
  intro later
  obtain ⟨t, rest⟩ := later
  exact none ⟨t, .passed other rest⟩

/-! ### Filling a record -/

theorem fillRound_full {size : Nat} {got : Octets} (full : size ≤ got.length) :
    fillRound (deviceEnvironment arrivals host) size got w = (.ok (.inr got), w) := by
  unfold fillRound
  rw [if_neg (Nat.not_lt.mpr full)]
  rfl

theorem fillRound_missing (stopped : FlagDown w) {size : Nat} {got : Octets} (missing : got.length < size) :
    ∃ log, fillRound (deviceEnvironment arrivals host) size got w =
      (.ok (.inl (got ++ w.env.taken arrivals (size - got.length))),
        { w with env := w.env.afterRead arrivals (size - got.length), log }) := by
  obtain ⟨log, reads⟩ := read_stopped arrivals host stopped (size - got.length)
  refine ⟨log, ?_⟩
  unfold fillRound
  rw [if_pos missing, bind_ok reads]
  rfl

theorem fill_reads {size : Nat} {got whole : Octets} {s t : CameraPort} (filled : FilledUp arrivals size got s whole t)
    (stopped : FlagDown w) (at_ : w.env = s) :
    ∃ log, Ends.Loop (fun _ => fillRound (deviceEnvironment arrivals host) size) got w
      (.ok whole, { w with env := t, log }) := by
  induction filled generalizing w with
  | full enough =>
    subst at_
    exact ⟨w.log, .done (.const (fillRound_full arrivals host enough))⟩
  | @more got whole s t missing rest ih =>
    subst at_
    obtain ⟨log, round⟩ := fillRound_missing arrivals host stopped missing
    have still := stopped.moved (w.env.afterRead arrivals (size - got.length)) stopped.opened log
    obtain ⟨log', later⟩ := ih still rfl
    exact ⟨log', .again (.const round) later⟩

theorem fill_never {size : Nat} {got : Octets} (starved : ¬ ∃ whole t, FilledUp arrivals size got w.env whole t)
    (stopped : FlagDown w) :
    Never (fun fuel => fill (deviceEnvironment arrivals host) fuel size got) w := by
  apply Never.loop (I := fun got w => FlagDown w ∧ ¬ ∃ whole t, FilledUp arrivals size got w.env whole t) _
    ⟨stopped, starved⟩
  intro got w still
  obtain ⟨stopped, starved⟩ := still
  have missing : got.length < size := by
    by_contra enough
    exact starved ⟨_, _, .full (Nat.not_lt.mp enough)⟩
  obtain ⟨log, round⟩ := fillRound_missing arrivals host stopped missing
  refine ⟨_, _, round, stopped.moved (w.env.afterRead arrivals (size - got.length)) stopped.opened log, ?_⟩
  intro later
  obtain ⟨whole, t, rest⟩ := later
  exact starved ⟨whole, t, .more missing rest⟩

/-- A record is returned once it has come. -/
theorem imuRecord_reads {got : Octets} (read : RecordRead arrivals got w.env t) (stopped : FlagDown w) :
    ∃ record log, Ends (fun fuel => imuRecord (deviceEnvironment arrivals host) fuel got) w
      (.ok record, { w with env := t, log }) := by
  obtain ⟨head, u, first, rest⟩ := read
  obtain ⟨log, loop⟩ := fill_reads arrivals host first stopped rfl
  split at rest
  · next marked =>
    subst rest
    refine ⟨none, log, loop.ends.bind ?_⟩
    simp only [if_pos marked]
    exact .const rfl
  · next unmarked =>
    obtain ⟨record, last⟩ := rest
    have opened : u.isOpen = true := first.isOpen.trans stopped.opened
    obtain ⟨log', loop'⟩ := fill_reads arrivals host last (stopped.moved u opened log) rfl
    refine ⟨some record, log', loop.ends.bind ?_⟩
    simp only [if_neg unmarked]
    exact loop'.ends.bind (.const rfl)

theorem imuRecord_never {got : Octets} (starved : ¬ ∃ t, RecordRead arrivals got w.env t) (stopped : FlagDown w) :
    Never (fun fuel => imuRecord (deviceEnvironment arrivals host) fuel got) w := by
  by_cases comes : ∃ head u, FilledUp arrivals 3 got w.env head u
  · obtain ⟨head, u, first⟩ := comes
    obtain ⟨log, loop⟩ := fill_reads arrivals host first stopped rfl
    have unmarked : head.take 3 ≠ ascii "END" := fun marked => starved ⟨u, head, u, first, by rw [if_pos marked]⟩
    apply Never.bind_rest loop.ends
    simp only [if_neg unmarked]
    apply Never.bind_first
    apply fill_never arrivals host _ (stopped.moved u (first.isOpen.trans stopped.opened) log)
    intro later
    obtain ⟨record, t, last⟩ := later
    exact starved ⟨t, head, u, first, by rw [if_neg unmarked]; exact ⟨record, last⟩⟩
  · exact Never.bind_first (fill_never arrivals host comes stopped)

/-! ### The loops that test the flag -/

theorem imuRecords_stopped (stopped : FlagDown w) :
    Ends (fun fuel => imuRecords (deviceEnvironment arrivals host) fuel) w (.ok (), w) := by
  have round (fuel : Nat) : imuRound (deviceEnvironment arrivals host) fuel w = (.ok (.inr ()), w) := by
    unfold imuRound
    rw [bind_ok (isRunning_down stopped.down)]
    rfl
  exact (Ends.Loop.done ⟨0, fun fuel _ => round fuel⟩).ends

/-- Where the point cloud's octets leave the port: after one more read, if some are missing. -/
def afterCloud (size n : Nat) (s : CameraPort) : CameraPort :=
  if n < size then s.afterRead arrivals (size - n) else s

theorem afterCloud_isOpen (size n : Nat) (s : CameraPort) :
    (afterCloud arrivals size n s).isOpen = s.isOpen := by
  unfold afterCloud
  split <;> rfl

theorem pointCloudOctets_stopped (stopped : FlagDown w) (n : Nat) :
    ∃ receiveBuf log, Ends (fun fuel => pointCloudOctets (deviceEnvironment arrivals host) fuel n) w
      (.ok (), { w with env := afterCloud arrivals w.receiveBuf.length n w.env, receiveBuf, log }) := by
  unfold afterCloud
  split
  · next missing =>
    obtain ⟨log, reads⟩ := read_stopped arrivals host stopped (w.receiveBuf.length - n)
    refine ⟨overwrite w.receiveBuf n (w.env.taken arrivals (w.receiveBuf.length - n)), log,
      (Ends.Loop.done (.const ?_)).ends⟩
    unfold pointCloudRound
    have still : { w with
        env := w.env.afterRead arrivals (w.receiveBuf.length - n)
        receiveBuf := overwrite w.receiveBuf n (w.env.taken arrivals (w.receiveBuf.length - n))
        log }.running = false := stopped.down
    rw [bind_ok (get_apply w), if_pos missing, bind_ok reads, bind_ok (modify_apply _ _),
      bind_ok (isRunning_down still)]
    rfl
  · next enough =>
    refine ⟨w.receiveBuf, w.log, (Ends.Loop.done (.const ?_)).ends⟩
    unfold pointCloudRound
    rw [bind_ok (get_apply w), if_neg enough]
    rfl

end Reads

end AsDt1.Source
