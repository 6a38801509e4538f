import AsDt1.Source.SerialReader

/-!
# The serial stream of a CDC camera

Frames as a camera sends them, and a port that delivers a stream of octets: lines
whole, everything else in pieces of any size. Nothing is said about a frame but
what the driver's reads need to find its parts.
-/
namespace AsDt1.Source
open AsDt1.Lib Routine

/-! ## The port -/

/-- What has not been read yet, and how often the port and the host clock were asked. -/
structure StreamState where
  rest : Octets
  reads : Nat
  clocks : Nat

/-- `serial::Serial::readline` with its default size limit. -/
def nextLine (rest : Octets) : Octets :=
  (rest.takeWhile (· ≠ 0x0A) ++ (rest.dropWhile (· ≠ 0x0A)).take 1).take 65536

/-- The `k`-th read is cut after `chunks k` octets, the `k`-th time asked for is
`times k`. `stop()` is not called and the callbacks return. -/
def streamEnvironment (chunks : Nat → Nat) (times : Nat → BitVec 64) : Environment StreamState where
  answer
    | .readline, s => (.ok (nextLine s.rest), { s with rest := s.rest.drop (nextLine s.rest).length })
    | .read size, s =>
      let taken := min size (chunks s.reads)
      (.ok (s.rest.take taken), { s with rest := s.rest.drop taken, reads := s.reads + 1 })
    | .findPort, s => (.ok [], s)
    | .available, s => (.ok s.rest.length, s)
    | .openPort _, s | .write _, s | .flush, s | .flushInput, s | .close, s => (.ok (), s)
    | .connectCb _ _, s | .pointCloudCb _ _, s | .imuCb _, s => (.ok (), s)
  stops s := (false, s)
  now s := (times s.clocks, { s with clocks := s.clocks + 1 })
  syncMode s := (.none, s)
  frameRateHz s := (.initial, s)
  read_size := by
    intro size s t data answered
    obtain ⟨rfl⟩ : s.rest.take (min size (chunks s.reads)) = data := by
      have same := congrArg Prod.fst answered
      exact Except.ok.inj same
    rw [List.length_take]
    omega

/-! ## The parts of a frame -/

/-- A line of text, without its end. -/
structure TextLine where
  body : Octets
  one_line : 0x0A ∉ body
  short : body.length + 1 < 65536

def TextLine.octets (line : TextLine) : Octets := line.body ++ [0x0A]

/-- A line that starts `tm=<number>`. -/
structure StampLine where
  digits : Octets
  text : Octets
  number : digits ≠ [] ∧ ∀ c ∈ digits, isDigit c = true
  number_ends : ∀ c ∈ text.head?, isDigit c = false
  bound : decimal digits < 2 ^ 44
  one_line : 0x0A ∉ text
  short : (ascii "tm=" ++ digits ++ text).length + 1 < 65536

theorem StampLine.no_newline (line : StampLine) :
    (0x0A : BitVec 8) ∉ ascii "tm=" ++ line.digits ++ line.text := by
  intro listed
  rcases List.mem_append.mp listed with front | text
  · rcases List.mem_append.mp front with mark | digit
    · exact absurd mark (by decide)
    · exact absurd (line.number.2 _ digit) (by decide)
  · exact line.one_line text

def StampLine.toTextLine (line : StampLine) : TextLine where
  body := ascii "tm=" ++ line.digits ++ line.text
  one_line := line.no_newline
  short := line.short

def StampLine.octets (line : StampLine) : Octets := line.toTextLine.octets

/-- The device's clock in milliseconds. -/
def StampLine.stamp (line : StampLine) : Nat := decimal line.digits

structure CdcFrame (mode : ModeInfo) where
  start : StampLine
  cloudMark : TextLine
  cloud_marked : ascii "BEGIN MP" <:+: cloudMark.octets
  payload : Octets
  payload_size : payload.length = mode.payloadSize
  beforeImu : List TextLine
  before_imu : ∀ line ∈ beforeImu, ¬ ascii "BEGIN IMU" <:+: line.octets
  imuMark : TextLine
  imu_marked : ascii "BEGIN IMU" <:+: imuMark.octets
  imuRecords : List Octets
  records_size : ∀ record ∈ imuRecords, record.length = 16
  not_end : ∀ record ∈ imuRecords, record.take 3 ≠ ascii "END"
  beforeStamp : List TextLine
  before_stamp : ∀ line ∈ beforeStamp, ¬ ascii "tm=" <:+: line.octets
  finish : StampLine

def linesOctets (lines : List TextLine) : Octets := lines.flatMap TextLine.octets

variable {mode : ModeInfo}

def CdcFrame.octets (frame : CdcFrame mode) : Octets :=
  frame.start.octets ++ (frame.cloudMark.octets ++ (frame.payload ++
    (linesOctets frame.beforeImu ++ (frame.imuMark.octets ++ (frame.imuRecords.flatten ++
      (ascii "END" ++ (linesOctets frame.beforeStamp ++ frame.finish.octets)))))))

def streamOctets (frames : List (CdcFrame mode)) (tail : Octets) : Octets :=
  frames.flatMap CdcFrame.octets ++ tail

/-- `read_timestamp() * 1'000'000LL` -/
def StampLine.nanoseconds (line : StampLine) : BitVec 64 := BitVec.ofNat 64 line.stamp * 1000000

/-- The product does not overflow. -/
theorem StampLine.nanoseconds_toNat (line : StampLine) : line.nanoseconds.toNat = line.stamp * 1000000 := by
  have bound : line.stamp < 2 ^ 44 := line.bound
  have million : (1000000 : BitVec 64).toNat = 1000000 := by decide
  unfold StampLine.nanoseconds
  rw [BitVec.toNat_mul, BitVec.toNat_ofNat, million, Nat.mod_eq_of_lt (a := line.stamp) (by omega),
    Nat.mod_eq_of_lt (by omega)]

end AsDt1.Source
