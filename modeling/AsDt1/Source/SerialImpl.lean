import AsDt1.Lib.Octets
import AsDt1.Lib.Routine

/-!
# The serial library's port

`Serial::SerialImpl` (unix.cc:59-178, 414-713, 810-825) and the reads and writes of
`Serial` (serial.cc:117-209) on the system calls they make. The system is any state
machine whose clock has moved on when it is read again. `received`, `sent`,
`readings`, `opened`, `closed` and `abandoned` are history variables. Locks are left out: one
thread at a time uses the port.
-/
namespace AsDt1.Source
open AsDt1.Lib Routine

/-! ## The system -/

inductive Errno where
  /-- EINTR -/
  | interrupted
  /-- ENFILE, EMFILE -/
  | tooManyFiles
  | code (errno : Nat)
  deriving DecidableEq, Repr

/-- `pselect` on the port's descriptor, with `FD_ISSET` behind it. -/
inductive Selected where
  | failed (errno : Errno)
  | timeout
  | ready (isSet : Bool)
  deriving DecidableEq, Repr

inductive SystemCall : Type → Type
  /-- CLOCK_MONOTONIC in nanoseconds -/
  | clock : SystemCall Nat
  /-- `none` is -1 -/
  | read (size : Nat) : SystemCall (Option Octets)
  | write (data : Octets) : SystemCall (Except Errno Nat)
  | selectRead (millis : BitVec 32) : SystemCall Selected
  | selectWrite (millis : BitVec 32) : SystemCall Selected
  /-- TIOCINQ -/
  | inputQueue : SystemCall (Except Errno Nat)
  /-- `pselect` on no descriptor -/
  | wait (nanoseconds : Nat) : SystemCall Unit
  /-- `::open`, repeated while it is interrupted -/
  | openDevice (port : Octets) : SystemCall (Except Errno Nat)
  | closeDevice (fd : Nat) : SystemCall (Except Errno Unit)
  /-- Whether `tcgetattr` succeeds. -/
  | tcgetattr : SystemCall Bool
  | tcsetattr : SystemCall Unit
  /-- TIOCGSERIAL -/
  | getSerial : SystemCall (Except Errno Unit)
  /-- TIOCSSERIAL -/
  | setSerial : SystemCall (Except Errno Unit)
  | tcdrain : SystemCall Unit
  /-- `tcflush` with TCIFLUSH -/
  | tcflush : SystemCall Unit

structure System (σ : Type) where
  answer : {α : Type} → SystemCall α → σ → α × σ
  clock : σ → Nat
  clock_read : ∀ s, (answer .clock s).1 = clock s
  clock_later : ∀ s, clock s < clock (answer .clock s).2
  clock_onward : ∀ {α : Type} (c : SystemCall α) s, clock s ≤ clock (answer c s).2
  read_size : ∀ size s data, (answer (.read size) s).1 = some data → data.length ≤ size
  write_size : ∀ data s n, (answer (.write data) s).1 = .ok n → n ≤ data.length

/-- `serial::Timeout` -/
structure Timeout where
  interByteTimeout : BitVec 32 := 0
  readTimeoutConstant : BitVec 32 := 0
  readTimeoutMultiplier : BitVec 32 := 0
  writeTimeoutConstant : BitVec 32 := 0
  writeTimeoutMultiplier : BitVec 32 := 0
  deriving DecidableEq, Repr

def Timeout.max : BitVec 32 := BitVec.allOnes 32

def Timeout.simpleTimeout (timeout : BitVec 32) : Timeout := ⟨Timeout.max, timeout, 0, timeout, 0⟩

/-- Members that no transfer changes. -/
structure PortSettings where
  timeout : Timeout
  /-- `byte_time_ns_` -/
  byteTimeNs : Nat
  /-- No constant of the platform is the baud rate. -/
  customBaud : Bool
  deriving DecidableEq, Repr

structure Handle where
  /-- `fd_`; `none` is -1 -/
  fd : Option Nat := none
  isOpen : Bool := false
  /-- How often `::open` has given a descriptor, and `::close` has taken one back. -/
  opened : Nat := 0
  closed : Nat := 0
  /-- How many descriptors no port knows any more that were not closed. -/
  abandoned : Nat := 0
  deriving DecidableEq, Repr

/-- `fd_` is overwritten. -/
def Handle.forget (h : Handle) : Handle :=
  { h with fd := none, abandoned := h.abandoned + (if h.fd.isSome then 1 else 0) }

structure Port (σ : Type) where
  system : σ
  handle : Handle
  /-- All octets that `::read` has delivered. -/
  received : Octets
  /-- All octets that `::write` has accepted. -/
  sent : Octets
  /-- All readings of the clock. -/
  readings : List Nat

inductive PortFailure where
  | notOpened (description : String)
  | invalidArgument (what : String)
  | ioErrno (errno : Errno)
  | io (description : String)
  | serial (description : String)
  /-- What the text of unix.cc:677-688 is made of; `none` is an `errno` left from an earlier call. -/
  | writeStalled (errno : Option Errno) (bytesWritten length : Nat)
  /-- A write behind the end of a buffer: undefined. -/
  | overrun (size : Nat)
  /-- Thrown in a destructor: the process ends. -/
  | terminated (errno : Errno)
  deriving DecidableEq, Repr

/-- An exception that a caller can catch. -/
def PortFailure.isException : PortFailure → Bool
  | .overrun _ | .terminated _ => false
  | _ => true

abbrev PortRoutine (σ α : Type) := Routine (Port σ) PortFailure α

namespace SerialImpl

variable {σ : Type} (sys : System σ) (settings : PortSettings)

def call {α : Type} (c : SystemCall α) : PortRoutine σ α := fun p =>
  (.ok (sys.answer c p.system).1, { p with system := (sys.answer c p.system).2 })

/-- `timespec_now()` -/
def timespecNow : PortRoutine σ Nat := do
  let now ← call sys .clock
  modify fun p => { p with readings := p.readings ++ [now] }
  return now

def sysRead (size : Nat) : PortRoutine σ (Option Octets) := do
  let data ← call sys (.read size)
  modify fun p => { p with received := p.received ++ data.getD [] }
  return data

def accepted (data : Octets) : Except Errno Nat → Octets
  | .ok n => data.take n
  | .error _ => []

def sysWrite (data : Octets) : PortRoutine σ (Except Errno Nat) := do
  let n ← call sys (.write data)
  modify fun p => { p with sent := p.sent ++ accepted data n }
  return n

def setHandle (f : Handle → Handle) : PortRoutine σ Unit := modify fun p => { p with handle := f p.handle }

/-! ## Opening and closing -/

/-- A call that throws with the error number of the system. -/
def callOrThrow {α : Type} (c : SystemCall (Except Errno α)) : PortRoutine σ α := do
  let answer ← call sys c
  match answer with
  | .ok a => return a
  | .error errno => throw (.ioErrno errno)

/-- Settings that no failure depends on are left out. -/
def reconfigurePort : PortRoutine σ Unit := do
  let p ← get
  if p.handle.fd = none then throw (.io "Invalid file descriptor, is the serial port open?")
  else
    let attributes ← call sys .tcgetattr
    if !attributes then throw (.io "::tcgetattr")
    else
      call sys .tcsetattr
      if settings.customBaud then
        callOrThrow sys .getSerial
        callOrThrow sys .setSerial

/-- What `open` makes of the result of `::open`. -/
def takeDescriptor : Except Errno Nat → PortRoutine σ Unit
  | .ok fd => do
    setHandle fun h => { h with fd := some fd, opened := h.opened + 1 }
    reconfigurePort sys settings
    setHandle fun h => { h with isOpen := true }
  | .error .tooManyFiles => throw (.io "Too many file handles open.")
  | .error errno => throw (.ioErrno errno)

def open_ (port : Octets) : PortRoutine σ Unit := do
  let p ← get
  if port = [] then throw (.invalidArgument "Empty port is invalid.")
  else if p.handle.isOpen then throw (.serial "Serial port already open.")
  else
    let fd ← call sys (.openDevice port)
    setHandle Handle.forget
    takeDescriptor sys settings fd

def closeDescriptor : Option Nat → PortRoutine σ Unit
  | some fd => do
    callOrThrow sys (.closeDevice fd)
    setHandle fun h => { h with fd := none, closed := h.closed + 1 }
  | none => return ()

def close : PortRoutine σ Unit := do
  let p ← get
  if p.handle.isOpen then
    closeDescriptor sys p.handle.fd
    setHandle fun h => { h with isOpen := false }

/-- The destructor of the port with this handle: a descriptor that `open` could not
configure is not closed. -/
def destroy (old : Handle) : PortRoutine σ Unit :=
  match old.fd with
  | none => return ()
  | some fd =>
    if old.isOpen then do
      let answer ← call sys (.closeDevice fd)
      match answer with
      | .ok () => setHandle fun h => { h with closed := h.closed + 1 }
      | .error errno => do
        setHandle fun h => { h with abandoned := h.abandoned + 1 }
        throw (.terminated errno)
    else setHandle fun h => { h with abandoned := h.abandoned + 1 }

/-- The constructor opens no empty port. What it has opened when it throws stays open. -/
def initial (port : Octets) : PortRoutine σ Unit := if port = [] then return () else open_ sys settings port

/-- A new port takes the place of another one: `_serial = std::make_unique<...>(port, ...)`.
If the new one cannot be opened the old one stays. -/
def construct (port : Octets) : PortRoutine σ Unit := do
  let old ← get
  setHandle fun h => { h with fd := none, isOpen := false }
  tryCatch (initial sys settings port) fun failure => do
    setHandle fun h => { h.forget with fd := old.handle.fd, isOpen := old.handle.isOpen }
    throw failure
  destroy sys old.handle

def flush : PortRoutine σ Unit := do
  let p ← get
  if !p.handle.isOpen then throw (.notOpened "Serial::flush") else call sys .tcdrain

def flushInput : PortRoutine σ Unit := do
  let p ← get
  if !p.handle.isOpen then throw (.notOpened "Serial::flushInput") else call sys .tcflush

/-! ## Timers -/

/-- The constructor of `MillisecondTimer`; the result is `expiry`. -/
def millisecondTimer (millis : BitVec 32) : PortRoutine σ Nat := do
  let now ← timespecNow sys
  return now + millis.toNat * 1000000

/-- `remaining()`: the sum of seconds and nanoseconds is truncated. -/
def remaining (expiry : Nat) : PortRoutine σ Int := do
  let now ← timespecNow sys
  return Int.tdiv (expiry - now) 1000000

/-- A `long` that the timer takes as `uint32_t`. -/
def totalTimeoutMs (constant multiplier : BitVec 32) (size : Nat) : BitVec 32 :=
  BitVec.ofNat 32 (constant.toNat + multiplier.toNat * size)

def readTimeoutMs (size : Nat) : BitVec 32 :=
  totalTimeoutMs settings.timeout.readTimeoutConstant settings.timeout.readTimeoutMultiplier size

def writeTimeoutMs (length : Nat) : BitVec 32 :=
  totalTimeoutMs settings.timeout.writeTimeoutConstant settings.timeout.writeTimeoutMultiplier length

/-- A loop that reads the clock in every round passes its deadline within so many rounds. -/
def roundsWithin (millis : BitVec 32) : Nat := millis.toNat * 1000000 + 3

/-! ## Reading -/

def available : PortRoutine σ Nat := do
  let p ← get
  if !p.handle.isOpen then return 0 else callOrThrow sys .inputQueue

def isReadable : Selected → PortRoutine σ Bool
  | .failed .interrupted => return false
  | .failed errno => throw (.ioErrno errno)
  | .timeout => return false
  | .ready true => return true
  | .ready false =>
    throw (.io "select reports ready to read, but our fd isn't in the list, this shouldn't happen!")

def waitReadable (timeout : BitVec 32) : PortRoutine σ Bool := do
  let selected ← call sys (.selectRead timeout)
  isReadable selected

def waitByteTimes (count : Nat) : PortRoutine σ Unit := call sys (.wait (settings.byteTimeNs * count))

/-- The wait for a fixed number of octets: 574-579. -/
def awaitRest (size bytesRead : Nat) : PortRoutine σ Unit := do
  if 1 < size ∧ settings.timeout.interByteTimeout = Timeout.max then
    let bytesAvailable ← available sys
    if bytesAvailable + bytesRead < size then
      waitByteTimes sys settings (size - (bytesAvailable + bytesRead))

/-- What the loop makes of the result of `::read`: 586-608. -/
def takeOctets (size : Nat) (buf : Octets) : Option Octets → PortRoutine σ (Octets ⊕ Octets)
  | none | some [] =>
    throw (.serial "device reports readiness to read but returned no data (device disconnected?)")
  | some data =>
    let bytesRead := (buf ++ data).length
    if bytesRead = size then return .inr (buf ++ data)
    else if bytesRead < size then return .inl (buf ++ data)
    else throw (.serial
      "read over read, too many bytes where read, this shouldn't happen, might be a logical error!")

/-- `std::min(static_cast<uint32_t> (timeout_remaining_ms), timeout_.inter_byte_timeout)` -/
def selectTimeout (remainingMs : Int) : BitVec 32 :=
  if settings.timeout.interByteTimeout < BitVec.ofInt 32 remainingMs then settings.timeout.interByteTimeout
  else BitVec.ofInt 32 remainingMs

/-- One pass of `while (bytes_read < size)`; `buf` is the part of the buffer that is filled. -/
def readRound (expiry size : Nat) (buf : Octets) : PortRoutine σ (Octets ⊕ Octets) := do
  if buf.length < size then
    let remainingMs ← remaining sys expiry
    if remainingMs ≤ 0 then return .inr buf
    else
      let readable ← waitReadable sys (selectTimeout settings remainingMs)
      if readable then
        awaitRest sys settings size buf.length
        let data ← sysRead sys (size - buf.length)
        takeOctets size buf data
      else return .inl buf
  else return .inr buf

def read (size : Nat) : PortRoutine σ Octets := do
  let p ← get
  if !p.handle.isOpen then throw (.notOpened "Serial::read")
  else
    let expiry ← millisecondTimer sys (readTimeoutMs settings size)
    let available ← sysRead sys size
    loop (readRound sys settings expiry size) (roundsWithin (readTimeoutMs settings size)) (available.getD [])

/-! ## Writing -/

def bytesWritten (data : Octets) (written n : Nat) : PortRoutine σ ((Nat × Bool) ⊕ Nat) :=
  if written + n = data.length then return .inr (written + n)
  else if written + n < data.length then return .inl (written + n, false)
  else throw (.serial
    "write over wrote, too many bytes where written, this shouldn't happen, might be a logical error!")

/-- What the loop makes of the result of `::write`: 671-705. -/
def giveOctets (data : Octets) (written : Nat) : Except Errno Nat → PortRoutine σ ((Nat × Bool) ⊕ Nat)
  | .error .interrupted => return .inl (written, false)
  | .error errno => throw (.writeStalled (some errno) written data.length)
  | .ok 0 => throw (.writeStalled none written data.length)
  | .ok n => bytesWritten data written n

/-- What the loop makes of `select`'s response: 649-709. -/
def writeSelected (data : Octets) (written : Nat) : Selected → PortRoutine σ ((Nat × Bool) ⊕ Nat)
  | .failed .interrupted => return .inl (written, false)
  | .failed errno => throw (.ioErrno errno)
  | .timeout => return .inr written
  | .ready true => do
    let n ← sysWrite sys (data.drop written)
    giveOctets data written n
  | .ready false =>
    throw (.io "select reports ready to write, but our fd isn't in the list, this shouldn't happen!")

/-- One pass of `while (bytes_written < length)`, with `first_iteration`. -/
def writeRound (expiry : Nat) (data : Octets) :
    (carried : Nat × Bool) → PortRoutine σ ((Nat × Bool) ⊕ Nat) := fun (written, firstIteration) => do
  if written < data.length then
    let remainingMs ← remaining sys expiry
    if firstIteration = false ∧ remainingMs ≤ 0 then return .inr written
    else
      let selected ← call sys (.selectWrite (BitVec.ofInt 32 remainingMs))
      writeSelected sys data written selected
  else return .inr written

def write (data : Octets) : PortRoutine σ Nat := do
  let p ← get
  if !p.handle.isOpen then throw (.notOpened "Serial::write")
  else
    let expiry ← millisecondTimer sys (writeTimeoutMs settings data.length)
    loop (writeRound sys expiry data) (roundsWithin (writeTimeoutMs settings data.length)) (0, true)

/-! ## Lines -/

/-- One pass of the loop in `Serial::readline`; `size` is the size of the buffer. -/
def readlineRound (size : Nat) (eol buffer : Octets) : PortRoutine σ (Octets ⊕ Octets) := do
  let data ← read sys settings 1
  if size < buffer.length + data.length then throw (.overrun size)
  else
    let buffer := buffer ++ data
    if data.length = 0 then return .inr buffer
    else if buffer.length < eol.length then return .inl buffer
    else if buffer.drop (buffer.length - eol.length) = eol then return .inr buffer
    else if buffer.length = size then return .inr buffer
    else return .inl buffer

/-- Every pass but the last fills one place of the buffer. -/
def readline (size : Nat) (eol : Octets) : PortRoutine σ Octets :=
  loop (readlineRound sys settings size eol) (size + 2) []

end SerialImpl
end AsDt1.Source
