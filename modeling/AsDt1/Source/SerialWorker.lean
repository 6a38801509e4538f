/-!
# The serial worker

Control flow of `dt1_device::run` (dt1_device.cpp:165-284) and of the two
`process_serial_data` it calls (dt1_device_hist.cpp:86-109,
dt1_device_cdc.cpp:83-113), as one program counter per test or write of
`_running`, per write of another shared member and per callback. What a port,
the camera or the host clock answer is the outcome of a step. The blocking reads
test `_running` once per line or record (`poll`); any C++ exception inside the
try block (`throwing`) ends at the shutdown code behind it.
-/
namespace AsDt1.Source

/-- The two device classes; `hist` also runs a video worker. -/
inductive Kind where
  | cdc | hist
  deriving DecidableEq, Repr

/-- `_serial`: a null pointer, or a port object that is closed or open. -/
inductive SerialPort where
  | null | closed | opened
  deriving DecidableEq, Repr

inductive SerialPc where
  | discover         -- 173: while (_running)
  | lookup           -- 175: find_port
  | connectLoop      -- 182: while (_running)
  | connecting       -- 184: connect(port)
  | connected        -- 188: if (!_running) break
  | handshake        -- 190-207: flstart, ver, flmode
  | setupCheck       -- 213: if (_running)
  | setup            -- 215-251: streaming setup, skipped frames
  | mainLoop         -- 257: while (_running)
  | frameStart       -- hist 90, cdc 90-91: if (!_running) return
  | frame            -- up to the end timestamp of the frame
  | offset (measured : Bool)  -- hist 97-99, cdc 97-99
  | unpack           -- hist 106, cdc 102-109
  | cloudCheck       -- cdc 111: if (_running && _point_cloud_cb)
  | cloudCall        -- cdc 111: _point_cloud_cb(...)
  | imuCheck         -- hist 108, cdc 112: if (_running && ...)
  | imuCall          -- hist 108, cdc 112: _imu_cb(...)
  | shutdownCheck    -- 271: if (!_running && _serial != nullptr)
  | shutdownAcks     -- 273-274
  | disconnect       -- 277-279: _connect_cb, _serial->close()
  | lower            -- 283: _running = false
  deriving DecidableEq, Repr

inductive SerialOutcome where
  | proceed
  | refuse           -- no port found, connect() failed, wrong mode and rebooted
  | halfOpen         -- connect(): the port was opened, then flush() threw
  | poll             -- another test of _running inside a blocking read
  | noStamp          -- read_timestamp() returned 0 without parsing a number
  | offset (value : BitVec 64)  -- receive_ts - end_ts
  | nothing          -- no callback installed, or no sample to deliver
  | throwing
  deriving DecidableEq, Repr

/-- Effect of one step on what the worker shares with the other threads. -/
inductive SerialMove where
  | goto (pc : SerialPc)
  | setPort (port : SerialPort) (pc : SerialPc)
  | storeOffset (value : BitVec 64) (measured : Bool) (pc : SerialPc)
  | lowerAndReturn
  | terminate        -- an exception leaves the thread function
  deriving DecidableEq, Repr

/-- One step of the serial worker, which reads the flag and the port. An
exception inside the try block (173-260) ends at the shutdown code behind it. -/
def serialMove (k : Kind) (running : Bool) (port : SerialPort) (pc : SerialPc)
    (o : SerialOutcome) : Option SerialMove :=
  match pc with
  | .discover =>
    match o with
    | .proceed => some (.goto (if running then .lookup else .setupCheck))
    | _ => none
  | .lookup =>
    match o with
    | .proceed => some (.goto .connectLoop)
    | .refuse => some (.goto .discover)
    | .throwing => some (.goto .shutdownCheck)
    | _ => none
  | .connectLoop =>
    match o with
    | .proceed => some (.goto (if running then .connecting else .connected))
    | _ => none
  | .connecting =>
    match o with
    | .proceed => some (.setPort .opened .connected)
    | .halfOpen => some (.setPort .opened .connectLoop)
    | .refuse => some (.goto .connectLoop)
    | _ => none
  | .connected =>
    match o with
    | .proceed => some (.goto (if running then .handshake else .setupCheck))
    | _ => none
  | .handshake =>
    match o with
    | .poll => some (.goto .handshake)
    | .proceed => some (.goto .setupCheck)
    | .refuse => some (.setPort .closed .discover)
    | .throwing => some (.goto .shutdownCheck)
    | _ => none
  | .setupCheck =>
    match o with
    | .proceed => some (.goto (if running then .setup else .mainLoop))
    | _ => none
  | .setup =>
    match o with
    | .poll => some (.goto .setup)
    | .proceed => some (.goto .mainLoop)
    | .throwing => some (.goto .shutdownCheck)
    | _ => none
  | .mainLoop =>
    match o with
    | .proceed => some (.goto (if running then .frameStart else .shutdownCheck))
    | _ => none
  | .frameStart =>
    match o with
    | .poll => if k = .cdc then some (.goto .frameStart) else none
    | .proceed => some (.goto (if running then .frame else .mainLoop))
    | .throwing => some (.goto .shutdownCheck)
    | _ => none
  | .frame =>
    match o with
    | .poll => some (.goto .frame)
    | .proceed => some (.goto (.offset true))
    | .noStamp => some (.goto (.offset false))
    | .throwing => some (.goto .shutdownCheck)
    | _ => none
  | .offset measured =>
    match o with
    | .offset value => some (.storeOffset value measured .unpack)
    | _ => none
  | .unpack =>
    match o with
    | .proceed => some (.goto (if k = .cdc then .cloudCheck else .imuCheck))
    | .throwing => some (.goto .shutdownCheck)
    | _ => none
  | .cloudCheck =>
    match o with
    | .proceed => some (.goto (if running then .cloudCall else .imuCheck))
    | .nothing => some (.goto .imuCheck)
    | _ => none
  | .cloudCall =>
    match o with
    | .proceed => some (.goto .imuCheck)
    | .throwing => some (.goto .shutdownCheck)
    | _ => none
  | .imuCheck =>
    match o with
    | .proceed => some (.goto (if running then .imuCall else .mainLoop))
    | .nothing => some (.goto .mainLoop)
    | _ => none
  | .imuCall =>
    match o with
    | .proceed => some (.goto .mainLoop)
    | .throwing => some (.goto .shutdownCheck)
    | _ => none
  | .shutdownCheck =>
    match o with
    | .proceed => some (.goto (if !running && port != .null then .shutdownAcks else .disconnect))
    | _ => none
  | .shutdownAcks =>
    match o with
    -- write() throws on a closed port, here outside the try block
    | .proceed => if port = .opened then some (.goto .disconnect) else none
    | .throwing => some .terminate
    | _ => none
  | .disconnect =>
    match o with
    | .proceed => some (.setPort (if port = .null then .null else .closed) .lower)
    | .throwing => some .terminate
    | _ => none
  | .lower =>
    match o with
    | .proceed => some .lowerAndReturn
    | _ => none

/-- Where a move sends the worker, if it goes on. -/
def SerialMove.next : SerialMove → Option SerialPc
  | .goto pc | .setPort _ pc | .storeOffset _ _ pc => some pc
  | .lowerAndReturn | .terminate => none

/-- The step at `pc` invokes a callback of the node. -/
def SerialPc.callsBack : SerialPc → Bool
  | .cloudCall | .imuCall => true
  | _ => false

/-- How a step touches the atomic flag. -/
inductive FlagAccess where
  | loopTest | branchTest | lower
  deriving DecidableEq, Repr

def serialAccess : SerialPc → SerialOutcome → Option FlagAccess
  | _, .throwing => none
  | .discover, _ | .connectLoop, _ | .mainLoop, _ => some .loopTest
  | _, .poll => some .loopTest
  | .connected, _ | .setupCheck, _ | .frameStart, _ | .cloudCheck, _ | .imuCheck, _
  | .shutdownCheck, _ => some .branchTest
  | .lower, _ => some .lower
  | _, _ => none

end AsDt1.Source
