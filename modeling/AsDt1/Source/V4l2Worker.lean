import AsDt1.Source.SerialWorker

/-!
# The video worker

Control flow of `dt1_device_hist::run_v4l2` (dt1_device_hist.cpp:111-191) with
`v4l2_stream_on` (271-365), the capability probes of `find_media_by_serial`
(512-524) and the publication at the end of `unpack_hist_frame` (264-268). The
worker alone writes `_fd` and `_buffers` while it runs; `stop_impl` touches them
after joining it.
-/
namespace AsDt1.Source

/-- `mapped_buffer::start`: null, `MAP_FAILED`, or a mapping. -/
inductive BufferStart where
  | null | failed | mapped (mapping : Nat)
  deriving DecidableEq, Repr

inductive V4l2Pc where
  | openLoop         -- 113: while (_running)
  | searching        -- 115: open_video_device_by_serial
  | probing (descriptor : Nat)  -- 512-523: capability probe of a node
  | openedCheck      -- 125: if (!_running) return
  | streamOn         -- 273-316: up to VIDIOC_REQBUFS
  | mapping (i n : Nat)  -- 321-341: buffer i of n
  | queueing         -- 343-362: VIDIOC_QBUF, VIDIOC_STREAMON
  | streamFailed     -- 131: _running = false
  | captureLoop      -- 135: while (_running)
  | capture          -- 137-181: select, VIDIOC_DQBUF, unpacking
  | cloudCheck       -- 264: if (_running && ...)
  | offsetCheck      -- 264: ... && _clock_offset > 0
  | stamp            -- 267: second read of _clock_offset
  | cloudCall (offset : BitVec 64) (offsetFrom : Option Nat)  -- 267: _point_cloud_cb(...)
  | requeue          -- 183: VIDIOC_QBUF
  | lower            -- 190: _running = false
  deriving DecidableEq, Repr

inductive V4l2Outcome where
  | proceed
  | refuse           -- no device, failed ioctl, select error or timeout
  | probe            -- find_media_by_serial opens a video node to query it
  | buffers (n : Nat)  -- VIDIOC_REQBUFS granted n buffers
  | mapFailed        -- mmap returned MAP_FAILED
  | again            -- EAGAIN, or a buffer flagged with an error and requeued
  | wrongSize        -- bytesused differs from the mode's frame size
  | nothing          -- no point cloud callback installed
  | throwing
  deriving DecidableEq, Repr

inductive V4l2Move where
  | goto (pc : V4l2Pc)
  | probeOpen
  | probeClose (descriptor : Nat)
  | openVideo
  | openFailed
  | resetBuffers (n : Nat)
  | mapBuffer (i n : Nat)
  | mapFailed (i : Nat)
  | lower            -- 131, on to the capture loop
  | leave            -- return without touching the flag
  | lowerAndReturn
  | terminate        -- an exception leaves the thread function
  deriving DecidableEq, Repr

/-- One step of the video worker, which reads the flag, whether `_fd` is a
descriptor (`opened`) and the clock offset. On `_fd = -1` every ioctl and the
`select` fail. -/
def v4l2Move (running opened : Bool) (offset : BitVec 64) (offsetFrom : Option Nat) (pc : V4l2Pc)
    (o : V4l2Outcome) : Option V4l2Move :=
  match pc with
  | .openLoop =>
    match o with
    | .proceed => some (.goto (if running then .searching else .openedCheck))
    | _ => none
  | .searching =>
    match o with
    | .probe => some .probeOpen
    | .proceed => some .openVideo
    | .refuse => some .openFailed
    | .throwing => some .terminate
    | _ => none
  | .probing descriptor =>
    match o with
    | .proceed => some (.probeClose descriptor)
    | _ => none
  | .openedCheck =>
    match o with
    | .proceed => some (if running then .goto .streamOn else .leave)
    | _ => none
  | .streamOn =>
    match o with
    | .buffers n => if opened then some (.resetBuffers n) else none
    | .refuse => some (.goto .streamFailed)
    | _ => none
  | .mapping i n =>
    match o with
    | .proceed => some (if i < n then .mapBuffer i n else .goto .queueing)
    | .refuse => if i < n then some (.goto .streamFailed) else none
    | .mapFailed => if i < n then some (.mapFailed i) else none
    | _ => none
  | .queueing =>
    match o with
    | .proceed => some (.goto .captureLoop)
    | .refuse => some (.goto .streamFailed)
    | _ => none
  | .streamFailed =>
    match o with
    | .proceed => some .lower
    | _ => none
  | .captureLoop =>
    match o with
    | .proceed => some (.goto (if running then .capture else .lower))
    | _ => none
  | .capture =>
    match o with
    | .proceed => if opened then some (.goto .cloudCheck) else none
    | .wrongSize => if opened then some (.goto .requeue) else none
    | .again => if opened then some (.goto .captureLoop) else none
    | .refuse => some (.goto .lower)
    | _ => none
  | .cloudCheck =>
    match o with
    | .proceed => some (.goto (if running then .offsetCheck else .requeue))
    | .nothing => some (.goto .requeue)
    | _ => none
  | .offsetCheck =>
    match o with
    | .proceed => some (.goto (if offset = 0 then .requeue else .stamp))
    | _ => none
  | .stamp =>
    match o with
    | .proceed => some (.goto (.cloudCall offset offsetFrom))
    | _ => none
  | .cloudCall _ _ =>
    match o with
    | .proceed => some (.goto .requeue)
    | .throwing => some .terminate
    | _ => none
  | .requeue =>
    match o with
    | .proceed => some (.goto .captureLoop)
    | .refuse => some (.goto .lower)
    | _ => none
  | .lower =>
    match o with
    | .proceed => some .lowerAndReturn
    | _ => none

/-- The step at `pc` invokes the point cloud callback. -/
def V4l2Pc.callsBack : V4l2Pc → Bool
  | .cloudCall _ _ => true
  | _ => false

/-- The worker has passed its test of `_running` on the way to the callback. -/
def V4l2Pc.pastCheck : V4l2Pc → Bool
  | .offsetCheck | .stamp | .cloudCall _ _ => true
  | _ => false

def v4l2Access : V4l2Pc → V4l2Outcome → Option FlagAccess
  | .openLoop, _ | .captureLoop, _ => some .loopTest
  | .openedCheck, _ | .cloudCheck, _ => some .branchTest
  | .streamFailed, _ | .lower, _ => some .lower
  | _, _ => none

/-- The step opens a video node, for a probe or for streaming. -/
def V4l2Move.opensVideo : V4l2Move → Bool
  | .probeOpen | .openVideo => true
  | _ => false

end AsDt1.Source
