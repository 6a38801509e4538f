import Mathlib

/-!
# Finding the camera

`find_port` (dt1_device.cpp:33-79) over the ports of `serial::list_ports`, and
`list_media_devices`, `find_media_by_serial`, `open_video_device_by_serial`
(dt1_device_hist.cpp:400-584) over the media devices of the host. Both searches
take the first entry that passes their own test. What the operating system
answers about an entry is part of the entry. The names of media entities are
left out: nothing reads them.
-/
namespace AsDt1.Source

abbrev Text := List Char

/-! ## Serial ports -/

/-- `serial::PortInfo`, less the hardware id, which is only logged. -/
structure PortInfo where
  port : Text
  description : Text
  deriving DecidableEq, Repr

/-- list_ports_linux.cc:128-145; the three lines come from sysfs. -/
def usbSysfsFriendlyName (manufacturer product serial : Text) : Text :=
  if manufacturer.isEmpty && product.isEmpty && serial.isEmpty then []
  else manufacturer ++ ' ' :: product ++ ' ' :: serial

def sony : Text := "Sony".toList

def asDt1 : Text := "AS-DT1".toList

/-- `std::string::substr`: a position behind the end throws. -/
def substr (text : Text) (pos len : Nat) : Except String Text :=
  if pos > text.length then .error "basic_string::substr" else .ok ((text.drop pos).take len)

/-- `description.starts_with("Sony") && description.find("AS-DT1") != npos` -/
def isAsDt1Port (info : PortInfo) : Bool :=
  sony.isPrefixOf info.description && info.description.tails.any asDt1.isPrefixOf

/-- The test of one port; the second comparison is made only if the first fails. -/
def portMatches (serialNumber : Text) (info : PortInfo) : Except String Bool :=
  if !isAsDt1Port info then .ok false
  else if serialNumber.isEmpty then .ok true
  else do
    let len := max 7 serialNumber.length
    if (← substr info.description 5 len) = serialNumber then return true
    return (← substr info.description 12 len) = serialNumber

/-- The name of the first port that passes, empty when none does. -/
def findPort (serialNumber : Text) : List PortInfo → Except String Text
  | [] => .ok []
  | info :: rest => do
    if ← portMatches serialNumber info then return info.port
    findPort serialNumber rest

/-! ## Media devices -/

structure MediaDeviceInfo where
  model : Text
  serial : Text
  deriving DecidableEq, Repr

structure MediaInterface where
  intfType : BitVec 32
  major : Nat
  minor : Nat
  deriving DecidableEq, Repr

/-- A media node: whether it opens, what MEDIA_IOC_DEVICE_INFO answers, and what
the two MEDIA_IOC_G_TOPOLOGY calls answer when both succeed. -/
structure MediaDevice where
  path : Text
  opens : Bool
  info : Option MediaDeviceInfo
  topology : Option (List MediaInterface)
  deriving DecidableEq, Repr

/-- What the host answers about character devices and video nodes. -/
structure Host where
  devnodeFromMajorMinor : Nat → Nat → Option Text
  /-- `capabilities` and `device_caps` of VIDIOC_QUERYCAP. -/
  capability : Text → Option (BitVec 32 × BitVec 32)
  opens : Text → Bool

structure VideoNodeInfo where
  devnode : Text
  isVideoCapture : Bool
  isMetadataCapture : Bool
  deriving DecidableEq, Repr

structure MediaMatchResult where
  mediaDev : Text
  mdi : MediaDeviceInfo
  videos : List VideoNodeInfo
  deriving DecidableEq, Repr

def fileName (path : Text) : Text := (path.reverse.takeWhile (· ≠ '/')).reverse

/-- The entries of /dev named media*, sorted by path. -/
def listMediaDevices (entries : List MediaDevice) : List MediaDevice :=
  (entries.filter fun d => "media".toList.isPrefixOf (fileName d.path)).insertionSort
    fun a b => a.path ≤ b.path

def mediaIntfTV4lBase : BitVec 32 := 0x200
def v4l2CapVideoCapture : BitVec 32 := 0x1
def v4l2CapVideoCaptureMplane : BitVec 32 := 0x1000
def v4l2CapMetaCapture : BitVec 32 := 0x800000

/-- One interface of the topology, with the probe of its node. -/
def videoNode (host : Host) (intf : MediaInterface) : Option VideoNodeInfo :=
  if intf.intfType &&& mediaIntfTV4lBase ≠ mediaIntfTV4lBase then none
  else
    (host.devnodeFromMajorMinor intf.major intf.minor).bind fun devnode =>
      if !"video".toList.isPrefixOf (fileName devnode) then none
      else match host.capability devnode with
        | none => some ⟨devnode, false, false⟩
        | some (capabilities, deviceCaps) =>
          let dcaps := if deviceCaps ≠ 0 then deviceCaps else capabilities
          some ⟨devnode,
            dcaps &&& v4l2CapVideoCapture ≠ 0 || dcaps &&& v4l2CapVideoCaptureMplane ≠ 0,
            dcaps &&& v4l2CapMetaCapture ≠ 0⟩

/-- The tests in front of the topology: the device opens, answers, and is of the
wanted serial or, when none is wanted, of the model. -/
def mediaMatches (wantedSerial : Text) (d : MediaDevice) : Option MediaDeviceInfo :=
  if !d.opens then none
  else match d.info with
    | none => none
    | some mdi =>
      if wantedSerial.isEmpty && mdi.model ≠ asDt1 then none
      else if !wantedSerial.isEmpty && wantedSerial ≠ mdi.serial then none
      else some mdi

/-- A device that passes and then fails to give its topology ends the search. -/
def findMediaBySerial (host : Host) (wantedSerial : Text) : List MediaDevice →
    Option MediaMatchResult
  | [] => none
  | d :: rest =>
    match mediaMatches wantedSerial d with
    | none => findMediaBySerial host wantedSerial rest
    | some mdi => d.topology.map fun interfaces =>
        ⟨d.path, mdi, interfaces.filterMap (videoNode host)⟩

/-- An open video device: the media device it belongs to and its node. -/
structure OpenedVideo where
  mediaDev : Text
  devnode : Text
  deriving DecidableEq, Repr

/-- A capture node that is no metadata node, else any capture node. -/
def openVideoDeviceBySerial (host : Host) (serial : Text) (entries : List MediaDevice) :
    Option OpenedVideo :=
  (findMediaBySerial host serial (listMediaDevices entries)).bind fun found =>
    let capture := found.videos.filter fun v => v.isVideoCapture && !v.isMetadataCapture
    let fallback := found.videos.filter fun v => v.isVideoCapture
    ((capture ++ fallback).find? fun v => host.opens v.devnode).map fun v =>
      ⟨found.mediaDev, v.devnode⟩

end AsDt1.Source
