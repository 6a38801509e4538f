import AsDt1.Source.Discovery

/-!
# Listing the serial ports

`serial::list_ports` on Linux (list_ports_linux.cc) over the files of the host. The
number that `usb_sysfs_friendly_name` reads from `devnum` is left out: nothing
uses it.
-/
namespace AsDt1.Source

/-- The files as the listing sees them. -/
structure Files where
  /-- The matches of a front followed by any characters, in order. -/
  glob : (front : Text) → List Text
  realpath : Text → Option Text
  pathExists : Text → Bool
  /-- What a file that can be read holds. -/
  content : Text → Option Text
  /-- Whether `malloc` or `realloc` gives so many octets. -/
  allocates : Nat → Bool
  glob_matches : ∀ front, ∀ path ∈ glob front, ∃ rest, path = front ++ rest ∧ '/' ∉ rest

/-! ## Paths and lines -/

/-- The place of the last slash. -/
def rfindSlash (path : Text) : Option Nat :=
  (path.reverse.findIdx? (· = '/')).map fun behind => path.length - 1 - behind

def basename (path : Text) : Text :=
  match rfindSlash path with
  | none => path
  | some pos => path.drop (pos + 1)

def dirname (path : Text) : Text :=
  match rfindSlash path with
  | none => path
  | some 0 => ['/']
  | some pos => path.take pos

/-- What `c_str()` shows to a reader that stops at the first zero. -/
def cString (text : Text) : Text := text.takeWhile (· ≠ '\x00')

namespace ListPorts

variable (files : Files)

def realpath (path : Text) : Text := (files.realpath path).getD []

/-- `getline` on a file that may not be there. -/
def readLine (file : Text) : Text := ((files.content file).getD []).takeWhile (· ≠ '\n')

/-! ## Formatting -/

/-- `vsnprintf` of a text in a buffer: the length of the whole text, which must be an `int`,
and what the buffer holds. -/
def vsnprintf (size : Nat) (text : Text) : Option (Nat × Text) :=
  if text.length < 2 ^ 31 then some (text.length, text.take (size - 1)) else none

/-- The loop of `format` with so many passes left. -/
def formatLoop (text : Text) : (passes size : Nat) → Text
  | 0, _ => []
  | passes + 1, size =>
    match vsnprintf size text with
    | none => []
    | some (length, buffer) =>
      if size ≤ length then if files.allocates (length + 1) then formatLoop text passes (length + 1) else []
      else buffer

def format (text : Text) : Text := if files.allocates 256 then formatLoop files text 6 256 else []

/-! ## What sysfs tells -/

def usbSysfsFriendlyName (path : Text) : Text :=
  let manufacturer := readLine files (path ++ "/manufacturer".toList)
  let product := readLine files (path ++ "/product".toList)
  let serial := readLine files (path ++ "/serial".toList)
  if manufacturer.isEmpty && product.isEmpty && serial.isEmpty then []
  else format files (cString manufacturer ++ ' ' :: cString product ++ ' ' :: cString serial)

def usbSysfsHwString (path : Text) : Text :=
  let serial := readLine files (path ++ "/serial".toList)
  let serialNumber := if 0 < serial.length then format files ("SNR=".toList ++ cString serial) else serial
  let vid := readLine files (path ++ "/idVendor".toList)
  let pid := readLine files (path ++ "/idProduct".toList)
  format files ("USB VID:PID=".toList ++ cString vid ++ ':' :: cString pid ++ ' ' :: cString serialNumber)

/-- `device_name.compare(0, 6, "ttyUSB") == 0` -/
def isTty (kind : String) (deviceName : Text) : Bool := deviceName.take 6 = kind.toList

/-- The names of a USB device, if its directory is there. -/
def usbInfo (path : Text) : Text × Text :=
  if files.pathExists path then (usbSysfsFriendlyName files path, usbSysfsHwString files path) else ([], [])

/-- The directory of the USB device behind a port. -/
def usbDirectory (deviceName : Text) : Option Text :=
  let path := format files ("/sys/class/tty/".toList ++ cString deviceName ++ "/device".toList)
  if isTty "ttyUSB" deviceName then some (dirname (dirname (realpath files path)))
  else if isTty "ttyACM" deviceName then some (dirname (realpath files path))
  else none

/-- The ID of a PCI device, if it has one. -/
def pciInfo (deviceName : Text) : Text :=
  let path := format files ("/sys/class/tty/".toList ++ cString deviceName ++ "/device".toList) ++ "/id".toList
  if files.pathExists path then readLine files path else []

def foundInfo (deviceName : Text) : Text × Text :=
  match usbDirectory files deviceName with
  | some directory => usbInfo files directory
  | none => ([], pciInfo files deviceName)

/-- Description and hardware id. -/
def getSysfsInfo (devicePath : Text) : Text × Text :=
  let deviceName := basename devicePath
  let (friendlyName, hardwareId) := foundInfo files deviceName
  (if friendlyName.isEmpty then deviceName else friendlyName,
    if hardwareId.isEmpty then "n/a".toList else hardwareId)

/-! ## The list -/

/-- `serial::PortInfo` with its hardware id. -/
structure ListedPort extends PortInfo where
  hardwareId : Text
  deriving DecidableEq, Repr

def searchGlobs : List String := ["/dev/ttyACM", "/dev/ttyS", "/dev/ttyUSB", "/dev/tty.", "/dev/cu.", "/dev/rfcomm"]

def devicesFound : List Text := searchGlobs.flatMap fun front => files.glob front.toList

def listedPort (device : Text) : ListedPort where
  port := device
  description := (getSysfsInfo files device).1
  hardwareId := (getSysfsInfo files device).2

def listPorts : List ListedPort := (devicesFound files).map (listedPort files)

end ListPorts
end AsDt1.Source
