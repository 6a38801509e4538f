import AsDt1.Lib.Lists
import AsDt1.Source.Discovery
import Mathlib.Data.List.TakeWhile

/-!
# One camera behind the serial port and the video device

A hist session runs two searches with different tests over two differently
ordered lists. The port search compares the configured number with the first
characters of a camera's serial (at least seven of them), the media search with
the whole serial; without a number both take what they find first.
-/
namespace AsDt1.Guarantees
open AsDt1.Lib AsDt1.Source

/-- A physical camera by what the host shows of it. -/
structure Camera where
  serial : Text
  port : Text
  media : MediaDevice
  deriving DecidableEq, Repr

def Camera.portInfo (c : Camera) : PortInfo :=
  ⟨c.port, usbSysfsFriendlyName sony asDt1 c.serial⟩

/-- The cameras are what the two lists show: distinct serials, ports and media
devices, each listed, and no other entry passes for an AS-DT1 or reports the
configured number. Other ports and media devices may be listed anywhere. -/
structure Attached (serialNumber : Text) (cameras : List Camera) (ports : List PortInfo)
    (media : List MediaDevice) : Prop where
  serials : ∀ c ∈ cameras, ∀ d ∈ cameras, c.serial = d.serial → c = d
  port_names : ∀ c ∈ cameras, ∀ d ∈ cameras, c.port = d.port → c = d
  media_paths : ∀ c ∈ cameras, ∀ d ∈ cameras, c.media.path = d.media.path → c = d
  port_listed : ∀ c ∈ cameras, c.portInfo ∈ ports
  media_listed : ∀ c ∈ cameras, c.media ∈ media
  other_ports : ∀ info ∈ ports, isAsDt1Port info = true → ∃ c ∈ cameras, info = c.portInfo
  reported : ∀ c ∈ cameras, ∀ mdi ∈ c.media.info, mdi = ⟨asDt1, c.serial⟩
  other_media : ∀ d ∈ media, ∀ mdi ∈ d.info, (∃ c ∈ cameras, d = c.media) ∨
    mdi.model ≠ asDt1 ∧ (serialNumber ≠ [] → mdi.serial ≠ serialNumber)

/-- `serialNumber` is not the camera's serial, but the port search takes it for
that: it has seven characters or more and begins the serial, or the product name
and serial. -/
def Mistakable (serialNumber : Text) (c : Camera) : Prop :=
  c.serial ≠ serialNumber ∧ 7 ≤ serialNumber.length ∧
    (serialNumber <+: c.serial ∨ serialNumber <+: asDt1 ++ ' ' :: c.serial)

/-- The camera's media device opens and reports model and serial. -/
def Responds (c : Camera) : Prop := c.media.opens = true ∧ c.media.info.isSome = true

/-- With a number: no camera that can be mistaken for it is enumerated ahead of
the camera that has it. Without one: the camera whose port is enumerated first
responds, and no other camera that responds has its media device ahead of it. -/
def OrdersAgree (serialNumber : Text) (cameras : List Camera) (ports : List PortInfo)
    (media : List MediaDevice) : Prop :=
  if serialNumber = [] then
    ∀ c ∈ cameras,
      (∀ d ∈ cameras, d.portInfo ∉ ports.takeWhile (fun info => info ≠ c.portInfo)) →
      Responds c ∧ ∀ d ∈ cameras, d.media ∈ media.takeWhile (fun other => other ≠ c.media) →
        ¬ Responds d
  else
    ∀ c ∈ cameras, c.serial = serialNumber →
      ∀ d ∈ cameras, d.portInfo ∈ ports.takeWhile (fun info => info ≠ c.portInfo) →
        ¬ Mistakable serialNumber d

/-! ## The test of a port -/

/-- Taking at least seven characters gives the number exactly if the text is the
number or begins with it. -/
theorem take_eq_iff (text serialNumber : Text) :
    text.take (max 7 serialNumber.length) = serialNumber ↔
      text = serialNumber ∨ 7 ≤ serialNumber.length ∧ serialNumber <+: text := by
  by_cases long : 7 ≤ serialNumber.length
  · rw [Nat.max_eq_right long, eq_comm, ← List.prefix_iff_eq_take]
    constructor
    · exact fun begins => Or.inr ⟨long, begins⟩
    · rintro (rfl | ⟨-, begins⟩)
      · exact List.prefix_refl text
      · exact begins
  · have short : max 7 serialNumber.length = 7 := by omega
    rw [short]
    constructor
    · intro taken
      have length : min 7 text.length = serialNumber.length := by rw [← taken, List.length_take]
      have whole : text.take 7 = text := List.take_of_length_le (by omega)
      exact Or.inl (whole ▸ taken)
    · rintro (rfl | ⟨enough, -⟩)
      · exact List.take_of_length_le (by omega)
      · exact absurd enough long

theorem camera_is_asDt1 (c : Camera) : isAsDt1Port c.portInfo = true := rfl

/-- Both comparisons of a camera's description stay inside it. -/
theorem portMatches_camera (serialNumber : Text) (c : Camera) (numbered : serialNumber ≠ []) :
    portMatches serialNumber c.portInfo =
      .ok (decide ((asDt1 ++ ' ' :: c.serial).take (max 7 serialNumber.length) = serialNumber ∨
        c.serial.take (max 7 serialNumber.length) = serialNumber)) := by
  have first (len : Nat) : substr c.portInfo.description 5 len =
      .ok ((asDt1 ++ ' ' :: c.serial).take len) :=
    if_neg (Nat.not_lt.mpr (Nat.le_add_left 5 _))
  have second (len : Nat) : substr c.portInfo.description 12 len = .ok (c.serial.take len) :=
    if_neg (Nat.not_lt.mpr (Nat.le_add_left 12 _))
  have some : serialNumber.isEmpty = false := by simpa using numbered
  simp only [portMatches, camera_is_asDt1, some, first, second, Bool.not_true, Bool.false_eq_true,
    if_false]
  by_cases product : (asDt1 ++ ' ' :: c.serial).take (max 7 serialNumber.length) = serialNumber
  · simp [product, bind, Except.bind, pure, Except.pure]
  · simp [product, bind, Except.bind, pure, Except.pure]

/-- The port search accepts a camera's port without a number, for its own serial,
and for a number it is mistaken for. -/
theorem port_accepts_iff (serialNumber : Text) (c : Camera) (numbered : serialNumber ≠ []) :
    portMatches serialNumber c.portInfo = .ok true ↔
      c.serial = serialNumber ∨ Mistakable serialNumber c := by
  rw [portMatches_camera serialNumber c numbered, Except.ok.injEq, decide_eq_true_eq, take_eq_iff,
    take_eq_iff]
  have longer : ∀ text : Text, asDt1 ++ ' ' :: text = serialNumber →
      7 ≤ serialNumber.length ∧ serialNumber <+: asDt1 ++ ' ' :: text := by
    rintro text rfl
    exact ⟨Nat.le_add_left 7 _, List.prefix_refl _⟩
  constructor
  · intro accepted
    by_cases own : c.serial = serialNumber
    · exact Or.inl own
    · refine Or.inr ⟨own, ?_⟩
      rcases accepted with (whole | ⟨enough, begins⟩) | (whole | ⟨enough, begins⟩)
      · exact ⟨(longer c.serial whole).1, Or.inr (longer c.serial whole).2⟩
      · exact ⟨enough, Or.inr begins⟩
      · exact absurd whole own
      · exact ⟨enough, Or.inl begins⟩
  · rintro (own | ⟨-, enough, begins | begins⟩)
    · exact Or.inr (Or.inl own)
    · exact Or.inr (Or.inr ⟨enough, begins⟩)
    · exact Or.inl (Or.inr ⟨enough, begins⟩)

theorem port_accepts_any (c : Camera) : portMatches [] c.portInfo = .ok true := rfl

/-! ## The two searches -/

def portAccepted (serialNumber : Text) (info : PortInfo) : Bool :=
  portMatches serialNumber info = .ok true

def mediaAccepted (serialNumber : Text) (d : MediaDevice) : Bool :=
  (mediaMatches serialNumber d).isSome

/-- No test of an attached port throws, so the search is a first-found search. -/
theorem findPort_eq (serialNumber : Text) (ports : List PortInfo)
    (total : ∀ info ∈ ports, ∃ answer, portMatches serialNumber info = .ok answer) :
    findPort serialNumber ports =
      .ok (((ports.find? (portAccepted serialNumber)).map PortInfo.port).getD []) := by
  induction ports with
  | nil => rfl
  | cons info rest ih =>
    have later := ih fun other member => total other (List.mem_cons_of_mem _ member)
    obtain ⟨answer, tested⟩ := total info List.mem_cons_self
    cases answer with
    | true => simp [findPort, portAccepted, tested, bind, Except.bind, pure, Except.pure]
    | false => simp [findPort, portAccepted, tested, bind, Except.bind, later]

theorem findMedia_eq {host : Host} {serialNumber : Text} {devices : List MediaDevice}
    {found : MediaMatchResult} (searched : findMediaBySerial host serialNumber devices = some found) :
    ∃ d mdi, devices.find? (mediaAccepted serialNumber) = some d ∧
      mediaMatches serialNumber d = some mdi ∧ found.mediaDev = d.path := by
  induction devices with
  | nil => cases searched
  | cons d rest ih =>
    simp only [findMediaBySerial] at searched
    cases tested : mediaMatches serialNumber d with
    | none =>
      rw [tested] at searched
      obtain ⟨d', mdi, first, answered, path⟩ := ih searched
      exact ⟨d', mdi, by simp [mediaAccepted, tested, first], answered, path⟩
    | some mdi =>
      rw [tested] at searched
      obtain ⟨interfaces, -, rfl⟩ := Option.map_eq_some_iff.mp searched
      exact ⟨d, mdi, by simp [mediaAccepted, tested], tested, rfl⟩

/-! ## Whom the searches find -/

section Bench

variable {serialNumber : Text} {cameras : List Camera} {ports : List PortInfo}
  {media : List MediaDevice}

theorem accepted_is_camera (attached : Attached serialNumber cameras ports media) {info : PortInfo}
    (listed : info ∈ ports) (accepted : portAccepted serialNumber info = true) :
    ∃ c ∈ cameras, info = c.portInfo := by
  have answer : portMatches serialNumber info = .ok true := by simpa [portAccepted] using accepted
  cases model : isAsDt1Port info with
  | true => exact attached.other_ports info listed model
  | false => simp [portMatches, model] at answer

theorem port_tests_total (attached : Attached serialNumber cameras ports media) :
    ∀ info ∈ ports, ∃ answer, portMatches serialNumber info = .ok answer := by
  intro info listed
  cases model : isAsDt1Port info with
  | false => exact ⟨false, by simp [portMatches, model]⟩
  | true =>
    obtain ⟨c, -, rfl⟩ := attached.other_ports info listed model
    by_cases none : serialNumber = []
    · exact ⟨true, none ▸ port_accepts_any c⟩
    · exact ⟨_, portMatches_camera serialNumber c none⟩

theorem found_port_camera (attached : Attached serialNumber cameras ports media) {port : Text}
    (opened : findPort serialNumber ports = .ok port) (found : port ≠ []) :
    ∃ c ∈ cameras, c.port = port ∧
      ports.find? (portAccepted serialNumber) = some c.portInfo := by
  rw [findPort_eq serialNumber ports (port_tests_total attached), Except.ok.injEq] at opened
  cases first : ports.find? (portAccepted serialNumber) with
  | none =>
    rw [first] at opened
    exact absurd opened.symm found
  | some info =>
    rw [first] at opened
    obtain ⟨c, member, rfl⟩ := accepted_is_camera attached (List.mem_of_find?_eq_some first)
      (List.find?_some first)
    exact ⟨c, member, opened, rfl⟩

theorem media_accepts_iff (attached : Attached serialNumber cameras ports media) {c : Camera}
    (member : c ∈ cameras) :
    mediaAccepted serialNumber c.media = true ↔
      Responds c ∧ (serialNumber = [] ∨ c.serial = serialNumber) := by
  unfold mediaAccepted mediaMatches Responds
  cases opens : c.media.opens with
  | false => simp
  | true =>
    cases reads : c.media.info with
    | none => simp
    | some mdi =>
      obtain rfl := attached.reported c member mdi reads
      by_cases none : serialNumber = []
      · simp [none]
      · by_cases own : c.serial = serialNumber
        · simp [own]
        · simp [none, own, Ne.symm own]

theorem answered_is_camera (attached : Attached serialNumber cameras ports media) {d : MediaDevice}
    (listed : d ∈ media) {mdi : MediaDeviceInfo} (answered : mediaMatches serialNumber d = some mdi) :
    ∃ c ∈ cameras, d = c.media := by
  unfold mediaMatches at answered
  split at answered
  · cases answered
  · split at answered
    · cases answered
    · next mdi' reads =>
      split at answered
      · cases answered
      · next named =>
        split at answered
        · cases answered
        · next wanted =>
          rcases attached.other_media d listed mdi' reads with camera | ⟨model, other⟩
          · exact camera
          · simp_all

theorem found_media_camera (attached : Attached serialNumber cameras ports media) {host : Host}
    {found : MediaMatchResult} (searched : findMediaBySerial host serialNumber media = some found) :
    ∃ c ∈ cameras, c.media.path = found.mediaDev ∧
      media.find? (mediaAccepted serialNumber) = some c.media := by
  obtain ⟨d, mdi, first, answered, path⟩ := findMedia_eq searched
  obtain ⟨c, member, rfl⟩ := answered_is_camera attached (List.mem_of_find?_eq_some first) answered
  exact ⟨c, member, path.symm, first⟩

/-! ## When both searches find the same camera -/

/-- Of two cameras found by their ports, the search ended at the one it ended at. -/
theorem same_port_iff (attached : Attached serialNumber cameras ports media) {c d : Camera}
    (member : c ∈ cameras) (other : d ∈ cameras)
    (first : ports.find? (portAccepted serialNumber) = some c.portInfo) :
    c = d ↔ ports.find? (portAccepted serialNumber) = some d.portInfo := by
  constructor
  · rintro rfl
    exact first
  · intro second
    rw [first, Option.some.injEq, PortInfo.mk.injEq] at second
    exact attached.port_names c member d other second.1

theorem same_camera_numbered (attached : Attached serialNumber cameras ports media)
    (numbered : serialNumber ≠ []) {atPort atMedia : Camera} (portMember : atPort ∈ cameras)
    (mediaMember : atMedia ∈ cameras)
    (firstPort : ports.find? (portAccepted serialNumber) = some atPort.portInfo)
    (firstMedia : media.find? (mediaAccepted serialNumber) = some atMedia.media) :
    atPort = atMedia ↔ OrdersAgree serialNumber cameras ports media := by
  have own : atMedia.serial = serialNumber := by
    have passed := (media_accepts_iff attached mediaMember).mp
      (List.find?_some firstMedia)
    exact passed.2.resolve_left numbered
  have accepted : ∀ c : Camera, portAccepted serialNumber c.portInfo = true ↔
      c.serial = serialNumber ∨ Mistakable serialNumber c := by
    intro c
    rw [portAccepted, decide_eq_true_eq]
    exact port_accepts_iff serialNumber c numbered
  rw [same_port_iff attached portMember mediaMember firstPort,
    find?_eq_some_iff_ahead (attached.port_listed atMedia mediaMember)
      ((accepted atMedia).mpr (Or.inl own))]
  rw [OrdersAgree, if_neg numbered]
  constructor
  · intro none c member same d _ ahead mistaken
    obtain rfl : c = atMedia := attached.serials c member atMedia mediaMember (same.trans own.symm)
    have refused := none d.portInfo ahead
    rw [(accepted d).mpr (Or.inr mistaken)] at refused
    cases refused
  · intro agree info ahead
    by_contra passes
    have passes' : portAccepted serialNumber info = true := by simpa using passes
    obtain ⟨d, member, rfl⟩ := accepted_is_camera attached ((List.takeWhile_subset _) ahead) passes'
    rcases (accepted d).mp passes' with same | mistaken
    · obtain rfl : d = atMedia := attached.serials d member atMedia mediaMember (same.trans own.symm)
      simpa using List.mem_takeWhile_imp ahead
    · exact agree atMedia mediaMember own d member ahead mistaken

theorem same_camera_unnumbered (attached : Attached [] cameras ports media)
    {atPort atMedia : Camera} (portMember : atPort ∈ cameras) (mediaMember : atMedia ∈ cameras)
    (firstPort : ports.find? (portAccepted []) = some atPort.portInfo)
    (firstMedia : media.find? (mediaAccepted []) = some atMedia.media) :
    atPort = atMedia ↔ OrdersAgree [] cameras ports media := by
  have accepted : ∀ c : Camera, portAccepted [] c.portInfo = true := by
    intro c
    rw [portAccepted, port_accepts_any]
    rfl
  have responds : ∀ c ∈ cameras, mediaAccepted [] c.media = true ↔ Responds c := by
    intro c member
    simpa using media_accepts_iff attached member
  -- without a number the port search ends at the camera that no camera is ahead of
  have firstOf : ∀ c ∈ cameras,
      (∀ d ∈ cameras, d.portInfo ∉ ports.takeWhile (fun info => info ≠ c.portInfo)) ↔
        atPort = c := by
    intro c member
    rw [same_port_iff attached portMember member firstPort,
      find?_eq_some_iff_ahead (attached.port_listed c member) (accepted c)]
    constructor
    · intro none info ahead
      by_contra passes
      obtain ⟨d, other, rfl⟩ := accepted_is_camera attached ((List.takeWhile_subset _) ahead)
        (by simpa using passes)
      exact none d other ahead
    · intro none d other ahead
      have refused := none d.portInfo ahead
      rw [accepted d] at refused
      cases refused
  rw [OrdersAgree, if_pos rfl]
  constructor
  · rintro rfl c member none
    obtain rfl : atPort = c := (firstOf c member).mp none
    have passes := List.find?_some firstMedia
    refine ⟨(responds atPort portMember).mp passes, fun d other ahead answers => ?_⟩
    have refused := (find?_eq_some_iff_ahead (attached.media_listed atPort portMember) passes).mp
      firstMedia d.media ahead
    rw [(responds d other).mpr answers] at refused
    cases refused
  · intro agree
    obtain ⟨answers, none⟩ := agree atPort portMember ((firstOf atPort portMember).mpr rfl)
    have passes := (responds atPort portMember).mpr answers
    have first : media.find? (mediaAccepted []) = some atPort.media := by
      refine (find?_eq_some_iff_ahead (attached.media_listed atPort portMember) passes).mpr ?_
      intro d ahead
      by_contra responding
      have responding' : mediaAccepted [] d = true := by simpa using responding
      obtain ⟨mdi, answered⟩ := Option.isSome_iff_exists.mp responding'
      obtain ⟨c, member, rfl⟩ := answered_is_camera attached ((List.takeWhile_subset _) ahead) answered
      exact none c member ahead ((responds c member).mp responding')
    rw [firstMedia, Option.some.injEq] at first
    exact attached.media_paths atPort portMember atMedia mediaMember (by rw [first])

end Bench

/-- For every bench of cameras, every order of the ports and of the media devices
and every configured number: where a hist session opens both a serial port and a
video device, they belong to one camera if and only if the orders agree. -/
theorem paired_iff {serialNumber : Text} {cameras : List Camera} {ports : List PortInfo}
    {entries : List MediaDevice} {host : Host} {port : Text} {video : OpenedVideo}
    (attached : Attached serialNumber cameras ports (listMediaDevices entries))
    (serialOpened : findPort serialNumber ports = .ok port) (found : port ≠ [])
    (videoOpened : openVideoDeviceBySerial host serialNumber entries = some video) :
    (∃ c ∈ cameras, c.port = port ∧ c.media.path = video.mediaDev) ↔
      OrdersAgree serialNumber cameras ports (listMediaDevices entries) := by
  obtain ⟨atPort, portMember, named, firstPort⟩ := found_port_camera attached serialOpened found
  obtain ⟨result, searched, opened⟩ := Option.bind_eq_some_iff.mp videoOpened
  obtain ⟨node, -, rfl⟩ := Option.map_eq_some_iff.mp opened
  obtain ⟨atMedia, mediaMember, path, firstMedia⟩ := found_media_camera attached searched
  have same : (∃ c ∈ cameras, c.port = port ∧ c.media.path = result.mediaDev) ↔
      atPort = atMedia := by
    constructor
    · rintro ⟨c, member, samePort, samePath⟩
      have fromPort : c = atPort :=
        attached.port_names c member atPort portMember (samePort.trans named.symm)
      have fromMedia : c = atMedia :=
        attached.media_paths c member atMedia mediaMember (samePath.trans path.symm)
      exact fromPort.symm.trans fromMedia
    · rintro rfl
      exact ⟨atPort, portMember, named, path⟩
  rw [same]
  by_cases none : serialNumber = []
  · subst none
    exact same_camera_unnumbered attached portMember mediaMember firstPort firstMedia
  · exact same_camera_numbered attached none portMember mediaMember firstPort firstMedia

/-- Two cameras whose ports and media devices are enumerated in opposite orders. -/
def cameraA : Camera :=
  ⟨"1000001".toList, "/dev/ttyACM0".toList,
    ⟨"/dev/media1".toList, true, some ⟨asDt1, "1000001".toList⟩, some [⟨0x200, 81, 1⟩]⟩⟩

def cameraB : Camera :=
  ⟨"1000002".toList, "/dev/ttyACM1".toList,
    ⟨"/dev/media0".toList, true, some ⟨asDt1, "1000002".toList⟩, some [⟨0x200, 81, 0⟩]⟩⟩

def benchPorts : List PortInfo := [cameraA.portInfo, cameraB.portInfo]

def benchMedia : List MediaDevice := [cameraA.media, cameraB.media]

/-- A host with one capture node for each camera. -/
def benchHost : Host where
  devnodeFromMajorMinor _ minor :=
    some (if minor = 0 then "/dev/video0".toList else "/dev/video1".toList)
  capability _ := some (v4l2CapVideoCapture, v4l2CapVideoCapture)
  opens _ := true

theorem bench_attached (serialNumber : Text) :
    Attached serialNumber [cameraA, cameraB] benchPorts (listMediaDevices benchMedia) := by
  refine ⟨by decide, by decide, by decide, by decide, by decide, by decide, by decide, ?_⟩
  have cameras : ∀ d ∈ listMediaDevices benchMedia, ∃ c ∈ [cameraA, cameraB], d = c.media := by
    decide
  exact fun d listed mdi _ => Or.inl (cameras d listed)

/-- Asked for camera A, a session opens both devices of camera A. -/
theorem paired_bench_numbered :
    (∃ c ∈ [cameraA, cameraB], c.port = cameraA.port ∧ c.media.path = cameraA.media.path) ∧
      OrdersAgree cameraA.serial [cameraA, cameraB] benchPorts (listMediaDevices benchMedia) := by
  have serialOpened : findPort cameraA.serial benchPorts = .ok cameraA.port := by decide
  have videoOpened : openVideoDeviceBySerial benchHost cameraA.serial benchMedia =
      some ⟨cameraA.media.path, "/dev/video1".toList⟩ := by decide
  have same : ∃ c ∈ [cameraA, cameraB], c.port = cameraA.port ∧
      c.media.path = cameraA.media.path := by decide
  exact ⟨same, (paired_iff (bench_attached _) serialOpened (by decide) videoOpened).mp same⟩

/-- Asked for any camera, the session opens the port of camera A, enumerated
first, and the video device of camera B, whose media device sorts first. -/
theorem two_cameras_mixed :
    ¬ ∀ (serialNumber : Text) (cameras : List Camera) (ports : List PortInfo)
      (entries : List MediaDevice) (host : Host) (port : Text) (video : OpenedVideo),
      Attached serialNumber cameras ports (listMediaDevices entries) →
      findPort serialNumber ports = .ok port → port ≠ [] →
      openVideoDeviceBySerial host serialNumber entries = some video →
      ∃ c ∈ cameras, c.port = port ∧ c.media.path = video.mediaDev := by
  intro always
  have videoOpened : openVideoDeviceBySerial benchHost [] benchMedia =
      some ⟨cameraB.media.path, "/dev/video0".toList⟩ := by decide
  have mixed := always [] _ benchPorts benchMedia benchHost cameraA.port _ (bench_attached [])
    (by decide) (by decide) videoOpened
  exact absurd mixed (by decide)

end AsDt1.Guarantees
