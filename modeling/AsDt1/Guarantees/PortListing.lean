import AsDt1.Source.ListPorts

/-!
# The ports that are listed and the camera that is found

Every port found on the host is listed, with a description and a hardware id. A
port that the driver takes for a camera is a USB serial device whose sysfs lines
name it so, and a camera with these lines is found, whatever else is attached.
-/
namespace AsDt1.Guarantees
open AsDt1.Source

/-! ## Formatting -/

/-- The buffer grows once at most. -/
theorem format_eq {files : Files} (allocates : ∀ size, files.allocates size = true) {text : Text}
    (short : text.length < 2 ^ 31) : ListPorts.format files text = text := by
  have printed : ∀ size, ListPorts.vsnprintf size text = some (text.length, text.take (size - 1)) :=
    fun size => if_pos short
  unfold ListPorts.format
  rw [if_pos (allocates 256)]
  unfold ListPorts.formatLoop
  rw [printed]
  by_cases fits : 256 ≤ text.length
  · simp only [if_pos fits, allocates, if_true]
    unfold ListPorts.formatLoop
    rw [printed]
    simp only [if_neg (Nat.not_succ_le_self text.length)]
    exact List.take_of_length_le (Nat.le_refl _)
  · simp only [if_neg fits]
    exact List.take_of_length_le (by omega)

/-- Nothing or the whole text. -/
theorem format_cases (files : Files) (text : Text) :
    ListPorts.format files text = [] ∨ ListPorts.format files text = text := by
  have looped : ∀ passes size, ListPorts.formatLoop files text passes size = [] ∨
      ListPorts.formatLoop files text passes size = text := by
    intro passes
    induction passes with
    | zero => exact fun _ => .inl rfl
    | succ passes ih =>
      intro size
      unfold ListPorts.formatLoop ListPorts.vsnprintf
      split
      · exact .inl rfl
      · rename_i length buffer printed
        split at printed
        · obtain ⟨rfl, rfl⟩ := Prod.mk.inj (Option.some.inj printed)
          split
          · split
            · exact ih _
            · exact .inl rfl
          · exact .inr (List.take_of_length_le (by omega))
        · cases printed
  unfold ListPorts.format
  split
  · exact looped 6 256
  · exact .inl rfl

/-! ## Names of devices -/

theorem basename_slash (front : Text) {name : Text} (plain : '/' ∉ name) : basename (front ++ '/' :: name) = name := by
  have behind : (front ++ '/' :: name).reverse.findIdx? (· = '/') = some name.length := by
    rw [List.reverse_append, List.reverse_cons, List.append_assoc, List.findIdx?_append]
    have none_ : name.reverse.findIdx? (· = '/') = none := by
      rw [List.findIdx?_eq_none_iff]
      intro c listed
      have other : c ≠ '/' := fun same => plain (same ▸ List.mem_reverse.mp listed)
      simpa using other
    rw [none_]
    simp [List.findIdx?_cons]
  unfold basename rfindSlash
  rw [behind]
  simp only [Option.map_some, List.length_append, List.length_cons]
  rw [show front.length + (name.length + 1) - 1 - name.length + 1 = (front ++ ['/']).length by
    rw [List.length_append, List.length_singleton]; omega]
  rw [show front ++ '/' :: name = (front ++ ['/']) ++ name by simp]
  exact List.drop_left

/-- The names that the patterns ask for. -/
def kinds : List String := ["ttyACM", "ttyS", "ttyUSB", "tty.", "cu.", "rfcomm"]

theorem device_kind {files : Files} {device : Text} (found : device ∈ ListPorts.devicesFound files) :
    ∃ kind ∈ kinds, ∃ rest, device = "/dev/".toList ++ (kind.toList ++ rest) ∧
      basename device = kind.toList ++ rest := by
  obtain ⟨front, searched, matched⟩ := List.mem_flatMap.mp found
  obtain ⟨rest, rfl, plain⟩ := files.glob_matches front.toList device matched
  have named : ∀ front ∈ ListPorts.searchGlobs,
      ∃ kind ∈ kinds, front.toList = "/dev/".toList ++ kind.toList ∧ '/' ∉ kind.toList := by
    decide
  obtain ⟨kind, listed, same, plain'⟩ := named front searched
  refine ⟨kind, listed, rest, by rw [same, List.append_assoc], ?_⟩
  rw [same, List.append_assoc]
  apply basename_slash "/dev".toList
  show '/' ∉ kind.toList ++ rest
  rw [List.mem_append]
  exact fun inside => inside.elim plain' plain

theorem kind_not_sony {kind : String} (listed : kind ∈ kinds) (rest : Text) : ¬ sony <+: kind.toList ++ rest := by
  intro begins
  have first : ∀ kind ∈ kinds, kind.toList.head? ≠ some 'S' ∧ kind.toList ≠ [] := by decide
  obtain ⟨tail, same⟩ := begins
  obtain ⟨other, some_⟩ := first kind listed
  apply other
  rw [← (List.head?_append_of_ne_nil _ some_ : (kind.toList ++ rest).head? = _), ← same]
  rfl

/-! ## What is listed -/

/-- What the three sysfs lines of a USB device make up. -/
def sysfsDescription (files : Files) (directory : Text) : Text :=
  cString (ListPorts.readLine files (directory ++ "/manufacturer".toList)) ++
    ' ' :: cString (ListPorts.readLine files (directory ++ "/product".toList)) ++
    ' ' :: cString (ListPorts.readLine files (directory ++ "/serial".toList))

theorem usbFriendlyName_cases (files : Files) (directory : Text) :
    ListPorts.usbSysfsFriendlyName files directory = [] ∨
      ListPorts.usbSysfsFriendlyName files directory = sysfsDescription files directory := by
  unfold ListPorts.usbSysfsFriendlyName
  simp only
  split
  · exact .inl rfl
  · exact format_cases files _

/-- The three lines of a USB device, without a zero in them. -/
structure SysfsLines (files : Files) (directory manufacturer product serial : Text) : Prop where
  plain : ∀ line ∈ [manufacturer, product, serial], '\x00' ∉ line
  manufacturer : ListPorts.readLine files (directory ++ "/manufacturer".toList) = manufacturer
  product : ListPorts.readLine files (directory ++ "/product".toList) = product
  serial : ListPorts.readLine files (directory ++ "/serial".toList) = serial

theorem SysfsLines.description {files : Files} {directory manufacturer product serial : Text}
    (lines : SysfsLines files directory manufacturer product serial) :
    sysfsDescription files directory = manufacturer ++ ' ' :: product ++ ' ' :: serial := by
  have whole : ∀ line ∈ [manufacturer, product, serial], cString line = line := by
    intro line listed
    apply List.takeWhile_eq_self_iff.mpr
    intro c among
    have other : c ≠ '\x00' := fun same => lines.plain line listed (same ▸ among)
    simpa using other
  unfold sysfsDescription
  rw [lines.manufacturer, lines.product, lines.serial, whole manufacturer (by simp), whole product (by simp),
    whole serial (by simp)]

/-- On a host with memory, such lines give the name that is made of the lines alone. -/
theorem usbFriendlyName_eq {files : Files} (allocates : ∀ size, files.allocates size = true)
    {directory manufacturer product serial : Text} (lines : SysfsLines files directory manufacturer product serial)
    (short : (sysfsDescription files directory).length < 2 ^ 31) :
    ListPorts.usbSysfsFriendlyName files directory = usbSysfsFriendlyName manufacturer product serial := by
  have formatted := (format_eq allocates short).trans lines.description
  unfold sysfsDescription at formatted
  unfold ListPorts.usbSysfsFriendlyName usbSysfsFriendlyName
  simp only [lines.manufacturer, lines.product, lines.serial] at formatted ⊢
  rw [formatted]

theorem description_eq (files : Files) (device : Text) :
    (ListPorts.listedPort files device).description =
      if (ListPorts.foundInfo files (basename device)).1.isEmpty then basename device
      else (ListPorts.foundInfo files (basename device)).1 := rfl

/-- Every port that is found is listed, in the same order, and can be told what it is. -/
theorem every_port_described (files : Files) :
    (ListPorts.listPorts files).map (fun listed => listed.port) = ListPorts.devicesFound files ∧
      ∀ listed ∈ ListPorts.listPorts files, listed.description ≠ [] ∧ listed.hardwareId ≠ [] := by
  constructor
  · unfold ListPorts.listPorts
    rw [List.map_map]
    exact List.map_id _
  · intro listed member
    obtain ⟨device, found, rfl⟩ := List.mem_map.mp member
    obtain ⟨kind, among, rest, -, named⟩ := device_kind found
    have some_ : basename device ≠ [] := by
      have first : ∀ kind ∈ kinds, kind.toList ≠ [] := by decide
      rw [named]
      exact List.append_ne_nil_of_left_ne_nil (first kind among) rest
    constructor
    · rw [description_eq]
      split
      · exact some_
      · rename_i given
        simpa using given
    · show (if (ListPorts.foundInfo files (basename device)).2.isEmpty then "n/a".toList
        else (ListPorts.foundInfo files (basename device)).2) ≠ []
      split
      · decide
      · rename_i given
        simpa using given

/-- A USB serial device whose sysfs lines name an AS-DT1 by Sony. -/
structure IsCameraPort (files : Files) (device directory : Text) : Prop where
  found : device ∈ ListPorts.devicesFound files
  usb : ListPorts.usbDirectory files (basename device) = some directory
  exists_ : files.pathExists directory = true
  named : isAsDt1Port ⟨device, sysfsDescription files directory⟩ = true

theorem listed_camera {files : Files} {device : Text} (found : device ∈ ListPorts.devicesFound files)
    (named : isAsDt1Port (ListPorts.listedPort files device).toPortInfo = true) :
    ∃ directory, IsCameraPort files device directory ∧
      (ListPorts.listedPort files device).description = sysfsDescription files directory := by
  have begins : sony <+: (ListPorts.listedPort files device).description :=
    List.isPrefixOf_iff_prefix.mp (Bool.and_eq_true .. ▸ named).1
  rw [description_eq] at begins
  obtain ⟨kind, among, rest, -, base⟩ := device_kind found
  have described : ∃ directory, ListPorts.usbDirectory files (basename device) = some directory ∧
      files.pathExists directory = true ∧
      (ListPorts.listedPort files device).description = sysfsDescription files directory := by
    rw [description_eq]
    split at begins
    · exact absurd (base ▸ begins) (kind_not_sony among rest)
    · rename_i given
      rw [if_neg given]
      unfold ListPorts.foundInfo at given ⊢
      cases usb : ListPorts.usbDirectory files (basename device) with
      | none =>
        rw [usb] at given
        exact absurd rfl given
      | some directory =>
        rw [usb] at given
        simp only at given ⊢
        unfold ListPorts.usbInfo at given ⊢
        by_cases there : files.pathExists directory = true
        · rw [if_pos there] at given ⊢
          refine ⟨directory, rfl, there, ?_⟩
          rcases usbFriendlyName_cases files directory with none_ | whole
          · exact absurd (by rw [none_]; rfl) given
          · exact whole
        · rw [if_neg there] at given
          exact absurd rfl given
  obtain ⟨directory, usb, there, whole⟩ := described
  refine ⟨directory, ⟨found, usb, there, ?_⟩, whole⟩
  rw [← whole]
  exact named

/-! ## What is found -/

theorem findPort_found {serialNumber port : Text} {ports : List PortInfo}
    (found : findPort serialNumber ports = .ok port) (some_ : port ≠ []) :
    ∃ info ∈ ports, info.port = port ∧ portMatches serialNumber info = .ok true := by
  induction ports with
  | nil => exact absurd (Except.ok.inj found).symm some_
  | cons info rest ih =>
    unfold findPort at found
    cases tested : portMatches serialNumber info with
    | error what =>
      rw [tested] at found
      cases found
    | ok passes =>
      rw [tested] at found
      cases passes with
      | true => exact ⟨info, List.mem_cons_self, Except.ok.inj found, tested⟩
      | false =>
        obtain ⟨other, listed, same, accepted⟩ := ih found
        exact ⟨other, List.mem_cons_of_mem _ listed, same, accepted⟩

theorem accepted_asDt1 {serialNumber : Text} {info : PortInfo} (accepted : portMatches serialNumber info = .ok true) :
    isAsDt1Port info = true := by
  by_contra other
  unfold portMatches at accepted
  rw [if_pos (by simpa using other)] at accepted
  cases accepted

/-- The ports as `find_port` reads them. -/
def hostPorts (files : Files) : List PortInfo := (ListPorts.listPorts files).map ListPorts.ListedPort.toPortInfo

/-- No port of another kind passes for a camera, whatever it is called and whatever fails. -/
theorem found_port_is_camera (files : Files) (serialNumber port : Text)
    (found : findPort serialNumber (hostPorts files) = .ok port) (some_ : port ≠ []) :
    ∃ directory, IsCameraPort files port directory := by
  obtain ⟨info, listed, rfl, accepted⟩ := findPort_found found some_
  obtain ⟨entry, among, rfl⟩ := List.mem_map.mp listed
  obtain ⟨device, there, rfl⟩ := List.mem_map.mp among
  obtain ⟨directory, camera, -⟩ := listed_camera there (accepted_asDt1 accepted)
  exact ⟨directory, camera⟩

/-- A camera is listed under its description. -/
theorem camera_listed {files : Files} (allocates : ∀ size, files.allocates size = true) {device directory : Text}
    (camera : IsCameraPort files device directory)
    (short : (sysfsDescription files directory).length < 2 ^ 31) :
    ⟨device, sysfsDescription files directory⟩ ∈ hostPorts files := by
  have begins : sony <+: sysfsDescription files directory :=
    List.isPrefixOf_iff_prefix.mp (Bool.and_eq_true .. ▸ camera.named).1
  have told : ListPorts.usbSysfsFriendlyName files directory = sysfsDescription files directory := by
    unfold ListPorts.usbSysfsFriendlyName
    simp only
    split
    · rename_i nothing
      have none_ : ∀ line : Text, line.isEmpty = true → cString line = [] := by
        intro line empty
        rw [List.isEmpty_iff.mp empty]
        rfl
      rw [Bool.and_eq_true, Bool.and_eq_true] at nothing
      obtain ⟨⟨manufacturer, product⟩, serial⟩ := nothing
      unfold sysfsDescription at begins
      rw [none_ _ manufacturer, none_ _ product, none_ _ serial] at begins
      exact absurd begins (by decide)
    · exact format_eq allocates short
  have given : (ListPorts.foundInfo files (basename device)).1 = sysfsDescription files directory := by
    unfold ListPorts.foundInfo
    rw [camera.usb]
    show (ListPorts.usbInfo files directory).1 = _
    unfold ListPorts.usbInfo
    rw [if_pos camera.exists_]
    exact told
  have some_ : (sysfsDescription files directory).isEmpty = false := by
    rw [List.isEmpty_eq_false_iff]
    intro none_
    rw [none_] at begins
    exact absurd begins (by decide)
  have described : (ListPorts.listedPort files device).description = sysfsDescription files directory := by
    rw [description_eq, given, if_neg (by rw [some_]; exact Bool.false_ne_true)]
  have same : (ListPorts.listedPort files device).toPortInfo = ⟨device, sysfsDescription files directory⟩ := by
    rw [← described]
    rfl
  rw [← same]
  exact List.mem_map_of_mem (List.mem_map_of_mem camera.found)

/-- A camera is listed as its three lines say. -/
theorem camera_listed_as {files : Files} (allocates : ∀ size, files.allocates size = true)
    {device directory serial : Text} (camera : IsCameraPort files device directory)
    (lines : SysfsLines files directory sony asDt1 serial)
    (short : (sysfsDescription files directory).length < 2 ^ 31) :
    ⟨device, usbSysfsFriendlyName sony asDt1 serial⟩ ∈ hostPorts files := by
  have listed := camera_listed allocates camera short
  rwa [lines.description] at listed

theorem findPort_any {ports : List PortInfo} (named : ∀ info ∈ ports, info.port ≠ []) {info : PortInfo}
    (listed : info ∈ ports) (camera : isAsDt1Port info = true) : ∃ port, port ≠ [] ∧ findPort [] ports = .ok port := by
  induction ports with
  | nil => cases listed
  | cons first rest ih =>
    have tested : portMatches [] first = .ok (isAsDt1Port first) := by
      unfold portMatches
      cases isAsDt1Port first with
      | true => rfl
      | false => rfl
    unfold findPort
    rw [tested]
    cases taken : isAsDt1Port first with
    | true => exact ⟨first.port, named first List.mem_cons_self, rfl⟩
    | false =>
      rcases List.mem_cons.mp listed with rfl | later
      · exact absurd (taken.symm.trans camera) Bool.false_ne_true
      · exact ih (fun info among => named info (List.mem_cons_of_mem _ among)) later

/-- Without a serial number the driver finds a port exactly if a camera is attached to one. -/
theorem camera_found_iff (files : Files) (allocates : ∀ size, files.allocates size = true)
    (short : ∀ directory, (sysfsDescription files directory).length < 2 ^ 31) :
    (∃ port, port ≠ [] ∧ findPort [] (hostPorts files) = .ok port) ↔
      ∃ device directory, IsCameraPort files device directory := by
  constructor
  · rintro ⟨port, some_, found⟩
    exact ⟨port, found_port_is_camera files [] port found some_⟩
  · rintro ⟨device, directory, camera⟩
    apply findPort_any _ (camera_listed allocates camera (short directory)) camera.named
    intro info listed
    obtain ⟨entry, among, rfl⟩ := List.mem_map.mp listed
    obtain ⟨other, there, rfl⟩ := List.mem_map.mp among
    obtain ⟨kind, -, rest, path, -⟩ := device_kind there
    show other ≠ []
    rw [path]
    exact List.cons_ne_nil _ _

/-! A host with a camera on its second port. -/

def benchFiles : Files where
  glob front :=
    if front = "/dev/ttyACM".toList then ["/dev/ttyACM0".toList]
    else if front = "/dev/ttyS".toList then ["/dev/ttyS0".toList] else []
  realpath path :=
    if path = "/sys/class/tty/ttyACM0/device".toList then some "/sys/devices/usb1/1-2/1-2:1.0".toList else none
  pathExists path := path = "/sys/devices/usb1/1-2".toList
  content path :=
    if path = "/sys/devices/usb1/1-2/manufacturer".toList then some "Sony\n".toList
    else if path = "/sys/devices/usb1/1-2/product".toList then some "AS-DT1\n".toList
    else if path = "/sys/devices/usb1/1-2/serial".toList then some "1234567\n".toList else none
  allocates _ := true
  glob_matches := by
    intro front path listed
    split at listed
    · rename_i same
      rw [same, List.mem_singleton.mp listed]
      exact ⟨['0'], rfl, by decide⟩
    · split at listed
      · rename_i same
        rw [same, List.mem_singleton.mp listed]
        exact ⟨['0'], rfl, by decide⟩
      · cases listed

theorem bench_lines_short (directory : Text) : (sysfsDescription benchFiles directory).length < 2 ^ 31 := by
  have line : ∀ file, (cString (ListPorts.readLine benchFiles file)).length ≤ 8 := by
    intro file
    have cut : (cString (ListPorts.readLine benchFiles file)).length ≤ ((benchFiles.content file).getD []).length :=
      Nat.le_trans (List.takeWhile_prefix _).length_le (List.takeWhile_prefix _).length_le
    apply Nat.le_trans cut
    show (Option.getD (if file = _ then _ else if file = _ then _ else if file = _ then _ else none) []).length ≤ 8
    split
    · decide
    · split
      · decide
      · split
        · decide
        · decide
  have manufacturer := line (directory ++ "/manufacturer".toList)
  have product := line (directory ++ "/product".toList)
  have serial := line (directory ++ "/serial".toList)
  unfold sysfsDescription
  rw [List.length_append, List.length_append, List.length_cons, List.length_cons]
  omega

theorem bench_camera_found :
    (∃ port, port ≠ [] ∧ findPort [] (hostPorts benchFiles) = .ok port) ↔
      ∃ device directory, IsCameraPort benchFiles device directory :=
  camera_found_iff benchFiles (fun _ => rfl) bench_lines_short

theorem bench_port_is_camera : ∃ directory, IsCameraPort benchFiles "/dev/ttyACM0".toList directory :=
  found_port_is_camera benchFiles "1234567".toList "/dev/ttyACM0".toList (by decide +kernel) (by decide)

end AsDt1.Guarantees
