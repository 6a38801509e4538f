import AsDt1.Source.CalibrationParser

/-!
# Which calibration entries are loaded

A valid entry is described by what its document holds, without the order in which
`load` looks. Every malformed entry is left out alone; the lookup of the list
itself stands in front of the `try` blocks, so a document that is a single scalar
makes `load` throw.
-/
namespace AsDt1.Guarantees
open AsDt1.Lib AsDt1.Source CalibrationParser

variable {N F : Type} (yaml : YamlReader N F)

/-- An optional text: what its node converts to, or the value in its place. -/
def TextOr (otherwise : String) (node : Option N) (text : String) : Prop :=
  match node with
  | none => text = otherwise
  | some node => yaml.asString node = some text

def IsMatrix (node : N) (matrix : Fin 3 → Fin 3 → F) : Prop :=
  ∃ (rows : Fin 3 → N) (cells : Fin 3 → Fin 3 → N), yaml.IsTuple node rows ∧
    (∀ i, yaml.IsTuple (rows i) (cells i)) ∧ ∀ i j, yaml.asNumber (cells i j) = some (matrix i j)

def IsVector (node : N) (vector : Fin 3 → F) : Prop :=
  ∃ items : Fin 3 → N, yaml.IsTuple node items ∧ ∀ i, yaml.asNumber (items i) = some (vector i)

/-- The entry is valid, and this is its calibration. Frame ids under the extrinsics
come before those of the camera. -/
def IsCalibration (cam : N) (calib : CameraCalibration F) : Prop :=
  ∃ id extrinsics rotation translation frameId parentFrameId,
    yaml.member? cam "id" = some id ∧ yaml.member? cam "extrinsics" = some extrinsics ∧
    yaml.member? extrinsics "rotation_matrix" = some rotation ∧
    yaml.member? extrinsics "translation_vector" = some translation ∧
    yaml.asString id = some calib.hwId ∧
    TextOr yaml "" (yaml.member? cam "description") calib.description ∧
    TextOr yaml "" (yaml.member? cam "frame_id") frameId ∧
    TextOr yaml "" (yaml.member? cam "parent_frame_id") parentFrameId ∧
    TextOr yaml frameId (yaml.member? extrinsics "frame_id") calib.frameId ∧
    TextOr yaml parentFrameId (yaml.member? extrinsics "parent_frame_id") calib.parentFrameId ∧
    IsMatrix yaml rotation calib.extrinsics.rotation ∧ IsVector yaml translation calib.extrinsics.translation

/-- These are the calibrations of the valid entries, in order. -/
inductive ValidEntries : List N → List (CameraCalibration F) → Prop
  | nil : ValidEntries [] []
  | valid {cam : N} {calib : CameraCalibration F} {entries : List N} {calibs : List (CameraCalibration F)}
      (is : IsCalibration yaml cam calib) (rest : ValidEntries entries calibs) :
      ValidEntries (cam :: entries) (calib :: calibs)
  | invalid {cam : N} {entries : List N} {calibs : List (CameraCalibration F)}
      (no : ∀ calib, ¬ IsCalibration yaml cam calib) (rest : ValidEntries entries calibs) :
      ValidEntries (cam :: entries) calibs

/-- The entries of the top-level `cameras` list, if there is one. -/
def cameraEntries : CalibrationFile N → List N
  | .missing | .malformed => []
  | .document root =>
    match (yaml.member? root "cameras").map yaml.content with
    | some (.sequence entries) => entries
    | _ => []

/-- `load` returns, and `_cameras` holds the valid entries. -/
def LoadsValidEntries (cameras : List (CameraCalibration F)) (file : CalibrationFile N) : Prop :=
  (CalibrationParser.load yaml cameras file).1 = .ok () ∧
    ValidEntries yaml (cameraEntries yaml file) (CalibrationParser.load yaml cameras file).2

/-! ## One entry -/

variable {yaml} {cam : N} {calib : CameraCalibration F}

theorem optionalText_eq_ok_iff {kept text : String} {node : Option N} :
    yaml.optionalText kept node = .ok text ↔ TextOr yaml kept node text := by
  cases node with
  | none => simp [YamlReader.optionalText, TextOr, eq_comm]
  | some node => exact YamlReader.text_eq_ok_iff

theorem readTranslation_eq_ok_iff {node : N} {vector : Fin 3 → F} :
    readTranslation yaml (some node) = .ok vector ↔ IsVector yaml node vector := by
  unfold readTranslation IsVector
  rw [YamlReader.readTuple_eq_ok_iff]
  simp only [YamlReader.number_eq_ok_iff]

theorem readRotation_eq_ok_iff {node : N} {matrix : Fin 3 → Fin 3 → F} :
    readRotation yaml (some node) = .ok matrix ↔ IsMatrix yaml node matrix := by
  unfold readRotation IsMatrix
  rw [YamlReader.readTuple_eq_ok_iff]
  constructor
  · rintro ⟨rows, tuple, each⟩
    choose cells is_row numbers using fun i => YamlReader.readTuple_eq_ok_iff.mp (each i)
    exact ⟨rows, cells, tuple, is_row, fun i j => YamlReader.number_eq_ok_iff.mp (numbers i j)⟩
  · rintro ⟨rows, cells, tuple, is_row, numbers⟩
    refine ⟨rows, tuple, fun i => YamlReader.readTuple_eq_ok_iff.mpr ⟨cells i, is_row i, fun j => ?_⟩⟩
    exact YamlReader.number_eq_ok_iff.mpr (numbers i j)

/-- A member that has to be there. -/
theorem required_eq_ok_iff {α : Type} {node : N} {key field : String} {rest : Option N → Except YamlException α}
    {result : α} :
    (yaml.subscript (some node) key >>= fun found => require field found >>= fun _ => rest found) = .ok result ↔
      ∃ child, yaml.member? node key = some child ∧ rest (some child) = .ok result := by
  constructor
  · intro ends
    obtain ⟨found, at_key, ends⟩ := bind_eq_ok ends
    obtain ⟨-, same⟩ := YamlReader.subscript_eq_ok_iff.mp at_key
    cases found with
    | none => cases ends
    | some child => exact ⟨child, same, ends⟩
  · rintro ⟨child, at_key, ends⟩
    rw [YamlReader.subscript_ok (YamlReader.not_scalar_of_member at_key), ok_bind, at_key]
    exact ends

theorem readEntry_eq_ok_iff : readEntry yaml cam = .ok calib ↔ IsCalibration yaml cam calib := by
  constructor
  · intro read
    obtain ⟨id, at_id, read⟩ := required_eq_ok_iff.mp read
    obtain ⟨extrinsics, at_extrinsics, read⟩ := required_eq_ok_iff.mp read
    obtain ⟨rotation, at_rotation, read⟩ := required_eq_ok_iff.mp read
    obtain ⟨translation, at_translation, read⟩ := required_eq_ok_iff.mp read
    have plain := YamlReader.not_scalar_of_member at_id
    have plain_extrinsics := YamlReader.not_scalar_of_member at_rotation
    simp only [YamlReader.subscript_ok plain, YamlReader.subscript_ok plain_extrinsics, ok_bind] at read
    obtain ⟨hwId, is_hwId, read⟩ := bind_eq_ok read
    obtain ⟨description, is_description, read⟩ := bind_eq_ok read
    obtain ⟨outerFrame, is_outerFrame, read⟩ := bind_eq_ok read
    obtain ⟨outerParent, is_outerParent, read⟩ := bind_eq_ok read
    obtain ⟨frame, is_frame, read⟩ := bind_eq_ok read
    obtain ⟨parent, is_parent, read⟩ := bind_eq_ok read
    obtain ⟨matrix, is_matrix, read⟩ := bind_eq_ok read
    obtain ⟨vector, is_vector, read⟩ := bind_eq_ok read
    obtain rfl := Except.ok.inj read
    exact ⟨id, extrinsics, rotation, translation, outerFrame, outerParent, at_id, at_extrinsics, at_rotation,
      at_translation, YamlReader.text_eq_ok_iff.mp is_hwId, optionalText_eq_ok_iff.mp is_description,
      optionalText_eq_ok_iff.mp is_outerFrame, optionalText_eq_ok_iff.mp is_outerParent,
      optionalText_eq_ok_iff.mp is_frame, optionalText_eq_ok_iff.mp is_parent,
      readRotation_eq_ok_iff.mp is_matrix, readTranslation_eq_ok_iff.mp is_vector⟩
  · rintro ⟨id, extrinsics, rotation, translation, outerFrame, outerParent, at_id, at_extrinsics, at_rotation,
      at_translation, is_hwId, is_description, is_outerFrame, is_outerParent, is_frame, is_parent, is_matrix,
      is_vector⟩
    have plain := YamlReader.not_scalar_of_member at_id
    have plain_extrinsics := YamlReader.not_scalar_of_member at_rotation
    refine required_eq_ok_iff.mpr ⟨id, at_id, ?_⟩
    refine required_eq_ok_iff.mpr ⟨extrinsics, at_extrinsics, ?_⟩
    refine required_eq_ok_iff.mpr ⟨rotation, at_rotation, ?_⟩
    refine required_eq_ok_iff.mpr ⟨translation, at_translation, ?_⟩
    simp only [YamlReader.subscript_ok plain, YamlReader.subscript_ok plain_extrinsics, ok_bind,
      YamlReader.text_eq_ok_iff.mpr is_hwId, optionalText_eq_ok_iff.mpr is_description,
      optionalText_eq_ok_iff.mpr is_outerFrame, optionalText_eq_ok_iff.mpr is_outerParent,
      optionalText_eq_ok_iff.mpr is_frame, optionalText_eq_ok_iff.mpr is_parent,
      readRotation_eq_ok_iff.mpr is_matrix, readTranslation_eq_ok_iff.mpr is_vector]
    rfl

/-! ## The list -/

/-- The loop keeps what it has and appends the calibrations of the valid entries. -/
theorem validEntries_of_loop (entries : List N) (before : List (CameraCalibration F)) :
    ∃ calibs, entries.foldl (addEntry yaml) before = before ++ calibs ∧ ValidEntries yaml entries calibs := by
  induction entries generalizing before with
  | nil => exact ⟨[], (List.append_nil before).symm, .nil⟩
  | cons cam entries ih =>
    rw [List.foldl_cons]
    cases read : readEntry yaml cam with
    | ok calib =>
      obtain ⟨calibs, same, valid⟩ := ih (before ++ [calib])
      refine ⟨calib :: calibs, ?_, .valid (readEntry_eq_ok_iff.mp read) valid⟩
      simpa [addEntry, read] using same
    | error failure =>
      obtain ⟨calibs, same, valid⟩ := ih before
      refine ⟨calibs, by simpa [addEntry, read] using same, .invalid (fun calib is => ?_) valid⟩
      rw [readEntry_eq_ok_iff.mpr is] at read
      cases read

/-- The entries determine the calibrations. -/
theorem ValidEntries.unique {entries : List N} {calibs others : List (CameraCalibration F)}
    (these : ValidEntries yaml entries calibs) (those : ValidEntries yaml entries others) : calibs = others := by
  induction these generalizing others with
  | nil =>
    cases those
    rfl
  | valid is _ ih =>
    cases those with
    | valid other rest =>
      obtain rfl := Except.ok.inj ((readEntry_eq_ok_iff.mpr is).symm.trans (readEntry_eq_ok_iff.mpr other))
      rw [ih rest]
    | invalid no _ => exact absurd is (no _)
  | invalid no _ ih =>
    cases those with
    | valid is _ => exact absurd is (no _)
    | invalid _ rest => exact ih rest

variable {cameras : List (CameraCalibration F)}

/-- Without a list the loop has nothing to do. -/
theorem load_plain {root : N} (plain : ¬ yaml.IsScalar root) :
    CalibrationParser.load yaml cameras (.document root) =
      (.ok (), (cameraEntries yaml (.document root)).foldl (addEntry yaml) []) := by
  unfold CalibrationParser.load cameraEntries
  simp only [YamlReader.subscript_ok plain]
  rcases (yaml.member? root "cameras").map yaml.content with _ | (_ | _ | _ | _)
  all_goals rfl

theorem load_scalar {root : N} (scalar : yaml.IsScalar root) :
    CalibrationParser.load yaml cameras (.document root) = (.error .badSubscript, []) := by
  unfold CalibrationParser.load
  simp only [YamlReader.subscript_throws scalar]

/-- The file's calibrations are loaded if and only if the list could be looked up in
it; where there is no document, `_cameras` is left as it was and the constructor
has left it empty. -/
theorem valid_entries_loaded_iff (yaml : YamlReader N F) (cameras : List (CameraCalibration F))
    (file : CalibrationFile N) :
    LoadsValidEntries yaml cameras file ↔
      match file with
      | .missing | .malformed => cameras = []
      | .document root => ¬ yaml.IsScalar root := by
  cases file with
  | missing | malformed =>
    constructor
    · rintro ⟨-, valid⟩
      exact valid.unique .nil
    · rintro rfl
      exact ⟨rfl, .nil⟩
  | document root =>
    unfold LoadsValidEntries
    constructor
    · rintro ⟨returns, -⟩ scalar
      rw [load_scalar scalar] at returns
      cases returns
    · intro plain
      obtain ⟨calibs, same, valid⟩ := validEntries_of_loop (cameraEntries yaml (.document root)) []
      rw [load_plain plain, same]
      exact ⟨rfl, valid⟩

/-- A reader of documents that are one word. -/
def wordReader : YamlReader String Nat where
  content := .scalar
  asString word := some word
  asNumber _ := none

/-- A calibration file with one word in it ends the start of the node. -/
theorem scalar_document_throws :
    ¬ ∀ (N F : Type) (yaml : YamlReader N F) (file : CalibrationFile N), LoadsValidEntries yaml [] file := by
  intro always
  have loads := always String Nat wordReader (.document "none")
  unfold LoadsValidEntries at loads
  rw [load_scalar ⟨"none", rfl⟩] at loads
  cases loads.1

/-! ## The calibration of a device -/

theorem ValidEntries.mem_iff {entries : List N} {calibs : List (CameraCalibration F)}
    (valid : ValidEntries yaml entries calibs) (calib : CameraCalibration F) :
    calib ∈ calibs ↔ ∃ cam ∈ entries, IsCalibration yaml cam calib := by
  induction valid with
  | nil => simp
  | @valid cam own _ _ is _ ih =>
    have only : IsCalibration yaml cam calib ↔ calib = own := by
      refine ⟨fun other => ?_, by rintro rfl; exact is⟩
      exact Except.ok.inj ((readEntry_eq_ok_iff.mpr other).symm.trans (readEntry_eq_ok_iff.mpr is))
    simp [ih, only]
  | invalid no _ ih => simp [ih, no]

/-- A device has no calibration if and only if no valid entry has its id. -/
theorem getCalibration_eq_none_iff {entries : List N} {calibs : List (CameraCalibration F)}
    (valid : ValidEntries yaml entries calibs) (hardwareId : String) :
    getCalibration calibs hardwareId = none ↔
      ∀ cam ∈ entries, ∀ calib, IsCalibration yaml cam calib → calib.hwId ≠ hardwareId := by
  unfold getCalibration
  simp only [List.find?_eq_none, decide_eq_true_eq, valid.mem_iff]
  constructor
  · exact fun none cam listed calib is => none calib ⟨cam, listed, is⟩
  · rintro none calib ⟨cam, listed, is⟩
    exact none cam listed calib is

end AsDt1.Guarantees
