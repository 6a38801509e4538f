import AsDt1.Guarantees.CameraPairing

/-!
# The port of the requested camera

`find_port` compares the number with two stretches of a description, both at fixed
places and at least seven characters long. An entry ahead of the requested camera
can end the search in three ways: its serial begins with a number of seven
characters or more, its product name and serial do, or it is too short for the
second comparison, which then throws.
-/
namespace AsDt1.Guarantees
open AsDt1.Lib AsDt1.Source

/-- How the port of an AS-DT1 with this serial is described. -/
def cameraDescription (serial : Text) : Text := usbSysfsFriendlyName sony asDt1 serial

/-- The port of the first entry whose description is exactly the requested one. -/
def requestedPort (serialNumber : Text) (ports : List PortInfo) : Text :=
  ((ports.find? fun info => info.description = cameraDescription serialNumber).map PortInfo.port).getD []

/-- Whatever the ports are called, the search does not throw and ends at the
requested camera, or at none if it is not listed. -/
def FindsRequested (serialNumber : Text) (descriptions : List Text) : Prop :=
  ∀ ports : List PortInfo, ports.map PortInfo.description = descriptions →
    findPort serialNumber ports = .ok (requestedPort serialNumber ports)

/-- The text is taken for the number. -/
def TakenFor (serialNumber text : Text) : Prop :=
  text = serialNumber ∨ 7 ≤ serialNumber.length ∧ serialNumber <+: text

/-- The search goes on behind an entry with this description. -/
def PassedOver (serialNumber description : Text) : Prop :=
  isAsDt1Port ⟨[], description⟩ = false ∨
    12 ≤ description.length ∧ ¬ TakenFor serialNumber (description.drop 5) ∧
      ¬ TakenFor serialNumber (description.drop 12)

/-- Every entry ahead of the requested camera is passed over. -/
def NothingMistaken (serialNumber : Text) (descriptions : List Text) : Prop :=
  ∀ description ∈ descriptions.takeWhile (fun other => other ≠ cameraDescription serialNumber),
    PassedOver serialNumber description

instance (serialNumber text : Text) : Decidable (TakenFor serialNumber text) :=
  inferInstanceAs (Decidable (_ ∨ _ ∧ _))

instance (serialNumber description : Text) : Decidable (PassedOver serialNumber description) :=
  inferInstanceAs (Decidable (_ ∨ _ ∧ _ ∧ _))

instance (serialNumber : Text) (descriptions : List Text) :
    Decidable (NothingMistaken serialNumber descriptions) :=
  inferInstanceAs (Decidable (∀ _ ∈ _, _))

variable {serialNumber description : Text}

/-! ## One entry -/

theorem takenFor_iff (text : Text) :
    text.take (max 7 serialNumber.length) = serialNumber ↔ TakenFor serialNumber text :=
  take_eq_iff text serialNumber

theorem substr_ok {text : Text} {pos : Nat} (inside : pos ≤ text.length) (len : Nat) :
    substr text pos len = .ok ((text.drop pos).take len) := if_neg (by omega)

theorem substr_throws {text : Text} {pos : Nat} (outside : text.length < pos) (len : Nat) :
    substr text pos len = .error "basic_string::substr" := if_pos outside

/-- The two comparisons, made on the description of an AS-DT1 only. -/
theorem portMatches_asDt1 (numbered : serialNumber ≠ []) {port : Text}
    (model : isAsDt1Port ⟨port, description⟩ = true) :
    portMatches serialNumber ⟨port, description⟩ =
      (substr description 5 (max 7 serialNumber.length)).bind fun first =>
        if first = serialNumber then .ok true
        else (substr description 12 (max 7 serialNumber.length)).bind fun second =>
          .ok (decide (second = serialNumber)) := by
  have some : serialNumber.isEmpty = false := by simpa using numbered
  simp only [portMatches, model, some, Bool.not_true, Bool.false_eq_true, if_false]
  rfl

theorem portMatches_passes_iff (numbered : serialNumber ≠ []) (port : Text) :
    portMatches serialNumber ⟨port, description⟩ = .ok false ↔ PassedOver serialNumber description := by
  unfold PassedOver
  rw [show isAsDt1Port ⟨[], description⟩ = isAsDt1Port ⟨port, description⟩ from rfl]
  cases model : isAsDt1Port ⟨port, description⟩ with
  | false => simp [portMatches, model]
  | true =>
    rw [portMatches_asDt1 numbered model, ← takenFor_iff (description.drop 5),
      ← takenFor_iff (description.drop 12)]
    by_cases five : description.length < 5
    · rw [substr_throws five]
      simp [Except.bind]
      omega
    · rw [substr_ok (by omega)]
      by_cases taken : (description.drop 5).take (max 7 serialNumber.length) = serialNumber
      · simp [Except.bind, taken]
      · by_cases twelve : description.length < 12
        · rw [substr_throws twelve]
          simp [Except.bind, taken]
          omega
        · rw [substr_ok (by omega)]
          simp [Except.bind, taken]
          omega

/-- An entry that is too short for the second comparison ends the search with an
exception, unless the first one succeeds. -/
theorem short_description_throws (numbered : serialNumber ≠ []) (port : Text)
    (model : isAsDt1Port ⟨port, description⟩ = true) (short : description.length < 12)
    (other : ¬ TakenFor serialNumber (description.drop 5)) :
    portMatches serialNumber ⟨port, description⟩ = .error "basic_string::substr" := by
  rw [portMatches_asDt1 numbered model]
  by_cases five : description.length < 5
  · rw [substr_throws five]
    rfl
  · have unequal := mt (takenFor_iff (description.drop 5)).mp other
    rw [substr_ok (by omega), substr_throws short]
    simp [Except.bind, unequal]

theorem portMatches_requested (numbered : serialNumber ≠ []) (port : Text) :
    portMatches serialNumber ⟨port, cameraDescription serialNumber⟩ = .ok true :=
  (port_accepts_iff serialNumber ⟨serialNumber, port, ⟨[], false, none, none⟩⟩ numbered).mpr (Or.inl rfl)

/-! ## The search -/

theorem findPort_passes {info : PortInfo} {rest : List PortInfo}
    (passed : portMatches serialNumber info = .ok false) :
    findPort serialNumber (info :: rest) = findPort serialNumber rest := by
  show (portMatches serialNumber info).bind _ = _
  rw [passed]
  rfl

theorem findPort_ends {info : PortInfo} {rest : List PortInfo}
    (accepted : portMatches serialNumber info = .ok true) :
    findPort serialNumber (info :: rest) = .ok info.port := by
  show (portMatches serialNumber info).bind _ = _
  rw [accepted]
  rfl

theorem findPort_throws {info : PortInfo} {rest : List PortInfo} {what : String}
    (thrown : portMatches serialNumber info = .error what) :
    findPort serialNumber (info :: rest) = .error what := by
  show (portMatches serialNumber info).bind _ = _
  rw [thrown]
  rfl

theorem requestedPort_other {info : PortInfo} {rest : List PortInfo}
    (other : info.description ≠ cameraDescription serialNumber) :
    requestedPort serialNumber (info :: rest) = requestedPort serialNumber rest := by
  simp [requestedPort, other]

theorem requestedPort_own (port : Text) (rest : List PortInfo) :
    requestedPort serialNumber (⟨port, cameraDescription serialNumber⟩ :: rest) = port := by
  simp [requestedPort]

theorem requestedPort_unnamed (rest : List Text) :
    requestedPort serialNumber (rest.map fun description => ⟨[], description⟩) = [] := by
  induction rest with
  | nil => rfl
  | cons description rest ih =>
    by_cases own : description = cameraDescription serialNumber
    · subst own
      exact requestedPort_own [] _
    · rw [List.map_cons]
      exact (requestedPort_other own).trans ih

theorem findsRequested_passes (numbered : serialNumber ≠ []) {rest : List Text}
    (passed : PassedOver serialNumber description) (other : description ≠ cameraDescription serialNumber) :
    FindsRequested serialNumber (description :: rest) ↔ FindsRequested serialNumber rest := by
  have step : ∀ port ports, findPort serialNumber (⟨port, description⟩ :: ports) =
      .ok (requestedPort serialNumber (⟨port, description⟩ :: ports)) ↔
        findPort serialNumber ports = .ok (requestedPort serialNumber ports) := by
    intro port ports
    rw [findPort_passes ((portMatches_passes_iff numbered port).mpr passed), requestedPort_other other]
  constructor
  · intro finds ports described
    exact (step [] ports).mp (finds _ (by rw [List.map_cons, described]))
  · intro finds ports described
    cases ports with
    | nil => cases described
    | cons info ports =>
      obtain ⟨port, own⟩ := info
      obtain ⟨rfl, rest_described⟩ := List.cons.inj described
      exact (step port ports).mpr (finds ports rest_described)

/-- The entry ends the search, by an exception or under its own name. -/
theorem not_findsRequested (numbered : serialNumber ≠ []) {rest : List Text}
    (ends : ¬ PassedOver serialNumber description) (other : description ≠ cameraDescription serialNumber) :
    ¬ FindsRequested serialNumber (description :: rest) := by
  intro finds
  have described : (⟨['x'], description⟩ :: rest.map fun later => ⟨[], later⟩ : List PortInfo).map
      PortInfo.description = description :: rest := by
    rw [List.map_cons, List.map_map]
    exact congrArg _ (List.map_id rest)
  have found := finds _ described
  rw [requestedPort_other other, requestedPort_unnamed] at found
  cases tested : portMatches serialNumber ⟨['x'], description⟩ with
  | error what =>
    rw [findPort_throws tested] at found
    cases found
  | ok accepted =>
    cases accepted with
    | false => exact ends ((portMatches_passes_iff numbered _).mp tested)
    | true =>
      rw [findPort_ends tested] at found
      cases found

/-- The search finds the requested camera in every list of ports with these
descriptions if and only if every entry ahead of it is passed over. -/
theorem requested_found_iff (numbered : serialNumber ≠ []) (descriptions : List Text) :
    FindsRequested serialNumber descriptions ↔ NothingMistaken serialNumber descriptions := by
  unfold NothingMistaken
  induction descriptions with
  | nil =>
    refine ⟨fun _ description listed => absurd listed List.not_mem_nil, fun _ ports described => ?_⟩
    obtain rfl := List.map_eq_nil_iff.mp described
    rfl
  | cons description rest ih =>
    by_cases own : description = cameraDescription serialNumber
    · subst own
      refine ⟨fun _ description listed => by simp at listed, fun _ ports described => ?_⟩
      cases ports with
      | nil => cases described
      | cons info ports =>
        obtain ⟨port, own⟩ := info
        obtain ⟨rfl, -⟩ := List.cons.inj described
        rw [findPort_ends (portMatches_requested numbered port), requestedPort_own]
    · rw [List.takeWhile_cons_of_pos (by simpa using own)]
      by_cases passed : PassedOver serialNumber description
      · rw [findsRequested_passes numbered passed own, ih]
        simp [passed]
      · constructor
        · exact fun finds => absurd finds (not_findsRequested numbered passed own)
        · exact fun none => absurd (none description (List.mem_cons_self ..)) passed

/-- The requested camera behind one with a longer serial that does not begin with the number. -/
theorem second_camera_found : FindsRequested "1234567".toList
    [cameraDescription "76543210".toList, cameraDescription "1234567".toList] :=
  (requested_found_iff (by decide) _).mpr (by decide)

/-- A camera whose serial begins with the requested number is taken for it. -/
theorem longer_serial_mistaken :
    ¬ ∀ (serialNumber : Text) (descriptions : List Text), serialNumber ≠ [] →
      FindsRequested serialNumber descriptions := by
  intro always
  have found := always "4200059".toList
    [cameraDescription "42000591".toList, cameraDescription "4200059".toList] (by decide)
    [⟨"/dev/ttyACM0".toList, cameraDescription "42000591".toList⟩,
      ⟨"/dev/ttyACM1".toList, cameraDescription "4200059".toList⟩] rfl
  revert found
  decide

end AsDt1.Guarantees
