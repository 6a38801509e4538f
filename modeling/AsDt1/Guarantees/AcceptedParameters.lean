import Mathlib.Data.List.Induction
import Mathlib.Data.List.TakeWhile
import AsDt1.Guarantees.ParameterRollback
import AsDt1.Source.Driver

/-!
# Accepted parameter vectors in effect

`on_parameters_set` accepts a vector without asking the setters whether they took
the values. `set_frame_rate` has another range than the callback, the callback
checks the low 32 bits of a rate only, and `output_format` has no branch. The
module says which accepted vectors are in effect after all.
-/
namespace AsDt1.Guarantees
open AsDt1.Lib AsDt1.Source

/-- What a vector asks for one parameter: the last of its entries with that name. -/
def lastValue (name : String) (parameters : List Parameter) : Option ParameterValue :=
  ((parameters.filter fun parameter => parameter.name = name).map Parameter.value).getLast?

/-- The driver works with this value of the declared parameter. -/
def Uses (driver : Driver) (name : String) (value : ParameterValue) : Prop :=
  match name with
  | "calibration_file" => value = .string driver.configured.calibrationFile
  | "serial_number" => value = .integer driver.configured.serialNumber
  | "mode" => ∃ modeStr, value = .string modeStr ∧ driver.device.settings.mode = getModeNbr modeStr
  | "framerate" => ∃ hz, value = .integer hz ∧ driver.device.settings.frameRateHz = hz.toInt
  | "sync_mode" => ∃ modeStr, value = .string modeStr ∧
      stringToSyncMode modeStr = some driver.device.settings.syncMode
  | "output_format" => ∃ format, value = .string format ∧ createDevice format = some driver.kind
  | _ => True

/-- Every declared parameter of the vector has its last requested value. -/
def InEffect (driver : Driver) (parameters : List Parameter) : Prop :=
  ∀ name ∈ declaredParameters, ∀ value, lastValue name parameters = some value → Uses driver name value

/-! ## Reachable drivers -/

/-- What no call changes: a rate that the camera can run at, and everything that
only the constructor sets. -/
structure Configured (start driver : Driver) : Prop where
  rate : 1 ≤ driver.device.settings.frameRateHz ∧ driver.device.settings.frameRateHz ≤ 30
  configured : driver.configured = start.configured
  kind : driver.kind = start.kind

theorem setFrameRate_range {s : Settings} (range : 1 ≤ s.frameRateHz ∧ s.frameRateHz ≤ 30) (hz : Int) :
    1 ≤ (s.setFrameRate hz).frameRateHz ∧ (s.setFrameRate hz).frameRateHz ≤ 30 := by
  unfold Settings.setFrameRate
  by_cases inside : hz ≥ 1 ∧ hz ≤ 30
  · rw [if_pos inside]
    exact inside
  · rw [if_neg inside]
    exact range

theorem setMode_frameRateHz (s : Settings) (newMode : Int) :
    (s.setMode newMode).2.frameRateHz = s.frameRateHz := by
  unfold Settings.setMode
  split <;> rfl

theorem serve_range {d : Device} (range : 1 ≤ d.settings.frameRateHz ∧ d.settings.frameRateHz ≤ 30)
    (r : Request) :
    1 ≤ (d.serve r).settings.frameRateHz ∧ (d.serve r).settings.frameRateHz ≤ 30 := by
  rw [serve_frameRate]
  cases r with
  | frameRate hz =>
    have moved := setFrameRate_range range hz
    have stored := serve_frameRate d (.frameRate hz)
    rw [← stored]
    exact moved
  | nothing | mode | sync => exact range

theorem scan_range {d : Device} (reboot : Bool) (parameters : List Parameter)
    (range : 1 ≤ d.settings.frameRateHz ∧ d.settings.frameRateHz ≤ 30) :
    1 ≤ (scanParameters d reboot parameters).device.settings.frameRateHz ∧
      (scanParameters d reboot parameters).device.settings.frameRateHz ≤ 30 := by
  induction parameters generalizing d reboot with
  | nil => exact range
  | cons parameter rest ih =>
    cases checked : checkParameter parameter with
    | error reason =>
      simp only [scanParameters, checked]
      exact range
    | ok r =>
      simp only [scanParameters, checked]
      exact ih _ (serve_range range r)

theorem construct_configured {configured : Configuration} {start : Driver}
    (built : Driver.construct configured = some start) :
    start.configured = configured ∧ createDevice configured.outputFormat = some start.kind ∧
      Configured start start := by
  obtain ⟨kind, known, built⟩ := Option.bind_eq_some_iff.mp built
  obtain rfl := Option.some.inj built
  refine ⟨rfl, known, ?_, rfl, rfl⟩
  have rate := setFrameRate_range (s := {}) (by decide) (asInt configured.framerate)
  simp only [setMode_frameRateHz]
  exact rate

theorem reached_configured {start driver : Driver} (begins : Configured start start)
    (reached : (driverNode start).Reached Machine.Unrestricted driver) : Configured start driver := by
  refine reached.invariant begins ?_
  intro before call after holds _ taken
  cases call with
  | setParameters parameters =>
    cases taken
    exact ⟨scan_range false parameters holds.rate, holds.configured, holds.kind⟩
  | streaming running =>
    cases taken
    exact ⟨holds.rate, holds.configured, holds.kind⟩

/-! ## The last request for a register -/

/-- No later entry replaces the one that decides. -/
theorem lastValue_split {name : String} {parameters : List Parameter} {value : ParameterValue}
    (asked : lastValue name parameters = some value) :
    ∃ before after, parameters = before ++ ⟨name, value⟩ :: after ∧
      ∀ later ∈ after, later.name ≠ name := by
  unfold lastValue at asked
  induction parameters using List.reverseRecOn with
  | nil => cases asked
  | append_singleton parameters last ih =>
    by_cases named : last.name = name
    · rw [List.filter_append, List.filter_singleton, decide_eq_true named, cond_true, List.map_append,
        List.map_singleton, List.getLast?_concat] at asked
      subst named
      cases asked
      exact ⟨parameters, [], rfl, by simp⟩
    · rw [List.filter_append, List.filter_singleton, decide_eq_false named, cond_false,
        List.append_nil] at asked
      obtain ⟨before, after, rfl, none_later⟩ := ih asked
      refine ⟨before, after ++ [last], by simp, fun later listed => ?_⟩
      rcases List.mem_append.mp listed with among | is_last
      · exact none_later later among
      · rw [List.mem_singleton.mp is_last]
        exact named

/-- Requests of parameters that do not write the register are no writes. -/
theorem silent_requests {β : Type} {write : Request → Option β} {parameters : List Parameter}
    (silent : ∀ parameter ∈ parameters, ∀ r, checkParameter parameter = .ok r → write r = none) :
    (requests parameters).filterMap write = [] := by
  rw [List.filterMap_eq_nil_iff]
  intro r listed
  obtain ⟨parameter, among, read⟩ := List.mem_filterMap.mp listed
  cases checked : checkParameter parameter with
  | error reason => simp [checked, Except.toOption] at read
  | ok r' =>
    obtain rfl : r' = r := by simpa [checked, Except.toOption] using read
    exact silent parameter among r' checked

/-- The device after an accepted vector has the register as the last parameter that
writes it left it. -/
theorem register_of_last {β : Type} (register : Device → β) {write : Request → Option β}
    (tracked : ∀ d r, Checked r → register (d.serve r) = (write r).getD (register d)) {d : Device}
    {before after : List Parameter} {parameter : Parameter} {r : Request}
    (accepted : ∀ other ∈ before ++ parameter :: after, accepts other = true)
    (checked : checkParameter parameter = .ok r)
    (silent : ∀ later ∈ after, ∀ r', checkParameter later = .ok r' → write r' = none) :
    register (onParametersSet d (before ++ parameter :: after)).device =
      (write r).getD (lastWritten (register d) ((requests before).filterMap write)) := by
  have whole : beforeRejection (before ++ parameter :: after) = before ++ parameter :: after :=
    List.takeWhile_eq_self_iff.mpr accepted
  have split_requests : requests (before ++ parameter :: after) = requests before ++ r :: requests after := by
    rw [← requests_cons_ok after checked]
    unfold requests
    exact List.filterMap_append
  unfold onParametersSet
  rw [scan_device, whole, served_register register write tracked _ (requests_checked _) d, split_requests,
    List.filterMap_append, List.filterMap_cons, silent_requests silent, lastWritten_append]
  cases write r with
  | none => rfl
  | some value => rfl

/-- An accepted parameter writes no register but the one of its name. -/
theorem writes_only_named {parameter : Parameter} {r : Request} (checked : checkParameter parameter = .ok r) :
    (parameter.name ≠ "mode" → modeRequest r = none) ∧
      (parameter.name ≠ "framerate" → frameRateRequest r = none) ∧
      (parameter.name ≠ "sync_mode" → syncModeRequest r = none) := by
  rcases checkParameter_cases checked with ⟨named, _, -, -, rfl⟩ | ⟨named, _, -, -, -, rfl⟩ |
    ⟨named, _, _, -, -, rfl⟩ | ⟨-, rfl⟩
  · exact ⟨fun other => absurd named other, fun _ => rfl, fun _ => rfl⟩
  · exact ⟨fun _ => rfl, fun other => absurd named other, fun _ => rfl⟩
  · exact ⟨fun _ => rfl, fun _ => rfl, fun other => absurd named other⟩
  · exact ⟨fun _ => rfl, fun _ => rfl, fun _ => rfl⟩

/-- The low 32 bits of a small rate are the rate. -/
theorem asInt_of_small {value : BitVec 64} (positive : 1 ≤ value.toInt) (upto : value.toInt ≤ 30) :
    asInt value = value.toInt := by
  unfold asInt
  rw [BitVec.truncate_eq_setWidth, BitVec.toInt_setWidth]
  have word := value.isLt
  rw [BitVec.toInt_eq_toNat_cond] at positive upto ⊢
  split at positive
  · rw [if_pos ‹_›] at upto ⊢
    rw [Int.bmod_eq_of_le] <;> omega
  · omega

theorem createDevice_inj {format other : String} {kind : Kind} (known : createDevice format = some kind)
    (also : createDevice other = some kind) : format = other := by
  unfold createDevice at known also
  split at known <;> split at also <;> cases known <;> cases also <;> rfl

/-! ## Name by name -/

section Accepted

variable {driver : Driver} {parameters : List Parameter} {value : ParameterValue}
  (accepted : ∀ parameter ∈ parameters, accepts parameter = true)
include accepted

/-- The deciding entry was checked, and the ones after it have other names. -/
theorem deciding_entry {name : String} (asked : lastValue name parameters = some value) :
    ∃ before after r, parameters = before ++ ⟨name, value⟩ :: after ∧ checkParameter ⟨name, value⟩ = .ok r ∧
      ∀ later ∈ after, later.name ≠ name := by
  obtain ⟨before, after, rfl, none_later⟩ := lastValue_split asked
  obtain ⟨r, checked⟩ := (accepts_iff_ok _).mp (accepted ⟨name, value⟩ (by simp))
  exact ⟨before, after, r, rfl, checked, none_later⟩

theorem uses_mode (asked : lastValue "mode" parameters = some value) :
    Uses (driver.setParameters parameters) "mode" value := by
  obtain ⟨before, after, r, rfl, checked, none_later⟩ := deciding_entry accepted asked
  have written := register_of_last (d := driver.device) (·.settings.mode) serve_mode accepted checked
    fun later listed r' checked' => (writes_only_named checked').1 (none_later later listed)
  rcases checkParameter_cases checked with ⟨-, modeStr, rfl, -, rfl⟩ | ⟨named, -⟩ | ⟨named, -⟩ | ⟨named, -⟩
  · exact ⟨modeStr, rfl, written⟩
  · simp at named
  · simp at named
  · simp at named

theorem uses_syncMode (asked : lastValue "sync_mode" parameters = some value) :
    Uses (driver.setParameters parameters) "sync_mode" value := by
  obtain ⟨before, after, r, rfl, checked, none_later⟩ := deciding_entry accepted asked
  have written := register_of_last (d := driver.device) (·.settings.syncMode) (fun d r _ => serve_syncMode d r)
      accepted checked fun later listed r' checked' =>
        (writes_only_named checked').2.2 (none_later later listed)
  rcases checkParameter_cases checked with ⟨named, -⟩ | ⟨named, -⟩ | ⟨-, modeStr, sync, rfl, known, rfl⟩ |
    ⟨named, -⟩
  · simp at named
  · simp at named
  · exact ⟨modeStr, rfl, by rw [known]; exact congrArg some written.symm⟩
  · simp at named

/-- A rate is in effect if and only if the camera can run at it as an integer. -/
theorem uses_framerate_iff (range : 1 ≤ driver.device.settings.frameRateHz ∧
    driver.device.settings.frameRateHz ≤ 30) {hz : BitVec 64}
    (asked : lastValue "framerate" parameters = some (.integer hz)) :
    Uses (driver.setParameters parameters) "framerate" (.integer hz) ↔ 1 ≤ hz.toInt ∧ hz.toInt ≤ 30 := by
  have kept := scan_range false parameters range
  constructor
  · rintro ⟨hz', same, running⟩
    cases same
    rw [← running]
    exact kept
  · rintro ⟨positive, upto⟩
    obtain ⟨before, after, r, rfl, checked, none_later⟩ := deciding_entry accepted asked
    have written := register_of_last (d := driver.device) (·.settings.frameRateHz)
      (fun d r _ => serve_frameRate d r) accepted checked
      fun later listed r' checked' => (writes_only_named checked').2.1 (none_later later listed)
    rcases checkParameter_cases checked with ⟨named, -⟩ | ⟨-, hz', same, -, -, rfl⟩ | ⟨named, -⟩ | ⟨named, -⟩
    · simp at named
    · cases same
      refine ⟨hz, rfl, written.trans ?_⟩
      have small := asInt_of_small positive upto
      simp [frameRateRequest, small, positive, upto]
    · simp at named
    · simp at named

theorem framerate_integer (asked : lastValue "framerate" parameters = some value) :
    ∃ hz, value = .integer hz := by
  obtain ⟨before, after, r, rfl, checked, none_later⟩ := deciding_entry accepted asked
  rcases checkParameter_cases checked with ⟨named, -⟩ | ⟨-, hz, same, -⟩ | ⟨named, -⟩ | ⟨named, -⟩
  · simp at named
  · exact ⟨hz, same⟩
  · simp at named
  · simp at named

/-- The constructor's two parameters are never in an accepted vector. -/
theorem fixed_not_asked {name : String} (fixed : name = "calibration_file" ∨ name = "serial_number") :
    lastValue name parameters ≠ some value := by
  intro asked
  obtain ⟨before, after, r, rfl, checked, none_later⟩ := deciding_entry accepted asked
  rcases fixed with rfl | rfl <;> cases checked

end Accepted

/-- After an accepted vector every declared parameter of it is in effect if and only
if its last `framerate`, if any, lies in 1..30 as a 64-bit integer, and its last
`output_format`, if any, is the one the driver was started with. -/
theorem accepted_in_effect_iff {configured : Configuration} {start driver : Driver}
    (built : Driver.construct configured = some start)
    (reached : (driverNode start).Reached Machine.Unrestricted driver) {parameters : List Parameter}
    (accepted : (onParametersSet driver.device parameters).result.successful = true) :
    InEffect (driver.setParameters parameters) parameters ↔
      (∀ hz, lastValue "framerate" parameters = some (.integer hz) → 1 ≤ hz.toInt ∧ hz.toInt ≤ 30) ∧
        ∀ value, lastValue "output_format" parameters = some value →
          value = .string configured.outputFormat := by
  obtain ⟨rfl, created, begins⟩ := construct_configured built
  have holds := reached_configured begins reached
  rw [onParametersSet, scan_successful, List.all_eq_true] at accepted
  have format_used : ∀ value, Uses (driver.setParameters parameters) "output_format" value ↔
      value = .string start.configured.outputFormat := by
    intro value
    have same_kind : (driver.setParameters parameters).kind = start.kind := holds.kind
    constructor
    · rintro ⟨format, rfl, known⟩
      rw [same_kind] at known
      rw [createDevice_inj known created]
    · rintro rfl
      exact ⟨_, rfl, by rw [same_kind]; exact created⟩
  constructor
  · intro in_effect
    refine ⟨fun hz asked => ?_, fun value asked => ?_⟩
    · exact (uses_framerate_iff accepted holds.rate asked).mp (in_effect _ (by decide) _ asked)
    · exact (format_used value).mp (in_effect _ (by decide) _ asked)
  · rintro ⟨rate, format⟩ name declared value asked
    simp only [declaredParameters, List.mem_cons, List.not_mem_nil, or_false] at declared
    rcases declared with rfl | rfl | rfl | rfl | rfl | rfl
    · exact absurd asked (fixed_not_asked accepted (Or.inl rfl))
    · exact absurd asked (fixed_not_asked accepted (Or.inr rfl))
    · exact uses_mode accepted asked
    · obtain ⟨hz, rfl⟩ := framerate_integer accepted asked
      exact (uses_framerate_iff accepted holds.rate asked).mpr (rate hz asked)
    · exact uses_syncMode accepted asked
    · exact (format_used value).mpr (format value asked)

/-! ## The default driver -/

/-- What the constructor makes of the declared defaults. -/
def defaultDriver : Driver := ⟨{}, .cdc, ⟨⟨1, 30, .none⟩, false⟩⟩

theorem construct_default : Driver.construct {} = some defaultDriver := by decide

/-- The call succeeds, and what it asked for is not in effect. -/
def IgnoredSilently (driver : Driver) (parameters : List Parameter) : Prop :=
  (onParametersSet driver.device parameters).result.successful = true ∧
    ¬ InEffect (driver.setParameters parameters) parameters

/-- Rate 0, a rate of 2^32 + 15 and another output format. -/
theorem accepted_not_in_effect : IgnoredSilently defaultDriver [⟨"framerate", .integer 0⟩] ∧
    IgnoredSilently defaultDriver [⟨"framerate", .integer 4294967311⟩] ∧
    IgnoredSilently defaultDriver [⟨"output_format", .string "XYZITR"⟩] := by
  refine ⟨⟨by decide, fun in_effect => ?_⟩, ⟨by decide, fun in_effect => ?_⟩, by decide, fun in_effect => ?_⟩
  · obtain ⟨hz, same, running⟩ := in_effect "framerate" (by decide) _ rfl
    cases same
    exact absurd running (by decide)
  · obtain ⟨hz, same, running⟩ := in_effect "framerate" (by decide) _ rfl
    cases same
    exact absurd running (by decide)
  · obtain ⟨format, same, created⟩ := in_effect "output_format" (by decide) _ rfl
    cases same
    exact absurd created (by decide)

theorem half_rate_in_effect :
    InEffect (defaultDriver.setParameters [⟨"framerate", .integer 15⟩]) [⟨"framerate", .integer 15⟩] := by
  refine (accepted_in_effect_iff construct_default .start (by decide)).mpr
    ⟨fun hz asked => ?_, fun value asked => ?_⟩
  · cases asked
    decide
  · cases asked

end AsDt1.Guarantees
