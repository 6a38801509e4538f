import AsDt1.Lib.Lists
import AsDt1.Source.Parameters

/-!
# Rejected parameter vectors and the device

`on_parameters_set` acts on the device while it is still scanning, so a rejected
vector leaves behind whatever the parameters before the rejected one asked for.
The module computes that residue for every vector (`scan_device`, then one
closed form per register of the device) and derives exactly which rejected
vectors leave the device as it was.
-/
namespace AsDt1.Guarantees
open AsDt1.Lib AsDt1.Source

/-- Rows written to `_mode`; every one of them also stopped the device. -/
def modeRequest : Request → Option Int
  | .mode modeIdx => some modeIdx
  | _ => none

/-- Rates that `set_frame_rate` really stores. -/
def frameRateRequest : Request → Option Int
  | .frameRate hz => if hz ≥ 1 ∧ hz ≤ 30 then some hz else none
  | _ => none

def syncModeRequest : Request → Option SyncMode
  | .sync syncMode => some syncMode
  | _ => none

/-- The parameters the callback has already acted on when it meets the first
invalid one. -/
def beforeRejection (parameters : List Parameter) : List Parameter :=
  parameters.takeWhile accepts

/-- The parameters before the first invalid one request nothing the device is
not already doing: no mode while it runs, and the last mode, storable frame
rate and sync mode among them are the current ones. -/
structure RequestsNothingNew (d : Device) (parameters : List Parameter) : Prop where
  not_stopped : d.running = true → (requests parameters).filterMap modeRequest = []
  mode_kept : lastWritten d.settings.mode ((requests parameters).filterMap modeRequest) =
    d.settings.mode
  frame_rate_kept : lastWritten d.settings.frameRateHz
    ((requests parameters).filterMap frameRateRequest) = d.settings.frameRateHz
  sync_mode_kept : lastWritten d.settings.syncMode
    ((requests parameters).filterMap syncModeRequest) = d.settings.syncMode

theorem accepts_iff_ok (parameter : Parameter) :
    accepts parameter = true ↔ ∃ r, checkParameter parameter = .ok r := by
  unfold accepts
  cases checkParameter parameter <;> simp [Except.isOk, Except.toBool]

theorem requests_cons_ok {parameter : Parameter} {r : Request} (rest : List Parameter)
    (checked : checkParameter parameter = .ok r) :
    requests (parameter :: rest) = r :: requests rest := by
  simp [requests, checked, Except.toOption]

/-- Only rows of the mode table are requested. -/
theorem requested_mode_range {parameter : Parameter} {modeIdx : Int}
    (checked : checkParameter parameter = .ok (.mode modeIdx)) :
    ¬ (modeIdx < 0 ∨ modeIdx ≥ dt1ModesList.length) := by
  rcases checkParameter_cases checked with ⟨-, modeStr, -, known, same⟩ | ⟨-, _, -, -, -, other⟩ |
    ⟨-, _, _, -, -, other⟩ | ⟨-, other⟩
  · obtain rfl := Request.mode.inj same
    have upper := getModeNbr_lt modeStr
    omega
  all_goals cases other

/-- The whole loop, with its early return: the device is left where the requests
before the first invalid parameter took it. -/
theorem scan_device (d : Device) (reboot : Bool) (parameters : List Parameter) :
    (scanParameters d reboot parameters).device =
      (requests (beforeRejection parameters)).foldl Device.serve d := by
  induction parameters generalizing d reboot with
  | nil => rfl
  | cons parameter rest ih =>
    cases checked : checkParameter parameter with
    | error reason =>
      have invalid : accepts parameter = false := by simp [accepts, checked, Except.isOk, Except.toBool]
      simp [scanParameters, checked, beforeRejection, invalid, requests]
    | ok r =>
      have valid : accepts parameter = true := (accepts_iff_ok parameter).mpr ⟨r, checked⟩
      have split : beforeRejection (parameter :: rest) = parameter :: beforeRejection rest := by
        simp [beforeRejection, valid]
      rw [split, requests_cons_ok _ checked, List.foldl_cons, ← ih _ (reboot || r.reboots)]
      simp [scanParameters, checked]

theorem scan_successful (d : Device) (reboot : Bool) (parameters : List Parameter) :
    (scanParameters d reboot parameters).result.successful = parameters.all accepts := by
  induction parameters generalizing d reboot with
  | nil => rfl
  | cons parameter rest ih =>
    cases checked : checkParameter parameter with
    | error reason => simp [scanParameters, checked, accepts, Except.isOk, Except.toBool]
    | ok r => simp [scanParameters, checked, accepts, Except.isOk, Except.toBool, ih]

/-- Requests that went through `checkParameter` name a row of the table. -/
def Checked (r : Request) : Prop :=
  ∀ modeIdx, r = .mode modeIdx → ¬ (modeIdx < 0 ∨ modeIdx ≥ dt1ModesList.length)

theorem requests_checked (parameters : List Parameter) : ∀ r ∈ requests parameters, Checked r := by
  intro r member modeIdx isMode
  obtain ⟨parameter, -, read⟩ := List.mem_filterMap.mp member
  subst isMode
  cases checked : checkParameter parameter with
  | error reason => simp [checked, Except.toOption] at read
  | ok r' =>
    obtain rfl : r' = .mode modeIdx := by simpa [checked, Except.toOption] using read
    exact requested_mode_range checked

/-- One register of the settings, followed through a checked request. -/
theorem serve_mode (d : Device) (r : Request) (checked : Checked r) :
    (d.serve r).settings.mode = (modeRequest r).getD d.settings.mode := by
  cases r with
  | mode modeIdx =>
    simp [Device.serve, Settings.serve, Settings.setMode, modeRequest, checked modeIdx rfl]
  | frameRate hz =>
    simp only [Device.serve, Settings.serve, Settings.setFrameRate, modeRequest, Option.getD_none]
    split <;> rfl
  | nothing | sync => rfl

theorem serve_frameRate (d : Device) (r : Request) :
    (d.serve r).settings.frameRateHz = (frameRateRequest r).getD d.settings.frameRateHz := by
  cases r with
  | frameRate hz =>
    simp only [Device.serve, Settings.serve, Settings.setFrameRate, frameRateRequest]
    split <;> rfl
  | mode modeIdx =>
    simp only [Device.serve, Settings.serve, Settings.setMode, frameRateRequest, Option.getD_none]
    split <;> rfl
  | nothing | sync => rfl

theorem serve_syncMode (d : Device) (r : Request) :
    (d.serve r).settings.syncMode = (syncModeRequest r).getD d.settings.syncMode := by
  cases r with
  | frameRate hz =>
    simp only [Device.serve, Settings.serve, Settings.setFrameRate, syncModeRequest, Option.getD_none]
    split <;> rfl
  | mode modeIdx =>
    simp only [Device.serve, Settings.serve, Settings.setMode, syncModeRequest, Option.getD_none]
    split <;> rfl
  | nothing | sync => rfl

theorem serve_running (d : Device) (r : Request) :
    (d.serve r).running = (d.running && (modeRequest r).isNone) := by
  cases r with
  | mode modeIdx => cases up : d.running <;> simp [Device.serve, Device.stop, modeRequest, up]
  | nothing | frameRate | sync => simp [Device.serve, modeRequest]

/-- A register that each request overwrites or keeps holds its last write. -/
theorem served_register {β : Type} (register : Device → β) (write : Request → Option β)
    (tracked : ∀ d r, Checked r → register (d.serve r) = (write r).getD (register d))
    (rs : List Request) (checked : ∀ r ∈ rs, Checked r) (d : Device) :
    register (rs.foldl Device.serve d) = lastWritten (register d) (rs.filterMap write) := by
  rw [← foldl_lastWritten]
  induction rs generalizing d with
  | nil => rfl
  | cons r rest ih =>
    rw [List.foldl_cons, List.foldl_cons, ih (fun r' member => checked r' (by simp [member])),
      tracked d r (checked r (by simp))]

theorem served_running (rs : List Request) (d : Device) :
    (rs.foldl Device.serve d).running = (d.running && (rs.filterMap modeRequest).isEmpty) := by
  induction rs generalizing d with
  | nil => simp
  | cons r rest ih =>
    rw [List.foldl_cons, ih, serve_running, List.filterMap_cons]
    cases asked : modeRequest r <;> simp

theorem device_ext {d d' : Device} (running : d.running = d'.running)
    (mode : d.settings.mode = d'.settings.mode)
    (frameRate : d.settings.frameRateHz = d'.settings.frameRateHz)
    (sync : d.settings.syncMode = d'.settings.syncMode) : d = d' := by
  rcases d with ⟨⟨m, f, y⟩, r⟩
  rcases d' with ⟨⟨m', f', y'⟩, r'⟩
  simp_all

/-- The residue of a list of requests is the device itself exactly when they
request nothing new. -/
theorem served_unchanged_iff (d : Device) (parameters : List Parameter) :
    (requests parameters).foldl Device.serve d = d ↔ RequestsNothingNew d parameters := by
  have checked := requests_checked parameters
  have running := served_running (requests parameters) d
  have mode := served_register (·.settings.mode) modeRequest serve_mode _ checked d
  have frameRate := served_register (·.settings.frameRateHz) frameRateRequest
    (fun d r _ => serve_frameRate d r) _ checked d
  have sync := served_register (·.settings.syncMode) syncModeRequest
    (fun d r _ => serve_syncMode d r) _ checked d
  constructor
  · intro same
    rw [same] at running mode frameRate sync
    refine ⟨fun up => ?_, mode.symm, frameRate.symm, sync.symm⟩
    simpa [up] using running
  · intro kept
    refine device_ext ?_ (mode.trans kept.mode_kept) (frameRate.trans kept.frame_rate_kept)
      (sync.trans kept.sync_mode_kept)
    rw [running]
    cases up : d.running with
    | false => rfl
    | true => simp [kept.not_stopped up]

/-- A call that reports `successful = false` leaves mode, frame rate, sync mode
and running flag alone exactly when the vector has no invalid parameter (and so
is not rejected) or nothing in front of the first invalid one asks for a change. -/
theorem rejection_unchanged_iff (d : Device) (parameters : List Parameter) :
    ((onParametersSet d parameters).result.successful = false →
      (onParametersSet d parameters).device = d) ↔
    (∀ parameter ∈ parameters, accepts parameter = true) ∨
      RequestsNothingNew d (beforeRejection parameters) := by
  unfold onParametersSet
  rw [scan_successful, scan_device, served_unchanged_iff]
  by_cases all : ∀ parameter ∈ parameters, accepts parameter = true
  · rw [List.all_eq_true.mpr all]
    exact iff_of_true (fun impossible => by cases impossible) (Or.inl all)
  · have rejected : parameters.all accepts = false := by
      rw [Bool.eq_false_iff]
      exact fun h => all (List.all_eq_true.mp h)
    simp [rejected, all]

/-- A running camera in mode 30mstd: a new mode followed by a serial number is
refused, yet the device is stopped and its mode replaced. -/
theorem rejected_vector_stops_device :
    ¬ ∀ (d : Device) (parameters : List Parameter),
      (onParametersSet d parameters).result.successful = false →
        (onParametersSet d parameters).device = d := by
  intro always
  have changed := always ⟨⟨1, 30, .none⟩, true⟩
    [⟨"mode", .string "20M"⟩, ⟨"serial_number", .integer 4200059⟩] (by decide)
  revert changed
  decide

end AsDt1.Guarantees
