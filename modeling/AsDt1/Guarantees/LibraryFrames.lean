import AsDt1.Guarantees.FrameRecovery
import AsDt1.Guarantees.SerialTransfers
import AsDt1.Source.TimelyReads

/-!
# Frames through the serial library

The driver's reads on the library's reads on the system's calls: as long as no
octet of the stream is later than the library waits, every frame is recovered,
whatever pieces the system delivers.
-/
namespace AsDt1.Guarantees
open AsDt1.Lib AsDt1.Source AsDt1.Source.SerialImpl Routine

/-- All that has been recovered from frames so far. -/
def allRecovered {τ : Type} (w : World τ) : List (Nat × Octets × List Octets × Nat) :=
  (w.log.map Prod.snd).filterMap recovered

theorem recovered_outcomes (w : World StreamState) : allRecovered w = (outcomes w).filterMap recovered := by
  unfold allRecovered outcomes
  rw [List.filterMap_filter]
  congr 1
  funext event
  cases event <;> rfl

/-- On a calm host every frame is recovered, whatever else the host does when called back. -/
theorem library_frames {σ τ : Type} {sys : System σ} {settings : PortSettings} {rest : σ → Octets}
    {Good : Port σ → Prop} (punctual : Punctual sys settings rest Good) {times : Nat → BitVec 64}
    {host : Environment τ} {clocks : τ → Nat} (calm : Calm times host clocks)
    {config : WorkerConfig} (cdc : config.kind = .cdc) {frames : List (CdcFrame config.modeInfo)} {tail : Octets}
    {w : World (Port σ × τ)} (good : Good w.env.1) (running : w.running = true)
    (buffer : w.receiveBuf.length = config.modeInfo.payloadSize)
    (stream : rest w.env.1.system = streamOctets frames tail) :
    ∃ least, ∀ fuel, least ≤ fuel → ∃ w',
      processFrames (libraryEnvironment sys settings host) config fuel frames.length w = (.ok (), w') ∧
      rest w'.env.1.system = tail ∧ allRecovered w' = allRecovered w ++ frames.map sent := by
  let plain : World StreamState := { w with env := ⟨rest w.env.1.system, 0, clocks w.env.2⟩ }
  let bound := (rest w.env.1.system).length + 1
  have delivers : Delivers fun _ => bound := fun k => ⟨k, Nat.le_refl k, Nat.succ_pos _⟩
  obtain ⟨v, run, left, events, seen, frame_run⟩ :=
    processFrames_ends (fun _ => bound) times config cdc delivers frames (w := plain) running buffer stream
  have related : SameWorld (SameStream rest Good clocks bound) w plain :=
    ⟨⟨good, rfl, rfl, Nat.le_succ _⟩, rfl, rfl, rfl, rfl, rfl, rfl, rfl, rfl, rfl, rfl⟩
  obtain ⟨least, ended⟩ := Alike.ends
    (fun fuel => processFrames_alike (library_alike punctual bound calm) config fuel frames.length) related run
  refine ⟨least, fun fuel enough => ?_⟩
  obtain ⟨returned, alike⟩ := ended fuel enough
  refine ⟨_, Prod.ext returned rfl, alike.env.rest.trans left, ?_⟩
  have same_log : allRecovered (processFrames (libraryEnvironment sys settings host) config fuel
      frames.length w).2 = allRecovered v := by
    unfold allRecovered
    rw [alike.log]
  have before : allRecovered plain = allRecovered w := rfl
  rw [same_log, recovered_outcomes, seen, List.filterMap_append, frame_run.recovered, ← recovered_outcomes, before]

/-- Enough fuel does not depend on the frames; the stream ends up where the next frame starts. -/
theorem library_recovers_frames {σ : Type} (sys : System σ) (settings : PortSettings) (rest : σ → Octets)
    (Good : Port σ → Prop) (punctual : Punctual sys settings rest Good) (times : Nat → BitVec 64)
    (config : WorkerConfig) (cdc : config.kind = .cdc) (frames : List (CdcFrame config.modeInfo)) (tail : Octets)
    (w : World (Port σ × Nat)) (good : Good w.env.1) (running : w.running = true)
    (buffer : w.receiveBuf.length = config.modeInfo.payloadSize)
    (stream : rest w.env.1.system = streamOctets frames tail) :
    ∃ least, ∀ fuel, least ≤ fuel → ∃ w',
      processFrames (libraryEnvironment sys settings (calmHost times)) config fuel frames.length w = (.ok (), w') ∧
      rest w'.env.1.system = tail ∧ allRecovered w' = allRecovered w ++ frames.map sent :=
  library_frames punctual (calmHost_calm times) cdc good running buffer stream

/-! ## A system that delivers in time -/

/-- A call takes a nanosecond, and so does a wait. -/
theorem paced_timely {chunk : Nat} (delivers : 0 < chunk) :
    Timely (pacedSystem chunk) PacedState.rest 1 fun _ => 1 where
  now _ := ⟨rfl, Nat.le_refl _⟩
  queue _ := ⟨⟨rfl, Nat.le_refl _⟩, _, rfl⟩
  waits _ _ := ⟨rfl, Nat.le_refl _⟩
  longer := monotone_const
  ready millis s ahead := by
    have answered : (pacedSystem chunk).answer (.selectRead millis) s =
        (.ready true, { s with time := s.time + 1 }) := if_neg ahead
    rw [answered]
    exact ⟨rfl, rfl, Nat.le_refl _⟩
  silent millis s none_ := by
    have answered : (pacedSystem chunk).answer (.selectRead millis) s =
        (.timeout, { s with time := s.time + millis.toNat * 1000000 + 1 }) := if_pos none_
    rw [answered]
    exact ⟨rfl, none_⟩
  next size s := by
    show s.rest = (if s.rest = [] then none else some (s.rest.take (min size chunk))).getD [] ++
      s.rest.drop (min size chunk)
    split
    · rename_i none_
      simp [none_]
    · exact (List.take_append_drop _ _).symm
  some_ size s positive ahead := by
    show (if s.rest = [] then none else some (s.rest.take (min size chunk))).getD [] ≠ []
    rw [if_neg ahead, Option.getD_some, Ne, List.take_eq_nil_iff]
    rintro (nothing | none_)
    · omega
    · exact ahead none_
  read_time _ _ := Nat.le_refl _

/-- The paced system is punctual with `driverSettings`, however small its pieces. -/
theorem paced_punctual {chunk : Nat} (delivers : 0 < chunk) :
    Punctual (pacedSystem chunk) driverSettings PacedState.rest (InTime PacedState.rest driverSettings 1 fun _ => 1) :=
  (paced_timely delivers).punctual driverSettings

/-- Every stream of less than 799 megabytes can be read in time. -/
theorem paced_inTime {p : Port PacedState} (opened : p.handle.isOpen = true)
    (short : p.system.rest.length < 799000000) : InTime PacedState.rest driverSettings 1 (fun _ => 1) p := by
  refine ⟨opened, fun size => ?_⟩
  have timeout : readTimeoutMs driverSettings size = 4000 := by
    show BitVec.ofNat 32 (4000 + 0 * size) = 4000
    rw [Nat.zero_mul]
    rfl
  rw [timeout]
  show 2 * 1 + p.system.rest.length * (4 * 1 + 1) + 1000000 ≤ 4000 * 1000000
  omega

/-- A worker on a port of the library, behind the end of its setup. -/
def libraryWorld (mode : ModeInfo) (rest : Octets) : World (Port PacedState × Nat) where
  env := (freshPort rest, 0)
  running := true
  serial := true
  deviceInfo := .unset
  receiveBuf := List.replicate mode.payloadSize 0
  imuData := []
  imuSamples := []
  latestImuSampleTs := 0
  clockOffset := 0
  phase := .streaming
  log := []

theorem marked_stream_short : (streamOctets [markedFrame, markedFrame] []).length < 799000000 := by
  have sized : markedFrame.octets.length = 4380 := by
    unfold CdcFrame.octets
    simp only [List.length_append, markedFrame.payload_size]
    decide
  unfold streamOctets
  rw [List.length_append, List.length_flatMap]
  simp [sized]

theorem library_recovers_marked_frames :
    ∃ least, ∀ fuel, least ≤ fuel → ∃ w',
      processFrames (libraryEnvironment (pacedSystem 5) driverSettings (calmHost fun _ => 7)) smallConfig fuel
        [markedFrame, markedFrame].length
        (libraryWorld smallConfig.modeInfo (streamOctets [markedFrame, markedFrame] [])) = (.ok (), w') ∧
      w'.env.1.system.rest = [] ∧ allRecovered w' =
        allRecovered (libraryWorld smallConfig.modeInfo (streamOctets [markedFrame, markedFrame] [])) ++
          [markedFrame, markedFrame].map sent := by
  exact library_recovers_frames (pacedSystem 5) driverSettings PacedState.rest _ (paced_punctual (by decide))
    (fun _ => 7) smallConfig rfl [markedFrame, markedFrame] []
    (libraryWorld smallConfig.modeInfo (streamOctets [markedFrame, markedFrame] []))
    (paced_inTime rfl marked_stream_short) rfl (List.length_replicate ..) rfl

end AsDt1.Guarantees
