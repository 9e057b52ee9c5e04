import AudioStudio.Log.Sessions

/-!
# What a failed configuration leaves

`configureSession` changes the session while it goes on, so that an error behind the
first change leaves what was changed before it.
-/

namespace AudioStudio.Log.Sessions

open AudioStudio.Common LittleEndian

variable {δ : Type} (devices : LogDevices δ) (creates : Bytes → Bool)

/-! ## Settings -/

/-- What a configuration is about. -/
structure Settings (δ : Type) where
  minLevel : Bytes
  raw : Bool
  source : Bytes
  options : Options
  rawTracePath : Bytes
  decodedTracePath : Bytes
  sofDecoder : Option Bytes
  sofRawPending : Bytes
  sofDecodedPending : Bytes
  device : Option δ
  deriving DecidableEq

namespace Session

def settings (session : Session δ) : Settings δ where
  minLevel := session.config.minLevel
  raw := session.config.raw
  source := session.config.source
  options := session.config.options
  rawTracePath := session.rawTracePath
  decodedTracePath := session.decodedTracePath
  sofDecoder := session.sofDecoder
  sofRawPending := session.sofRawPending
  sofDecodedPending := session.sofDecodedPending
  device := session.device

variable (session : Session δ) (config : LogSessionConfig)

/-- The session with which a configuration gets to its trace files. -/
def cleared : Session δ :=
  { (session.applyConfig config).destroySofDecoder with
    sofRawPending := []
    sofDecodedPending := [] }

/-- The configuration needs a trace file that cannot be created. -/
def TraceFails : Prop :=
  config.options ≠ [] ∧ (session.cleared config).sofLoggerEnabled = true ∧
    ¬ (creates (session.cleared config).setTracePaths.rawTracePath = true ∧
      creates (session.cleared config).setTracePaths.decodedTracePath = true)

def ChangesSource : Prop := config.source ≠ [] ∧ config.source ≠ session.config.source

instance : Decidable (session.ChangesSource config) :=
  inferInstanceAs (Decidable (config.source ≠ [] ∧ config.source ≠ session.config.source))

/-- The device is asked, and refuses. -/
def DeviceRefuses : Prop :=
  (session.ChangesSource config ∨ config.options ≠ []) ∧
    ∃ device status, session.device = some device ∧
      devices.configure ((session.applyConfig config).setSource config.source).deviceConfig device =
        .error status

/-- The level, the flag, the options and the trace are already as the configuration sets
them. -/
structure AlreadySet : Prop where
  minLevel : normalizeLevel (orElse config.minLevel session.config.minLevel) =
    session.config.minLevel
  raw : config.raw = session.config.raw
  options : setOptions config.options session.config.options = session.config.options
  decoder : config.options ≠ [] → session.sofDecoder = none
  pending : config.options ≠ [] → session.sofRawPending = [] ∧ session.sofDecodedPending = []
  paths : config.options ≠ [] → session.sofLoggerEnabled = true →
    session.rawTracePath = session.setTracePaths.rawTracePath ∧
      session.decodedTracePath = session.setTracePaths.decodedTracePath

/-- The configuration fails before its first change, or not at all, or where all that it
has set by then is what was there. -/
def ConfiguresAtomically : Prop :=
  session.running = true ∨ session.mirrorEntries = true ∨
    (¬ session.TraceFails creates config ∧ ¬ session.DeviceRefuses devices config) ∨
    (session.AlreadySet config ∧
      (session.TraceFails creates config ∨ ¬ session.ChangesSource config))

/-! ## The steps of a configuration -/

/-- The session behind its trace. -/
def traced : Session δ :=
  if config.options ≠ [] then
    if (session.cleared config).sofLoggerEnabled then (session.cleared config).setTracePaths
    else session.cleared config
  else session.applyConfig config

variable {session config}

theorem sofLoggerEnabled_cleared
    (hoptions : setOptions config.options session.config.options = session.config.options) :
    (session.cleared config).sofLoggerEnabled = session.sofLoggerEnabled := by
  unfold sofLoggerEnabled optionString
  change decide (((Keyed.find Prod.fst _ (setOptions _ _)).map _).getD [] ≠ []) = _
  rw [hoptions]

theorem tracePaths_cleared
    (hoptions : setOptions config.options session.config.options = session.config.options) :
    (session.cleared config).setTracePaths.rawTracePath = session.setTracePaths.rawTracePath ∧
      (session.cleared config).setTracePaths.decodedTracePath =
        session.setTracePaths.decodedTracePath := by
  have hpath : ∀ key extension, tracePathFor (session.cleared config).config key extension =
      tracePathFor session.config key extension := by
    intro key extension
    unfold tracePathFor optionString
    change orElse (((Keyed.find Prod.fst _ (setOptions _ _)).map _).getD []) _ = _
    rw [hoptions]
    rfl
  exact ⟨hpath _ _, hpath _ _⟩

theorem settings_applyConfig_iff (hempty : config.options = []) :
    (session.applyConfig config).settings = session.settings ↔ session.AlreadySet config := by
  constructor
  · intro heq
    injection heq with hlevel hraw _ hoptions
    exact ⟨hlevel, hraw, hoptions, absurd hempty, absurd hempty, absurd hempty⟩
  · intro already
    unfold settings applyConfig
    dsimp only
    rw [already.minLevel, already.raw, already.options]

theorem settings_cleared_iff (hgiven : config.options ≠ [])
    (henabled : (session.cleared config).sofLoggerEnabled = false) :
    (session.cleared config).settings = session.settings ↔ session.AlreadySet config := by
  constructor
  · intro heq
    injection heq with hlevel hraw _ hoptions _ _ hdecoder hpending hdecoded
    refine ⟨hlevel, hraw, hoptions, fun _ => hdecoder.symm, fun _ => ⟨hpending.symm, hdecoded.symm⟩,
      fun _ hsession => ?_⟩
    rw [sofLoggerEnabled_cleared hoptions, hsession] at henabled
    cases henabled
  · intro already
    unfold settings cleared applyConfig destroySofDecoder
    dsimp only
    rw [already.minLevel, already.raw, already.options, already.decoder hgiven,
      (already.pending hgiven).1, (already.pending hgiven).2]

theorem settings_setTracePaths_iff (hgiven : config.options ≠ [])
    (henabled : (session.cleared config).sofLoggerEnabled = true) :
    (session.cleared config).setTracePaths.settings = session.settings ↔
      session.AlreadySet config := by
  constructor
  · intro heq
    injection heq with hlevel hraw _ hoptions hrawPath hdecodedPath hdecoder hpending hdecoded
    obtain ⟨hrawTrace, hdecodedTrace⟩ := tracePaths_cleared hoptions
    exact ⟨hlevel, hraw, hoptions, fun _ => hdecoder.symm,
      fun _ => ⟨hpending.symm, hdecoded.symm⟩,
      fun _ _ => ⟨hrawPath.symm.trans hrawTrace, hdecodedPath.symm.trans hdecodedTrace⟩⟩
  · intro already
    rw [sofLoggerEnabled_cleared already.options] at henabled
    obtain ⟨hrawTrace, hdecodedTrace⟩ := tracePaths_cleared already.options
    obtain ⟨hrawPath, hdecodedPath⟩ := already.paths hgiven henabled
    have hlevel := already.minLevel
    unfold settings
    rw [hrawTrace, hdecodedTrace, ← hrawPath, ← hdecodedPath]
    unfold setTracePaths cleared applyConfig destroySofDecoder
    dsimp only
    rw [already.minLevel, already.raw, already.options, already.decoder hgiven,
      (already.pending hgiven).1, (already.pending hgiven).2]

theorem settings_traced_iff :
    (session.traced config).settings = session.settings ↔ session.AlreadySet config := by
  unfold traced
  split_ifs with hgiven henabled
  · exact settings_setTracePaths_iff hgiven henabled
  · exact settings_cleared_iff hgiven (Bool.eq_false_iff.mpr henabled)
  · exact settings_applyConfig_iff (not_not.mp hgiven)

theorem traced_config : (session.traced config).config = (session.applyConfig config).config := by
  unfold traced
  split_ifs <;> rfl

theorem traced_device : (session.traced config).device = session.device := by
  unfold traced
  split_ifs <;> rfl

/-- Behind its source too, a session has its settings if it had the source. -/
theorem settings_setSource_iff :
    ((session.traced config).setSource config.source).settings = session.settings ↔
      session.AlreadySet config ∧ ¬ session.ChangesSource config := by
  have hsource : (session.traced config).config.source = session.config.source := by
    rw [traced_config]
    rfl
  have hkeeps : orElse config.source session.config.source = session.config.source ↔
      ¬ session.ChangesSource config := by
    unfold orElse ChangesSource
    split
    · next hempty => simp [hempty]
    · next hgiven => simp [hgiven]
  rw [← settings_traced_iff, ← hkeeps]
  unfold setSource
  rw [hsource]
  constructor
  · intro heq
    have hold := congrArg Settings.source heq
    change orElse config.source session.config.source = session.config.source at hold
    refine ⟨?_, hold⟩
    rw [hold, ← hsource] at heq
    exact heq
  · rintro ⟨heq, hold⟩
    rw [hold, ← hsource]
    exact heq

/-! ## The outcome -/

variable {devices creates}

theorem prepareTraceFiles_session (session : Session δ) :
    (session.prepareTraceFiles creates).2 = session.setTracePaths := by
  unfold prepareTraceFiles
  dsimp only
  split_ifs <;> rfl

theorem prepareTraceFiles_ok_iff (session : Session δ) :
    (session.prepareTraceFiles creates).1 = .ok () ↔
      creates session.setTracePaths.rawTracePath = true ∧
        creates session.setTracePaths.decodedTracePath = true := by
  unfold prepareTraceFiles
  dsimp only
  split_ifs with hraw hdecoded
  · simp_all
  · simp_all
  · simp_all

/-- What a configuration has done when it gets to the device. -/
def traceStage (creates : Bytes → Bool) (session : Session δ) (config : LogSessionConfig) :
    Result Unit × Session δ :=
  if config.options ≠ [] then (session.applyConfig config).restartTrace creates
  else (.ok (), session.applyConfig config)

theorem restartTrace_applyConfig : (session.applyConfig config).restartTrace creates =
    if (session.cleared config).sofLoggerEnabled then
      (session.cleared config).prepareTraceFiles creates
    else (.ok (), session.cleared config) := rfl

theorem traceStage_session : (session.traceStage creates config).2 = session.traced config := by
  unfold traceStage traced
  rw [restartTrace_applyConfig]
  split_ifs
  · exact prepareTraceFiles_session _
  · rfl
  · rfl

theorem traceStage_ok_iff :
    (session.traceStage creates config).1 = .ok () ↔ ¬ session.TraceFails creates config := by
  unfold traceStage TraceFails
  rw [restartTrace_applyConfig]
  split_ifs with hgiven henabled
  · rw [prepareTraceFiles_ok_iff]
    simp [hgiven, henabled]
  · simp [henabled]
  · simp [hgiven]

theorem configure_eq (hidle : session.running = false) (hown : session.mirrorEntries = false) :
    session.configure devices creates config =
      match (session.traceStage creates config).1 with
      | .error status => (.error status, session.traced config)
      | .ok () => (session.traced config).configureDevice devices config := by
  rw [← traceStage_session, configure, hidle, hown, if_neg Bool.false_ne_true,
    if_neg Bool.false_ne_true]
  rfl

/-- A trace file that cannot be created ends the configuration behind the trace. -/
theorem configure_of_traceFails (hidle : session.running = false)
    (hown : session.mirrorEntries = false) (hfails : session.TraceFails creates config) :
    ∃ status,
      session.configure devices creates config = (.error status, session.traced config) := by
  rw [configure_eq hidle hown]
  cases hstage : (session.traceStage creates config).1 with
  | error status => exact ⟨status, rfl⟩
  | ok _ => exact absurd hfails (traceStage_ok_iff.mp hstage)

/-- Otherwise it gets to the device. -/
theorem configure_of_traced (hidle : session.running = false)
    (hown : session.mirrorEntries = false) (hfiles : ¬ session.TraceFails creates config) :
    session.configure devices creates config =
      (session.traced config).configureDevice devices config := by
  rw [configure_eq hidle hown, traceStage_ok_iff.mpr hfiles]

theorem configureDevice_traced :
    (session.traced config).configureDevice devices config =
      if session.ChangesSource config ∨ config.options ≠ [] then
        match session.device with
        | none => (.ok (), (session.traced config).setSource config.source)
        | some device =>
            match devices.configure
              ((session.applyConfig config).setSource config.source).deviceConfig device with
            | .error status => (.error status, (session.traced config).setSource config.source)
            | .ok device =>
                (.ok (),
                  { (session.traced config).setSource config.source with device := some device })
      else (.ok (), session.traced config) := by
  have hconfig : ((session.traced config).setSource config.source).deviceConfig =
      ((session.applyConfig config).setSource config.source).deviceConfig := by
    unfold setSource deviceConfig
    rw [traced_config]
  unfold configureDevice
  dsimp only
  rw [hconfig]
  change (if (config.source ≠ [] ∧ config.source ≠ (session.traced config).config.source) ∨ _ then
    (match (session.traced config).device with | none => _ | some device => _) else _) = _
  rw [traced_config, traced_device]
  rfl

theorem configureDevice_of_refuses (hrefuses : session.DeviceRefuses devices config) :
    ∃ status, (session.traced config).configureDevice devices config =
      (.error status, (session.traced config).setSource config.source) := by
  obtain ⟨hasks, device, status, hdevice, hstatus⟩ := hrefuses
  refine ⟨status, ?_⟩
  rw [configureDevice_traced, if_pos hasks, hdevice]
  dsimp only
  rw [hstatus]

theorem configureDevice_ok (haccepts : ¬ session.DeviceRefuses devices config) :
    ((session.traced config).configureDevice devices config).1 = .ok () := by
  rw [configureDevice_traced]
  split
  · next hasks =>
      cases hdevice : session.device with
      | none => rfl
      | some device =>
          dsimp only
          cases hstatus : devices.configure
            ((session.applyConfig config).setSource config.source).deviceConfig device with
          | error status => exact absurd ⟨hasks, device, status, hdevice, hstatus⟩ haccepts
          | ok device => rfl
  · rfl

/-- An error leaves the settings as they were exactly where the configuration is atomic. -/
theorem configure_keeps_iff :
    (∀ status, (session.configure devices creates config).1 = .error status →
      (session.configure devices creates config).2.settings = session.settings) ↔
        session.ConfiguresAtomically devices creates config := by
  unfold ConfiguresAtomically
  cases hrunning : session.running with
  | true => exact iff_of_true (by simp [configure, hrunning]) (.inl rfl)
  | false =>
  cases hmirror : session.mirrorEntries with
  | true => exact iff_of_true (by simp [configure, hrunning, hmirror]) (.inr (.inl rfl))
  | false =>
  simp only [Bool.false_eq_true, false_or]
  by_cases hfails : session.TraceFails creates config
  · obtain ⟨status, hconfigure⟩ := configure_of_traceFails hrunning hmirror hfails
    rw [hconfigure]
    simp [hfails, settings_traced_iff]
  · rw [configure_of_traced hrunning hmirror hfails]
    by_cases hrefuses : session.DeviceRefuses devices config
    · obtain ⟨status, hdevice⟩ := configureDevice_of_refuses hrefuses
      rw [hdevice]
      simp [hfails, hrefuses, settings_setSource_iff]
    · rw [configureDevice_ok hrefuses]
      simp [hfails, hrefuses]

theorem id_traced : (session.traced config).id = session.id := by
  unfold id
  rw [traced_config]
  rfl

theorem id_configureDevice : (session.configureDevice devices config).2.id = session.id := by
  unfold configureDevice
  dsimp only
  split_ifs
  · split
    · rfl
    · split <;> rfl
  · rfl

/-- A configuration leaves the session under its id. -/
theorem id_configure : (session.configure devices creates config).2.id = session.id := by
  cases hrunning : session.running with
  | true => simp [configure, hrunning]
  | false =>
  cases hmirror : session.mirrorEntries with
  | true => simp [configure, hrunning, hmirror]
  | false =>
  by_cases hfails : session.TraceFails creates config
  · obtain ⟨status, hconfigure⟩ := configure_of_traceFails hrunning hmirror hfails
    rw [hconfigure, id_traced]
  · rw [configure_of_traced hrunning hmirror hfails, id_configureDevice, id_traced]

end Session

namespace LogService

variable {service : LogService δ} {id : Bytes}

theorem configureSession_of_find (devices : LogDevices δ) (creates : Bytes → Bool)
    {session : Session δ} (hfind : service.find id = some session)
    (config : LogSessionConfig) :
    service.configureSession devices creates id config =
      ((session.configure devices creates config).1.map fun _ =>
          (session.configure devices creates config).2.infoFor,
        service.put (session.configure devices creates config).2) := by
  unfold configureSession onSession
  rw [hfind]

/-- The session that is put is found under its id. -/
theorem find_put {session : Session δ} (hid : session.id = id) :
    (service.put session).find id = some session := by
  rw [← hid]
  exact Keyed.find_upsert_self

/-- If a configuration fails, the session has the settings that it had before. -/
def KeepsOnError (devices : LogDevices δ) (creates : Bytes → Bool) (service : LogService δ)
    (id : Bytes) (config : LogSessionConfig) : Prop :=
  ∀ status, (service.configureSession devices creates id config).1 = .error status →
    ((service.configureSession devices creates id config).2.find id).map Session.settings =
      (service.find id).map Session.settings

theorem map_eq_error_iff {α β : Type} {result : Result α} {change : α → β} {status : Status} :
    result.map change = .error status ↔ result = .error status := by
  cases result with
  | error found =>
      constructor
      · intro herror
        exact congrArg _ (Except.error.inj herror)
      · intro herror
        exact congrArg _ (Except.error.inj herror)
  | ok value => exact iff_of_false nofun nofun

/-- A failed configuration keeps the settings of a session exactly where it fails before
its first change, or where all that it has set by then is what was there. -/
theorem configureSession_keeps_iff (devices : LogDevices δ) (creates : Bytes → Bool)
    (service : LogService δ) (id : Bytes) (config : LogSessionConfig) :
    service.KeepsOnError devices creates id config ↔
      ∀ session, service.find id = some session →
        session.ConfiguresAtomically devices creates config := by
  unfold KeepsOnError
  cases hfind : service.find id with
  | none =>
      refine iff_of_true (fun status _ => ?_) nofun
      simp [configureSession, onSession, hfind]
  | some session =>
      have hid : session.id = id := (Keyed.find_mem hfind).2
      rw [configureSession_of_find devices creates hfind]
      simp only [map_eq_error_iff, find_put (Session.id_configure.trans hid), Option.map_some,
        Option.some.injEq, forall_eq', Session.configure_keeps_iff]

/-- A device that takes every configuration. -/
def obligingDevices : LogDevices LogDeviceConfig where
  create _ config := some config
  configure config _ := .ok config
  start device := (.ok (), device)
  stop device := (.ok (), device)

/-- The session `sof` has its trace in a file that cannot be created any more; the level of
the request is set, and its trace is closed. -/
theorem failed_configuration_sets_level : ¬ ∀ (service : LogService LogDeviceConfig) id config
    creates, service.KeepsOnError obligingDevices creates id config := by
  intro hkeeps
  have hatomic := hkeeps
    { sessions := [{
        config :=
          { sessionId := asciiBytes "sof"
            options := [(asciiBytes "trace_ldc", asciiBytes "/sof.ldc")] }
        rawTracePath := asciiBytes "/tmp/audio_studio_sof.trace.raw"
        decodedTracePath := asciiBytes "/tmp/audio_studio_sof.trace.log"
        rawTraceOwned := true
        decodedTraceOwned := true
        sofDecoder := some (asciiBytes "/sof.ldc") }] }
    (asciiBytes "sof")
    { minLevel := asciiBytes "error"
      options := [(asciiBytes "raw_trace_path", asciiBytes "/none/raw")] }
    (fun _ => false)
    (.unavailable "failed to create SOF raw trace file: /none/raw") (by decide +kernel)
  revert hatomic
  decide +kernel

end LogService

end AudioStudio.Log.Sessions
