import AudioStudio.Config.Compile
import AudioStudio.Config.References

/-!
# What the compiler reports

When a run returns success, and when an exception escapes from it.
-/

namespace AudioStudio.Config

open AudioStudio.Common
open AudioStudio.LittleEndian
open AudioStudio.Rpc

/-! ## Statuses and files -/

section Checks

variable {α : Type} {status : Reported} {rest : Parsed α} {value : α} {what : Bytes}

theorem check_ok_iff : status.check = .ok () ↔ status.code = .ok := by
  unfold Reported.check
  split
  · next hcode => exact iff_of_true rfl hcode
  · next hcode => exact iff_of_false (by rintro ⟨⟩) hcode

theorem check_not_thrown : status.check ≠ .error (.thrown what) := by
  unfold Reported.check
  split
  · rintro ⟨⟩
  · rintro ⟨⟩

theorem check_bind_ok_iff :
    (status.check >>= fun _ => rest) = .ok value ↔ status.code = .ok ∧ rest = .ok value := by
  unfold Reported.check
  split
  · next hcode => exact ⟨fun hrest => ⟨hcode, hrest⟩, And.right⟩
  · next hcode => exact iff_of_false (by rintro ⟨⟩) fun hboth => hcode hboth.1

theorem check_bind_thrown_iff :
    (status.check >>= fun _ => rest) = .error (.thrown what) ↔
      status.code = .ok ∧ rest = .error (.thrown what) := by
  unfold Reported.check
  split
  · next hcode => exact ⟨fun hrest => ⟨hcode, hrest⟩, And.right⟩
  · next hcode => exact iff_of_false (by rintro ⟨⟩) fun hboth => hcode hboth.1

end Checks

/-- The driver has written all of a text. -/
structure FileWrite.Complete (file : FileWrite) (bytes : Bytes) : Prop where
  created : file.created = true
  opened : file.opened.code = .ok
  write : file.write.code = .ok
  written : file.written = bytes.length
  flushed : file.flushed.code = .ok

variable {path bytes : Bytes} {file : FileWrite}

theorem writeBytes_ok_iff : writeBytes path bytes file = .ok () ↔ file.Complete bytes := by
  unfold writeBytes
  split
  · next hcreated =>
    refine iff_of_false (by rintro ⟨⟩) fun hcomplete => ?_
    exact absurd (hcreated.symm.trans hcomplete.created) (by decide)
  · next hcreated =>
    rw [check_bind_ok_iff, check_bind_ok_iff]
    split
    · next hshort =>
      refine iff_of_false ?_ fun hcomplete => hshort hcomplete.written
      rintro ⟨_, _, ⟨⟩⟩
    · next hshort =>
      rw [check_ok_iff]
      constructor
      · rintro ⟨hopened, hwrite, hflushed⟩
        exact ⟨Bool.not_eq_false _ |>.mp hcreated, hopened, hwrite, not_not.mp hshort, hflushed⟩
      · intro hcomplete
        exact ⟨hcomplete.opened, hcomplete.write, hcomplete.flushed⟩

theorem writeBytes_not_thrown {what : Bytes} :
    writeBytes path bytes file ≠ .error (.thrown what) := by
  unfold writeBytes
  split
  · rintro ⟨⟩
  · intro hthrown
    obtain ⟨_, hthrown⟩ := check_bind_thrown_iff.mp hthrown
    obtain ⟨_, hthrown⟩ := check_bind_thrown_iff.mp hthrown
    split at hthrown
    · cases hthrown
    · exact check_not_thrown hthrown

/-- The lengths that the driver reports are lengths of strings, where they are asked for. -/
def FileRead.Fits (fits : Nat → Bool) (file : FileRead) : Prop :=
  file.created = true → file.opened.code = .ok → fits file.size = true ∧
    (file.size ≠ 0 → file.read.code = .ok → file.size < file.readBytes →
      fits file.readBytes = true)

theorem readText_thrown_iff {fits : Nat → Bool} {file : FileRead} :
    (∃ what, readText fits file = .error (.thrown what)) ↔ ¬ file.Fits fits := by
  unfold readText FileRead.Fits
  split
  · next hcreated =>
    refine iff_of_false (by rintro ⟨_, ⟨⟩⟩) fun hnot => hnot fun hcreated' => ?_
    exact absurd (hcreated.symm.trans hcreated') (by decide)
  · next hcreated =>
    simp only [check_bind_thrown_iff]
    split
    · next hsize =>
      simp only [hsize, raise]
      simp [hcreated]
    · next hsize =>
      split
      · next hempty =>
        refine iff_of_false (by rintro ⟨_, _, ⟨⟩⟩) fun hnot => hnot fun _ _ => ?_
        exact ⟨Bool.not_eq_false _ |>.mp hsize, fun hne => absurd hempty hne⟩
      · next hempty =>
        simp only [check_bind_thrown_iff]
        split
        · next hlong => simp [raise, hcreated, hsize, hempty, hlong]
        · next hlong =>
          have hfits : file.size < file.readBytes → fits file.readBytes = true := by
            intro hlonger
            by_contra hnot
            exact hlong ⟨hlonger, Bool.eq_false_iff.mpr hnot⟩
          refine iff_of_false (by rintro ⟨_, _, _, ⟨⟩⟩) fun hnot => hnot fun _ _ => ?_
          exact ⟨Bool.not_eq_false _ |>.mp hsize, fun _ _ => hfits⟩

/-! ## Steps -/

/-- The fault is an exception. -/
def Thrown (fault : ConfigFault) : Prop :=
  ∃ what, fault = .thrown what

/-- Every driver is there and does what it is asked to before the input is read. -/
structure Prepared (around : Surroundings) (request : ConfigCompileRequest) : Prop where
  filesystem : around.filesystem = true
  inputPath : request.inputPath ≠ []
  outputDir : request.outputDir ≠ []
  host : request.buildTplg = true → around.hostSupportsAlsaTplg = true
  defaultPlugin : around.defaultPlugin.code = .ok
  plugins : around.plugins.code = .ok
  outputMade : around.outputDir.code = .ok
  includeMade : around.includeDir.code = .ok

section Steps

variable {around : Surroundings} {request : ConfigCompileRequest}

theorem prepare_ok_iff : prepare around request = .ok () ↔ Prepared around request := by
  unfold prepare
  split
  · next hmissing =>
    refine iff_of_false (by rintro ⟨⟩) fun hprepared => ?_
    exact absurd (hmissing.symm.trans hprepared.filesystem) (by decide)
  · next hfilesystem =>
    split
    · next hempty => exact iff_of_false (by rintro ⟨⟩) fun hprepared => hprepared.inputPath hempty
    · next hinput =>
      split
      · next hempty =>
        exact iff_of_false (by rintro ⟨⟩) fun hprepared => hprepared.outputDir hempty
      · next houtput =>
        split
        · next hhost =>
          refine iff_of_false (by rintro ⟨⟩) fun hprepared => ?_
          exact absurd (hhost.2.symm.trans (hprepared.host hhost.1)) (by decide)
        · next hhost =>
          rw [check_bind_ok_iff, check_bind_ok_iff, check_bind_ok_iff, check_ok_iff]
          constructor
          · rintro ⟨hdefault, hplugins, hmade, hinclude⟩
            refine ⟨Bool.not_eq_false _ |>.mp hfilesystem, hinput, houtput, ?_, hdefault, hplugins,
              hmade, hinclude⟩
            intro hbuild
            by_contra hnot
            exact hhost ⟨hbuild, Bool.eq_false_iff.mpr hnot⟩
          · intro hprepared
            exact ⟨hprepared.defaultPlugin, hprepared.plugins, hprepared.outputMade,
              hprepared.includeMade⟩

theorem prepare_not_thrown {what : Bytes} : prepare around request ≠ .error (.thrown what) := by
  unfold prepare
  split
  · rintro ⟨⟩
  · split
    · rintro ⟨⟩
    · split
      · rintro ⟨⟩
      · split
        · rintro ⟨⟩
        · intro hthrown
          obtain ⟨_, hthrown⟩ := check_bind_thrown_iff.mp hthrown
          obtain ⟨_, hthrown⟩ := check_bind_thrown_iff.mp hthrown
          obtain ⟨_, hthrown⟩ := check_bind_thrown_iff.mp hthrown
          exact check_not_thrown hthrown

theorem caught_ok_iff {α : Type} {result : Parsed α} {value : α} :
    caught result = .ok value ↔ result = .ok value := by
  unfold caught
  split
  · exact iff_of_false (by rintro ⟨⟩) (by rintro ⟨⟩)
  · rfl

theorem caught_not_thrown {α : Type} {result : Parsed α} {what : Bytes} :
    caught result ≠ .error (.thrown what) := by
  unfold caught
  split
  · rintro ⟨⟩
  · next hnot =>
    intro hthrown
    exact hnot what hthrown

/-- A tool has run, and by its log it has done what it was asked to. -/
structure ToolRun.Succeeds (fits : Nat → Bool) (tool : ToolRun) : Prop where
  status : tool.status.code = .ok
  exitCode : tool.exitCode = 0
  log : ∃ log, readText fits tool.log = .ok log ∧ containsAlsaTopologyError log = false

theorem judgeBuild_ok_iff {output : ConfigCompileOutput} :
    judgeBuild around output = .ok () ↔ around.build.exitCode = 0 ∧
      ∃ log, readText around.fits around.build.log = .ok log ∧
        containsAlsaTopologyError log = false := by
  unfold judgeBuild
  split
  · next hexit => exact iff_of_false (by rintro ⟨⟩) fun hboth => hexit hboth.1
  · next hexit =>
    cases hlog : readText around.fits around.build.log with
    | error fault => exact iff_of_false (by rintro ⟨⟩) (by rintro ⟨_, _, ⟨⟩, _⟩)
    | ok log =>
        change (if containsAlsaTopologyError log then _ else _) = _ ↔ _
        split
        · next herror =>
          refine iff_of_false (by rintro ⟨⟩) ?_
          rintro ⟨_, _, ⟨⟩, hclean⟩
          exact absurd (herror.symm.trans hclean) (by decide)
        · next hclean =>
          exact iff_of_true rfl ⟨not_not.mp hexit, log, rfl, Bool.eq_false_iff.mpr hclean⟩

theorem judgeBuild_thrown_iff {output : ConfigCompileOutput} :
    (∃ what, judgeBuild around output = .error (.thrown what)) ↔
      around.build.exitCode = 0 ∧ ¬ around.build.log.Fits around.fits := by
  rw [← readText_thrown_iff]
  unfold judgeBuild
  split
  · next hexit => exact iff_of_false (by rintro ⟨_, ⟨⟩⟩) fun hboth => hexit hboth.1
  · next hexit =>
    cases hlog : readText around.fits around.build.log with
    | error fault =>
        constructor
        · rintro ⟨what, ⟨⟩⟩
          exact ⟨not_not.mp hexit, what, rfl⟩
        · rintro ⟨_, what, ⟨⟩⟩
          exact ⟨what, rfl⟩
    | ok log =>
        change (∃ what, (if containsAlsaTopologyError log then _ else _) = _) ↔ _
        refine iff_of_false ?_ (by rintro ⟨_, _, ⟨⟩⟩)
        split
        · rintro ⟨_, ⟨⟩⟩
        · rintro ⟨_, ⟨⟩⟩

end Steps

/-! ## What a run has done -/

/-- The artifact has been written, all of it, to its place. -/
def CompileState.Wrote (state : CompileState) (artifact : Artifact) : Prop :=
  ∃ written ∈ state.writes, written.artifact = artifact ∧
    written.path = state.output.path artifact ∧ written.file.Complete written.bytes

/-- The topology has been built from the conf. -/
def CompileState.Built (around : Surroundings) (request : ConfigCompileRequest)
    (state : CompileState) : Prop :=
  ∃ ran ∈ state.runs, ran.command = buildTplgCommand around request state.output ∧
    ran.tool.Succeeds around.fits

/-- And it has been decoded again. -/
def CompileState.Decoded (around : Surroundings) (request : ConfigCompileRequest)
    (state : CompileState) : Prop :=
  ∃ ran ∈ state.runs, ran.command = decodeTplgCommand around request state.output ∧
    ran.tool.Succeeds around.fits

/-- The output says that all is done, and everything that was requested is there. -/
structure Finished (around : Surroundings) (request : ConfigCompileRequest)
    (state : CompileState) : Prop where
  ok : state.output.ok = true
  artifacts : ∀ artifact, state.Wrote artifact
  topology : request.buildTplg = true → state.Built around request

/-- The flags of the tool are set only for what it did. -/
structure FlagsHold (around : Surroundings) (request : ConfigCompileRequest)
    (state : CompileState) : Prop where
  built : state.output.tplgBuilt = true → state.Built around request
  decoded : state.output.tplgDecoded = true → state.Decoded around request

/-- The outcome of a run is what it reports: no exception escapes, it returns success exactly
if all is done, and the flags hold either way. -/
structure ReportsFaithfully (around : Surroundings) (request : ConfigCompileRequest) : Prop where
  caught : ¬ Raises Thrown (compile around request) {}
  success : Ends (compile around request) {} (fun _ state => Finished around request state)
    fun _ state => ¬ Finished around request state
  flags : Ends (compile around request) {} (fun _ state => FlagsHold around request state)
    fun _ state => FlagsHold around request state

section Runs

variable {around : Surroundings} {request : ConfigCompileRequest} {output : ConfigCompileOutput}

/-- The state on the way: nothing is said to be done, and there is no report yet. -/
structure Advanced (around : Surroundings) (request : ConfigCompileRequest)
    (output : ConfigCompileOutput) (state : CompileState) : Prop where
  same : ∃ tplgBuilt tplgDecoded, state.output = { output with tplgBuilt, tplgDecoded }
  flags : FlagsHold around request state
  noReport : ∀ written ∈ state.writes, written.artifact ≠ .report

variable {state : CompileState}

theorem Advanced.ok_eq (hadvanced : Advanced around request output state) :
    state.output.ok = output.ok := by
  obtain ⟨tplgBuilt, tplgDecoded, hsame⟩ := hadvanced.same
  rw [hsame]

theorem Advanced.path_eq (hadvanced : Advanced around request output state) (artifact : Artifact) :
    state.output.path artifact = output.path artifact := by
  obtain ⟨tplgBuilt, tplgDecoded, hsame⟩ := hadvanced.same
  rw [hsame]
  cases artifact <;> rfl

/-- What a stop on the way leaves. -/
structure Stopped (around : Surroundings) (request : ConfigCompileRequest)
    (state : CompileState) : Prop where
  unfinished : ¬ Finished around request state
  flags : FlagsHold around request state

theorem Advanced.stopped {state : CompileState} (hok : output.ok = false)
    (hadvanced : Advanced around request output state) : Stopped around request state := by
  refine ⟨fun hfinished => ?_, hadvanced.flags⟩
  have hdone := hfinished.ok
  rw [hadvanced.ok_eq, hok] at hdone
  cases hdone

/-- The state behind the writing of a text. -/
def CompileState.write (around : Surroundings) (output : ConfigCompileOutput)
    (state : CompileState) (text : Artifact × Bytes) : CompileState :=
  { state with writes := state.writes ++
      [⟨text.1, output.path text.1, text.2, around.write text.1⟩] }

variable {text : Artifact × Bytes}

variable {post : Unit → CompileState → Prop} {stop : ConfigFault → CompileState → Prop}

theorem writeArtifact_ends
    (hpost : (around.write text.1).Complete text.2 → post () (state.write around output text))
    (hstop : ∀ fault, ¬ (around.write text.1).Complete text.2 →
      stop fault (state.write around output text)) :
    Ends (writeArtifact around output text) state post stop := by
  unfold writeArtifact
  refine ends_bind.mpr (ends_modify.mpr (ends_reply.mpr ⟨?_, ?_⟩))
  · intro _ hok
    exact hpost (writeBytes_ok_iff.mp hok)
  · intro fault hfault
    refine hstop fault fun hcomplete => ?_
    rw [writeBytes_ok_iff.mpr hcomplete] at hfault
    cases hfault

theorem Advanced.write (hadvanced : Advanced around request output state)
    (hreport : text.1 ≠ .report) :
    Advanced around request output (state.write around output text) := by
  refine ⟨hadvanced.same, ⟨hadvanced.flags.built, hadvanced.flags.decoded⟩, ?_⟩
  intro written hmem
  rcases List.mem_append.mp hmem with hold | hnew
  · exact hadvanced.noReport written hold
  · rw [List.mem_singleton.mp hnew]
    exact hreport

variable {artifact : Artifact}

theorem CompileState.Wrote.write (hwrote : state.Wrote artifact) (text : Artifact × Bytes) :
    (state.write around output text).Wrote artifact := by
  obtain ⟨written, hmem, hwritten⟩ := hwrote
  exact ⟨written, List.mem_append_left _ hmem, hwritten⟩

theorem wrote_write (hadvanced : Advanced around request output state)
    (hcomplete : (around.write text.1).Complete text.2) :
    (state.write around output text).Wrote text.1 :=
  ⟨_, List.mem_append_right _ List.mem_cons_self, rfl, (hadvanced.path_eq text.1).symm, hcomplete⟩

variable {texts : List (Artifact × Bytes)}

/-- All the texts are written, or the run stops. -/
theorem writeArtifacts_ends (hreport : ∀ text ∈ texts, text.1 ≠ .report)
    (hadvanced : Advanced around request output state) :
    Ends (writeArtifacts around output texts) state
      (fun _ state' => Advanced around request output state' ∧
        (∀ artifact, state.Wrote artifact → state'.Wrote artifact) ∧
        ∀ text ∈ texts, state'.Wrote text.1)
      fun _ state' => Advanced around request output state' := by
  induction texts generalizing state with
  | nil =>
      refine ends_pure.mpr ⟨hadvanced, fun _ hwrote => hwrote, ?_⟩
      intro text hmem
      cases hmem
  | cons text texts ih =>
      have hnext := hadvanced.write (hreport text List.mem_cons_self)
      refine ends_bind.mpr (writeArtifact_ends (fun hcomplete => ?_) fun _ _ => hnext)
      refine (ih (fun other hmem => hreport other (List.mem_cons_of_mem _ hmem)) hnext).mono ?_
        fun _ _ hstop => hstop
      rintro _ state' ⟨hadvanced', hkept, hrest⟩
      refine ⟨hadvanced', fun artifact hwrote => hkept artifact (hwrote.write text), ?_⟩
      intro other hmem
      rcases List.mem_cons.mp hmem with rfl | hlater
      · exact hkept _ (wrote_write hadvanced hcomplete)
      · exact hrest other hlater

/-- The state behind the run of a tool. -/
def CompileState.ran (state : CompileState) (command : Bytes) (tool : ToolRun) : CompileState :=
  { state with runs := state.runs ++ [⟨command, tool⟩] }

variable {command : Bytes} {tool : ToolRun}

theorem runCommand_ends (hpost : tool.status.code = .ok → post () (state.ran command tool))
    (hstop : ∀ fault, stop fault (state.ran command tool)) :
    Ends (runCommand command tool) state post stop := by
  unfold runCommand
  refine ends_bind.mpr (ends_modify.mpr (ends_reply.mpr ⟨?_, fun fault _ => hstop fault⟩))
  intro _ hok
  exact hpost (check_ok_iff.mp hok)

theorem CompileState.Built.ran (hbuilt : state.Built around request) (command : Bytes)
    (tool : ToolRun) : (state.ran command tool).Built around request := by
  obtain ⟨ran, hmem, hran⟩ := hbuilt
  exact ⟨ran, List.mem_append_left _ hmem, hran⟩

theorem CompileState.Decoded.ran (hdecoded : state.Decoded around request) (command : Bytes)
    (tool : ToolRun) : (state.ran command tool).Decoded around request := by
  obtain ⟨ran, hmem, hran⟩ := hdecoded
  exact ⟨ran, List.mem_append_left _ hmem, hran⟩

theorem Advanced.ran (hadvanced : Advanced around request output state) (command : Bytes)
    (tool : ToolRun) : Advanced around request output (state.ran command tool) := by
  refine ⟨hadvanced.same, ⟨fun hbuilt => ?_, fun hdecoded => ?_⟩, hadvanced.noReport⟩
  · exact (hadvanced.flags.built hbuilt).ran command tool
  · exact (hadvanced.flags.decoded hdecoded).ran command tool

/-- The commands are those of the output that they were made for. -/
theorem Advanced.commands_eq (hadvanced : Advanced around request output state) :
    buildTplgCommand around request state.output = buildTplgCommand around request output ∧
      decodeTplgCommand around request state.output =
        decodeTplgCommand around request output := by
  obtain ⟨tplgBuilt, tplgDecoded, hsame⟩ := hadvanced.same
  rw [hsame]
  exact ⟨rfl, rfl⟩

theorem Advanced.setBuilt (hadvanced : Advanced around request output state)
    (hbuilt : state.Built around request) :
    Advanced around request output
      { state with output := { state.output with tplgBuilt := true } } := by
  obtain ⟨tplgBuilt, tplgDecoded, hsame⟩ := hadvanced.same
  refine ⟨⟨true, tplgDecoded, ?_⟩, ⟨fun _ => hbuilt, hadvanced.flags.decoded⟩,
    hadvanced.noReport⟩
  change { state.output with tplgBuilt := true } = _
  rw [hsame]

theorem Advanced.setDecoded (hadvanced : Advanced around request output state)
    (hdecoded : state.Decoded around request) :
    Advanced around request output
      { state with output := { state.output with tplgDecoded := true } } := by
  obtain ⟨tplgBuilt, tplgDecoded, hsame⟩ := hadvanced.same
  refine ⟨⟨tplgBuilt, true, ?_⟩, ⟨hadvanced.flags.built, fun _ => hdecoded⟩,
    hadvanced.noReport⟩
  change { state.output with tplgDecoded := true } = _
  rw [hsame]

/-- The topology is built if the run goes on. -/
theorem buildTopology_ends (hadvanced : Advanced around request output state) :
    Ends (buildTopology around request output) state
      (fun _ state' => Advanced around request output state' ∧
        (∀ artifact, state.Wrote artifact → state'.Wrote artifact) ∧
        state'.Built around request)
      fun _ state' => Advanced around request output state' := by
  have hran := hadvanced.ran (buildTplgCommand around request output) around.build
  unfold buildTopology
  refine ends_reply_bind (fun _ _ => ?_) fun _ _ => hadvanced
  refine ends_bind.mpr (runCommand_ends (fun hstatus => ?_) fun _ => hran)
  refine ends_reply_bind (fun _ hjudged => ?_) fun _ _ => hran
  obtain ⟨hexit, hlog⟩ := judgeBuild_ok_iff.mp hjudged
  have hbuilt : (state.ran (buildTplgCommand around request output) around.build).Built
      around request :=
    ⟨_, List.mem_append_right _ List.mem_cons_self, hran.commands_eq.1.symm,
      ⟨hstatus, hexit, hlog⟩⟩
  refine ends_bind.mpr (ends_modify.mpr ?_)
  have hset := hran.setBuilt hbuilt
  have hdecode := hset.ran (decodeTplgCommand around request output) around.decode
  refine ends_bind.mpr (runCommand_ends (fun hstatus => ?_) fun _ => hdecode)
  refine ends_reply_bind (fun decodeLog hlog => ?_) fun _ _ => hdecode
  split
  · exact ends_pure.mpr ⟨hdecode, fun _ hwrote => hwrote,
      hbuilt.ran (decodeTplgCommand around request output) around.decode⟩
  · next hclean =>
    obtain ⟨hexit, hclean⟩ := not_or.mp hclean
    refine ends_bind.mpr (ends_modify.mpr (ends_pure.mpr ?_))
    refine ⟨hdecode.setDecoded ?_, fun _ hwrote => hwrote,
      hbuilt.ran (decodeTplgCommand around request output) around.decode⟩
    exact ⟨_, List.mem_append_right _ List.mem_cons_self, hdecode.commands_eq.2.symm,
      ⟨hstatus, not_not.mp hexit, decodeLog, hlog, Bool.eq_false_iff.mpr hclean⟩⟩

variable {warnings : List Bytes}

theorem finish_ends (hadvanced : Advanced around request output state)
    (hwrote : ∀ artifact, artifact ≠ .report → state.Wrote artifact)
    (hbuilt : request.buildTplg = true → state.Built around request) :
    Ends (finish around request warnings) state
      (fun _ state' => Finished around request state' ∧ FlagsHold around request state')
      fun _ state' => Stopped around request state' := by
  unfold finish
  refine ends_bind.mpr (ends_modify.mpr (ends_bind.mpr (ends_get.mpr ?_)))
  have hflags := hadvanced.flags
  refine writeArtifact_ends (fun hcomplete => ?_) fun _ hcomplete => ?_
  · refine ⟨⟨rfl, fun artifact => ?_, hbuilt⟩, hflags.built, hflags.decoded⟩
    by_cases hreport : artifact = .report
    · subst hreport
      exact ⟨_, List.mem_append_right _ List.mem_cons_self, rfl, rfl, hcomplete⟩
    · obtain ⟨written, hmem, hartifact, hpath, hwritten⟩ := hwrote artifact hreport
      refine ⟨written, List.mem_append_left _ hmem, hartifact, hpath.trans ?_, hwritten⟩
      cases artifact <;> rfl
  · refine ⟨fun hfinished => ?_, hflags.built, hflags.decoded⟩
    -- the report that is there is the one that has just failed
    obtain ⟨written, hmem, hartifact, _, hwritten⟩ := hfinished.artifacts .report
    rcases List.mem_append.mp hmem with hold | hnew
    · exact hadvanced.noReport written hold hartifact
    · rw [List.mem_singleton.mp hnew] at hwritten
      exact hcomplete hwritten

theorem stopped_initial : Stopped around request {} :=
  ⟨fun hfinished => Bool.noConfusion hfinished.ok, by rintro ⟨⟩, by rintro ⟨⟩⟩

variable {ir : ProjectIr} {tokens : List PipelineTokens}

theorem mem_artifactTexts :
    artifact ∈ (artifactTexts around.texts ir tokens).map Prod.fst ↔ artifact ≠ .report := by
  cases artifact <;> simp [artifactTexts]

theorem compile_ends :
    Ends (compile around request) {}
      (fun _ state => Finished around request state ∧ FlagsHold around request state)
      fun _ state => Stopped around request state := by
  unfold compile
  refine ends_reply_bind (fun _ _ => ?_) fun _ _ => stopped_initial
  refine ends_reply_bind (fun text _ => ?_) fun _ _ => stopped_initial
  refine ends_reply_bind (fun ir _ => ?_) fun _ _ => stopped_initial
  refine ends_bind.mpr (ends_modify.mpr ?_)
  have hdescribed : Advanced around request (describe around request ir)
      { output := describe around request ir } := by
    refine ⟨⟨false, false, rfl⟩, ⟨by rintro ⟨⟩, by rintro ⟨⟩⟩, ?_⟩
    intro written hmem
    cases hmem
  refine ends_reply_bind (fun tokens _ => ?_) fun _ _ => hdescribed.stopped rfl
  have hreport : ∀ text ∈ artifactTexts around.texts ir tokens, text.1 ≠ .report := by
    intro text hmem
    exact mem_artifactTexts.mp (List.mem_map_of_mem hmem)
  refine ends_bind.mpr ((writeArtifacts_ends hreport hdescribed).mono ?_
    fun _ state hadvanced => hadvanced.stopped rfl)
  rintro _ state ⟨hadvanced, _, hall⟩
  have hwrote : ∀ artifact, artifact ≠ .report → state.Wrote artifact := by
    intro artifact hartifact
    obtain ⟨text, hmem, rfl⟩ := List.mem_map.mp (mem_artifactTexts.mpr hartifact)
    exact hall text hmem
  split
  · next hbuild =>
    refine ends_bind.mpr ((buildTopology_ends hadvanced).mono ?_
      fun _ state hadvanced => hadvanced.stopped rfl)
    rintro warnings state' ⟨hadvanced', hkept, hbuilt⟩
    exact finish_ends hadvanced' (fun artifact hartifact => hkept artifact (hwrote artifact hartifact))
      fun _ => hbuilt
  · next hbuild =>
    refine ends_bind.mpr (ends_pure.mpr ?_)
    exact finish_ends hadvanced hwrote fun hrequested => absurd hrequested hbuild

/-! ## Exceptions -/

theorem thrown_iff {α : Type} {result : Parsed α} :
    (∃ fault, result = .error fault ∧ Thrown fault) ↔
      ∃ what, result = .error (.thrown what) := by
  constructor
  · rintro ⟨_, hresult, what, rfl⟩
    exact ⟨what, hresult⟩
  · rintro ⟨what, hresult⟩
    exact ⟨_, hresult, what, rfl⟩

variable {β : Type}

theorem raises_reply_bind_thrown {α : Type} {result : Parsed β} {rest : β → Compile α} :
    Raises Thrown (reply result >>= rest) state ↔
      (∃ what, result = .error (.thrown what)) ∨
        ∃ value, result = .ok value ∧ Raises Thrown (rest value) state := by
  rw [raises_reply_bind, thrown_iff]

/-- A first part that returns statuses only. -/
theorem raises_quiet_bind {α : Type} {result : Parsed β} {rest : β → Compile α}
    (hquiet : ∀ what, result ≠ .error (.thrown what)) :
    Raises Thrown (reply result >>= rest) state ↔
      ∃ value, result = .ok value ∧ Raises Thrown (rest value) state := by
  rw [raises_reply_bind_thrown]
  exact or_iff_right fun hthrown => hthrown.elim hquiet

theorem raises_writeArtifact_bind {α : Type} {rest : Unit → Compile α} :
    Raises Thrown (writeArtifact around output text >>= rest) state ↔
      (around.write text.1).Complete text.2 ∧
        Raises Thrown (rest ()) (state.write around output text) := by
  unfold writeArtifact
  simp only [bind_assoc, raises_modify_bind]
  rw [raises_quiet_bind fun what => writeBytes_not_thrown]
  constructor
  · rintro ⟨_, hok, hrest⟩
    exact ⟨writeBytes_ok_iff.mp hok, hrest⟩
  · rintro ⟨hcomplete, hrest⟩
    exact ⟨(), writeBytes_ok_iff.mpr hcomplete, hrest⟩

theorem raises_writeArtifacts_bind {α : Type} {rest : Unit → Compile α} {condition : Prop}
    (hrest : ∀ state, Raises Thrown (rest ()) state ↔ condition) :
    Raises Thrown (writeArtifacts around output texts >>= rest) state ↔
      (∀ text ∈ texts, (around.write text.1).Complete text.2) ∧ condition := by
  induction texts generalizing state with
  | nil =>
      unfold writeArtifacts
      rw [pure_bind, hrest]
      simp
  | cons text texts ih =>
      unfold writeArtifacts
      rw [bind_assoc, raises_writeArtifact_bind, ih, List.forall_mem_cons, and_assoc]

theorem raises_runCommand_bind {α : Type} {rest : Unit → Compile α} :
    Raises Thrown (runCommand command tool >>= rest) state ↔
      tool.status.code = .ok ∧ Raises Thrown (rest ()) (state.ran command tool) := by
  unfold runCommand
  simp only [bind_assoc, raises_modify_bind]
  rw [raises_quiet_bind fun what => check_not_thrown]
  constructor
  · rintro ⟨_, hok, hrest⟩
    exact ⟨check_ok_iff.mp hok, hrest⟩
  · rintro ⟨hok, hrest⟩
    exact ⟨(), check_ok_iff.mpr hok, hrest⟩

/-- The logs of the tool are no longer than a string can be, where they are read. -/
structure LogsFit (around : Surroundings) : Prop where
  build : around.os = true → around.build.status.code = .ok → around.build.exitCode = 0 →
    around.build.log.Fits around.fits
  decode : around.os = true → around.build.Succeeds around.fits →
    around.decode.status.code = .ok → around.decode.log.Fits around.fits

theorem not_raises_finish : ¬ Raises Thrown (finish around request warnings) state := by
  unfold finish
  rw [raises_modify_bind, raises_get_bind, ← bind_pure (writeArtifact around _ _),
    raises_writeArtifact_bind]
  exact fun hboth => not_raises_pure hboth.2

theorem raises_buildTopology_bind {α : Type} {rest : List Bytes → Compile α}
    (hrest : ∀ warnings state, ¬ Raises Thrown (rest warnings) state) :
    Raises Thrown (buildTopology around request output >>= rest) state ↔ ¬ LogsFit around := by
  have hquiet : ∀ what, (if around.os = true then pure ()
      else unavailable "OS driver is not configured" : Parsed Unit) ≠ .error (.thrown what) := by
    intro what
    split
    · rintro ⟨⟩
    · rintro ⟨⟩
  have hos : ∀ value, (if around.os = true then pure ()
      else unavailable "OS driver is not configured" : Parsed Unit) = .ok value ↔
        around.os = true := by
    intro value
    split
    · next hos => exact iff_of_true rfl hos
    · next hos => exact iff_of_false (by rintro ⟨⟩) hos
  have hlast : ∀ decodeLog state, ¬ Raises Thrown
      ((if around.decode.exitCode ≠ 0 ∨ containsAlsaTopologyError decodeLog then
          pure [asciiBytes "alsatplg decode is not available for this topology; see " ++
            output.tplgDecodeLogPath]
        else do
          modify fun state =>
            { state with output := { state.output with tplgDecoded := true } }
          pure [] : Compile (List Bytes)) >>= rest) state := by
    intro decodeLog state
    split
    · rw [pure_bind]
      exact hrest _ _
    · rw [bind_assoc, raises_modify_bind, pure_bind]
      exact hrest _ _
  unfold buildTopology
  simp only [bind_assoc]
  rw [raises_quiet_bind hquiet]
  simp only [hos, raises_runCommand_bind, raises_reply_bind_thrown, raises_modify_bind,
    judgeBuild_thrown_iff, readText_thrown_iff, hlast, and_false, exists_false, or_false]
  constructor
  · rintro ⟨_, hpresent, hbuild, (⟨hexit, hlong⟩ | ⟨_, hjudged, hdecode, hlong⟩)⟩ hfit
    · exact hlong (hfit.build hpresent hbuild hexit)
    · obtain ⟨hexit, hlog⟩ := judgeBuild_ok_iff.mp hjudged
      exact hlong (hfit.decode hpresent ⟨hbuild, hexit, hlog⟩ hdecode)
  · intro hnot
    by_contra hnone
    refine hnot ⟨fun hpresent hbuild hexit => ?_, fun hpresent hbuild hdecode => ?_⟩
    · by_contra hlong
      exact hnone ⟨(), hpresent, hbuild, .inl ⟨hexit, hlong⟩⟩
    · by_contra hlong
      exact hnone ⟨(), hpresent, hbuild.status,
        .inr ⟨(), judgeBuild_ok_iff.mpr ⟨hbuild.exitCode, hbuild.log⟩, hdecode, hlong⟩⟩

/-- The input is read and describes a project. -/
structure ReadsProject (around : Surroundings) (request : ConfigCompileRequest) (ir : ProjectIr) :
    Prop where
  prepared : Prepared around request
  project : ∃ text, readText around.fits around.input = .ok text ∧
    parseInput around request text = .ok ir

/-- Nothing that is outside the `try` block raises an exception: what is read fits into
strings, and the conf can be written for every node. -/
structure Unthrown (around : Surroundings) (request : ConfigCompileRequest) : Prop where
  input : Prepared around request → around.input.Fits around.fits
  nodes : ∀ ir, ReadsProject around request ir → ∀ pipeline ∈ ir.pipelines,
    ∀ node ∈ pipeline.nodes, Emittable around.registry ir pipeline node
  logs : ∀ ir tokens, ReadsProject around request ir →
    confTokens around.registry ir = .ok tokens →
    (∀ text ∈ artifactTexts around.texts ir tokens, (around.write text.1).Complete text.2) →
    request.buildTplg = true → LogsFit around

/-- The part behind the conf. -/
theorem raises_artifacts :
    Raises Thrown (do
        writeArtifacts around output (artifactTexts around.texts ir tokens)
        let warnings ← if request.buildTplg then buildTopology around request output else pure []
        finish around request warnings) state ↔
      (∀ text ∈ artifactTexts around.texts ir tokens,
        (around.write text.1).Complete text.2) ∧
        (request.buildTplg = true ∧ ¬ LogsFit around) := by
  apply raises_writeArtifacts_bind
  intro state
  have hfinish : ∀ warnings state, ¬ Raises Thrown (finish around request warnings) state :=
    fun _ _ => not_raises_finish
  split
  · next hbuild =>
    rw [raises_buildTopology_bind hfinish]
    exact (and_iff_right hbuild).symm
  · next hbuild =>
    rw [pure_bind]
    exact iff_of_false (hfinish _ _) fun hboth => hbuild hboth.1

theorem raises_compile_iff :
    Raises Thrown (compile around request) {} ↔ ¬ Unthrown around request := by
  unfold compile
  rw [raises_quiet_bind fun what => prepare_not_thrown]
  simp only [raises_reply_bind_thrown, raises_modify_bind, readText_thrown_iff, raises_artifacts,
    caught_ok_iff, caught_not_thrown, exists_false, false_or]
  have hconf := confTokens_gives around.registry
  constructor
  · rintro ⟨_, hprepare, hraised⟩ hunthrown
    have hprepared := prepare_ok_iff.mp hprepare
    rcases hraised with hlong | ⟨text, htext, ir, hir, hraised⟩
    · exact hlong (hunthrown.input hprepared)
    · have hproject : ReadsProject around request ir := ⟨hprepared, text, htext, hir⟩
      rcases hraised with ⟨what, hwhat⟩ | ⟨tokens, htokens, hwritten, hbuild, hlong⟩
      · obtain ⟨tokens, htokens⟩ := (hconf ir).value (hunthrown.nodes ir hproject)
        rw [htokens] at hwhat
        cases hwhat
      · exact hlong (hunthrown.logs ir tokens hproject htokens hwritten hbuild)
  · intro hnot
    by_contra hnone
    refine hnot ⟨fun hprepared => ?_, fun ir hproject => ?_, ?_⟩
    · by_contra hlong
      exact hnone ⟨(), prepare_ok_iff.mpr hprepared, .inl hlong⟩
    · obtain ⟨hprepared, text, htext, hir⟩ := hproject
      by_contra hnodes
      exact hnone ⟨(), prepare_ok_iff.mpr hprepared, .inr ⟨text, htext, ir, hir,
        .inl ((hconf ir).thrown hnodes)⟩⟩
    · rintro ir tokens ⟨hprepared, text, htext, hir⟩ htokens hwritten hbuild
      by_contra hlong
      exact hnone ⟨(), prepare_ok_iff.mpr hprepared, .inr ⟨text, htext, ir, hir,
        .inr ⟨tokens, htokens, hwritten, hbuild, hlong⟩⟩⟩

end Runs

/-- The outcome of a run is what it reports exactly if nothing outside the `try` block raises an
exception. -/
theorem compile_reports_iff (around : Surroundings) (request : ConfigCompileRequest) :
    ReportsFaithfully around request ↔ Unthrown around request := by
  constructor
  · intro hfaithful
    by_contra hnot
    exact hfaithful.caught (raises_compile_iff.mpr hnot)
  · intro hunthrown
    have hends : Ends (compile around request) {} _ _ := compile_ends
    refine ⟨fun hraises => raises_compile_iff.mp hraises hunthrown, ?_, ?_⟩
    · exact hends.mono (fun _ _ hboth => hboth.1) fun _ _ hstopped => hstopped.unfinished
    · exact hends.mono (fun _ _ hboth => hboth.2) fun _ _ hstopped => hstopped.flags

/-! ## A type without a UUID -/

/-- A project with one copier, for which there is a handler but no name in the registry. -/
def copierProject : JsonValue :=
  .object [
    (asciiBytes "module_instances", .array [.object [
      (asciiBytes "inst_id", .ofText "c"), (asciiBytes "module_type", .ofText "graph.copier")]]),
    (asciiBytes "module_types", .array [.object [
      (asciiBytes "type_id", .ofText "graph.copier")]]),
    (asciiBytes "pipelines", .array [.object [
      (asciiBytes "nodes", .array [.object [(asciiBytes "inst_ref", .ofText "c"),
        (asciiBytes "kind", .ofText "module"), (asciiBytes "node_id", .ofText "n")]]),
      (asciiBytes "pipe_id", .ofText "p")]])]

/-- Every driver and every tool succeeds. -/
def copierAround : Surroundings where
  joinPath := List.flatten
  fits := fun _ => true
  moduleConfigs := [genericModuleConfigHandler]
  input :=
    { size := copierProject.dump.length
      data := copierProject.dump
      readBytes := copierProject.dump.length }
  imports := fun _ => .ok []
  beside := bareBeside
  registry := none
  texts :=
    { buildPrivatePayload := fun _ => []
      generateAlsaConf := fun _ _ _ => []
      generateIdsHeader := fun _ => []
      generatePrivateHeader := []
      generatePresetHeader := fun _ => []
      generateReport := fun _ _ => [] }
  write := fun artifact => { written := if artifact = .controlsCsv then controlsCsvHeader.length else 0 }
  alsatplg := id
  build := { log := { size := 0, data := [], readBytes := 0 } }
  decode := { log := { size := 0, data := [], readBytes := 0 } }

def copierRequest : ConfigCompileRequest where
  inputPath := asciiBytes "copier.json"
  outputDir := asciiBytes "out"
  buildTplg := true

/-- The exception that escapes from a run. -/
def escaping : EStateM.Result ConfigFault CompileState Unit → Option Bytes
  | .error (.thrown what) _ => some what
  | _ => none

theorem raises_of_escaping {around : Surroundings} {request : ConfigCompileRequest} {what : Bytes}
    (hescaping : escaping (compile around request {}) = some what) :
    Raises Thrown (compile around request) {} := by
  unfold Raises
  cases hrun : compile around request {} with
  | ok value state =>
      rw [hrun] at hescaping
      cases hescaping
  | error fault state =>
      rw [hrun] at hescaping
      cases fault with
      | thrown text => exact ⟨_, state, rfl, text, rfl⟩
      | status code message => cases hescaping

theorem copier_escapes :
    ¬ ∀ (around : Surroundings) (request : ConfigCompileRequest),
      ReportsFaithfully around request := by
  intro hfaithful
  have hescaping : escaping (compile copierAround copierRequest {}) =
      some (asciiBytes "No SOF UUID registry mapping for module_type: graph.copier") := by
    decide +kernel
  exact (hfaithful copierAround copierRequest).caught (raises_of_escaping hescaping)

end AudioStudio.Config
