import AudioStudio.Core.StopAndWait
import AudioStudio.DataLink.Device

/-!
# From device reads to observed frames

A link that delivers whole frames lets every frame read count as one observation.
A program on the device *tracks* a program on observations when each of its runs
is a run of the other one, with the same frames sent.
-/

namespace AudioStudio.DataLink

open LittleEndian
open StopAndWait

variable {ε M α β : Type}

/-- How reads become observations: a block is a frame, an upset is trouble or is
passed over. -/
inductive Observed (wire : M → Bytes) :
    List (LinkEvent ε) → List (Option M) → List (LinkEvent ε) → Prop where
  | stop (rest : List (LinkEvent ε)) : Observed wire rest [] rest
  | frame {frame : M} {events rest : List (LinkEvent ε)} {obs : List (Option M)} :
      Observed wire events obs rest →
        Observed wire (.message (wire frame) :: events) (some frame :: obs) rest
  | trouble {upset : Upset ε} {events rest : List (LinkEvent ε)} {obs : List (Option M)} :
      Observed wire events obs rest → Observed wire (.upset upset :: events) (none :: obs) rest
  | passed {upset : Upset ε} {events rest : List (LinkEvent ε)} {obs : List (Option M)} :
      Observed wire events obs rest → Observed wire (.upset upset :: events) obs rest

namespace Observed

variable {wire : M → Bytes}

variable {events rest : List (LinkEvent ε)} {obs : List (Option M)}

theorem trans {middle : List (LinkEvent ε)} {obs' : List (Option M)}
    (hfirst : Observed wire events obs middle) (hlater : Observed wire middle obs' rest) :
    Observed wire events (obs ++ obs') rest := by
  induction hfirst with
  | stop rest => exact hlater
  | frame _ ih => exact .frame (ih hlater)
  | trouble _ ih => exact .trouble (ih hlater)
  | passed _ ih => exact .passed (ih hlater)

theorem suffix (hobs : Observed wire events obs rest) : rest <:+ events := by
  induction hobs with
  | stop rest => exact List.suffix_rfl
  | frame _ ih => exact ih.trans (List.suffix_cons _ _)
  | trouble _ ih => exact ih.trans (List.suffix_cons _ _)
  | passed _ ih => exact ih.trans (List.suffix_cons _ _)

/-- The frames observed are the blocks read. -/
theorem messages (hobs : Observed wire events obs rest) :
    Arrival.messages events = obs.reduceOption.map wire ++ Arrival.messages rest := by
  induction hobs with
  | stop rest => rfl
  | frame _ ih =>
      rw [Arrival.messages_message_cons, ih]
      rfl
  | trouble _ ih =>
      rw [Arrival.messages_upset_cons, ih]
      rfl
  | passed _ ih => rw [Arrival.messages_upset_cons, ih]

end Observed

/-- Every block is the encoding of a frame that the reader can hold. -/
def Readable (wire : M → Bytes) (valid : M → Prop) (events : List (LinkEvent ε)) : Prop :=
  ∀ bytes, .message bytes ∈ events → ∃ frame, valid frame ∧ bytes = wire frame

variable {rest : List (LinkEvent ε)}

theorem Readable.suffix {wire : M → Bytes} {valid : M → Prop} {events : List (LinkEvent ε)}
    (hevents : Readable wire valid events) (hsuffix : rest <:+ events) : Readable wire valid rest :=
  fun bytes hmem => hevents bytes (hsuffix.subset hmem)

/-! ## Tracking -/

variable (wire : M → Bytes)

/-- One run of a device program seen as a run over observations.  A loop bound only
ends the run where the bound is too small or something upset the reads. -/
inductive Tracked (patient : Prop) (rel : α → β → Prop) (model : FrameProc M β)
    (script : Script ε) : Outcome α × Script ε → Prop where
  | done {obs : List (Option M)} {rest : List (LinkEvent ε)} {sent : List M}
      {concrete : α} {value : β} {script' : Script ε} :
      Observed wire script.reads obs rest → Runs model obs sent (.done value) →
        rel concrete value → script' = ⟨rest, script.written ++ sent.map wire⟩ →
        Tracked patient rel model script (.done concrete, script')
  | waiting {obs : List (Option M)} {sent : List M} {script' : Script ε} :
      Observed wire script.reads obs [] → Runs model obs sent .waiting →
        script' = ⟨[], script.written ++ sent.map wire⟩ →
        Tracked patient rel model script (.waiting, script')
  | spent {obs : List (Option M)} {rest : List (LinkEvent ε)} {sent : List M}
      {script' : Script ε} :
      Observed wire script.reads obs rest → Runs model obs sent .waiting →
        script'.written = script.written ++ sent.map wire →
        (patient → ∃ upset : Upset ε, .upset upset ∈ script.reads) →
        Tracked patient rel model script (.spent, script')

variable {wire} in
/-- An upset that is passed over changes nothing for the rest of the run. -/
theorem Tracked.passed {patient patient' : Prop} {rel : α → β → Prop} {model : FrameProc M β}
    {written : List Bytes} {result : Outcome α × Script ε}
    (htracked : Tracked wire patient rel model ⟨rest, written⟩ result) (upset : Upset ε) :
    Tracked wire patient' rel model ⟨.upset upset :: rest, written⟩ result := by
  cases htracked with
  | done hobs hruns hrel hscript => exact .done (.passed hobs) hruns hrel hscript
  | waiting hobs hruns hscript => exact .waiting (.passed hobs) hruns hscript
  | spent hobs hruns hwritten _ =>
      exact .spent (.passed hobs) hruns hwritten fun _ => ⟨upset, List.mem_cons_self⟩

def Tracks (valid : M → Prop) (patient : Prop) (program : LinkProc ε α)
    (model : FrameProc M β) (rel : α → β → Prop) : Prop :=
  ∀ script : Script ε, Readable wire valid script.reads →
    Tracked wire patient rel model script (program.run Script.handle script)

variable {wire} {valid : M → Prop} {patient : Prop}

namespace Tracks

theorem done {rel : α → β → Prop} {concrete : α} {value : β} (hrel : rel concrete value) :
    Tracks wire valid patient (.done concrete : LinkProc ε α) (.done value) rel := by
  intro script _
  exact .done (.stop script.reads) (.done value) hrel (by simp)

variable {rel : α → β → Prop} {program : LinkProc ε α} {model : FrameProc M β}

theorem mono {rel' : α → β → Prop} (htracks : Tracks wire valid patient program model rel)
    (hrel : ∀ concrete value, rel concrete value → rel' concrete value) :
    Tracks wire valid patient program model rel' := by
  intro script hreadable
  have hrun := htracks script hreadable
  generalize program.run Script.handle script = result at hrun
  cases hrun with
  | done hobs hruns hvalue hscript => exact .done hobs hruns (hrel _ _ hvalue) hscript
  | waiting hobs hruns hscript => exact .waiting hobs hruns hscript
  | spent hobs hruns hwritten hspent => exact .spent hobs hruns hwritten hspent

theorem of_run_eq {program' : LinkProc ε α} (htracks : Tracks wire valid patient program' model rel)
    (hrun : ∀ script, program.run Script.handle script = program'.run Script.handle script) :
    Tracks wire valid patient program model rel := by
  intro script hreadable
  rw [hrun]
  exact htracks script hreadable

/-- Two programs in sequence track two models in sequence. -/
theorem bind {γ δ : Type} {rest : α → LinkProc ε γ}
    {modelRest : β → FrameProc M δ}
    {rel' : γ → δ → Prop} (hfirst : Tracks wire valid patient program model rel)
    (hrest : ∀ concrete value, rel concrete value →
      Tracks wire valid patient (rest concrete) (modelRest value) rel') :
    Tracks wire valid patient (program >>= rest) (model >>= modelRest) rel' := by
  intro script hreadable
  have hrun := hfirst script hreadable
  rw [Proc.run_bind]
  generalize program.run Script.handle script = result at hrun
  cases hrun with
  | @done obs later sent concrete value script' hobs hruns hvalue hscript =>
      subst hscript
      have hlater := hrest concrete value hvalue ⟨later, script.written ++ sent.map wire⟩
        (hreadable.suffix hobs.suffix)
      unfold Proc.resume
      dsimp only
      generalize (rest concrete).run Script.handle _ = result at hlater
      cases hlater with
      | done hobs' hruns' hvalue' hscript =>
          exact .done (hobs.trans hobs') (hruns.bind hruns') hvalue' (by simp [hscript])
      | waiting hobs' hruns' hscript =>
          exact .waiting (hobs.trans hobs') (hruns.bind hruns') (by simp [hscript])
      | spent hobs' hruns' hwritten hspent =>
          refine .spent (hobs.trans hobs') (hruns.bind hruns') (by simp [hwritten]) ?_
          intro hpatient
          obtain ⟨upset, hmem⟩ := hspent hpatient
          exact ⟨upset, hobs.suffix.subset hmem⟩
  | waiting hobs hruns hscript => exact .waiting hobs (hruns.bind_waiting _) hscript
  | spent hobs hruns hwritten hspent =>
      exact .spent hobs (hruns.bind_waiting _) hwritten hspent

/-- What a program makes of its result afterwards uses nothing up. -/
theorem map {γ : Type} {rel' : γ → β → Prop} {result : α → γ}
    (htracks : Tracks wire valid patient program model rel)
    (hrel : ∀ concrete value, rel concrete value → rel' (result concrete) value) :
    Tracks wire valid patient (program >>= fun concrete => pure (result concrete)) model rel' := by
  intro script hreadable
  have hrun := htracks script hreadable
  rw [Proc.run_bind]
  generalize program.run Script.handle script = outcome at hrun
  cases hrun with
  | done hobs hruns hvalue hscript => exact .done hobs hruns (hrel _ _ hvalue) hscript
  | waiting hobs hruns hscript => exact .waiting hobs hruns hscript
  | spent hobs hruns hwritten hspent => exact .spent hobs hruns hwritten hspent

/-- Writing a frame is sending it, and it never fails on a script. -/
theorem write {frame : M} {bytes : Bytes} (hbytes : bytes = wire frame) (timeoutMs : UInt32) :
    Tracks wire valid patient (writeBlock bytes timeoutMs : LinkProc ε _) (send frame)
      fun reply _ => reply = .ok () := by
  intro script _
  exact .done (.stop script.reads) (.send (.done ())) rfl (by simp [hbytes])

end Tracks

/-- A loop bound that is enough to read any one frame byte by byte. -/
def Patient (wire : M → Bytes) (valid : M → Prop) (bound : Nat) : Prop :=
  0 < bound ∧ ∀ frame, valid frame → (wire frame).length < bound

/-- A frame read is observed; any failure to read is trouble. -/
inductive Saw {A : Type} (valid : M → Prop) (view : M → A) : Except ε A → Option M → Prop where
  | frame {frame : M} : valid frame → Saw valid view (.ok (view frame)) (some frame)
  | trouble (error : ε) : Saw valid view (.error error) none

/-! ## Sessions -/

/-- One read that came back with a frame or with an error, seen as one observation. -/
theorem Tracked.observed {A S : Type} {valid : M → Prop} {view : M → A} {patient : Prop}
    {events : List (LinkEvent ε)} {written : List Bytes} {seen : Option M} {object : S}
    {reply : Except ε A} (hobs : Observed wire events [seen] rest)
    (hsaw : Saw valid view reply seen) :
    Tracked wire patient (fun result seen => result.2 = object ∧ Saw valid view result.1 seen)
      observe ⟨events, written⟩ (.done (reply, object), ⟨rest, written⟩) :=
  .done hobs (.observe (.done seen)) ⟨rfl, hsaw⟩ (by simp)

/-- A session of calls seen as a session over observations. -/
def SessionTracks {S γ : Type} (wire : M → Bytes) (valid : M → Prop)
    (calls : List (S → LinkProc ε (α × S))) (object : S) (models : List (FrameProc M γ))
    (rel : α → γ → Prop) : Prop :=
  ∀ script : Script ε, Readable wire valid script.reads →
    ∃ obs rest sent values, Observed wire script.reads obs rest ∧ RunsAll models obs sent values ∧
      List.Forall₂ rel (runCalls Script.handle calls object script).1 values ∧
      (runCalls Script.handle calls object script).2.written =
        script.written ++ sent.map wire

theorem SessionTracks.nil {S γ : Type} (object : S) (rel : α → γ → Prop) :
    SessionTracks wire valid ([] : List (S → LinkProc ε (α × S))) object [] rel :=
  fun script _ => ⟨[], script.reads, [], [], .stop _, .nil, .nil, by simp [runCalls]⟩

theorem SessionTracks.cons {S γ : Type} {call : S → LinkProc ε (α × S)}
    {calls : List (S → LinkProc ε (α × S))} {object : S} {model : FrameProc M γ}
    {models : List (FrameProc M γ)} {rel : α → γ → Prop}
    (hcall : Tracks wire valid patient (call object) model fun result value =>
      rel result.1 value ∧ SessionTracks wire valid calls result.2 models rel) :
    SessionTracks wire valid (call :: calls) object (model :: models) rel := by
  intro script hreadable
  have hrun := hcall script hreadable
  unfold runCalls
  generalize (call object).run Script.handle script = result at hrun
  cases hrun with
  | @done obs later sent concrete value script' hobs hruns hvalue hscript =>
      obtain ⟨hrel, hlater⟩ := hvalue
      subst hscript
      obtain ⟨obs', rest, sent', values, hobs', hruns', hrels, hwritten⟩ :=
        hlater ⟨later, script.written ++ sent.map wire⟩ (hreadable.suffix hobs.suffix)
      exact ⟨obs ++ obs', rest, sent ++ sent', value :: values, hobs.trans hobs',
        .cons hruns hruns', .cons hrel hrels, by simp [hwritten]⟩
  | waiting hobs hruns hscript =>
      exact ⟨_, _, _, [], hobs, .pending hruns, .nil, by simp [hscript]⟩
  | spent hobs hruns hwritten _ => exact ⟨_, _, _, [], hobs, .pending hruns, .nil, hwritten⟩

end AudioStudio.DataLink
