import AudioStudio.Audio.Session

/-!
# What a session asks of its device

The exchanges of a session with its device are words of a protocol, and the flags of the
session are the state that the protocol is in.
-/

namespace AudioStudio.Audio

open AudioStudio.Common
open LittleEndian

/-! ## The protocol -/

def succeeded : DeviceExchange → Bool
  | ⟨.prepare _, reply⟩ => Except.isOk reply
  | ⟨.start, reply⟩ => Except.isOk reply
  | ⟨.writeFrame _ _, reply⟩ => Except.isOk reply
  | ⟨.readFrame _ _, reply⟩ => Except.isOk reply
  | ⟨.drain, reply⟩ => Except.isOk reply
  | ⟨.stop, reply⟩ => Except.isOk reply
  | ⟨.close, _⟩ => true

/-- What a device has been through: a successful prepare, a successful start with no
successful stop behind it, a close. -/
structure DeviceState where
  prepared : Bool := false
  started : Bool := false
  closed : Bool := false
  deriving DecidableEq, Repr

namespace DeviceState

/-- The calls that may occur in a state. -/
def allows (device : DeviceState) : DeviceCmd → Bool
  | .start => !device.closed && device.prepared
  | .writeFrame _ _ | .readFrame _ _ => !device.closed && device.started
  | .prepare _ | .drain | .stop | .close => !device.closed

def note (device : DeviceState) (exchange : DeviceExchange) : DeviceState :=
  match exchange.1 with
  | .prepare _ => { device with prepared := device.prepared || succeeded exchange }
  | .start => { device with started := device.started || succeeded exchange }
  | .stop => { device with started := device.started && !succeeded exchange }
  | .close => { closed := true }
  | .writeFrame _ _ | .readFrame _ _ | .drain => device

def next (device : DeviceState) (exchange : DeviceExchange) : Option DeviceState :=
  if device.allows exchange.1 then some (device.note exchange) else none

/-- The state behind a word of the protocol; other words lead nowhere. -/
def after (device : DeviceState) (exchanges : List DeviceExchange) : Option DeviceState :=
  exchanges.foldlM next device

variable {device : DeviceState}

theorem after_singleton {exchange : DeviceExchange} (hallows : device.allows exchange.1 = true) :
    device.after [exchange] = some (device.note exchange) := by
  simp [after, next, hallows]

theorem after_append {device' : DeviceState} {earlier : List DeviceExchange}
    (hearlier : device.after earlier = some device') (later : List DeviceExchange) :
    device.after (earlier ++ later) = device'.after later := by
  unfold after at hearlier ⊢
  rw [List.foldlM_append, hearlier]
  rfl

/-- A call that fails changes nothing. -/
theorem note_of_failed {exchange : DeviceExchange} (hfailed : succeeded exchange = false) :
    device.note exchange = device := by
  obtain ⟨cmd, reply⟩ := exchange
  cases cmd with
  | close => cases hfailed
  | prepare params => simp [note, hfailed]
  | start => simp [note, hfailed]
  | stop => simp [note, hfailed]
  | writeFrame frame timeoutMs => rfl
  | readFrame size timeoutMs => rfl
  | drain => rfl

end DeviceState

/-! ## Programs that follow it -/

namespace Session

/-- The flags of a session as the state of its device. -/
def state (session : Session) : DeviceState where
  prepared := session.stream.prepared
  started := session.stream.running
  closed := session.closed

/-- Running implies prepared and not closed. -/
def Consistent (session : Session) : Prop :=
  session.stream.running = true → session.stream.prepared = true ∧ session.closed = false

end Session

/-- The exchanges and the flags behind them. -/
structure Moves (session : Session) (exchanges : List DeviceExchange) (session' : Session) :
    Prop where
  device : session'.hasDevice = session.hasDevice
  silent : session.hasDevice = false → exchanges = []
  word : session.hasDevice = true → session.state.after exchanges = some session'.state
  consistent : session.Consistent → session'.Consistent

section Programs

variable {session session' session'' : Session} {noun : String}
  {exchanges later : List DeviceExchange} {status : Result Unit}

theorem Moves.refl (session : Session) : Moves session [] session where
  device := rfl
  silent _ := rfl
  word _ := rfl
  consistent := id

theorem Moves.trans (hfirst : Moves session exchanges session')
    (hsecond : Moves session' later session'') : Moves session (exchanges ++ later) session'' where
  device := hsecond.device.trans hfirst.device
  silent hnone := by
    rw [hfirst.silent hnone, hsecond.silent (hfirst.device.trans hnone), List.append_nil]
  word hsome := by
    rw [DeviceState.after_append (hfirst.word hsome)]
    exact hsecond.word (hfirst.device.trans hsome)
  consistent hconsistent := hsecond.consistent (hfirst.consistent hconsistent)

theorem callDevice_returns {cmd : DeviceCmd} {reply : DeviceReply cmd}
    (hreturns : (callDevice cmd).Returns exchanges reply) : exchanges = [⟨cmd, reply⟩] := by
  obtain ⟨_, _, rfl, rfl, rfl⟩ := hreturns
  rfl

variable {call : DeviceProc (Result Unit)}

/-- A call of the device is one exchange, or none when there is no device. -/
theorem onDevice_returns (hreturns : (session.onDevice call).Returns exchanges status) :
    session.hasDevice = true ∧ call.Returns exchanges status ∨
      session.hasDevice = false ∧ exchanges = [] ∧ status = .ok () := by
  unfold Session.onDevice at hreturns
  split at hreturns
  · next hdevice => exact .inl ⟨hdevice, hreturns⟩
  · next hdevice =>
      obtain ⟨hexchanges, hstatus⟩ := hreturns
      exact .inr ⟨Bool.eq_false_of_not_eq_true hdevice, hexchanges, hstatus.symm⟩

/-- A call of the device, and what the session becomes when it succeeds. -/
inductive Asked (session : Session) (exchange : Result Unit → DeviceExchange)
    (updated : Session) : List DeviceExchange → Result Unit → Session → Prop where
  | failed (status : Status) (hdevice : session.hasDevice = true) :
      Asked session exchange updated [exchange (.error status)] (.error status) session
  | granted (hdevice : session.hasDevice = true) :
      Asked session exchange updated [exchange (.ok ())] (.ok ()) updated
  | absent (hdevice : session.hasDevice = false) :
      Asked session exchange updated [] (.ok ()) updated

variable {exchange : Result Unit → DeviceExchange} {updated : Session} {result : Result Unit}

theorem onDevice_asked (hreturns : (session.onDevice call >>= fun status => match status with
      | .error status => pure (.error status, session)
      | .ok () => pure (.ok (), updated) : DeviceProc (Result Unit × Session)).Returns
        exchanges (result, session'))
    (hcall : ∀ {exchanges status}, call.Returns exchanges status → exchanges = [exchange status]) :
    Asked session exchange updated exchanges result session' := by
  obtain ⟨status, earlier, later, rfl, hasked, hrest⟩ := Proc.returns_bind.mp hreturns
  obtain ⟨hdevice, hasked⟩ | ⟨hdevice, rfl, rfl⟩ := onDevice_returns hasked
  · obtain rfl := hcall hasked
    cases status with
    | error status =>
        obtain ⟨rfl, heq⟩ := hrest
        cases heq
        exact .failed status hdevice
    | ok value =>
        obtain ⟨rfl, heq⟩ := hrest
        cases heq
        exact .granted hdevice
  · obtain ⟨rfl, heq⟩ := hrest
    cases heq
    exact .absent hdevice

/-- The session moves with an allowed call when its flags are what the device notes. -/
theorem Asked.moves (hasked : Asked session exchange updated exchanges result session')
    (hallows : ∀ status, session.state.allows (exchange status).1 = true)
    (hfails : ∀ status, succeeded (exchange (.error status)) = false)
    (hdevice : updated.hasDevice = session.hasDevice)
    (hstate : updated.state = session.state.note (exchange (.ok ())))
    (hconsistent : session.Consistent → updated.Consistent) :
    Moves session exchanges session' := by
  cases hasked with
  | failed status hsome =>
      constructor
      · rfl
      · exact fun hnone => absurd (hnone.symm.trans hsome) Bool.false_ne_true
      · intro _
        rw [DeviceState.after_singleton (hallows _), DeviceState.note_of_failed (hfails status)]
      · exact id
  | granted hsome =>
      constructor
      · exact hdevice
      · exact fun hnone => absurd (hnone.symm.trans hsome) Bool.false_ne_true
      · intro _
        rw [DeviceState.after_singleton (hallows _), hstate]
      · exact hconsistent
  | absent hnone =>
      exact ⟨hdevice, fun _ => rfl,
        fun hsome => absurd (hnone.symm.trans hsome) Bool.false_ne_true, hconsistent⟩

/-- Some call of the device failed. -/
def AnyFailed (exchanges : List DeviceExchange) : Prop :=
  ∃ exchange ∈ exchanges, succeeded exchange = false

theorem not_anyFailed_nil : ¬AnyFailed [] := nofun

theorem anyFailed_singleton {exchange : DeviceExchange} :
    AnyFailed [exchange] ↔ succeeded exchange = false := by
  simp [AnyFailed]

theorem anyFailed_append {earlier : List DeviceExchange} :
    AnyFailed (earlier ++ later) ↔ AnyFailed earlier ∨ AnyFailed later := by
  simp only [AnyFailed, List.mem_append, or_and_right, exists_or]

/-- The result says whether the call failed, and a call that failed keeps the session. -/
theorem Asked.of_failed (hasked : Asked session exchange updated exchanges result session')
    (hsucceeds : succeeded (exchange (.ok ())) = true) (hfailed : AnyFailed exchanges) :
    session' = session ∧ session.hasDevice = true ∧ result ≠ .ok () := by
  cases hasked with
  | failed status hsome => exact ⟨rfl, hsome, nofun⟩
  | granted hsome =>
      rw [anyFailed_singleton, hsucceeds] at hfailed
      cases hfailed
  | absent => exact absurd hfailed not_anyFailed_nil

/-! ### The calls -/

/-- A prepare does nothing, or asks the device of an open session that is not prepared. -/
theorem prepare_returns
    (hreturns : (session.prepare noun).Returns exchanges (result, session')) :
    exchanges = [] ∧ session' = session ∧
        (result = .ok () → session.closed = false ∧ session.stream.prepared = true) ∨
      session.closed = false ∧
        Asked session (⟨.prepare session.stream.streamParams, ·⟩) (session.setPrepared true)
          exchanges result session' := by
  unfold Session.prepare at hreturns
  split at hreturns
  · obtain ⟨rfl, heq⟩ := hreturns
    cases heq
    exact .inl ⟨rfl, rfl, nofun⟩
  · next hopen =>
    rw [Bool.not_eq_true] at hopen
    split at hreturns
    · next hprepared =>
      obtain ⟨rfl, heq⟩ := hreturns
      cases heq
      exact .inl ⟨rfl, rfl, fun _ => ⟨hopen, hprepared⟩⟩
    · exact .inr ⟨hopen, onDevice_asked hreturns callDevice_returns⟩

theorem prepare_moves
    (hreturns : (session.prepare noun).Returns exchanges (result, session')) :
    Moves session exchanges session' := by
  obtain ⟨rfl, rfl, -⟩ | ⟨hopen, hasked⟩ := prepare_returns hreturns
  · exact .refl session'
  · refine hasked.moves (fun _ => ?_) (fun _ => rfl) rfl ?_ ?_
    · simp [DeviceState.allows, Session.state, hopen]
    · simp [DeviceState.note, Session.state, Session.setPrepared, succeeded, Except.isOk,
        Except.toBool]
    · exact fun hconsistent hrunning => ⟨rfl, (hconsistent hrunning).2⟩

/-- A prepare that succeeds leaves the session prepared and open. -/
theorem prepare_ok (hreturns : (session.prepare noun).Returns exchanges (.ok (), session')) :
    session'.stream.prepared = true ∧ session'.closed = false ∧
      (session' = session ∨ session' = session.setPrepared true ∧
        (session.hasDevice = true → exchanges = [⟨.prepare session.stream.streamParams, .ok ()⟩])) := by
  obtain ⟨-, rfl, hready⟩ | ⟨hopen, hasked⟩ := prepare_returns hreturns
  · exact ⟨(hready rfl).2, (hready rfl).1, .inl rfl⟩
  · cases hasked with
    | granted => exact ⟨rfl, hopen, .inr ⟨rfl, fun _ => rfl⟩⟩
    | absent hnone =>
        exact ⟨rfl, hopen, .inr ⟨rfl, fun hsome => absurd (hnone.symm.trans hsome)
          Bool.false_ne_true⟩⟩

theorem prepare_error {status : Status}
    (hreturns : (session.prepare noun).Returns exchanges (.error status, session')) :
    session' = session := by
  obtain ⟨-, rfl, -⟩ | ⟨-, hasked⟩ := prepare_returns hreturns
  · rfl
  · cases hasked with
    | failed => rfl

theorem prepare_failed
    (hreturns : (session.prepare noun).Returns exchanges (result, session'))
    (hfailed : AnyFailed exchanges) : session' = session ∧ result ≠ .ok () := by
  obtain ⟨rfl, -, -⟩ | ⟨-, hasked⟩ := prepare_returns hreturns
  · exact absurd hfailed not_anyFailed_nil
  · obtain ⟨hsame, -, hresult⟩ := hasked.of_failed rfl hfailed
    exact ⟨hsame, hresult⟩

/-- A start is refused, or it prepares the session and then asks the device to start. -/
theorem start_returns (hreturns : (session.start noun).Returns exchanges (result, session')) :
    exchanges = [] ∧ session' = session ∨
      (∃ status, (session.prepare noun).Returns exchanges (.error status, session')) ∨
      ∃ middle earlier later, exchanges = earlier ++ later ∧
        (session.prepare noun).Returns earlier (.ok (), middle) ∧
        Asked middle (⟨.start, ·⟩) (middle.setRunning true) later result session' := by
  unfold Session.start at hreturns
  split at hreturns
  · obtain ⟨rfl, heq⟩ := hreturns
    cases heq
    exact .inl ⟨rfl, rfl⟩
  · obtain ⟨⟨prepared, middle⟩, earlier, later, rfl, hprepare, hrest⟩ :=
      Proc.returns_bind.mp hreturns
    cases prepared with
    | error status =>
        obtain ⟨rfl, heq⟩ := hrest
        cases heq
        rw [List.append_nil]
        exact .inr (.inl ⟨status, hprepare⟩)
    | ok value =>
        exact .inr (.inr ⟨middle, earlier, later, rfl, hprepare,
          onDevice_asked hrest callDevice_returns⟩)

theorem start_moves (hreturns : (session.start noun).Returns exchanges (result, session')) :
    Moves session exchanges session' := by
  obtain ⟨rfl, rfl⟩ | ⟨_, hprepare⟩ | ⟨middle, earlier, later, rfl, hprepare, hasked⟩ :=
    start_returns hreturns
  · exact .refl session'
  · exact prepare_moves hprepare
  · obtain ⟨hprepared, hopen, -⟩ := prepare_ok hprepare
    refine (prepare_moves hprepare).trans (hasked.moves (fun _ => ?_) (fun _ => rfl) rfl ?_ ?_)
    · simp [DeviceState.allows, Session.state, hopen, hprepared]
    · simp [DeviceState.note, Session.state, Session.setRunning, succeeded, Except.isOk,
        Except.toBool]
    · exact fun _ _ => ⟨hprepared, hopen⟩

/-- A start that fails at the device keeps a prepare that was asked for and succeeded. -/
theorem start_failed (hreturns : (session.start noun).Returns exchanges (result, session'))
    (hfailed : AnyFailed exchanges) :
    session' = session ∨ session' = session.setPrepared true ∧
      ∃ later, exchanges = ⟨.prepare session.stream.streamParams, .ok ()⟩ :: later := by
  obtain ⟨rfl, rfl⟩ | ⟨_, hprepare⟩ | ⟨middle, earlier, later, rfl, hprepare, hasked⟩ :=
    start_returns hreturns
  · exact .inl rfl
  · exact .inl (prepare_error hprepare)
  · have hstarts : AnyFailed later :=
      (anyFailed_append.mp hfailed).resolve_left fun hearlier =>
        (prepare_failed hprepare hearlier).2 rfl
    obtain ⟨rfl, hdevice, -⟩ := hasked.of_failed rfl hstarts
    obtain ⟨-, -, rfl | ⟨rfl, hexchanges⟩⟩ := prepare_ok hprepare
    · exact .inl rfl
    · exact .inr ⟨rfl, later, by rw [hexchanges hdevice]; rfl⟩

theorem stop_returns (hreturns : session.stop.Returns exchanges (result, session')) :
    session.closed = true ∧ exchanges = [] ∧ session' = session ∨
      session.closed = false ∧
        Asked session (⟨.stop, ·⟩) (session.setRunning false) exchanges result session' := by
  unfold Session.stop at hreturns
  split at hreturns
  · next hclosed =>
    obtain ⟨rfl, heq⟩ := hreturns
    cases heq
    exact .inl ⟨hclosed, rfl, rfl⟩
  · next hopen =>
    exact .inr ⟨Bool.eq_false_of_not_eq_true hopen, onDevice_asked hreturns callDevice_returns⟩

theorem stop_moves (hreturns : session.stop.Returns exchanges (result, session')) :
    Moves session exchanges session' := by
  obtain ⟨-, rfl, rfl⟩ | ⟨hopen, hasked⟩ := stop_returns hreturns
  · exact .refl session'
  · refine hasked.moves (fun _ => ?_) (fun _ => rfl) rfl ?_ ?_
    · simp [DeviceState.allows, Session.state, hopen]
    · simp [DeviceState.note, Session.state, Session.setRunning, succeeded, Except.isOk,
        Except.toBool]
    · exact fun _ hrunning => nomatch hrunning

theorem stop_failed (hreturns : session.stop.Returns exchanges (result, session'))
    (hfailed : AnyFailed exchanges) : session' = session := by
  obtain ⟨-, -, rfl⟩ | ⟨-, hasked⟩ := stop_returns hreturns
  · rfl
  · exact (hasked.of_failed rfl hfailed).1

/-- Behind a stop that succeeded there is nothing left that a stop changes. -/
theorem stop_again {result' : Result Unit}
    (hreturns : session.stop.Returns exchanges (.ok (), session'))
    (hreturns' : session'.stop.Returns later (result', session'')) : session'' = session' := by
  have hstopped : session'.closed = true ∨ session'.setRunning false = session' := by
    obtain ⟨hclosed, -, rfl⟩ | ⟨-, hasked⟩ := stop_returns hreturns
    · exact .inl hclosed
    · cases hasked with
      | granted => exact .inr rfl
      | absent => exact .inr rfl
  obtain ⟨-, -, rfl⟩ | ⟨hopen, hasked⟩ := stop_returns hreturns'
  · rfl
  · have hsame := hstopped.resolve_left (by simp [hopen])
    cases hasked with
    | failed => rfl
    | granted => exact hsame
    | absent => exact hsame

/-- A close leaves the session closed, and a closed session alone. -/
theorem close_returns (hreturns : session.close.Returns exchanges (result, session')) :
    result = .ok () ∧ session'.closed = true ∧ Moves session exchanges session' ∧
      ¬AnyFailed exchanges ∧ (session.closed = true → exchanges = [] ∧ session' = session) := by
  unfold Session.close at hreturns
  split at hreturns
  · next hclosed =>
    obtain ⟨rfl, heq⟩ := hreturns
    cases heq
    exact ⟨rfl, hclosed, .refl session, not_anyFailed_nil, fun _ => ⟨rfl, rfl⟩⟩
  · next hopen =>
    obtain ⟨_, earlier, later, rfl, hcall, hrest⟩ := Proc.returns_bind.mp hreturns
    obtain ⟨rfl, heq⟩ := hrest
    cases heq
    rw [List.append_nil]
    have hallows : session.state.allows .close = true := by
      simp [DeviceState.allows, Session.state, hopen]
    obtain ⟨hsome, _, _, rfl, rfl, -⟩ | ⟨hnone, rfl, -⟩ := onDevice_returns hcall
    · refine ⟨rfl, rfl, ?_, nofun, fun hclosed => absurd hclosed hopen⟩
      constructor
      · rfl
      · exact fun hnone => absurd (hnone.symm.trans hsome) Bool.false_ne_true
      · exact fun _ => DeviceState.after_singleton hallows
      · exact fun _ hrunning => nomatch hrunning
    · refine ⟨rfl, rfl, ?_, nofun, fun hclosed => absurd hclosed hopen⟩
      exact ⟨rfl, fun _ => rfl, fun hsome => absurd (hnone.symm.trans hsome) Bool.false_ne_true,
        fun _ hrunning => nomatch hrunning⟩

/-- A call that neither the device nor the session notes. -/
theorem moves_steady {exchange : DeviceExchange} (hdevice : session.hasDevice = true)
    (hallows : session.state.allows exchange.1 = true)
    (hnote : session.state.note exchange = session.state) :
    Moves session [exchange] session where
  device := rfl
  silent hnone := absurd (hnone.symm.trans hdevice) Bool.false_ne_true
  word _ := by rw [DeviceState.after_singleton hallows, hnote]
  consistent := id

variable {timeoutMs : UInt32}

theorem writeFrames_moves {data : Bytes} {accepted : Result Nat}
    (hreturns : (AudioPlaybackSession.writeFrames data timeoutMs session).Returns exchanges
      (accepted, session')) : session' = session ∧ Moves session exchanges session := by
  unfold AudioPlaybackSession.writeFrames at hreturns
  split_ifs at hreturns with hclosed hidle hempty
  · obtain ⟨rfl, heq⟩ := hreturns
    cases heq
    exact ⟨rfl, .refl session⟩
  · obtain ⟨rfl, heq⟩ := hreturns
    cases heq
    exact ⟨rfl, .refl session⟩
  · obtain ⟨rfl, heq⟩ := hreturns
    cases heq
    exact ⟨rfl, .refl session⟩
  · obtain ⟨status, earlier, later, rfl, hcall, hrest⟩ := Proc.returns_bind.mp hreturns
    obtain ⟨rfl, heq⟩ := hrest
    cases heq
    rw [List.append_nil]
    obtain ⟨hdevice, hcall⟩ | ⟨-, rfl, -⟩ := onDevice_returns hcall
    · obtain rfl := callDevice_returns hcall
      refine ⟨rfl, moves_steady hdevice ?_ rfl⟩
      simpa [DeviceState.allows, Session.state, hclosed] using hidle
    · exact ⟨rfl, .refl session⟩

theorem drain_moves
    (hreturns : (AudioPlaybackSession.drain session).Returns exchanges (result, session')) :
    session' = session ∧ Moves session exchanges session := by
  unfold AudioPlaybackSession.drain at hreturns
  split_ifs at hreturns with hclosed
  · obtain ⟨rfl, heq⟩ := hreturns
    cases heq
    exact ⟨rfl, .refl session⟩
  · obtain ⟨status, earlier, later, rfl, hcall, hrest⟩ := Proc.returns_bind.mp hreturns
    obtain ⟨rfl, heq⟩ := hrest
    cases heq
    rw [List.append_nil]
    obtain ⟨hdevice, hcall⟩ | ⟨-, rfl, -⟩ := onDevice_returns hcall
    · obtain rfl := callDevice_returns hcall
      refine ⟨rfl, moves_steady hdevice ?_ rfl⟩
      simp [DeviceState.allows, Session.state, hclosed]
    · exact ⟨rfl, .refl session⟩

variable {data : Result Bytes} {maxBytes : UInt64}

/-- A read is refused, or returns silence without a device, or reads one frame. -/
theorem readFrames_returns
    (hreturns : (AudioCaptureSession.readFrames maxBytes timeoutMs session).Returns exchanges
      (data, session')) :
    session' = session ∧
      (exchanges = [] ∧ (session.hasDevice = true → ∃ status, data = .error status) ∨
        (session.closed = false ∧ session.stream.running = true ∧ session.hasDevice = true) ∧
        ∃ frame : Result Bytes,
          exchanges = [⟨.readFrame (AudioCaptureSession.alignedMax maxBytes
            (AudioCaptureSession.frameBytes session.stream)).toNat timeoutMs, frame⟩] ∧
          data = frame.map (AudioCaptureSession.cutFrame maxBytes
            (AudioCaptureSession.frameBytes session.stream))) := by
  unfold AudioCaptureSession.readFrames at hreturns
  split_ifs at hreturns with hclosed hidle hzero hnone hframe
  · obtain ⟨rfl, heq⟩ := hreturns
    cases heq
    exact ⟨rfl, .inl ⟨rfl, fun _ => ⟨_, rfl⟩⟩⟩
  · obtain ⟨rfl, heq⟩ := hreturns
    cases heq
    exact ⟨rfl, .inl ⟨rfl, fun _ => ⟨_, rfl⟩⟩⟩
  · obtain ⟨rfl, heq⟩ := hreturns
    cases heq
    exact ⟨rfl, .inl ⟨rfl, fun _ => ⟨_, rfl⟩⟩⟩
  · obtain ⟨rfl, heq⟩ := hreturns
    cases heq
    rw [Bool.not_eq_true'] at hnone
    exact ⟨rfl, .inl ⟨rfl, fun hsome => absurd (hnone.symm.trans hsome) Bool.false_ne_true⟩⟩
  · obtain ⟨rfl, heq⟩ := hreturns
    cases heq
    exact ⟨rfl, .inl ⟨rfl, fun _ => ⟨_, rfl⟩⟩⟩
  · obtain ⟨frame, earlier, later, rfl, hcall, hrest⟩ := Proc.returns_bind.mp hreturns
    obtain ⟨rfl, heq⟩ := hrest
    cases heq
    rw [List.append_nil]
    refine ⟨rfl, .inr ⟨⟨?_, ?_, ?_⟩, frame, callDevice_returns hcall, rfl⟩⟩
    · simpa using hclosed
    · simpa using hidle
    · simpa using hnone

theorem readFrames_moves
    (hreturns : (AudioCaptureSession.readFrames maxBytes timeoutMs session).Returns exchanges
      (data, session')) : session' = session ∧ Moves session exchanges session := by
  obtain ⟨rfl, ⟨rfl, -⟩ | ⟨⟨hopen, hrunning, hdevice⟩, frame, rfl, -⟩⟩ := readFrames_returns hreturns
  · exact ⟨rfl, .refl session'⟩
  · refine ⟨rfl, moves_steady hdevice ?_ rfl⟩
    simp [DeviceState.allows, Session.state, hopen, hrunning]

end Programs

/-! ## Calls one after another -/

section Calls

variable {κ : Type} {perform : Session → κ → DeviceProc (Result SessionOutput × Session)}
  {session session' : Session} {exchanges : List DeviceExchange} {result : Result SessionOutput}

theorem withOutput_returns {α : Type} {output : α → SessionOutput}
    {program : DeviceProc (Result α × Session)}
    (hreturns : (withOutput output program).Returns exchanges (result, session')) :
    ∃ value, program.Returns exchanges (value, session') ∧ result = value.map output := by
  obtain ⟨⟨value, middle⟩, earlier, later, rfl, hprogram, hrest⟩ := Proc.returns_bind.mp hreturns
  obtain ⟨rfl, heq⟩ := hrest
  cases heq
  rw [List.append_nil]
  exact ⟨value, hprogram, rfl⟩

/-- What every call preserves, every sequence of calls preserves. -/
theorem conduct_moves
    (hperform : ∀ {session call exchanges result session'},
      (perform session call).Returns exchanges (result, session') → Moves session exchanges session')
    {calls : List κ} {results : List (Result SessionOutput)}
    (hreturns : (conduct perform calls session).Returns exchanges (results, session')) :
    Moves session exchanges session' := by
  induction calls generalizing session exchanges results with
  | nil =>
      obtain ⟨rfl, heq⟩ := hreturns
      cases heq
      exact .refl _
  | cons call calls ih =>
      obtain ⟨⟨_, middle⟩, earlier, later, rfl, hcall, hrest⟩ := Proc.returns_bind.mp hreturns
      obtain ⟨⟨_, last⟩, earlier', later', rfl, hcalls, hrest⟩ := Proc.returns_bind.mp hrest
      obtain ⟨rfl, heq⟩ := hrest
      cases heq
      rw [List.append_nil]
      exact (hperform hcall).trans (ih hcalls)

theorem playback_moves {call : PlaybackCall}
    (hreturns : (AudioPlaybackSession.perform session call).Returns exchanges (result, session')) :
    Moves session exchanges session' := by
  cases call with
  | prepare =>
      obtain ⟨_, hprepare, -⟩ := withOutput_returns hreturns
      exact prepare_moves hprepare
  | start =>
      obtain ⟨_, hstart, -⟩ := withOutput_returns hreturns
      exact start_moves hstart
  | writeFrames data timeoutMs =>
      obtain ⟨_, hwrite, -⟩ := withOutput_returns hreturns
      obtain ⟨rfl, hmoves⟩ := writeFrames_moves hwrite
      exact hmoves
  | drain =>
      obtain ⟨_, hdrain, -⟩ := withOutput_returns hreturns
      obtain ⟨rfl, hmoves⟩ := drain_moves hdrain
      exact hmoves
  | stop =>
      obtain ⟨_, hstop, -⟩ := withOutput_returns hreturns
      exact stop_moves hstop
  | close =>
      obtain ⟨_, hclose, -⟩ := withOutput_returns hreturns
      exact (close_returns hclose).2.2.1

theorem capture_moves {call : CaptureCall}
    (hreturns : (AudioCaptureSession.perform session call).Returns exchanges (result, session')) :
    Moves session exchanges session' := by
  cases call with
  | prepare =>
      obtain ⟨_, hprepare, -⟩ := withOutput_returns hreturns
      exact prepare_moves hprepare
  | start =>
      obtain ⟨_, hstart, -⟩ := withOutput_returns hreturns
      exact start_moves hstart
  | readFrames maxBytes timeoutMs =>
      obtain ⟨_, hread, -⟩ := withOutput_returns hreturns
      obtain ⟨rfl, hmoves⟩ := readFrames_moves hread
      exact hmoves
  | stop =>
      obtain ⟨_, hstop, -⟩ := withOutput_returns hreturns
      exact stop_moves hstop
  | close =>
      obtain ⟨_, hclose, -⟩ := withOutput_returns hreturns
      exact (close_returns hclose).2.2.1

/-! ## The discipline -/

/-- A device call that fails changes the flags only by the prepare of a start. -/
def KeepsFlags (starts : Prop) (session : Session) (exchanges : List DeviceExchange)
    (session' : Session) : Prop :=
  session' = session ∨ starts ∧ session' = session.setPrepared true ∧
    ∃ later, exchanges = ⟨.prepare session.stream.streamParams, .ok ()⟩ :: later

/-- A class of sessions whose calls, in any order and with any replies of the device, are words
of the protocol and keep the flags in step with it. -/
structure Disciplined (perform : Session → κ → DeviceProc (Result SessionOutput × Session))
    (start stop close : κ) : Prop where
  word : ∀ {stream : AudioStream} {hasDevice calls exchanges results session'},
    stream.prepared = false → stream.running = false →
      (conduct perform calls { stream, hasDevice }).Returns exchanges (results, session') →
        ((DeviceState.after {} exchanges).isSome = true ∧
          (session'.stream.running = true →
            session'.stream.prepared = true ∧ session'.closed = false))
  failed : ∀ {session call exchanges result session'},
    (perform session call).Returns exchanges (result, session') → AnyFailed exchanges →
      KeepsFlags (call = start) session exchanges session'
  stop_again : ∀ {session exchanges output session'},
    (perform session stop).Returns exchanges (.ok output, session') →
      ∀ {exchanges result session''}, (perform session' stop).Returns exchanges (result, session'') →
        session'' = session'
  close_again : ∀ {session exchanges result session'},
    (perform session close).Returns exchanges (result, session') →
      ∀ {exchanges result session''},
        (perform session' close).Returns exchanges (result, session'') →
          exchanges = [] ∧ result = .ok .nothing ∧ session'' = session'

variable {stream : AudioStream} {hasDevice : Bool}

/-- A run of a new session is a word of the protocol. -/
theorem Moves.isSome_after (hmoves : Moves { stream, hasDevice } exchanges session')
    (hprepared : stream.prepared = false) (hrunning : stream.running = false) :
    (DeviceState.after {} exchanges).isSome = true := by
  have hstate : ({ stream, hasDevice : Session }).state = {} := by
    simp [Session.state, hprepared, hrunning]
  cases hdevice : hasDevice with
  | false =>
      rw [hmoves.silent hdevice]
      rfl
  | true => rw [← hstate, hmoves.word hdevice, Option.isSome_some]

theorem Moves.consistent_of_new (hmoves : Moves { stream, hasDevice } exchanges session')
    (hrunning : stream.running = false) : session'.Consistent :=
  hmoves.consistent fun hsays => absurd (hrunning.symm.trans hsays) Bool.false_ne_true

variable {result' : Result SessionOutput}

theorem withOutput_stop_again {session'' : Session} {later : List DeviceExchange}
    {output : SessionOutput}
    (hreturns : (withOutput (fun _ => .nothing) session.stop).Returns exchanges
      (.ok output, session'))
    (hreturns' : (withOutput (fun _ => .nothing) session'.stop).Returns later
      (result', session'')) : session'' = session' := by
  obtain ⟨value, hstop, hvalue⟩ := withOutput_returns hreturns
  obtain ⟨_, hstop', -⟩ := withOutput_returns hreturns'
  cases value with
  | error status => cases hvalue
  | ok value => exact stop_again hstop hstop'

theorem withOutput_close_again {session'' : Session} {later : List DeviceExchange}
    (hreturns : (withOutput (fun _ => .nothing) session.close).Returns exchanges (result, session'))
    (hreturns' : (withOutput (fun _ => .nothing) session'.close).Returns later (result', session''))
    : later = [] ∧ result' = .ok .nothing ∧ session'' = session' := by
  obtain ⟨_, hclose, -⟩ := withOutput_returns hreturns
  obtain ⟨_, hclose', rfl⟩ := withOutput_returns hreturns'
  obtain ⟨-, hclosed, -⟩ := close_returns hclose
  obtain ⟨rfl, -, -, -, hagain⟩ := close_returns hclose'
  exact ⟨(hagain hclosed).1, rfl, (hagain hclosed).2⟩

theorem playback_failed {call : PlaybackCall}
    (hreturns : (AudioPlaybackSession.perform session call).Returns exchanges (result, session'))
    (hfailed : AnyFailed exchanges) : KeepsFlags (call = .start) session exchanges session' := by
  cases call with
  | prepare =>
      obtain ⟨_, hprepare, -⟩ := withOutput_returns hreturns
      exact .inl (prepare_failed hprepare hfailed).1
  | start =>
      obtain ⟨_, hstart, -⟩ := withOutput_returns hreturns
      exact (start_failed hstart hfailed).imp id fun hkept => ⟨rfl, hkept⟩
  | writeFrames data timeoutMs =>
      obtain ⟨_, hwrite, -⟩ := withOutput_returns hreturns
      exact .inl (writeFrames_moves hwrite).1
  | drain =>
      obtain ⟨_, hdrain, -⟩ := withOutput_returns hreturns
      exact .inl (drain_moves hdrain).1
  | stop =>
      obtain ⟨_, hstop, -⟩ := withOutput_returns hreturns
      exact .inl (stop_failed hstop hfailed)
  | close =>
      obtain ⟨_, hclose, -⟩ := withOutput_returns hreturns
      exact absurd hfailed (close_returns hclose).2.2.2.1

theorem capture_failed {call : CaptureCall}
    (hreturns : (AudioCaptureSession.perform session call).Returns exchanges (result, session'))
    (hfailed : AnyFailed exchanges) : KeepsFlags (call = .start) session exchanges session' := by
  cases call with
  | prepare =>
      obtain ⟨_, hprepare, -⟩ := withOutput_returns hreturns
      exact .inl (prepare_failed hprepare hfailed).1
  | start =>
      obtain ⟨_, hstart, -⟩ := withOutput_returns hreturns
      exact (start_failed hstart hfailed).imp id fun hkept => ⟨rfl, hkept⟩
  | readFrames maxBytes timeoutMs =>
      obtain ⟨_, hread, -⟩ := withOutput_returns hreturns
      exact .inl (readFrames_moves hread).1
  | stop =>
      obtain ⟨_, hstop, -⟩ := withOutput_returns hreturns
      exact .inl (stop_failed hstop hfailed)
  | close =>
      obtain ⟨_, hclose, -⟩ := withOutput_returns hreturns
      exact absurd hfailed (close_returns hclose).2.2.2.1

/-- Both classes keep the discipline, whatever the order of the calls and the device's replies. -/
theorem sessions_disciplined :
    Disciplined AudioPlaybackSession.perform .start .stop .close ∧
      Disciplined AudioCaptureSession.perform .start .stop .close := by
  constructor
  · constructor
    · intro stream hasDevice calls exchanges results session' hprepared hrunning hreturns
      have hmoves := conduct_moves playback_moves hreturns
      exact ⟨hmoves.isSome_after hprepared hrunning, hmoves.consistent_of_new hrunning⟩
    · exact playback_failed
    · exact fun hstop _ _ _ hstop' => withOutput_stop_again hstop hstop'
    · exact fun hclose _ _ _ hclose' => withOutput_close_again hclose hclose'
  · constructor
    · intro stream hasDevice calls exchanges results session' hprepared hrunning hreturns
      have hmoves := conduct_moves capture_moves hreturns
      exact ⟨hmoves.isSome_after hprepared hrunning, hmoves.consistent_of_new hrunning⟩
    · exact capture_failed
    · exact fun hstop _ _ _ hstop' => withOutput_stop_again hstop hstop'
    · exact fun hclose _ _ _ hclose' => withOutput_close_again hclose hclose'

end Calls

end AudioStudio.Audio
