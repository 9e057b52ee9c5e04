import AudioStudio.Core.LittleEndian
import AudioStudio.Core.LossyLink
import AudioStudio.Core.Proc

/-!
# The device under a data link

Firmware and host reach the link through a device that reads and writes blocks.
A script says what each read returns and records every block written.
-/

namespace AudioStudio.DataLink

open LittleEndian

inductive LinkCmd where
  | isConnected
  | read (capacity : Nat) (timeoutMs : UInt32)
  | write (data : Bytes) (timeoutMs : UInt32)
  /-- The time that is left of a read's budget on the steady clock. -/
  | remaining (timeoutMs : UInt32)

/-- Reads and writes fail with an `ε`; no time is left once the deadline has passed. -/
def LinkReply (ε : Type) : LinkCmd → Type
  | .isConnected => Bool
  | .read _ _ => Except ε Bytes
  | .write _ _ => Except ε Unit
  | .remaining _ => Option UInt32

abbrev LinkProc (ε α : Type) := Proc (LinkReply ε) α

section Commands

variable {ε : Type}

def isConnected : LinkProc ε Bool :=
  @Proc.request _ (LinkReply ε) .isConnected

def readBlock (capacity : Nat) (timeoutMs : UInt32) : LinkProc ε (Except ε Bytes) :=
  @Proc.request _ (LinkReply ε) (.read capacity timeoutMs)

def writeBlock (data : Bytes) (timeoutMs : UInt32) : LinkProc ε (Except ε Unit) :=
  @Proc.request _ (LinkReply ε) (.write data timeoutMs)

def remaining (timeoutMs : UInt32) : LinkProc ε (Option UInt32) :=
  @Proc.request _ (LinkReply ε) (.remaining timeoutMs)

end Commands

/-! ## Scripts -/

/-- A read can come back empty or fail, and a deadline can pass before it. -/
inductive Upset (ε : Type) where
  | silence
  | failure (error : ε)
  | deadline
  deriving DecidableEq, Repr

abbrev LinkEvent (ε : Type) := Arrival Bytes (Upset ε)

structure Script (ε : Type) where
  reads : List (LinkEvent ε)
  written : List Bytes := []

namespace Script

variable {ε : Type}

/-- A block longer than the reader's buffer is read in pieces. -/
def read (capacity : Nat) (script : Script ε) : Option (Except ε Bytes × Script ε) :=
  match script.reads with
  | [] => none
  | .message block :: rest =>
      if block.length ≤ capacity then some (.ok block, { script with reads := rest })
      else some (.ok (block.take capacity),
        { script with reads := .message (block.drop capacity) :: rest })
  | .upset (.failure error) :: rest => some (.error error, { script with reads := rest })
  | .upset _ :: rest => some (.ok [], { script with reads := rest })

def timeLeft (timeoutMs : UInt32) (script : Script ε) : Option (Option UInt32 × Script ε) :=
  match script.reads with
  | [] => none
  | .upset .deadline :: rest => some (none, { script with reads := rest })
  | _ => some (some timeoutMs, script)

def handle : Handler (LinkReply ε) (Script ε)
  | .isConnected, script => some (true, script)
  | .read capacity _, script => read capacity script
  | .write data _, script => some (.ok (), { script with written := script.written ++ [data] })
  | .remaining timeoutMs, script => timeLeft timeoutMs script

def extend (more : List (LinkEvent ε)) (script : Script ε) : Script ε :=
  { script with reads := script.reads ++ more }

def WrittenLE (first second : Script ε) : Prop :=
  first.written <+: second.written

theorem read_written {capacity : Nat} {script script' : Script ε} {reply : Except ε Bytes}
    (hread : read capacity script = some (reply, script')) :
    script'.written = script.written := by
  unfold read at hread
  split at hread
  · cases hread
  · split at hread <;> cases hread <;> rfl
  · cases hread
    rfl
  · cases hread
    rfl

theorem timeLeft_written {timeoutMs : UInt32} {script script' : Script ε}
    {reply : Option UInt32} (htime : timeLeft timeoutMs script = some (reply, script')) :
    script'.written = script.written := by
  unfold timeLeft at htime
  split at htime <;> cases htime <;> rfl

theorem read_extend {capacity : Nat} {script script' : Script ε} {reply : Except ε Bytes}
    (hread : read capacity script = some (reply, script')) (more : List (LinkEvent ε)) :
    read capacity (extend more script) = some (reply, extend more script') := by
  obtain ⟨reads, written⟩ := script
  cases reads with
  | nil => cases hread
  | cons event rest =>
      cases event with
      | message block =>
          simp only [read, extend, List.cons_append] at hread ⊢
          split at hread <;> cases hread <;> simp_all
      | upset upset => cases upset <;> cases hread <;> rfl

theorem timeLeft_extend {timeoutMs : UInt32} {script script' : Script ε}
    {reply : Option UInt32} (htime : timeLeft timeoutMs script = some (reply, script'))
    (more : List (LinkEvent ε)) :
    timeLeft timeoutMs (extend more script) = some (reply, extend more script') := by
  obtain ⟨reads, written⟩ := script
  cases reads with
  | nil => cases htime
  | cons event rest =>
      cases event with
      | message block =>
          cases htime
          rfl
      | upset upset => cases upset <;> cases htime <;> rfl

/-! ### Running commands on a script -/

variable {α : Type} (script : Script ε)

@[simp] theorem run_isConnected_bind (rest : Bool → LinkProc ε α) :
    (isConnected >>= rest).run handle script = (rest true).run handle script := rfl

@[simp] theorem run_writeBlock_bind (data : Bytes) (timeoutMs : UInt32)
    (rest : Except ε Unit → LinkProc ε α) :
    (writeBlock data timeoutMs >>= rest).run handle script =
      (rest (.ok ())).run handle { script with written := script.written ++ [data] } := rfl

@[simp] theorem run_readBlock_bind (capacity : Nat) (timeoutMs : UInt32)
    (rest : Except ε Bytes → LinkProc ε α) :
    (readBlock capacity timeoutMs >>= rest).run handle script =
      match read capacity script with
      | none => (.waiting, script)
      | some (reply, script') => (rest reply).run handle script' := by
  have hhandle : handle (.read capacity timeoutMs) script = read capacity script := rfl
  cases hread : read capacity script with
  | none => exact Proc.run_call_of_none handle (hhandle.trans hread) _
  | some answer => exact Proc.run_call_of_some handle (hhandle.trans hread) _

@[simp] theorem run_remaining_bind (timeoutMs : UInt32)
    (rest : Option UInt32 → LinkProc ε α) :
    (remaining timeoutMs >>= rest).run handle script =
      match timeLeft timeoutMs script with
      | none => (.waiting, script)
      | some (reply, script') => (rest reply).run handle script' := by
  have hhandle : handle (.remaining timeoutMs) script = timeLeft timeoutMs script := rfl
  cases htime : timeLeft timeoutMs script with
  | none => exact Proc.run_call_of_none handle (hhandle.trans htime) _
  | some answer => exact Proc.run_call_of_some handle (hhandle.trans htime) _

/-! ### Extension -/

/-- More reads change no read that has been made, and nothing written is unwritten. -/
theorem extension (more : List (LinkEvent ε)) :
    Proc.Extension (@handle ε) (extend more) WrittenLE where
  refl script := List.prefix_rfl
  trans first second third hfirst hsecond := hfirst.trans hsecond
  step cmd script reply script' hreply := by
    cases cmd with
    | isConnected =>
        cases hreply
        exact List.prefix_rfl
    | read capacity timeoutMs =>
        have hwritten := read_written hreply
        rw [WrittenLE, hwritten]
    | write data timeoutMs =>
        cases hreply
        exact List.prefix_append _ _
    | remaining timeoutMs =>
        have hwritten := timeLeft_written hreply
        rw [WrittenLE, hwritten]
  more script := List.prefix_rfl
  stable cmd script reply script' hreply := by
    cases cmd with
    | isConnected =>
        cases hreply
        rfl
    | read capacity timeoutMs => exact read_extend hreply more
    | write data timeoutMs =>
        cases hreply
        rfl
    | remaining timeoutMs => exact timeLeft_extend hreply more

end Script

/-! ## Parties on a link -/

section Party

variable {ε S β : Type}

/-- A run of calls on one link object, given what its device reads. -/
def runScript (calls : List (S → LinkProc ε (β × S))) (object : S)
    (history : List (LinkEvent ε)) : List β × Script ε :=
  runCalls Script.handle calls object { reads := history }

/-- The results of the calls that have returned. -/
def results (calls : List (S → LinkProc ε (β × S))) (object : S)
    (history : List (LinkEvent ε)) : List β :=
  (runScript calls object history).1

def linkParty (calls : List (S → LinkProc ε (β × S))) (object : S) :
    Party (LinkEvent ε) Bytes where
  sends history := (runScript calls object history).2.written
  sends_prefix history event :=
    (runCalls_extend (Script.extension [event]) calls object { reads := history }).2

end Party

end AudioStudio.DataLink
