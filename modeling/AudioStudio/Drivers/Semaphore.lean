import AudioStudio.Common.Status
import AudioStudio.Core.Interleaving
import Mathlib.Algebra.Order.Ring.Nat

/-!
# The semaphore of the OS driver

Threads that share one semaphore.  Every section under its mutex is one step: a check of the
predicate of an `acquire`, the first one or one behind a wait, and the body of a `release`.
-/

namespace AudioStudio.Drivers

open AudioStudio.Common

/-- `LinuxHostSemaphore`. -/
structure Semaphore where
  count_ : UInt32
  max_count_ : UInt32
  deriving DecidableEq, Repr

namespace Semaphore

def createSemaphore (initial_count max_count : UInt32) : Option Semaphore :=
  if max_count < initial_count then none
  else some { count_ := initial_count, max_count_ := max_count }

/-- The time limit of an `acquire` that waits without one. -/
def forever : UInt32 := 0xFFFFFFFF

/-- A check of the predicate: what the call returns, if it does not wait on.  The wait of the
call has `expired` when its time has run out before this check. -/
def acquire (semaphore : Semaphore) (timeout_ms : UInt32) (expired : Bool) :
    Option (Result Unit) × Semaphore :=
  if 0 < semaphore.count_ then
    (some (.ok ()), { semaphore with count_ := semaphore.count_ - 1 })
  else if timeout_ms = forever then (none, semaphore)
  else if expired then (some (.error (.unavailable "semaphore wait timed out")), semaphore)
  else (none, semaphore)

def release (semaphore : Semaphore) (count : UInt32) : Result Unit × Semaphore :=
  if count = 0 then (.error (.invalidArgument "semaphore release count is zero"), semaphore)
  else if semaphore.max_count_ < semaphore.count_ + count then
    (.error (.invalidArgument "semaphore release exceeds max count"), semaphore)
  else (.ok (), { semaphore with count_ := semaphore.count_ + count })

/-- The release fails exactly when it has nothing to give or gives more than fits, as natural
numbers, and then leaves the semaphore as it was. -/
structure ReleasesExactly (semaphore : Semaphore) (count : UInt32) : Prop where
  fails : (∃ status, (semaphore.release count).1 = .error status) ↔
    count = 0 ∨ semaphore.max_count_.toNat < semaphore.count_.toNat + count.toNat
  kept : ∀ status, (semaphore.release count).1 = .error status →
    (semaphore.release count).2 = semaphore

/-- The sum that the guard of a release compares does not wrap. -/
def Fits (semaphore : Semaphore) (count : UInt32) : Prop :=
  count = 0 ∨ semaphore.count_.toNat + count.toNat < 2 ^ 32

theorem release_kept (semaphore : Semaphore) (count : UInt32) (status : Status)
    (hfails : (semaphore.release count).1 = .error status) :
    (semaphore.release count).2 = semaphore := by
  unfold release at hfails ⊢
  split_ifs at hfails ⊢ with hzero hmax
  · rfl
  · rfl

theorem release_fails_iff (semaphore : Semaphore) (count : UInt32) :
    (∃ status, (semaphore.release count).1 = .error status) ↔
      count = 0 ∨ semaphore.max_count_ < semaphore.count_ + count := by
  unfold release
  split_ifs with hzero hmax
  · exact iff_of_true ⟨_, rfl⟩ (.inl hzero)
  · exact iff_of_true ⟨_, rfl⟩ (.inr hmax)
  · refine iff_of_false ?_ (not_or.mpr ⟨hzero, hmax⟩)
    rintro ⟨status, hstatus⟩
    cases hstatus

variable {semaphore : Semaphore} {count : UInt32}

theorem toNat_add_of_fits (hfits : semaphore.count_.toNat + count.toNat < 2 ^ 32) :
    (semaphore.count_ + count).toNat = semaphore.count_.toNat + count.toNat := by
  rw [UInt32.toNat_add, Nat.mod_eq_of_lt hfits]

/-- A sum that wraps passes the guard: it is less than the count, which is within the bound. -/
theorem wrapped_le_max (hbounded : semaphore.count_.toNat ≤ semaphore.max_count_.toNat)
    (hwraps : 2 ^ 32 ≤ semaphore.count_.toNat + count.toNat) :
    ¬semaphore.max_count_ < semaphore.count_ + count := by
  have hcount := count.toNat_lt
  have hheld := semaphore.count_.toNat_lt
  rw [UInt32.lt_iff_toNat_lt, UInt32.toNat_add]
  omega

theorem releasesExactly_iff (hbounded : semaphore.count_.toNat ≤ semaphore.max_count_.toNat) :
    semaphore.ReleasesExactly count ↔ semaphore.Fits count := by
  constructor
  · intro hexact
    by_contra hwraps
    obtain ⟨hzero, hwraps⟩ := not_or.mp hwraps
    have hwraps := not_lt.mp hwraps
    have hmax := semaphore.max_count_.toNat_lt
    have hfails := hexact.fails.mpr (.inr (hmax.trans_le hwraps))
    rcases (semaphore.release_fails_iff count).mp hfails with hcount | hguard
    · exact hzero hcount
    · exact wrapped_le_max hbounded hwraps hguard
  · intro hfits
    refine ⟨?_, semaphore.release_kept count⟩
    rw [release_fails_iff]
    refine or_congr_right' fun hzero => ?_
    rw [UInt32.lt_iff_toNat_lt, toNat_add_of_fits (hfits.resolve_left hzero)]

end Semaphore

/-! ## Threads that share it -/

/-- A call that has returned. -/
inductive Returned where
  | acquire (result : Result Unit)
  | release (count : UInt32) (result : Result Unit)
  deriving DecidableEq, Repr

namespace Returned

/-- The permits that a call has taken. -/
def taken : Returned → Nat
  | .acquire (.ok _) => 1
  | _ => 0

/-- The permits that a call has given. -/
def given : Returned → Nat
  | .release count (.ok _) => count.toNat
  | _ => 0

end Returned

inductive SemaphoreEvent (τ : Type) where
  | acquire (thread : τ) (timeout_ms : UInt32)
  | wake (thread : τ) (expired : Bool)
  | release (thread : τ) (count : UInt32)
  deriving DecidableEq, Repr

/-- The semaphore, the time limit of the `acquire` in which a thread waits, and the calls that
have returned. -/
structure SemaphoreUsers (τ : Type) where
  semaphore : Semaphore
  waiting : τ → Option UInt32
  returned : List Returned

namespace SemaphoreUsers

variable {τ : Type} [DecidableEq τ]

def created (semaphore : Semaphore) : SemaphoreUsers τ where
  semaphore := semaphore
  waiting := fun _ => none
  returned := []

def check (users : SemaphoreUsers τ) (thread : τ) (timeout_ms : UInt32) (expired : Bool) :
    SemaphoreUsers τ :=
  match users.semaphore.acquire timeout_ms expired with
  | (some result, semaphore) =>
      { semaphore := semaphore
        waiting := Function.update users.waiting thread none
        returned := users.returned ++ [.acquire result] }
  | (none, semaphore) =>
      { users with
        semaphore := semaphore
        waiting := Function.update users.waiting thread (some timeout_ms) }

def release (users : SemaphoreUsers τ) (count : UInt32) : SemaphoreUsers τ :=
  { users with
    semaphore := (users.semaphore.release count).2
    returned := users.returned ++ [.release count (users.semaphore.release count).1] }

/-- A thread that waits in a call makes no other. -/
def step (users : SemaphoreUsers τ) : SemaphoreEvent τ → Option (SemaphoreUsers τ)
  | .acquire thread timeout_ms =>
      match users.waiting thread with
      | some _ => none
      | none => some (users.check thread timeout_ms false)
  | .wake thread expired =>
      match users.waiting thread with
      | some timeout_ms => some (users.check thread timeout_ms expired)
      | none => none
  | .release thread count =>
      match users.waiting thread with
      | some _ => none
      | none => some (users.release count)

def taken (users : SemaphoreUsers τ) : Nat := (users.returned.map Returned.taken).sum

def given (users : SemaphoreUsers τ) : Nat := (users.returned.map Returned.given).sum

/-! ## What the count says -/

/-- The count is within its bound and is the permits that there were and that were given, less
those that were taken. -/
structure Counts (initial_count max_count : UInt32) (users : SemaphoreUsers τ) : Prop where
  bound : users.semaphore.max_count_ = max_count
  bounded : users.semaphore.count_.toNat ≤ max_count.toNat
  counted : users.semaphore.count_.toNat + users.taken = initial_count.toNat + users.given

/-- The releases of a thread that is in no other call. -/
def OnRelease (p : Semaphore → UInt32 → Prop) (users : SemaphoreUsers τ) :
    SemaphoreEvent τ → Prop
  | .release thread count => users.waiting thread = none → p users.semaphore count
  | _ => True

variable {initial_count max_count : UInt32} {users next : SemaphoreUsers τ}

omit [DecidableEq τ] in
theorem counts_created {semaphore : Semaphore}
    (hcreated : Semaphore.createSemaphore initial_count max_count = some semaphore) :
    Counts initial_count max_count (created semaphore : SemaphoreUsers τ) := by
  unfold Semaphore.createSemaphore at hcreated
  split_ifs at hcreated with hmore
  obtain rfl := Option.some.inj hcreated
  exact ⟨rfl, UInt32.le_iff_toNat_le.mp (UInt32.not_lt.mp hmore), rfl⟩

theorem counts_check (hcounts : Counts initial_count max_count users) (thread : τ)
    (timeout_ms : UInt32) (expired : Bool) :
    Counts initial_count max_count (users.check thread timeout_ms expired) := by
  obtain ⟨hbound, hbounded, hcounted⟩ := hcounts
  unfold check Semaphore.acquire
  split_ifs with hpermits
  · have hpositive : 0 < users.semaphore.count_.toNat := UInt32.lt_iff_toNat_lt.mp hpermits
    have hless : (users.semaphore.count_ - 1).toNat = users.semaphore.count_.toNat - 1 :=
      UInt32.toNat_sub_of_le _ _ (UInt32.le_iff_toNat_le.mpr hpositive)
    refine ⟨hbound, ?_, ?_⟩
    · change (users.semaphore.count_ - 1).toNat ≤ _
      omega
    · simp only [taken, given, List.map_append, List.sum_append] at hcounted ⊢
      simp only [List.map_cons, List.map_nil, List.sum_singleton, Returned.taken, Returned.given]
      omega
  · exact ⟨hbound, hbounded, hcounted⟩
  · refine ⟨hbound, hbounded, ?_⟩
    simpa [taken, given, Returned.taken, Returned.given] using hcounted
  · exact ⟨hbound, hbounded, hcounted⟩

omit [DecidableEq τ] in
theorem counts_release (hcounts : Counts initial_count max_count users) {count : UInt32}
    (hfits : users.semaphore.Fits count) :
    Counts initial_count max_count (users.release count) := by
  obtain ⟨hbound, hbounded, hcounted⟩ := hcounts
  unfold release Semaphore.release
  split_ifs with hzero hmax
  · refine ⟨hbound, hbounded, ?_⟩
    simpa [taken, given, Returned.taken, Returned.given] using hcounted
  · refine ⟨hbound, hbounded, ?_⟩
    simpa [taken, given, Returned.taken, Returned.given] using hcounted
  · have hsum := Semaphore.toNat_add_of_fits (hfits.resolve_left hzero)
    refine ⟨hbound, ?_, ?_⟩
    · rw [← hbound]
      exact UInt32.le_iff_toNat_le.mp (UInt32.not_lt.mp hmax)
    · simp only [taken, given, List.map_append, List.sum_append] at hcounted ⊢
      simp only [List.map_cons, List.map_nil, List.sum_singleton, Returned.taken, Returned.given,
        hsum]
      omega

theorem counts_step (event : SemaphoreEvent τ) (hcounts : Counts initial_count max_count users)
    (hfits : OnRelease Semaphore.Fits users event) (hstep : users.step event = some next) :
    Counts initial_count max_count next := by
  cases event with
  | acquire thread timeout_ms =>
      cases hwaits : users.waiting thread with
      | none =>
          simp only [step, hwaits, Option.some.injEq] at hstep
          exact hstep ▸ counts_check hcounts thread timeout_ms false
      | some other => simp [step, hwaits] at hstep
  | wake thread expired =>
      cases hwaits : users.waiting thread with
      | none => simp [step, hwaits] at hstep
      | some timeout_ms =>
          simp only [step, hwaits, Option.some.injEq] at hstep
          exact hstep ▸ counts_check hcounts thread timeout_ms expired
  | release thread count =>
      cases hwaits : users.waiting thread with
      | none =>
          simp only [step, hwaits, Option.some.injEq] at hstep
          exact hstep ▸ counts_release hcounts (hfits hwaits)
      | some other => simp [step, hwaits] at hstep

/-- In every state of a run the count is right, and every release does what it says. -/
structure CountsCorrectly (initial_count max_count : UInt32) (users : SemaphoreUsers τ)
    (events : List (SemaphoreEvent τ)) : Prop where
  along : Interleaving.Along step (fun users event => Counts initial_count max_count users ∧
    OnRelease Semaphore.ReleasesExactly users event) users events
  last : Counts initial_count max_count (Interleaving.run step users events)

omit [DecidableEq τ] in
theorem onRelease_iff (event : SemaphoreEvent τ)
    (hcounts : Counts initial_count max_count users) :
    OnRelease Semaphore.ReleasesExactly users event ↔ OnRelease Semaphore.Fits users event := by
  cases event with
  | acquire | wake => exact Iff.rfl
  | release thread count =>
      have hbounded := hcounts.bounded
      rw [← hcounts.bound] at hbounded
      exact imp_congr_right fun _ => Semaphore.releasesExactly_iff hbounded

/-- The semaphore counts correctly in a run if and only if no release of it makes the sum that
the guard compares wrap. -/
theorem countsCorrectly_iff {semaphore : Semaphore}
    (hcreated : Semaphore.createSemaphore initial_count max_count = some semaphore)
    (events : List (SemaphoreEvent τ)) :
    CountsCorrectly initial_count max_count (created semaphore) events ↔
      Interleaving.Along step (OnRelease Semaphore.Fits) (created semaphore) events := by
  constructor
  · intro hcorrect
    refine Interleaving.along_mono ?_ hcorrect.along
    rintro users event ⟨hcounts, hexact⟩
    exact (onRelease_iff event hcounts).mp hexact
  · intro hfits
    obtain ⟨halong, hlast⟩ := Interleaving.along_invariant
      (fun users event next => counts_step event) (counts_created hcreated) hfits
    refine ⟨Interleaving.along_mono ?_ halong, hlast⟩
    rintro users event ⟨hcounts, hfits⟩
    exact ⟨hcounts, (onRelease_iff event hcounts).mpr hfits⟩

/-- Two threads: one takes the permit that the other gives. -/
theorem countsCorrectly_of_two_threads :
    CountsCorrectly 0 2 (created ⟨0, 2⟩)
      [.acquire true Semaphore.forever, .release false 1, .wake true false] := by
  refine (countsCorrectly_iff (by decide) _).mpr ⟨trivial, fun _ => ?_, trivial, trivial⟩
  exact .inr (by decide)

/-- A release of 2 ^ 32 - 1 permits to a semaphore that has one succeeds and leaves none. -/
theorem miscounts_wrapped_release :
    ¬CountsCorrectly 1 0xFFFFFFFF (created ⟨1, 0xFFFFFFFF⟩) [.release () 0xFFFFFFFF] := by
  intro hcorrect
  have hcounted := hcorrect.last.counted
  revert hcounted
  decide

end SemaphoreUsers

end AudioStudio.Drivers
