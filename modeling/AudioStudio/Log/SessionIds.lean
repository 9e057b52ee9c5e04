import AudioStudio.Core.Interleaving
import AudioStudio.Log.Sessions

/-!
# Generated ids of log sessions

A session whose creator gives it no id is called after the number of sessions, which a
close makes smaller again.
-/

namespace AudioStudio.Log.Sessions

open AudioStudio.Common LittleEndian

variable {δ : Type} (devices : LogDevices δ)

/-- The calls of the log service that concern its sessions, with what the file system
answers to them. -/
inductive SessionEvent where
  | setDefaultSessionConfig (config : LogSessionConfig)
  | createSession (config : LogSessionConfig) (creates : Bytes → Bool)
  | configureSession (id : Bytes) (config : LogSessionConfig) (creates : Bytes → Bool)
  | start (id : Bytes) (opens : Bytes → Bool)
  | stop (id : Bytes)
  | closeSession (id : Bytes)

namespace LogService

def step (service : LogService δ) : SessionEvent → Option (LogService δ)
  | .setDefaultSessionConfig config => some (service.setDefaultSessionConfig config)
  | .createSession config creates => some (service.createSession devices creates config).2
  | .configureSession id config creates =>
      some (service.configureSession devices creates id config).2
  | .start id opens => some (service.start devices opens id).2
  | .stop id => some (service.stop devices id).2
  | .closeSession id => some (service.closeSession id).2

variable {devices} {service : LogService δ}

/-! ## The default configuration -/

/-- The default configuration names no session. -/
def NamesNone (service : LogService δ) : Prop := service.defaultConfig.sessionId = []

variable {creates : Bytes → Bool} {config : LogSessionConfig}

theorem defaultConfig_createOwn {device : Option δ} :
    (service.createOwn creates config device).2.defaultConfig = service.defaultConfig := by
  unfold createOwn
  dsimp only
  split <;> rfl

theorem defaultConfig_createSession :
    (service.createSession devices creates config).2.defaultConfig = service.defaultConfig := by
  unfold createSession
  dsimp only
  split_ifs
  · rfl
  · rfl
  · rfl
  · rfl
  · split
    · rfl
    · exact defaultConfig_createOwn
  · exact defaultConfig_createOwn

theorem defaultConfig_onSession {α : Type} {id : Bytes} {call : Session δ → Result α × Session δ} :
    (service.onSession id call).2.defaultConfig = service.defaultConfig := by
  unfold onSession
  split <;> rfl

theorem defaultConfig_closeSession {id : Bytes} :
    (service.closeSession id).2.defaultConfig = service.defaultConfig := by
  unfold closeSession
  split <;> rfl

theorem NamesNone.step {event : SessionEvent} {next : LogService δ} (hnone : service.NamesNone)
    (hstep : service.step devices event = some next) : next.NamesNone := by
  unfold NamesNone at hnone ⊢
  cases event with
  | setDefaultSessionConfig config =>
      cases hstep
      rfl
  | createSession config creates =>
      cases hstep
      rw [defaultConfig_createSession, hnone]
  | configureSession id config creates =>
      cases hstep
      exact (congrArg LogSessionConfig.sessionId defaultConfig_onSession).trans hnone
  | start id opens =>
      cases hstep
      exact (congrArg LogSessionConfig.sessionId defaultConfig_onSession).trans hnone
  | stop id =>
      cases hstep
      exact (congrArg LogSessionConfig.sessionId defaultConfig_onSession).trans hnone
  | closeSession id =>
      cases hstep
      rw [defaultConfig_closeSession, hnone]

/-! ## A creation -/

end LogService

end AudioStudio.Log.Sessions
