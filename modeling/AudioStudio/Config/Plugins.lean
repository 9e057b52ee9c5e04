import AudioStudio.Config.Builtin
import AudioStudio.Config.Project

/-!
# Plugins

`loadPlugins` of `config_service.cpp`: libraries are opened one after another, each registers
its handlers, and the library is kept when it reports success.  The handlers that it had
registered stay, whatever it reports.
-/

namespace AudioStudio.Config

open AudioStudio.Common
open AudioStudio.LittleEndian

/-! ## The registry -/

/-- What the registry asks a handler for. -/
structure OfferedHandler where
  id : Bytes
  moduleType : Bytes
  deriving DecidableEq, Repr

/-- A handler, with the library that its code is in unless the service has built it in. -/
structure RegisteredHandler extends OfferedHandler where
  library : Option Nat
  deriving DecidableEq, Repr

abbrev Handlers := List RegisteredHandler

/-- `ModuleConfigRegistry::registerHandler`. -/
def registerHandler (handlers : Handlers) (library : Option Nat)
    (handler : Option OfferedHandler) : Parsed Handlers :=
  match handler with
  | none => invalidArgument "module config handler is null"
  | some handler =>
      if handler.id = [] then invalidArgument "module config handler id is empty"
      else if handler.moduleType = [] then
        invalidArgument "module config handler module type is empty"
      else if handlers.any (·.moduleType = handler.moduleType) then
        invalidArgument "module config handler already registered for module_type: "
          handler.moduleType
      else .ok (handlers ++ [{ handler with library }])

/-- What a library does when it is asked to register: it offers handlers, each in view of the
answers so far, and reports in the end. -/
inductive Registration where
  | report (ok : Bool)
  | register (handler : Option OfferedHandler) (next : Parsed Unit → Registration)

namespace Registration

/-- The registration against a registry. -/
def run (library : Nat) : Registration → Handlers → Handlers × Bool
  | report ok, handlers => (handlers, ok)
  | register handler next, handlers =>
      match registerHandler handlers (some library) handler with
      | .ok handlers' => (next (.ok ())).run library handlers'
      | .error fault => (next (.error fault)).run library handlers

/-- The loop of a plugin that gives up at the first handler that is refused. -/
def all : List OfferedHandler → Registration
  | [] => report true
  | handler :: rest => register (some handler) fun answer =>
      match answer with
      | .ok () => all rest
      | .error _ => report false

end Registration

/-- `audio_studio_register_module_config_handlers_v1` of the builtin plugin. -/
def builtinRegistration : Registration :=
  Registration.all
    (sofBasicModuleTypes.map (fun moduleType =>
      { id := asciiBytes "as.sof-basic-module-config-v1." ++ macroToken moduleType, moduleType }) ++
    builtinModuleTypes.map fun moduleType =>
      { id := asciiBytes "as.builtin." ++ makeSlug moduleType ++ asciiBytes "-module-config-v1"
        moduleType })

/-! ## Libraries -/

structure Library where
  path : Bytes
  handle : Nat
  deriving DecidableEq, Repr

/-- What the driver makes of a path. -/
inductive LibraryAttempt where
  | invalidFile
  | noHandle
  | openFailed (fault : ConfigFault)
  | symbolMissing (fault : ConfigFault)
  | opened (registration : Registration)

/-- The registry and `plugin_libraries_`; `created` numbers the library objects. -/
structure Plugins where
  handlers : Handlers
  libraries : List Library := []
  created : Nat := 0
  deriving DecidableEq, Repr

namespace Plugins

/-- One round of the loop; a library that is not kept is destroyed. -/
def loadPlugin (plugins : Plugins) (path : Bytes) (attempt : LibraryAttempt) :
    Plugins × Parsed Unit :=
  if plugins.libraries.any (·.path = path) then (plugins, .ok ())
  else
    match attempt with
    | .invalidFile => (plugins, invalidArgument "invalid plugin library file: " path)
    | .noHandle => (plugins, .error (.status .internal
        (asciiBytes "failed to create dynamic library handle")))
    | .openFailed fault => ({ plugins with created := plugins.created + 1 }, .error fault)
    | .symbolMissing fault => ({ plugins with created := plugins.created + 1 }, .error fault)
    | .opened registration =>
        let done := registration.run plugins.created plugins.handlers
        if done.2 = true then
          ({ handlers := done.1
             libraries := plugins.libraries ++ [⟨path, plugins.created⟩]
             created := plugins.created + 1 }, .ok ())
        else
          ({ plugins with handlers := done.1, created := plugins.created + 1 },
            .error (.status .internal
              (asciiBytes "module config plugin registration failed: " ++ path)))

/-- The loop ends with the first path that fails. -/
def loadPaths (plugins : Plugins) : List (Bytes × LibraryAttempt) → Plugins × Parsed Unit
  | [] => (plugins, .ok ())
  | (path, attempt) :: rest =>
      match plugins.loadPlugin path attempt with
      | (plugins', .ok ()) => plugins'.loadPaths rest
      | (plugins', .error fault) => (plugins', .error fault)

def loadPlugins (plugins : Plugins) (dynlib : Bool) (paths : List (Bytes × LibraryAttempt)) :
    Plugins × Parsed Unit :=
  if paths.isEmpty then (plugins, .ok ())
  else if dynlib = false then
    (plugins, .error (.status .unavailable
      (asciiBytes "dynamic library driver is not configured")))
  else plugins.loadPaths paths

/-- `builtin` is the path that is found beside the executable, if there is one. -/
def loadDefaultBuiltin (plugins : Plugins) (dynlib : Bool)
    (builtin : Option (Bytes × LibraryAttempt)) : Plugins × Parsed Unit :=
  if plugins.handlers.any (·.moduleType = asciiBytes "filter.channel_remap") then
    (plugins, .ok ())
  else if dynlib = false then (plugins, .ok ())
  else
    match builtin with
    | none => (plugins, .ok ())
    | some found => plugins.loadPlugins dynlib [found]

/-- The service as it is constructed. -/
def initial : Plugins where
  handlers := [{ id := asciiBytes "as.generic-module-config-json-v1", moduleType := asciiBytes "*"
                 library := none }]

end Plugins

/-! ## Runs -/

/-- A call; what the driver makes of a path may be different every time. -/
inductive PluginCall where
  | load (dynlib : Bool) (paths : List (Bytes × LibraryAttempt))
  | loadDefault (dynlib : Bool) (builtin : Option (Bytes × LibraryAttempt))

/-- A library that is asked to register, with what is there before and behind. -/
structure Asked where
  before : Plugins
  path : Bytes
  registration : Registration
  after : Plugins

namespace Plugins

def perform (plugins : Plugins) : PluginCall → Plugins × Parsed Unit
  | .load dynlib paths => plugins.loadPlugins dynlib paths
  | .loadDefault dynlib builtin => plugins.loadDefaultBuiltin dynlib builtin

def run (plugins : Plugins) : List PluginCall → Plugins
  | [] => plugins
  | call :: calls => (plugins.perform call).1.run calls

/-- The paths that the loop of a call begins with. -/
def pathsOf (plugins : Plugins) : PluginCall → List (Bytes × LibraryAttempt)
  | .load dynlib paths => if dynlib then paths else []
  | .loadDefault dynlib builtin =>
      if plugins.handlers.any (·.moduleType = asciiBytes "filter.channel_remap") then []
      else if dynlib then builtin.toList else []

def askedAt (plugins : Plugins) (path : Bytes) (attempt : LibraryAttempt) : List Asked :=
  if plugins.libraries.any (·.path = path) then []
  else
    match attempt with
    | .opened registration =>
        [⟨plugins, path, registration, (plugins.loadPlugin path attempt).1⟩]
    | _ => []

def askedPaths (plugins : Plugins) : List (Bytes × LibraryAttempt) → List Asked
  | [] => []
  | (path, attempt) :: rest =>
      plugins.askedAt path attempt ++
        match plugins.loadPlugin path attempt with
        | (plugins', .ok ()) => plugins'.askedPaths rest
        | (_, .error _) => []

/-- All libraries that are asked in a run. -/
def asked (plugins : Plugins) : List PluginCall → List Asked
  | [] => []
  | call :: calls =>
      plugins.askedPaths (plugins.pathsOf call) ++ (plugins.perform call).1.asked calls

/-- Handlers have their code in libraries that are held, and differ in their module types. -/
structure Consistent (plugins : Plugins) : Prop where
  held : ∀ handler ∈ plugins.handlers, ∀ number, handler.library = some number →
    ∃ library ∈ plugins.libraries, library.handle = number
  apart : (plugins.handlers.map fun handler => handler.moduleType).Nodup

end Plugins

namespace Asked

def ReportsFailure (asked : Asked) : Prop :=
  (asked.registration.run asked.before.created asked.before.handlers).2 = false

/-- A failure that is reported leaves the registry as it was. -/
def Undone (asked : Asked) : Prop :=
  asked.ReportsFailure → asked.after.handlers = asked.before.handlers

end Asked

/-- After every call all is consistent, and what failed has left nothing. -/
structure LoadsFaithfully (calls : List PluginCall) : Prop where
  consistent : ∀ done rest, calls = done ++ rest → (Plugins.initial.run done).Consistent
  undone : ∀ asked ∈ Plugins.initial.asked calls, asked.Undone

/-- Failure is reported, if at all, before a handler has been accepted. -/
def Registration.FailsEarly (library : Nat) : Registration → Handlers → Prop
  | .report _, _ => True
  | .register handler next, handlers =>
      match registerHandler handlers (some library) handler with
      | .ok handlers' => ((next (.ok ())).run library handlers').2 = true
      | .error fault => (next (.error fault)).FailsEarly library handlers

def Asked.FailsEarly (asked : Asked) : Prop :=
  asked.registration.FailsEarly asked.before.created asked.before.handlers

/-! ## What a registration adds -/

variable {handlers : Handlers}

theorem registerHandler_eq_ok {handlers' : Handlers} {library : Option Nat}
    {handler : Option OfferedHandler}
    (hregister : registerHandler handlers library handler = .ok handlers') :
    ∃ accepted : OfferedHandler, handlers' = handlers ++ [{ accepted with library }] ∧
      ∀ other ∈ handlers, other.moduleType ≠ accepted.moduleType := by
  unfold registerHandler at hregister
  split at hregister
  · cases hregister
  · next accepted =>
      split at hregister
      · cases hregister
      · split at hregister
        · cases hregister
        · split at hregister
          · cases hregister
          · next hfresh =>
              refine ⟨accepted, (Except.ok.inj hregister).symm, fun other hother hsame => ?_⟩
              exact hfresh (List.any_eq_true.mpr ⟨other, hother, decide_eq_true hsame⟩)

/-- Handlers are put behind those that are there. -/
theorem Registration.run_adds (library : Nat) (registration : Registration)
    (handlers : Handlers) :
    ∃ added : Handlers, (registration.run library handlers).1 = handlers ++ added ∧
      ∀ handler ∈ added, handler.library = some library := by
  induction registration generalizing handlers with
  | report ok => exact ⟨[], (List.append_nil _).symm, fun _ hmem => absurd hmem List.not_mem_nil⟩
  | register handler next ih =>
      rw [run]
      split
      · next handlers' hregister =>
          obtain ⟨accepted, rfl, _⟩ := registerHandler_eq_ok hregister
          obtain ⟨added, hadded, hlibrary⟩ := ih (.ok ()) (handlers ++ [_])
          refine ⟨_ :: added, by rw [hadded, List.append_assoc, List.singleton_append], ?_⟩
          intro other hother
          rcases List.mem_cons.mp hother with rfl | hother
          · rfl
          · exact hlibrary other hother
      · next fault _ => exact ih (.error fault) handlers

/-- The module types stay apart. -/
theorem Registration.run_apart (library : Nat) (registration : Registration)
    (hapart : (handlers.map fun handler => handler.moduleType).Nodup) :
    ((registration.run library handlers).1.map fun handler => handler.moduleType).Nodup := by
  induction registration generalizing handlers with
  | report ok => exact hapart
  | register handler next ih =>
      rw [run]
      split
      · next handlers' hregister =>
          obtain ⟨accepted, rfl, hfresh⟩ := registerHandler_eq_ok hregister
          apply ih
          rw [List.map_append, List.map_singleton]
          refine List.nodup_append.mpr ⟨hapart, List.nodup_singleton _, ?_⟩
          intro moduleType hmem other hother
          obtain ⟨handler, hhandler, rfl⟩ := List.mem_map.mp hmem
          rw [List.mem_singleton.mp hother]
          exact hfresh handler hhandler
      · next fault _ => exact ih _ hapart

/-- A failure has left nothing exactly when it is reported before a handler was accepted. -/
theorem Registration.unchanged_iff (library : Nat) (registration : Registration)
    (handlers : Handlers) :
    ((registration.run library handlers).2 = false →
      (registration.run library handlers).1 = handlers) ↔
      registration.FailsEarly library handlers := by
  induction registration generalizing handlers with
  | report ok => exact ⟨fun _ => trivial, fun _ _ => rfl⟩
  | register handler next ih =>
      rw [run, FailsEarly]
      split
      · next handlers' hregister =>
          obtain ⟨accepted, rfl, _⟩ := registerHandler_eq_ok hregister
          obtain ⟨added, hadded, _⟩ :=
            (next (.ok ())).run_adds library (handlers ++ [{ accepted with library }])
          have hgrown : ((next (.ok ())).run library
              (handlers ++ [{ accepted with library }])).1 ≠ handlers := by
            intro hsame
            have hlength := congrArg List.length (hadded.symm.trans hsame)
            simp only [List.length_append, List.length_singleton] at hlength
            omega
          constructor
          · intro hunchanged
            exact Bool.eq_true_of_not_eq_false fun hfailed => hgrown (hunchanged hfailed)
          · intro hreported hfailed
            rw [hreported] at hfailed
            cases hfailed
      · next fault _ => exact ih _ handlers

/-! ## What a call keeps -/

namespace Plugins

variable {plugins : Plugins}

theorem initial_consistent : initial.Consistent where
  held := by
    intro handler hmem number hnumber
    rw [List.mem_singleton.mp hmem] at hnumber
    cases hnumber
  apart := List.nodup_singleton _

/-- A library that is kept holds the handlers that it added. -/
theorem Consistent.keep (hconsistent : plugins.Consistent) (path : Bytes)
    (registration : Registration) :
    Consistent
      { handlers := (registration.run plugins.created plugins.handlers).1
        libraries := plugins.libraries ++ [⟨path, plugins.created⟩]
        created := plugins.created + 1 } where
  held := by
    intro handler hmem number hnumber
    obtain ⟨added, hadded, hlibrary⟩ :=
      registration.run_adds plugins.created plugins.handlers
    rw [hadded] at hmem
    rcases List.mem_append.mp hmem with hold | hnew
    · obtain ⟨library, hheld, hhandle⟩ := hconsistent.held handler hold number hnumber
      exact ⟨library, List.mem_append_left _ hheld, hhandle⟩
    · refine ⟨_, List.mem_append_right _ (List.mem_singleton_self _), ?_⟩
      exact Option.some.inj ((hlibrary handler hnew).symm.trans hnumber)
  apart := registration.run_apart plugins.created hconsistent.apart

theorem Consistent.of_same {plugins' : Plugins} (hconsistent : plugins.Consistent)
    (hhandlers : plugins'.handlers = plugins.handlers)
    (hlibraries : plugins'.libraries = plugins.libraries) : plugins'.Consistent where
  held := by
    rw [hhandlers, hlibraries]
    exact hconsistent.held
  apart := by
    rw [hhandlers]
    exact hconsistent.apart

variable {path : Bytes}

/-- What is behind a library that was asked. -/
theorem loadPlugin_opened (hloaded : ¬ plugins.libraries.any (·.path = path) = true)
    (registration : Registration) :
    (plugins.loadPlugin path (.opened registration)).1 =
      { handlers := (registration.run plugins.created plugins.handlers).1
        libraries :=
          if (registration.run plugins.created plugins.handlers).2 = true then
            plugins.libraries ++ [⟨path, plugins.created⟩]
          else plugins.libraries
        created := plugins.created + 1 } := by
  unfold loadPlugin
  rw [if_neg hloaded]
  dsimp only
  split
  · rfl
  · rfl

theorem loadPlugin_consistent (hconsistent : plugins.Consistent) (path : Bytes)
    (attempt : LibraryAttempt)
    (hundone : ∀ asked ∈ plugins.askedAt path attempt, asked.Undone) :
    (plugins.loadPlugin path attempt).1.Consistent := by
  by_cases hloaded : plugins.libraries.any (·.path = path) = true
  · unfold loadPlugin
    rw [if_pos hloaded]
    exact hconsistent
  · cases attempt with
    | opened registration =>
        rw [askedAt, if_neg hloaded] at hundone
        have hleft := hundone _ (List.mem_singleton_self _)
        unfold Asked.Undone Asked.ReportsFailure at hleft
        rw [loadPlugin_opened hloaded] at hleft ⊢
        by_cases hreported : (registration.run plugins.created plugins.handlers).2 = true
        · rw [if_pos hreported]
          exact hconsistent.keep path registration
        · rw [if_neg hreported]
          exact hconsistent.of_same (hleft (Bool.eq_false_of_not_eq_true hreported)) rfl
    | _ =>
        unfold loadPlugin
        rw [if_neg hloaded]
        exact hconsistent.of_same rfl rfl

variable {paths : List (Bytes × LibraryAttempt)}

theorem loadPaths_consistent (hconsistent : plugins.Consistent)
    (hundone : ∀ asked ∈ plugins.askedPaths paths, asked.Undone) :
    (plugins.loadPaths paths).1.Consistent := by
  induction paths generalizing plugins with
  | nil => exact hconsistent
  | cons first rest ih =>
      obtain ⟨path, attempt⟩ := first
      rw [askedPaths] at hundone
      have hfirst := loadPlugin_consistent hconsistent path attempt fun asked hmem =>
        hundone asked (List.mem_append_left _ hmem)
      rw [loadPaths]
      generalize hload : plugins.loadPlugin path attempt = loaded at hundone hfirst ⊢
      obtain ⟨plugins', status⟩ := loaded
      cases status with
      | error fault => exact hfirst
      | ok answer => exact ih hfirst fun asked hmem => hundone asked (List.mem_append_right _ hmem)

/-- A call runs the loop over its paths or leaves all as it is. -/
theorem perform_eq_loadPaths (call : PluginCall) :
    (plugins.perform call).1 = (plugins.loadPaths (plugins.pathsOf call)).1 := by
  have hload : ∀ dynlib paths, (plugins.loadPlugins dynlib paths).1 =
      (plugins.loadPaths (if dynlib then paths else [])).1 := by
    intro dynlib paths
    unfold loadPlugins
    cases paths with
    | nil => cases dynlib <;> rfl
    | cons first rest => cases dynlib <;> rfl
  cases call with
  | load dynlib paths => exact hload dynlib paths
  | loadDefault dynlib builtin =>
      unfold perform pathsOf loadDefaultBuiltin
      dsimp only
      split
      · rfl
      · cases dynlib with
        | false => rfl
        | true =>
            cases builtin with
            | none => rfl
            | some found => exact hload true [found]

variable {calls : List PluginCall}

theorem run_consistent (hconsistent : plugins.Consistent)
    (hundone : ∀ asked ∈ plugins.asked calls, asked.Undone) (done rest : List PluginCall)
    (hcalls : calls = done ++ rest) : (plugins.run done).Consistent := by
  induction done generalizing plugins calls with
  | nil => exact hconsistent
  | cons call done ih =>
      subst hcalls
      rw [List.cons_append, asked] at hundone
      refine ih ?_ (fun asked hmem => hundone asked (List.mem_append_right _ hmem)) rfl
      rw [perform_eq_loadPaths]
      exact loadPaths_consistent hconsistent fun asked hmem =>
        hundone asked (List.mem_append_left _ hmem)

variable {asked : Asked}

/-- A library that was asked and failed has left in the registry what it had registered. -/
theorem askedAt_undone_iff {attempt : LibraryAttempt} (hmem : asked ∈ plugins.askedAt path attempt)
    : asked.Undone ↔ asked.FailsEarly := by
  unfold askedAt at hmem
  split at hmem
  · cases hmem
  · next hloaded =>
      cases attempt with
      | opened registration =>
          obtain rfl := List.mem_singleton.mp hmem
          unfold Asked.FailsEarly
          rw [← registration.unchanged_iff]
          apply imp_congr_right
          intro hfailed
          rw [loadPlugin_opened hloaded]
      | _ => cases hmem

theorem askedPaths_undone_iff (hmem : asked ∈ plugins.askedPaths paths) :
    asked.Undone ↔ asked.FailsEarly := by
  induction paths generalizing plugins with
  | nil => cases hmem
  | cons first rest ih =>
      obtain ⟨path, attempt⟩ := first
      rw [askedPaths] at hmem
      rcases List.mem_append.mp hmem with hfirst | hrest
      · exact askedAt_undone_iff hfirst
      · generalize plugins.loadPlugin path attempt = loaded at hrest
        obtain ⟨plugins', status⟩ := loaded
        cases status with
        | error fault => cases hrest
        | ok answer => exact ih hrest

theorem asked_undone_iff (hmem : asked ∈ plugins.asked calls) :
    asked.Undone ↔ asked.FailsEarly := by
  induction calls generalizing plugins with
  | nil => cases hmem
  | cons call calls ih =>
      rw [Plugins.asked] at hmem
      rcases List.mem_append.mp hmem with hfirst | hrest
      · exact askedPaths_undone_iff hfirst
      · exact ih hrest

end Plugins

/-- Loading keeps registry and libraries consistent, and undoes what failed, exactly when every
library that reports failure does so before a handler of it was accepted. -/
theorem loads_faithfully_iff (calls : List PluginCall) :
    LoadsFaithfully calls ↔ ∀ asked ∈ Plugins.initial.asked calls, asked.FailsEarly := by
  constructor
  · intro hfaithful asked hmem
    exact (Plugins.asked_undone_iff hmem).mp (hfaithful.undone asked hmem)
  · intro hearly
    have hundone : ∀ asked ∈ Plugins.initial.asked calls, asked.Undone := fun asked hmem =>
      (Plugins.asked_undone_iff hmem).mpr (hearly asked hmem)
    exact ⟨Plugins.run_consistent Plugins.initial_consistent hundone, hundone⟩

def builtinLoad : PluginCall :=
  .loadDefault true (some
    (asciiBytes "/opt/audio-studio/plugins/builtin_module_configs/libbuiltin.so",
      .opened builtinRegistration))

/-- A plugin with a module type of its own, and one that the builtin plugin has. -/
def strayHandler : OfferedHandler :=
  { id := asciiBytes "my.effect-v1", moduleType := asciiBytes "my.effect" }

def secondVolume : OfferedHandler :=
  { id := asciiBytes "my.volume-v1", moduleType := asciiBytes "gain.volume" }

def strayLoads : List PluginCall :=
  [builtinLoad, .load true [(asciiBytes "/opt/mine/libmine.so",
    .opened (Registration.all [strayHandler, secondVolume]))]]

/-- The handler that was accepted first stays behind when its library is gone. -/
theorem stray_handler_stays : ¬ ∀ calls : List PluginCall, LoadsFaithfully calls := by
  intro hfaithful
  have hconsistent := (hfaithful strayLoads).consistent strayLoads [] (List.append_nil _).symm
  have hmem : { strayHandler with library := some 1 } ∈ (Plugins.initial.run strayLoads).handlers := by
    decide +kernel
  obtain ⟨library, hheld, hhandle⟩ := hconsistent.held _ hmem 1 rfl
  have hgone : ∀ library ∈ (Plugins.initial.run strayLoads).libraries, library.handle ≠ 1 := by
    decide +kernel
  exact hgone library hheld hhandle

end AudioStudio.Config
