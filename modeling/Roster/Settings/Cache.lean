/-
**The cache of the settings.**

The settings are loaded once and then kept, whatever becomes of the environment. Settings that cannot
be loaded or are refused end the program, and nothing is kept of the attempt. A kept value is dropped
only on request.

* `Settings.accept` — settings that may be used, with what is noted on the way.
* `Cache.get`, `Cache.get?`, `Cache.clear` — the three requests to the cache.
-/

import Roster.Settings.Loader

namespace Roster.Settings

/-- Why a request for settings has no answer. -/
inductive Stop where
  /-- The settings are wrong: the program ends. -/
  | exit
  /-- The text of a field is no data value. -/
  | unreadable (field : String)
deriving DecidableEq, Repr, Inhabited

/-- The exit code of a program whose settings are wrong. -/
def exitCode : Nat := 1

/-- The settings of an environment if they may be used, with what is noted on the way. -/
def accept (environment : Environment) : List Notice × Except Stop Settings :=
  match load environment [] with
  | .error (.unreadable field) => ([.settingsLoading], .error (.unreadable field))
  | .error (.invalid problems) =>
    ([.settingsLoading, .settingsInvalid (problems.map Problem.line)], .error .exit)
  | .ok settings =>
    let notices := .settingsLoading :: settings.warnings ++ settings.cautions
    match settings.refusal? with
    | some refusal =>
      (notices ++ [.settingsRefused refusal.message refusal.field], .error .exit)
    | none =>
      (notices ++ [.settingsLoaded settings.deployment.label settings.outbox.batchSize
        settings.outbox.maxRetry settings.teamSync.enabled], .ok settings)

/-- Settings that were loaded, with the number of the load. -/
structure Loaded where
  number : Nat
  settings : Settings
deriving Repr, Inhabited

/-- The settings that are kept, and how often settings were loaded. -/
structure Cache where
  kept : Option Loaded := none
  loads : Nat := 0
deriving Repr, Inhabited

namespace Cache

/-- The kept settings, or else those of the environment, which are kept from then on. -/
def get (environment : Environment) (cache : Cache) :
    (List Notice × Except Stop Loaded) × Cache :=
  match cache.kept with
  | some loaded => (([], .ok loaded), cache)
  | none =>
    match accept environment with
    | (notices, .error stop) => ((notices, .error stop), cache)
    | (notices, .ok settings) =>
      let loaded := ⟨cache.loads, settings⟩
      ((notices, .ok loaded), ⟨some loaded, cache.loads + 1⟩)

/-- As `get`, but without an end of the program: there are no settings then. -/
def get? (environment : Environment) (cache : Cache) :
    (List Notice × Except Stop (Option Loaded)) × Cache :=
  match cache.get environment with
  | ((notices, .ok loaded), after) => ((notices, .ok (some loaded)), after)
  | ((notices, .error .exit), after) => ((notices, .ok none), after)
  | ((notices, .error stop), after) => ((notices, .error stop), after)

/-- Drops what is kept. -/
def clear (cache : Cache) : List Notice × Cache :=
  ([.settingsCleared], { cache with kept := none })

end Cache

end Roster.Settings
