/-
**Loading the settings.**

Settings are given directly or found in the environment; what is given directly counts. A section
that the whole does not find is loaded on its own, and then its problems are all there are.

Loading tells only whether each value can be used. Whether the settings fit together is asked
afterwards: some combinations are worth a warning, and some are refused.

* `SectionRules.load` — one section on its own.
* `Settings.load` — the whole.
* `Settings.warnings`, `Settings.refusal?` — what is said about settings that could be loaded.
-/

import Roster.Settings.Basic

namespace Roster.Settings

/-- Why settings cannot be loaded. -/
inductive LoadError where
  /-- Values cannot be used. -/
  | invalid (problems : List Problem)
  /-- The text of a field is no data value. -/
  | unreadable (field : String)
deriving Repr, Inhabited

/-- The checked value, or all its problems as an error. -/
def Checked.toExcept {α : Type} : Checked α → Except LoadError α
  | .valid value => .ok value
  | .invalid problems => .error (.invalid problems)

/-- What is given, under the names of fields that it matches without regard to case. Of several that match
one field the first counts. -/
def underNames (names : List String) (given : List (String × Value)) : List (String × Value) :=
  names.filterMap fun name =>
    (given.find? fun entry => Environment.lowerText entry.1 = name).map fun entry => (name, entry.2)

/-- One section on its own: what is given counts before what is found in the environment. -/
def SectionRules.load {α : Type} (rules : SectionRules α) (environment : Environment)
    (given : List (String × Value)) : Except LoadError α :=
  match environment.ownFields rules.toSection with
  | .error field => .error (.unreadable field)
  | .ok own =>
    (rules.check (Environment.laidOverFields own (underNames rules.fields given))).toExcept

/-- A section as part of the whole, from the fields of the whole. -/
def SectionRules.part {α : Type} (rules : SectionRules α) (environment : Environment)
    (fields : List (String × Value)) : Except LoadError (Checked α) :=
  match Value.lookup rules.name fields with
  | none => .valid <$> rules.load environment []
  | some (.table given) =>
    match rules.load environment given with
    | .ok loaded => return .valid loaded
    | .error (.invalid problems) =>
      return Checked.under (.field rules.name) (.invalid problems)
    | .error (.unreadable field) =>
      return Checked.under (.field rules.name) (.problem (.ofRule (Failure.unreadableSetting field).message))
  | some _ =>
    return Checked.under (.field rules.name) (.problem (.of "model_type"
      ("Input should be a valid dictionary or instance of " ++ rules.noun)))

/-- The sections of the whole. -/
def sections : List Section :=
  [Database.rules.toSection, Outbox.rules.toSection, TeamSync.rules.toSection,
    Worker.rules.toSection]

/-- The fields of the whole that are no sections. -/
def simpleFields : List String := ["environment", "debug", "log_level", "app_name", "app_version"]

/-- The fields of the whole that the environment gives. -/
def found (environment : Environment) : Except LoadError (List (String × Value)) := do
  let simple := simpleFields.filterMap fun name =>
    (environment.value? (Environment.lead ++ name)).map fun text => (name, Value.text text)
  let parts ← sections.filterMapM fun part =>
    match environment.sectionValue part with
    | .error field => .error (LoadError.unreadable field)
    | .ok value => .ok (value.map ((part.name, ·)))
  return simple ++ parts

/-- No debugging where it matters. -/
def requireNoDebug (settings : Settings) : Checked Settings :=
  if settings.deployment = .production && settings.debug then
    .problem (.ofRule "Debug mode is not allowed in production environment")
  else .valid settings

/-- All settings, from what is given and what is found in the environment. -/
def load (environment : Environment) (given : List (String × Value)) :
    Except LoadError Settings := do
  let names := simpleFields ++ sections.map Section.name
  let fields := Environment.laidOverFields (← found environment) (underNames names given)
  let database ← Database.rules.part environment fields
  let outbox ← Outbox.rules.part environment fields
  let teamSync ← TeamSync.rules.part environment fields
  let worker ← Worker.rules.part environment fields
  let usual : Settings := { database := { url := "" } }
  let checked := Settings.mk
    <$> Check.field "environment" deploymentWord (some usual.deployment) fields
    <*> Check.field "debug" Check.truth (some usual.debug) fields
    <*> Check.field "log_level" levelName (some usual.logLevel) fields
    <*> database <*> outbox <*> teamSync <*> worker
    <*> Check.field "app_name" Check.text (some usual.appName) fields
    <*> Check.field "app_version" Check.text (some usual.appVersion) fields
  (checked.andThen requireNoDebug).toExcept

/-- What loading warns of: statements with the data of members go to the journal. -/
def warnings (settings : Settings) : List Notice :=
  if settings.deployment = .production && settings.database.echo then [.echoInProduction] else []

/-- What is said about settings whose parts hardly fit together: events queue up if they are relayed
less often than the derived teams change. -/
def cautions (settings : Settings) : List Notice :=
  if settings.teamSync.intervalSeconds < settings.outbox.intervalSeconds then
    [.drainSlowerThanSync settings.outbox.intervalSeconds settings.teamSync.intervalSeconds]
  else []

/-- Why settings that could be loaded are refused. -/
inductive Refusal where
  /-- The derived teams are to be kept up to date, but the worker does not run the job. -/
  | syncNotRun
deriving DecidableEq, Repr, Inhabited

/-- The wording of a refusal. -/
def Refusal.message : Refusal → String
  | .syncNotRun =>
    "Team sync is enabled but system_team_sync is not in HUMANS_WORKER__ENABLED_JOBS."

/-- The setting that a refusal is about. -/
def Refusal.field : Refusal → String
  | .syncNotRun => "worker.enabled_jobs"

/-- The reason to refuse the settings, if there is one. -/
def refusal? (settings : Settings) : Option Refusal :=
  if settings.teamSync.enabled && !settings.worker.enabledJobs.contains .systemTeamSync then
    some .syncNotRun
  else none

end Roster.Settings
