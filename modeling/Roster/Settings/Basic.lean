/-
**The settings.**

The settings of the whole system, in sections: the database, the outbox, the derived teams and the
worker. Each section knows its own fields and the rules for them.

* `Settings` — all settings, with the values that hold if nothing is said.
* `SectionRules` — how a section is read from its fields.
* `Settings.table`, `Settings.summary` — the settings as data, in full and without secrets.
-/

import Roster.Connection.Driver
import Roster.Job.Basic
import Roster.Journal
import Roster.Settings.Address
import Roster.Settings.Check
import Roster.Settings.Environment

namespace Roster

namespace Settings

open Checked Check

/-- A section of the settings, what it is called in messages, and how it is read from its fields. -/
structure SectionRules (α : Type) extends Section where
  noun : String
  check : List (String × Value) → Checked α

/-! ### The database -/

/-- How to reach the database. -/
structure Database where
  url : String
  poolSize : Int := 5
  maxOverflow : Int := 10
  poolTimeout : Int := 30
  echo : Bool := false
deriving DecidableEq, Repr, Inhabited

/-- The rules for the database. -/
def Database.rules : SectionRules Database where
  name := "database"
  fields := ["url", "pool_size", "max_overflow", "pool_timeout", "echo"]
  noun := "DatabaseSettings"
  check fields :=
    let usual : Database := { url := "" }
    Database.mk
      <$> field "url" Address.check none fields
      <*> field "pool_size" (integer 1 (some 100)) (some usual.poolSize) fields
      <*> field "max_overflow" (integer 0 (some 100)) (some usual.maxOverflow) fields
      <*> field "pool_timeout" (integer 1 (some 300)) (some usual.poolTimeout) fields
      <*> field "echo" truth (some usual.echo) fields

/-- The database as data. -/
def Database.table (database : Database) : Value :=
  .table [("url", .text database.url), ("pool_size", .int database.poolSize),
    ("max_overflow", .int database.maxOverflow), ("pool_timeout", .int database.poolTimeout),
    ("echo", .bool database.echo)]

/-! ### The outbox -/

/-- How events are relayed: how many in one batch, after how many failures one is abandoned, how
much of an error is kept, and how often. -/
structure Outbox where
  batchSize : Int := 100
  maxRetry : Int := 10
  errorLength : Int := 4000
  intervalSeconds : Int := 60
deriving DecidableEq, Repr, Inhabited

/-- The rules for the outbox. -/
def Outbox.rules : SectionRules Outbox where
  name := "outbox"
  fields := ["batch_size", "max_retry_count", "error_max_length", "drain_interval_seconds"]
  noun := "OutboxSettings"
  check fields :=
    let usual : Outbox := {}
    Outbox.mk
      <$> field "batch_size" (integer 1 (some 10000)) (some usual.batchSize) fields
      <*> field "max_retry_count" (integer 1 (some 1000)) (some usual.maxRetry) fields
      <*> field "error_max_length" (integer 100 (some 4000)) (some usual.errorLength) fields
      <*> field "drain_interval_seconds" (integer 1 none) (some usual.intervalSeconds) fields

/-- The outbox as data. -/
def Outbox.table (outbox : Outbox) : Value :=
  .table [("batch_size", .int outbox.batchSize), ("max_retry_count", .int outbox.maxRetry),
    ("error_max_length", .int outbox.errorLength),
    ("drain_interval_seconds", .int outbox.intervalSeconds)]

/-! ### The derived teams -/

/-- How the derived teams are kept up to date, and how often consents are checked. -/
structure TeamSync where
  enabled : Bool := true
  intervalSeconds : Int := 3600
  jobName : String := "SystemTeamSyncJob"
  complianceSeconds : Int := 86400
deriving DecidableEq, Repr, Inhabited

/-- The most characters that the name of an actor may have. -/
def maxNameLength : Nat := 200

/-- A name for the audit log, without blanks at its ends. -/
def actorName : Rule String := fun value =>
  (Check.text value).andThen fun text =>
    let name := Text.trimBoth Text.isBlank text
    if name.isEmpty then .problem (.ofRule "Job name cannot be empty")
    else if maxNameLength < name.length then
      .problem (.ofRule ("Job name must be at most " ++ toString maxNameLength ++ " characters"))
    else .valid name

/-- The rules for the derived teams. -/
def TeamSync.rules : SectionRules TeamSync where
  name := "team_sync"
  fields := ["enabled", "interval_seconds", "job_name", "compliance_check_interval_seconds"]
  noun := "TeamSyncSettings"
  check fields :=
    let usual : TeamSync := {}
    TeamSync.mk
      <$> field "enabled" truth (some usual.enabled) fields
      <*> field "interval_seconds" (integer 60 none) (some usual.intervalSeconds) fields
      <*> field "job_name" actorName (some usual.jobName) fields
      <*> field "compliance_check_interval_seconds" (integer 60 none) (some usual.complianceSeconds)
        fields

/-- The derived teams as data. -/
def TeamSync.table (teamSync : TeamSync) : Value :=
  .table [("enabled", .bool teamSync.enabled), ("interval_seconds", .int teamSync.intervalSeconds),
    ("job_name", .text teamSync.jobName),
    ("compliance_check_interval_seconds", .int teamSync.complianceSeconds)]

/-! ### The worker -/

/-- How often the worker looks for jobs that are due, how long it may take to stop, and which jobs it
runs. -/
structure Worker where
  pollSeconds : Binary64 := .ofInt 5
  stopSeconds : Binary64 := .ofInt 30
  enabledJobs : List Job := [.complianceCheck, .processOutbox, .systemTeamSync]
deriving Repr, Inhabited

/-- The distinct names among the given ones that belong to no job, in their order. -/
def unknownNames (names : List String) : List String :=
  let unknown := names.filter fun name => (Job.ofName? name).isNone
  (unknown.eraseDups).mergeSort fun first second => decide (first ≤ second)

/-- Jobs by their names. -/
def jobNames : Rule (List Job) := fun value =>
  (texts value).andThen fun names =>
    match unknownNames names with
    | [] => .valid (names.filterMap Job.ofName?)
    | unknown => .problem (.ofRule ("Unknown job(s): " ++ ", ".intercalate unknown))

/-- The rules for the worker. -/
def Worker.rules : SectionRules Worker where
  name := "worker"
  fields := ["poll_interval_seconds", "shutdown_timeout_seconds", "enabled_jobs"]
  lists := ["enabled_jobs"]
  noun := "WorkerSettings"
  check fields :=
    let usual : Worker := {}
    Worker.mk
      <$> field "poll_interval_seconds" (number 3600) (some usual.pollSeconds) fields
      <*> field "shutdown_timeout_seconds" (number 600) (some usual.stopSeconds) fields
      <*> field "enabled_jobs" jobNames (some usual.enabledJobs) fields

/-- The names of the jobs that the worker runs. -/
def Worker.jobNames (worker : Worker) : List String := worker.enabledJobs.map Job.label

/-- The worker as data. -/
def Worker.table (worker : Worker) : Value :=
  .table [("poll_interval_seconds", .real worker.pollSeconds),
    ("shutdown_timeout_seconds", .real worker.stopSeconds),
    ("enabled_jobs", .texts worker.jobNames)]

/-! ### The whole -/

/-- Where the system runs. -/
inductive Deployment where
  | development
  | staging
  | production
deriving DecidableEq, Repr, Inhabited

/-- The word for a deployment. -/
def Deployment.label : Deployment → String
  | .development => "dev"
  | .staging => "staging"
  | .production => "production"

/-- All deployments. -/
def Deployment.all : List Deployment := [.development, .staging, .production]

/-- A deployment by its word. -/
def deploymentWord : Rule Deployment :=
  choice Deployment.all Deployment.label "Input should be 'dev', 'staging' or 'production'"

/-- A character as a capital letter, as far as the names of the levels need it. -/
def capital (c : Char) : Char := if c.toNat = 0x131 then 'I' else c.toUpper

/-- A level of the journal by its name in any case. -/
def levelName : Rule Level := fun value =>
  (Check.text value).andThen fun name =>
    match Level.all.find? (·.name = String.ofList (name.toList.map capital)) with
    | some level => .valid level
    | none => .problem (.ofRule ("Invalid log level: " ++ name))

end Settings

/-- All settings. -/
structure Settings where
  deployment : Settings.Deployment := .development
  debug : Bool := false
  logLevel : Level := .info
  database : Settings.Database
  outbox : Settings.Outbox := {}
  teamSync : Settings.TeamSync := {}
  worker : Settings.Worker := {}
  appName : String := "Humans"
  appVersion : String := "0.1.0"
deriving Repr, Inhabited

namespace Settings

/-- The settings as data. -/
def table (settings : Settings) : Value :=
  .table [("environment", .text settings.deployment.label), ("debug", .bool settings.debug),
    ("log_level", .text settings.logLevel.name), ("database", settings.database.table),
    ("outbox", settings.outbox.table), ("team_sync", settings.teamSync.table),
    ("worker", settings.worker.table), ("app_name", .text settings.appName),
    ("app_version", .text settings.appVersion)]

/-- What the journal shows of the settings: nothing that is secret. -/
def summary (settings : Settings) : Value :=
  .table [("environment", .text settings.deployment.label),
    ("outbox", .table [("batch_size", .int settings.outbox.batchSize),
      ("max_retry_count", .int settings.outbox.maxRetry)]),
    ("team_sync", .table [("enabled", .bool settings.teamSync.enabled),
      ("interval_seconds", .int settings.teamSync.intervalSeconds)]),
    ("worker", .table [("enabled_jobs", .texts settings.worker.jobNames)]),
    ("app_version", .text settings.appVersion)]

/-- The address of the database with the driver in its scheme. -/
def driverAddress (settings : Settings) : String := Connection.forDriver settings.database.url

end Settings

end Roster
