/-
**The journal.**

Whatever happens is noted in the journal, each kind of notice with its level and its wording. The
wording is fixed here, so that the parts of the system only say what happened.

* `Notice.level`, `Notice.text` — the level and the wording of a notice.
* `Level.atLeast` — whether a level is shown when a lowest level is asked for.
-/

import Roster.Failure
import Roster.Job.Status

namespace Roster

/-- How much a notice matters. -/
inductive Level where
  | debug
  | info
  | warning
  | error
  | critical
deriving DecidableEq, Repr, Inhabited

/-- The name of a level. -/
def Level.name : Level → String
  | .debug => "DEBUG"
  | .info => "INFO"
  | .warning => "WARNING"
  | .error => "ERROR"
  | .critical => "CRITICAL"

/-- All levels, the lowest first. -/
def Level.all : List Level := [.debug, .info, .warning, .error, .critical]

/-- Levels as numbers, in steps of ten. -/
def Level.severity : Level → Nat
  | .debug => 10
  | .info => 20
  | .warning => 30
  | .error => 40
  | .critical => 50

/-- The level is shown when notices from the lowest level on are asked for. -/
def Level.atLeast (lowest level : Level) : Bool := lowest.severity ≤ level.severity

/-- What happened. -/
inductive Notice where
  -- standing and consents
  | requiringUpdate (users roleHolders : Nat)
  | consentRecorded (user version : Uuid) (isExplicit : Bool)
  | entryStaged (action : AuditAction) (entityType : String) (entity : Uuid) (actor : String)
  -- the outbox
  | eventDuplicate (key : String)
  | eventDuplicateRace (key : String)
  | eventNotEnqueued (key error : String)
  | eventEnqueued (event : Uuid) (kind : EventKind) (team user : Uuid)
  | eventSuperseded (event : Uuid) (kind : EventKind) (team user : Uuid)
  | eventFailed (event : Uuid) (attempt cap : Int) (error : String)
  | eventAbandoned (attempts : Int) (event : Uuid) (kind : EventKind) (team user : Uuid)
      (error : String)
  | outboxIdle
  | drainCancelled (processed failed remaining : Nat)
  | drained (selected processed failed abandoned : Nat)
  | needAttention (events : List Uuid)
  | wouldAdd (team user : Uuid)
  | wouldRemove (team user : Uuid)
  -- derived teams
  | passFailed (kind : TeamKind)
  | teamMissing (kind : TeamKind)
  | teamUpToDate (name : String)
  | teamSynced (name : String) (added removed : Nat)
  | syncStarted (now : Instant)
  | syncCancelled (kind : TeamKind)
  | syncCompleted (teams changed : Nat) (cancelled : Bool)
  | memberInactive (user : Uuid)
  -- jobs
  | jobAdded (name : String) (interval : Span) (enabled : Bool)
  | jobsAdded (enabled : List String)
  | jobStarting (name : String)
  | jobFailed (name error : String)
  | jobFinished (name : String) (status : RunStatus) (millis : Int) (result : Value)
  -- settings
  | echoInProduction
  | drainSlowerThanSync (drainSeconds syncSeconds : Int)
  | settingsLoading
  | settingsLoaded (environment : String) (batchSize maxRetry : Int) (teamSync : Bool)
  | settingsInvalid (problems : List String)
  | settingsRefused (message field : String)
  | settingsCleared
  -- the worker
  | workerStarting (jobs : List String)
  | workerStopped (succeeded failed : Nat) (uptime : String)
  | stopRequested
  | loopError (error : String)
  | signalReceived (number : Nat)
  | stopTimedOut
  | programStarting (application version : String)
  | programConfiguration (summary : Value)
  | programInterrupted
  | programFailed (error : String)
  | programComplete (application : String)
deriving Repr, Inhabited

namespace Notice

/-- The level of a notice. -/
def level : Notice → Level
  | .entryStaged .. | .eventDuplicate .. | .outboxIdle | .teamUpToDate .. | .jobAdded ..
  | .settingsCleared => .debug
  | .eventFailed .. | .teamMissing .. | .memberInactive .. | .echoInProduction
  | .drainSlowerThanSync .. | .stopTimedOut => .warning
  | .eventNotEnqueued .. | .eventAbandoned .. | .needAttention .. | .passFailed .. | .jobFailed ..
  | .loopError .. | .programFailed .. => .error
  | .settingsInvalid .. | .settingsRefused .. => .critical
  | _ => .info

/-- An event with its kind, team and user, as notices show it. -/
def eventLine (event : Uuid) (kind : EventKind) (team user : Uuid) : String :=
  "event_id=" ++ event.text ++ ", event_type=" ++ kind.label ++ ", team_id=" ++ team.text
    ++ ", user_id=" ++ user.text

/-- A team and a user, as notices show them. -/
def pairLine (team user : Uuid) : String :=
  "team_id=" ++ team.text ++ ", user_id=" ++ user.text

/-- The wording of a notice. -/
def text : Notice → String
  | .requiringUpdate users roleHolders =>
    "Users requiring status update: count=" ++ toString users ++ ", role_holders="
      ++ toString roleHolders
  | .consentRecorded user version isExplicit =>
    "Consent recorded: user_id=" ++ user.text ++ ", document_version_id=" ++ version.text
      ++ ", explicit=" ++ Value.boolText isExplicit
  | .entryStaged action entityType entity actor =>
    "Audit entry staged: action=" ++ action.label ++ ", entity=" ++ entityType ++ ":" ++ entity.text
      ++ ", actor=" ++ actor
  | .eventDuplicate key => "Outbox event deduplicated: key=" ++ key
  | .eventDuplicateRace key => "Outbox event deduplicated by concurrent insert: key=" ++ key
  | .eventNotEnqueued key error =>
    "Failed to enqueue outbox event: key=" ++ key ++ ", error=" ++ error
  | .eventEnqueued event kind team user =>
    "Outbox event enqueued: " ++ eventLine event kind team user
  | .eventSuperseded event kind team user =>
    "Outbox event superseded: " ++ eventLine event kind team user
  | .eventFailed event attempt cap error =>
    "Outbox event failed: event_id=" ++ event.text ++ ", attempt=" ++ toString attempt ++ "/"
      ++ toString cap ++ ", error=" ++ error
  | .eventAbandoned attempts event kind team user error =>
    "Outbox event abandoned after " ++ toString attempts ++ " attempts: "
      ++ eventLine event kind team user ++ ", error=" ++ error
  | .outboxIdle => "Outbox idle: no pending events"
  | .drainCancelled processed failed remaining =>
    "Outbox drain cancelled: processed=" ++ toString processed ++ ", failed=" ++ toString failed
      ++ ", remaining=" ++ toString remaining
  | .drained selected processed failed abandoned =>
    "Outbox batch drained: selected=" ++ toString selected ++ ", processed=" ++ toString processed
      ++ ", failed=" ++ toString failed ++ ", abandoned=" ++ toString abandoned
  | .needAttention events =>
    "Outbox events abandoned and need manual attention: count=" ++ toString events.length
      ++ ", event_ids=" ++ (Value.texts (events.map Uuid.text)).line
  | .wouldAdd team user => "[STUB] Would add user to team resources: " ++ pairLine team user
  | .wouldRemove team user =>
    "[STUB] Would remove user from team resources: " ++ pairLine team user
  | .passFailed kind => "System team sync failed: kind=" ++ kind.label
  | .teamMissing kind => "System team not found: kind=" ++ kind.label
  | .teamUpToDate name => "System team up to date: team=" ++ name
  | .teamSynced name added removed =>
    "Synced " ++ name ++ " team: added=" ++ toString added ++ ", removed=" ++ toString removed
  | .syncStarted now => "Starting system team sync: now=" ++ now.text
  | .syncCancelled kind => "System team sync cancelled before " ++ kind.label
  | .syncCompleted teams changed cancelled =>
    "Completed system team sync: teams=" ++ toString teams ++ ", changed=" ++ toString changed
      ++ ", cancelled=" ++ Value.boolText cancelled
  | .memberInactive user => "Member inactive due to expired consent: user_id=" ++ user.text
  | .jobAdded name interval enabled =>
    "Added schedule: name=" ++ name ++ ", interval=" ++ interval.text ++ ", enabled="
      ++ Value.boolText enabled
  | .jobsAdded enabled => "Added default schedules: enabled=" ++ (Value.texts enabled).line
  | .jobStarting name => "Job starting: name=" ++ name
  | .jobFailed name error => "Job failed: name=" ++ name ++ ", error=" ++ error
  | .jobFinished name status millis result =>
    "Job finished: name=" ++ name ++ ", status=" ++ status.label ++ ", duration_ms="
      ++ toString millis ++ ", result=" ++ result.plainLine
  | .echoInProduction =>
    "SQL echo is enabled in production. Member data will be written to the logs."
  | .drainSlowerThanSync drainSeconds syncSeconds =>
    "Outbox drain interval (" ++ toString drainSeconds ++ "s) is longer than the team sync interval ("
      ++ toString syncSeconds ++ "s); membership changes will queue up between drains"
  | .settingsLoading => "Loading application settings from environment"
  | .settingsLoaded environment batchSize maxRetry teamSync =>
    "Configuration loaded: environment=" ++ environment ++ ", outbox_batch_size="
      ++ toString batchSize ++ ", outbox_max_retry=" ++ toString maxRetry ++ ", team_sync_enabled="
      ++ Value.boolText teamSync
  | .settingsInvalid problems =>
    "Configuration validation failed:\n" ++ "\n".intercalate problems
  | .settingsRefused message field =>
    "Configuration validation failed: " ++ message ++ " (field: " ++ field ++ ")"
  | .settingsCleared => "Settings cache cleared"
  | .workerStarting jobs => "Worker starting: enabled_jobs=" ++ (Value.texts jobs).line
  | .workerStopped succeeded failed uptime =>
    "Worker stopped: succeeded=" ++ toString succeeded ++ ", failed=" ++ toString failed
      ++ ", uptime=" ++ uptime
  | .stopRequested => "Worker shutdown requested"
  | .loopError error => "Error in worker loop: " ++ error
  | .signalReceived number => "Shutdown signal received (signal=" ++ toString number ++ ")"
  | .stopTimedOut => "Worker did not stop within timeout, forcing shutdown"
  | .programStarting application version =>
    application ++ " Worker starting: version=" ++ version
  | .programConfiguration summary => "Runtime configuration: " ++ summary.line
  | .programInterrupted => "Worker interrupted"
  | .programFailed error => "Worker failed: " ++ error
  | .programComplete application => application ++ " Worker shutdown complete"

end Notice

end Roster
