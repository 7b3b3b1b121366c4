/-
**Schedules.**

A job runs again when its interval has passed since its last run began. The jobs that are due at one
time run one after another, in the order in which they were added, until the signal to stop. A job
that fails is reported and keeps nobody else from running.

* `Schedule.isDue` — whether a job runs again at a time.
* `Rota.add`, `Rota.begin` — a further schedule, and the beginning of a run.
* `Rounds.runJob` — one run, with what came of it.
* `Rounds.tick` — the runs of all jobs that are due.
-/

import Roster.Job.Work

namespace Roster

/-- A job that runs again and again. -/
structure Schedule where
  name : String
  work : Instant → Application Value
  interval : Span
  enabled : Bool := true
  lastRun : Option Instant := none

/-- A job is due if it never ran, or if its interval has passed since its last run. -/
def Schedule.isDue (schedule : Schedule) (now : Instant) : Except TimeError Bool :=
  match schedule.lastRun with
  | none => .ok true
  | some last => (last.plus schedule.interval).map fun next => decide (next ≤ now)

/-- The schedules in the order in which they were added; no two have the same name. -/
abbrev Rota := List Schedule

namespace Rota

/-- Adds a schedule at the end, or puts it in the place of the one of its name. -/
def add (schedule : Schedule) : Rota → Rota
  | [] => [schedule]
  | other :: rest =>
    if other.name = schedule.name then schedule :: rest else other :: add schedule rest

/-- The schedule of a name. -/
def find? (rota : Rota) (name : String) : Option Schedule :=
  List.find? (fun schedule => schedule.name = name) rota

/-- The rota when a run of a job begins. -/
def begin (name : String) (now : Instant) (rota : Rota) : Rota :=
  rota.map fun schedule =>
    if schedule.name = name then { schedule with lastRun := some now } else schedule

/-- The names of the jobs that are switched on. -/
def enabledNames (rota : Rota) : List String :=
  (rota.filter Schedule.enabled).map Schedule.name

end Rota

namespace Settings

/-- How often a job runs. -/
def seconds (settings : Settings) : Job → Int
  | .processOutbox => settings.outbox.intervalSeconds
  | .systemTeamSync => settings.teamSync.intervalSeconds
  | .complianceCheck => settings.teamSync.complianceSeconds

/-- A job is switched on if the worker is to run it; the derived teams have a switch of their own. -/
def runs (settings : Settings) (job : Job) : Bool :=
  settings.worker.enabledJobs.contains job && (job != .systemTeamSync || settings.teamSync.enabled)

/-- The schedule of a job. -/
def schedule (settings : Settings) (job : Job) : Except TimeError Schedule := do
  return {
    name := job.label
    work := job.perform settings
    interval := ← Span.ofSeconds (settings.seconds job)
    enabled := settings.runs job }

/-- The schedules of all jobs. -/
def schedules (settings : Settings) : Except TimeError (List Schedule) :=
  Job.all.mapM settings.schedule

end Settings

/-- One run of a job. -/
structure JobRun where
  name : String
  status : RunStatus
  startedAt : Instant
  finishedAt : Instant
  result : Value := .null
  error : Option String := none
deriving Repr, Inhabited

/-- How long a run took, in milliseconds. -/
def JobRun.millis (run : JobRun) : Int := (run.finishedAt.since run.startedAt).wholeMillis

/-- A run that came to its end is cancelled if its report says so. A report is a table of fields or
empty. -/
def RunStatus.ofResult : Value → Except Failure RunStatus
  | .table fields => .ok (match Value.lookup "cancelled" fields with
    | some value => if value.isTrue then cancelled else succeeded
    | none => succeeded)
  | result => if result.isTrue then .error (.noFields result) else .ok succeeded

/-- The world and the schedules that are run in it. -/
structure Scheduler where
  world : World
  rota : Rota := []
deriving Inhabited

/-- What can be done with schedules. -/
abbrev Rounds := EStateM Failure Scheduler

namespace Rounds

/-- Work on the world. -/
def apply {α : Type} (work : Application α) : Rounds α := fun scheduler =>
  match work scheduler.world with
  | .ok result world => .ok result { scheduler with world }
  | .error failure world => .error failure { scheduler with world }

instance : MonadLift Application Rounds := ⟨apply⟩

/-- Does some work and hands over what came of it. -/
def attempt {α : Type} (work : Application α) : Rounds (Except Failure α) := fun scheduler =>
  match work scheduler.world with
  | .ok result world => .ok (.ok result) { scheduler with world }
  | .error failure world => .ok (.error failure) { scheduler with world }

/-- Adds a schedule. -/
def add (schedule : Schedule) : Rounds Unit := do
  modify fun scheduler => { scheduler with rota := scheduler.rota.add schedule }
  Act.note (.jobAdded schedule.name schedule.interval schedule.enabled)

/-- Adds the schedules of all jobs. -/
def addAll (settings : Settings) : Rounds Unit := do
  (← Act.inTime settings.schedules).forM add
  Act.note (.jobsAdded (← get).rota.enabledNames)

/-- The schedule of a name, which has to be there. -/
def named (name : String) : Rounds Schedule := do
  match (← get).rota.find? name with
  | some schedule => return schedule
  | none => throw (.unknownJob name)

/-- Runs a job. Its failure is reported as a failed run; only the request to stop at once passes
through. -/
def runJob (schedule : Schedule) (now : Instant) : Rounds JobRun := do
  modify fun scheduler => { scheduler with rota := scheduler.rota.begin schedule.name now }
  let startedAt ← Act.readClock
  Act.note (.jobStarting schedule.name)
  match ← attempt (schedule.work now) with
  | .error failure =>
    if failure.isInterrupt then throw failure
    Act.note (.jobFailed schedule.name failure.message)
    let finishedAt ← Act.readClock
    return {
      name := schedule.name, status := .failed, startedAt, finishedAt,
      error := some failure.message }
  | .ok result =>
    let status ← match RunStatus.ofResult result with
      | .ok status => pure status
      | .error failure => throw failure
    let finishedAt ← Act.readClock
    let run : JobRun := { name := schedule.name, status, startedAt, finishedAt, result }
    Act.note (.jobFinished run.name run.status run.millis run.result)
    return run

/-- Runs those of some jobs that are due, in their order, until the signal to stop. -/
def runDue (now : Instant) : List Schedule → Rounds (List JobRun)
  | [] => return []
  | schedule :: rest => do
    if ← Act.isCancelled then return []
    let isDue ← if schedule.enabled then Act.inTime (schedule.isDue now) else pure false
    if isDue then
      let run ← runJob schedule now
      return run :: (← runDue now rest)
    else runDue now rest

/-- Runs the jobs that are due. -/
def tick (now : Instant) : Rounds (List JobRun) := do runDue now (← get).rota

end Rounds

end Roster
