/-
**Reports as data.**

What the services, the jobs and the worker report is shown as tables of named fields: identifiers and
times as texts, lists of changes in full beside their numbers.

* `Report.requirement`, `Report.snapshot` — what is asked of members, and how they stand.
* `Report.drain`, `Report.pass`, `Report.syncRun` — what became of events and teams.
* `Report.schedules`, `Report.jobRun`, `Report.rounds` — the work of the worker.
* `Report.changes` — the differences between two stores.
-/

import Roster.Store.View
import Roster.Worker

namespace Roster.Report

/-- A count. -/
def count {α : Type} (list : List α) : Value := .int list.length

/-- An identifier. -/
def id (id : Uuid) : Value := .ofUuid id

/-- Identifiers in their order. -/
def ids (ids : List Uuid) : Value := .list (ids.map id)

/-- A set of identifiers, in the order of their texts. -/
def idSet (users : List Uuid) : Value := ids (Reconcile.sorted (distinct users))

/-- A row with its columns. -/
def row (row : Row) : Value := .table row.columns

/-- The document that a member has to agree to. -/
def requirement (requirement : Requirement) : Except TimeError Value := do
  let effectiveFrom ← requirement.effectiveFrom.inUniversalTime
  return .table [("document_version_id", id requirement.version),
    ("legal_document_id", id requirement.document),
    ("document_name", .text requirement.documentName),
    ("effective_from", .ofInstant effectiveFrom),
    ("grace_period_days", .int requirement.graceDays)]

/-- How a member stands. -/
def snapshot (snapshot : Standing.Snapshot) : Value :=
  .table [("status", .text snapshot.standing.label),
    ("is_volunteer_member", .bool snapshot.isVolunteer),
    ("required_consent_count", .int snapshot.requiredCount),
    ("pending_consent_count", .int snapshot.pendingCount),
    ("missing_consent_version_ids", ids snapshot.missingVersions)]

/-- What became of a batch of events. -/
def drain (report : Outbox.DrainReport) : Value :=
  .table [("selected", .int report.selected), ("processed", count report.processed),
    ("failed", count report.failed), ("abandoned", count report.abandoned),
    ("cancelled", .bool report.cancelled), ("idle", .bool report.isIdle),
    ("processed_ids", ids report.processed), ("failed_ids", ids report.failed),
    ("abandoned_ids", ids report.abandoned)]

/-- What a pass changed in a team. -/
def pass (result : Reconcile.PassResult) : Value :=
  .table [("team", .text result.kind.label), ("added", count result.added),
    ("removed", count result.removed), ("skipped", .bool result.skipped),
    ("changed", .bool result.changed), ("team_id", .ofOption id result.team),
    ("added_ids", ids result.added), ("removed_ids", ids result.removed)]

/-- What a run over the derived teams changed. -/
def syncRun (run : Reconcile.SyncRun) : Value :=
  .table [("teams", .list (run.passes.map pass)), ("cancelled", .bool run.cancelled)]

/-- A schedule. -/
def schedule (schedule : Schedule) : Except TimeError Value := do
  let lastRun ← schedule.lastRun.mapM Instant.inUniversalTime
  return .table [("name", .text schedule.name), ("interval_ms", .int schedule.interval.millis),
    ("enabled", .bool schedule.enabled), ("last_run", .ofOption .ofInstant lastRun)]

/-- All schedules, in their order. -/
def schedules (rota : Rota) : Except TimeError Value := return .list (← rota.mapM schedule)

/-- One run of a job. -/
def jobRun (run : JobRun) : Except TimeError Value := do
  let startedAt ← run.startedAt.inUniversalTime
  let finishedAt ← run.finishedAt.inUniversalTime
  return .table [("name", .text run.name), ("status", .text run.status.label),
    ("started_at", .ofInstant startedAt), ("finished_at", .ofInstant finishedAt),
    ("duration_ms", .int run.millis), ("result", run.result),
    ("error", .ofOption .text run.error)]

/-- The rounds of a worker: which jobs ran and how they ended, nothing for a round that failed. -/
def rounds (report : LoopReport) : Value :=
  .list (report.rounds.map (.ofOption fun runs => .list (runs.map fun run =>
    .texts [run.name, run.status.label])))

/-- A worker at the end of its work. -/
def worker (worker : Worker) (uptime : Span) : List (String × Value) :=
  [("succeeded", .int worker.succeeded), ("failed", .int worker.failed),
    ("engines_closed", .int worker.world.surroundings.pool.closed),
    ("uptime", .text uptime.uptime), ("stopping", .bool worker.world.surroundings.cancelled)]

/-- What the worker takes from the settings. -/
def workerSettings (settings : Settings) : Value :=
  .table [("database_url", .text settings.driverAddress),
    ("poll_interval", .real settings.worker.pollSeconds),
    ("shutdown_timeout", .real settings.worker.stopSeconds),
    ("enabled_jobs", .texts settings.worker.jobNames)]

/-- What is wrong with a setting. -/
def problem (problem : Settings.Problem) : Value :=
  .table [("loc", .list (problem.location.map fun
      | .field name => .text name
      | .item index => .int index)),
    ("type", .text problem.kind), ("msg", .text problem.message)]

/-- A difference between two stores. -/
def difference : Difference → Value
  | .inserted table added =>
    .table [("table", .text table.name), ("op", .text "insert"), ("row", row added)]
  | .changed table key columns => .table [("table", .text table.name), ("op", .text "update"),
      ("key", id key), ("set", .table columns)]
  | .removed table key =>
    .table [("table", .text table.name), ("op", .text "delete"), ("key", id key)]

/-- The differences between two stores. -/
def changes (before after : Store) : Value := .list ((before.differences after).map difference)

/-- The notices from a lowest level on, each with its level. -/
def notices (lowest : Level) (notices : List Notice) : Value :=
  .list ((notices.filter fun notice => lowest.atLeast notice.level).map fun notice =>
    .texts [notice.level.name, notice.text])

end Roster.Report
