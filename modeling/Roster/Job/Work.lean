/-
**What the jobs do.**

Each job works with the settings, at a given time, and reports about its run as a data value.

* `Job.relayEvents` — one batch of events is relayed; what became of them is committed together.
* `Job.syncTeams` — the derived teams are reconciled.
* `Job.checkCompliance` — the members whose consents have lapsed are noted; nothing is written.
-/

import Roster.Outbox.Drain
import Roster.Reconcile
import Roster.Settings.Basic
import Roster.Standing.Loader

namespace Roster

/-- How the settings want events to be relayed. -/
def Settings.Outbox.policy (outbox : Settings.Outbox) : Outbox.Policy where
  batchSize := outbox.batchSize.toNat
  maxRetry := outbox.maxRetry
  errorLength := outbox.errorLength

namespace Job

/-- Relays one batch of events. What became of them is committed at the end, also if the signal to
stop came in between; if there was nothing to relay, nothing is committed. -/
def relayEvents (settings : Settings) : Application Value := do
  let report ← Application.transact do
    let report ← Outbox.drain settings.outbox.policy {}
    return (report, if report.isIdle then .discard else .keep)
  if !report.abandoned.isEmpty then
    Act.note (.needAttention report.abandoned)
  return report.summary

/-- Brings the derived teams up to date. -/
def syncTeams (settings : Settings) (now : Instant) : Application Value := do
  return (← Reconcile.all { now, jobName := settings.teamSync.jobName }).summary

/-- Notes the members whose consents have lapsed. -/
def checkCompliance (now : Instant) : Application Value := do
  let users ← Application.transact do
    return (← Standing.requiringUpdate now, .discard)
  (Reconcile.sorted users).forM fun user => Act.note (.memberInactive user)
  return .table [("users_requiring_update", .int users.length)]

/-- What a job does. -/
def perform (job : Job) (settings : Settings) (now : Instant) : Application Value :=
  match job with
  | .processOutbox => relayEvents settings
  | .systemTeamSync => syncTeams settings now
  | .complianceCheck => checkCompliance now

end Job

end Roster
