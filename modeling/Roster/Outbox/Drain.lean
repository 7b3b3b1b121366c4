/-
**Draining the outbox.**

A drain relays the oldest pending events to the groupware, one at a time. An event that is granted is
processed; one that fails keeps the error and counts the attempt, and after the last attempt allowed
it is abandoned. A failure never stops the drain, but the signal to stop does, before the next event.

* `Outbox.delivered`, `Outbox.failed` — an event after an attempt.
* `Outbox.relayAll` — the events of a batch, in order.
* `Outbox.drain` — a whole batch.
-/

import Roster.Outbox.Basic

namespace Roster

/-- Runs a part of a transaction and hands over what came of it, so that a failure can be dealt
with. -/
def Transaction.attempt {α : Type} (body : Transaction α) : Transaction (Except Failure α) :=
  fun session =>
    match body session with
    | .ok result session => .ok (.ok result) session
    | .error failure session => .ok (.error failure) session

namespace Outbox

/-- How events are relayed. -/
structure Policy where
  batchSize : Nat := 100
  maxRetry : Int := 10
  errorLength : Int := 4000
deriving DecidableEq, Repr, Inhabited

/-- The stored text of a failure: its wording, or the name of its kind if it has none. -/
def errorText (failure : Failure) (limit : Int) : String :=
  Text.clipTo limit (if failure.message.isEmpty then failure.name else failure.message)

/-- An event after an attempt that was granted. -/
def delivered (event : OutboxEvent) (moment : Instant) : OutboxEvent :=
  { event with processedAt := some moment, lastError := none }

/-- An event after an attempt that failed; the last attempt allowed abandons it. -/
def failed (policy : Policy) (event : OutboxEvent) (failure : Failure) (moment : Instant) :
    OutboxEvent :=
  let attempts := event.retryCount + 1
  { event with
    retryCount := attempts
    lastError := some (errorText failure policy.errorLength)
    abandonedAt := if policy.maxRetry ≤ attempts then some moment else event.abandonedAt }

/-- What came of a drain. -/
structure DrainReport where
  selected : Nat
  processed : List Uuid := []
  failed : List Uuid := []
  abandoned : List Uuid := []
  cancelled : Bool := false
deriving DecidableEq, Repr, Inhabited

/-- There was nothing to relay. -/
def DrainReport.isIdle (report : DrainReport) : Bool := report.selected == 0

/-- A report in numbers. -/
def DrainReport.summary (report : DrainReport) : Value :=
  .table [("selected", .int report.selected), ("processed", .int report.processed.length),
    ("failed", .int report.failed.length), ("abandoned", .int report.abandoned.length),
    ("cancelled", .bool report.cancelled)]

/-- Asks the groupware for what an event asks for. -/
def dispatch (event : OutboxEvent) : Act Unit :=
  match event.kind with
  | .add => Act.ask ⟨.granted, event.team, event.user⟩
  | .remove => Act.ask ⟨.revoked, event.team, event.user⟩
  | .other label => throw (.unknownEventKind (.text label))

/-- Notes a failed attempt. -/
def noteFailure (policy : Policy) (event : OutboxEvent) (error : String) : Act Unit :=
  if policy.maxRetry ≤ event.retryCount then
    Act.note (.eventAbandoned event.retryCount event.id event.kind event.team event.user error)
  else Act.note (.eventFailed event.id event.retryCount policy.maxRetry error)

/-- Relays one event, and adds what came of it to the report. Only the request to stop at once passes
through. -/
def relay (policy : Policy) (event : OutboxEvent) (moment : Instant) (report : DrainReport) :
    Transaction DrainReport := do
  match ← Transaction.attempt (Transaction.act (dispatch event)) with
  | .ok () =>
    Transaction.stage (.change (.event (delivered event moment)))
    return { report with processed := report.processed ++ [event.id] }
  | .error failure =>
    if failure.isInterrupt then throw failure
    let after := failed policy event failure moment
    Transaction.stage (.change (.event after))
    noteFailure policy after (errorText failure policy.errorLength)
    return { report with
      failed := report.failed ++ [event.id]
      abandoned :=
        if policy.maxRetry ≤ after.retryCount then report.abandoned ++ [event.id]
        else report.abandoned }

/-- The circumstances of a drain: a fixed time of the attempts, if one is given, and whether the
signal to stop is heeded. -/
structure DrainMode where
  now : Option Instant := none
  heedsCancel : Bool := true
deriving Repr, Inhabited

/-- Relays the events of a batch in order, until the signal to stop. -/
def relayAll (policy : Policy) (mode : DrainMode) :
    List OutboxEvent → DrainReport → Transaction DrainReport
  | [], report => return report
  | event :: rest, report => do
    if mode.heedsCancel && (← Act.isCancelled) then
      Act.note (.drainCancelled report.processed.length report.failed.length
        (report.selected - report.processed.length - report.failed.length))
      return { report with cancelled := true }
    else
      let clock ← Act.readClock
      relayAll policy mode rest (← relay policy event (mode.now.getD clock) report)

/-- Relays a given batch. What became of the events goes out at the end. -/
def drainBatch (policy : Policy) (mode : DrainMode) (batch : List OutboxEvent) :
    Transaction DrainReport := do
  if batch.isEmpty then
    Act.note .outboxIdle
    return { selected := 0 }
  let report ← relayAll policy mode batch { selected := batch.length }
  Transaction.flush
  Act.note (.drained report.selected report.processed.length report.failed.length
    report.abandoned.length)
  return report

/-- Relays the oldest pending events, as many as a batch takes. -/
def drain (policy : Policy) (mode : DrainMode) : Transaction DrainReport := do
  drainBatch policy mode (← pending policy.batchSize policy.maxRetry)

end Outbox

end Roster
