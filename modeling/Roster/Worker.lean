/-
**The worker.**

The worker runs the jobs: either some of them once, or those that are due again and again until the
signal to stop. It opens the pool of connections before and closes it in any case.

What the worker meets from outside while it works, such as the time that passes and the order to
stop, is a list of rounds: one for each time that it looks for jobs that are due.

* `Shift.runOnce` — some jobs once; their names are looked up before the first one runs.
* `Shift.start` — the loop.
-/

import Roster.Schedule

namespace Roster

/-- An order to stop. -/
inductive StopOrder where
  | request
  | signal (number : Nat)
deriving DecidableEq, Repr, Inhabited

/-- How an order to stop is noted. -/
def StopOrder.notice : StopOrder → Notice
  | .request => .stopRequested
  | .signal number => .signalReceived number

/-- The order is heard at once; a signal is heard when the worker rests. -/
def StopOrder.isPressing : StopOrder → Bool
  | .request => true
  | .signal _ => false

/-- What the worker meets in one round of its loop. -/
structure Round where
  /-- What goes wrong before the jobs are looked at. -/
  failure : Option Failure := none
  /-- The time that passes before the next round. -/
  pause : Except TimeError Span := .ok ⟨0⟩
  /-- The order to stop, if it comes in this round. -/
  order : Option StopOrder := none
  /-- The round never ends, so that the worker has to be given up. -/
  hangs : Bool := false
deriving Inhabited

/-- What a worker did in its loop: the runs of each round, nothing for a round that failed, and
whether it had to be given up. -/
structure LoopReport where
  rounds : List (Option (List JobRun)) := []
  givenUp : Bool := false
deriving Repr, Inhabited

/-- A worker: its schedules, when it started, how many runs it has had, and what it did in its
loop. -/
structure Worker extends Scheduler where
  startedAt : Option Instant := none
  succeeded : Nat := 0
  failed : Nat := 0
  report : LoopReport := {}
deriving Inhabited

/-- A worker that has not begun. -/
def Worker.idle (world : World) : Worker := { world }

/-- What a worker can do. -/
abbrev Shift := EStateM Failure Worker

namespace Shift

/-- Work on the schedules. -/
def apply {α : Type} (work : Rounds α) : Shift α := fun worker =>
  match work worker.toScheduler with
  | .ok result scheduler => .ok result { worker with toScheduler := scheduler }
  | .error failure scheduler => .error failure { worker with toScheduler := scheduler }

instance : MonadLift Rounds Shift := ⟨apply⟩

/-- Does some work and hands over what came of it. -/
def attempt {α : Type} (work : Shift α) : Shift (Except Failure α) := fun worker =>
  match work worker with
  | .ok result worker => .ok (.ok result) worker
  | .error failure worker => .ok (.error failure) worker

/-- Counts a run. -/
def count (run : JobRun) : Shift Unit :=
  modify fun worker =>
    if run.status = .failed then { worker with failed := worker.failed + 1 }
    else { worker with succeeded := worker.succeeded + 1 }

/-- Opens the pool of connections for some work, and closes it whatever comes of the work. -/
def withPool {α : Type} (farewell : Shift Unit) (work : Shift α) : Shift α := do
  Act.openPool
  try work
  finally
    Act.closePool
    farewell

/-- How long the worker has been at work. -/
def uptime : Shift Span := do
  match (← get).startedAt with
  | none => return ⟨0⟩
  | some started => return (← Act.readClock).since started

/-! ### Some jobs once -/

/-- Runs jobs in the given order, and counts each run. -/
def runAll : List Schedule → Shift (List JobRun)
  | [] => return []
  | schedule :: rest => do
    let run ← Rounds.runJob schedule (← Act.readClock)
    count run
    return run :: (← runAll rest)

/-- Runs the jobs of some names once, in the given order, switched on or not. If a name belongs to no
job, none of them runs. -/
def runOnce (settings : Settings) (names : List String) : Shift (List JobRun) :=
  withPool (return ()) do
    Rounds.addAll settings
    runAll (← names.mapM fun name => (Rounds.named name : Shift Schedule))

/-! ### The loop -/

/-- Looks for jobs that are due and runs them. -/
def look (round : Round) : Shift (List JobRun) := do
  match round.failure with
  | some failure => throw failure
  | none => Rounds.tick (← Act.readClock)

/-- Remembers what came of a round. -/
def keep (outcome : Except Failure (List JobRun)) : Shift Unit :=
  modify fun worker =>
    { worker with report.rounds := worker.report.rounds ++ [outcome.toOption] }

/-- Hears the order to stop, if one comes in this round that is as pressing as asked for. -/
def hear (round : Round) (pressing : Bool) : Shift Unit := do
  match round.order with
  | some order =>
    if order.isPressing = pressing then
      Act.note order.notice
      Act.cancel
  | none => pure ()

/-- Counts the runs of a round, or notes why there are none. -/
def settle : Except Failure (List JobRun) → Shift Unit
  | .ok runs => runs.forM count
  | .error failure => do
    if failure.isInterrupt then throw failure
    Act.note (.loopError failure.message)

/-- The loop of a worker: it goes on after a round that fails, and ends with the signal to stop. Runs
are counted when their round is over. -/
def loop : List Round → Shift Unit
  | [] => return
  | round :: later => do
    if ← Act.isCancelled then return
    let outcome ← attempt (look round)
    keep outcome
    Act.wait round.pause
    hear round true
    if round.hangs then
      hear round false
      modify fun worker => { worker with report.givenUp := true }
    else
      settle outcome
      hear round false
      loop later

/-- Notes what the worker did. -/
def noteStopped : Shift Unit := do
  let worker ← get
  Act.note (.workerStopped worker.succeeded worker.failed (← uptime).uptime)

/-- Notes that the worker starts, and when. -/
def noteStarting (settings : Settings) : Shift Unit := do
  let now ← Act.readClock
  modify fun worker => { worker with startedAt := some now }
  Act.note (.workerStarting settings.worker.jobNames)

/-- Runs the jobs that are due, again and again, until the signal to stop. -/
def start (settings : Settings) (rounds : List Round) : Shift Unit := do
  noteStarting settings
  withPool noteStopped do
    Rounds.addAll settings
    loop rounds

end Shift

end Roster
