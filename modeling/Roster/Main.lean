/-
**The command line.**

The program keeps its store in memory and only notes what it would ask of the groupware. Notices go to
the error output, from the level on that the settings ask for.
-/

import Roster.CommandLine.Program
import Std.Time.DateTime.Timestamp

namespace Roster.Terminal

/-- The microseconds from the year 1 to the year 1970. -/
def epoch : Int := 719162 * Span.day

/-- The time on the clock of the machine. -/
def now : IO Instant := do
  let elapsed ← Std.Time.Timestamp.now
  match Instant.ofMicros (epoch + elapsed.toMillisecondsSinceUnixEpoch.val * 1000) with
  | .ok instant => return instant
  | .error error => throw (.userError error.message)

/-- The names of the variables that the settings are read from. -/
def variableNames : List String :=
  let parts := Settings.sections.flatMap fun part =>
    part.name :: part.fields.map fun field => part.name ++ Settings.Environment.separator ++ field
  (Settings.simpleFields ++ parts).map fun name =>
    (Settings.Environment.lead ++ name).map Char.toUpper

/-- The environment of the process. -/
def environment : IO Settings.Environment := do
  let found ← variableNames.filterMapM fun name => do
    return (← IO.getEnv name).map fun value => (name, value)
  return .ofVariables found

/-- Works for a moment, and shows what was noted meanwhile. -/
def during {α : Type} (lowest : Level) (work : Shift α) (worker : Worker) :
    IO (Except Failure α × Worker) := do
  let clock ← now
  let start := { worker with
    world.surroundings := { worker.world.surroundings with clock, journal := [] } }
  let (result, after) : Except Failure α × Worker := match work start with
    | .ok result after => (.ok result, after)
    | .error failure after => (.error failure, after)
  for notice in after.world.surroundings.journal do
    if lowest.atLeast notice.level then
      IO.eprintln (clock.text ++ " " ++ notice.level.name ++ " " ++ notice.text)
  return (result, after)

/-- A worker whose store is empty. -/
def newcomer : IO Worker := do
  return .idle { surroundings := { clock := ← now }, store := {} }

/-- The milliseconds between two rounds. -/
def pauseMillis (settings : Settings) : UInt32 :=
  .ofNat (settings.worker.pollSeconds.times 1000).truncate.toNat

/-- The rounds of a worker, one after another. -/
partial def keepWorking (settings : Settings) (worker : Worker) : IO UInt32 := do
  match ← during settings.logLevel (Shift.loop [{}]) worker with
  | (.ok _, worker) =>
    IO.sleep (pauseMillis settings)
    keepWorking settings { worker with report := {} }
  | (.error _, worker) =>
    let _ ← during settings.logLevel Shift.noteStopped worker
    return 1

/-- Lets a worker run the jobs that are due until the process is stopped. -/
def work (settings : Settings) : IO UInt32 := do
  let opening : Shift Unit := do
    Program.noteStarting settings
    Shift.noteStarting settings
    Act.openPool
    Rounds.addAll settings
  match ← during settings.logLevel opening (← newcomer) with
  | (.ok _, worker) => keepWorking settings worker
  | (.error failure, worker) =>
    let _ ← during settings.logLevel (Act.note (.programFailed failure.message)) worker
    return 1

/-- Runs the program to its end. -/
def finish (arguments : List String) (environment : Settings.Environment) : IO UInt32 := do
  let lowest := match Settings.accept environment with
    | (_, .ok settings) => settings.logLevel
    | _ => .warning
  match ← during lowest (Program.run arguments environment []) (← newcomer) with
  | (.ok outcome, _) =>
    IO.print outcome.output
    IO.eprint outcome.complaint
    return .ofNat outcome.exit
  | (.error failure, _) =>
    IO.eprintln (failure.name ++ ": " ++ failure.message)
    return 1

/-- The program with its arguments. -/
def run (arguments : List String) : IO UInt32 := do
  let environment ← environment
  match Arguments.read arguments, Settings.accept environment with
  | .ok .work, (_, .ok settings) => work settings
  | _, _ => finish arguments environment

end Roster.Terminal

/-- The entry of the program. -/
def main (arguments : List String) : IO UInt32 := Roster.Terminal.run arguments
