/-
**The program.**

The program reads its arguments, loads the settings and lets a worker run the jobs: some of them once,
or all that are due until the signal to stop. Its exit code tells whether all went well.

* `Program.run` — the program from its arguments to its exit.
-/

import Roster.CommandLine.Arguments
import Roster.Settings.Cache
import Roster.Worker

namespace Roster

/-- How the program ended, what it wrote, and down to which level it kept a journal. -/
structure Outcome where
  exit : Nat
  output : String := ""
  complaint : String := ""
  journalLevel : Option Level := none
deriving Inhabited

namespace Program

/-- The exit code of a program in which something failed. -/
def failureCode : Nat := 1

/-- The exit code after jobs have run once: one that failed makes the program fail. -/
def codeOf (runs : List JobRun) : Nat :=
  if runs.any fun run => run.status == .failed then failureCode else 0

/-- Lets a worker do what the command asks for. -/
def employ (settings : Settings) (command : Command) (rounds : List Round) :
    Shift Nat := do
  match command with
  | .once names => return codeOf (← Shift.runOnce settings names)
  | _ =>
    Shift.start settings rounds
    if (← get).report.givenUp then Act.note .stopTimedOut
    return 0

/-- Notes that the program starts, and with which settings. -/
def noteStarting (settings : Settings) : Shift Unit := do
  Act.note (.programStarting settings.appName settings.appVersion)
  Act.note (.programConfiguration settings.summary)

/-- What the program does once it has its settings. A failure of the worker makes the program fail; a
request to stop at once is an end like another. -/
def operate (settings : Settings) (command : Command) (rounds : List Round) : Shift Outcome := do
  noteStarting settings
  let journalLevel := some settings.logLevel
  match ← Shift.attempt (employ settings command rounds) with
  | .ok exit =>
    Act.note (.programComplete settings.appName)
    return { exit, journalLevel }
  | .error failure =>
    if failure.isInterrupt then
      Act.note .programInterrupted
      Act.note (.programComplete settings.appName)
      return { exit := 0, journalLevel }
    Act.note (.programFailed failure.message)
    return { exit := failureCode, journalLevel }

/-- The program: arguments that make no sense and settings that cannot be used end it at once. -/
def run (arguments : List String) (environment : Settings.Environment) (rounds : List Round) :
    Shift Outcome := do
  match Arguments.read arguments with
  | .error error => return { exit := Arguments.exitCode, complaint := error.text }
  | .ok .help => return { exit := 0, output := Arguments.help }
  | .ok command =>
    let (notices, settings) := Settings.accept environment
    notices.forM fun notice => Act.note notice
    match settings with
    | .ok settings => operate settings command rounds
    | .error .exit => return { exit := Settings.exitCode }
    | .error (.unreadable field) => throw (.unreadableSetting field)

end Program

end Roster
