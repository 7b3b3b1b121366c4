/-
**The arguments of the command line.**

There are two options: one asks for help, the other names jobs that are to run once. An option may be
shortened as long as it stays clear which one is meant, and a value may be attached to it behind an
equals sign. An option that is not clear is refused before anything else, and what belongs to no option
once all arguments have been read.

* `Arguments.read` — the command that the arguments ask for, or what is wrong with them.
* `Arguments.help`, `UsageError.text` — what is shown for a request for help and for wrong arguments.
-/

import Roster.Text.DecimalDigit
import Roster.Text.Quoted

namespace Roster

/-- What the command line asks for. -/
inductive Command where
  | help
  | once (names : List String)
  | work
deriving DecidableEq, Repr, Inhabited

/-- What is wrong with the arguments. -/
inductive UsageError where
  /-- No job is named. -/
  | missingJob
  /-- A value is attached to the request for help. -/
  | needlessValue (value : String)
  /-- A shortened option may mean several ones. -/
  | ambiguous (argument : String) (options : List String)
  /-- Some arguments belong to no option. -/
  | unrecognized (arguments : List String)
deriving DecidableEq, Repr, Inhabited

namespace Arguments

/-- The name of the program. -/
def program : String := "python -m humans.worker"

/-- How the program is used, on one line. -/
def usage : String := "usage: " ++ program ++ " [-h] [--once JOB [JOB ...]]\n"

/-- What is shown for a request for help. -/
def help : String :=
  usage
    ++ "\nRun the Humans background jobs.\n"
    ++ "\noptions:\n"
    ++ "  -h, --help            show this help message and exit\n"
    ++ "  --once JOB [JOB ...]  Run the given jobs once and exit (process_outbox,\n"
    ++ "                        system_team_sync, compliance_check)\n"

/-- The exit code for wrong arguments. -/
def exitCode : Nat := 2

/-! ### Single arguments -/

/-- What an argument is. -/
inductive Token where
  /-- A value. -/
  | plain
  /-- The sign that all further arguments are values. -/
  | separator
  /-- The request for help, perhaps with a value that does not belong there. -/
  | help (needless : Option String)
  /-- The option for jobs that run once, perhaps with one of them. -/
  | once (job : Option String)
  | unknown
deriving DecidableEq, Repr, Inhabited

/-- The long options. -/
def longOptions : List String := ["--help", "--once"]

/-- The part of an argument before the first equals sign, and what follows the sign. -/
def split (argument : List Char) : List Char × Option String :=
  let stem := argument.takeWhile (· ≠ '=')
  (stem, match argument.drop stem.length with
    | _ :: value => some (String.ofList value)
    | [] => none)

/-- Without a line end behind it. -/
def withoutLineEnd (input : List Char) : List Char :=
  if input.getLast? = some '\n' then input.dropLast else input

/-- The argument is a negative number, which is a value; a line end may stand behind it. -/
def isNegativeNumber : List Char → Bool
  | '-' :: number =>
    let number := withoutLineEnd number
    let whole := number.takeWhile Text.isDecimal
    match number.drop whole.length with
    | [] => !whole.isEmpty
    | '.' :: places => !places.isEmpty && places.all Text.isDecimal
    | _ => false
  | _ => false

/-- An argument that looks like an option but is none. -/
def other (argument : List Char) : Token :=
  if isNegativeNumber argument || argument.contains ' ' then .plain else .unknown

/-- The value attached to the short option for help, unless it consists of further requests for help. -/
def needless? : List Char → Option String
  | ['h'] => none
  | 'h' :: rest => needless? rest
  | value => some (String.ofList value)

/-- The long options that a stem may mean. -/
def meant (stem : List Char) : List String :=
  longOptions.filter fun option => stem.isPrefixOf option.toList

/-- What an argument is, unless it may mean several options. -/
def token (argument : String) : Except UsageError Token :=
  match argument.toList with
  | ['-', '-'] => .ok .separator
  | '-' :: '-' :: name =>
    let (stem, value) := split ('-' :: '-' :: name)
    match meant stem with
    | [] => .ok (other argument.toList)
    | [option] => .ok (if option = "--help" then .help value else .once value)
    | several => .error (.ambiguous argument several)
  | ['-', 'h'] => .ok (.help none)
  | '-' :: 'h' :: '=' :: value => .ok (.help (needless? value))
  | '-' :: 'h' :: value => .ok (.help (needless? value))
  | '-' :: _ :: _ => .ok (other argument.toList)
  | _ => .ok .plain

/-- What the arguments are. Behind the sign for values there is nothing else. -/
def tokens : List String → Except UsageError (List (Token × String))
  | [] => .ok []
  | argument :: rest => do
    match ← token argument with
    | .separator => return (.separator, argument) :: rest.map (.plain, ·)
    | first => return (first, argument) :: (← tokens rest)

/-! ### All arguments -/

/-- What has been read: the jobs that are to run once, whether further values name such jobs, and what
belongs to no option. -/
structure Reading where
  jobs : List String := []
  isOpen : Bool := false
  extras : List String := []
deriving Repr, Inhabited

/-- Nothing further may name a job; at least one has to be named. -/
def Reading.close (reading : Reading) : Except UsageError Reading :=
  if reading.isOpen && reading.jobs.isEmpty then .error .missingJob
  else .ok { reading with isOpen := false }

/-- A further value. -/
def Reading.take (reading : Reading) (value : String) : Reading :=
  if reading.isOpen then { reading with jobs := reading.jobs ++ [value] }
  else { reading with extras := reading.extras ++ [value] }

/-- The command at the end of the arguments. Without jobs to run once there is nothing but work. -/
def Reading.command (reading : Reading) : Except UsageError Command := do
  let reading ← reading.close
  if !reading.extras.isEmpty then throw (.unrecognized reading.extras)
  return if reading.jobs.isEmpty then .work else .once reading.jobs

/-- The jobs in the value attached to their option; the sign for values is none. -/
def attachedJobs (value : String) : List String :=
  if value = "--" then [] else [value]

/-- Reads arguments one after another. -/
def readFrom (reading : Reading) : List (Token × String) → Except UsageError Command
  | [] => reading.command
  | (token, argument) :: rest =>
    match token with
    | .plain => readFrom (reading.take argument) rest
    | .separator | .unknown => do
      let reading ← reading.close
      readFrom { reading with extras := reading.extras ++ [argument] } rest
    | .help needless => do
      let _ ← reading.close
      match needless with
      | some value => throw (.needlessValue value)
      | none => return .help
    | .once job => do
      let reading ← reading.close
      match job with
      | some value => readFrom { reading with jobs := attachedJobs value } rest
      | none => readFrom { reading with jobs := [], isOpen := true } rest

/-- The command that the arguments ask for, or what is wrong with them. An option that is not clear is
refused before anything else. -/
def read (arguments : List String) : Except UsageError Command := do
  readFrom {} (← tokens arguments)

end Arguments

namespace UsageError

/-- The wording of a usage error. -/
def message : UsageError → String
  | .missingJob => "argument --once: expected at least one argument"
  | .needlessValue value =>
    "argument -h/--help: ignored explicit argument " ++ Text.Quoted.encode value
  | .ambiguous argument options =>
    "ambiguous option: " ++ argument ++ " could match " ++ ", ".intercalate options
  | .unrecognized arguments => "unrecognized arguments: " ++ " ".intercalate arguments

/-- What is shown for a usage error. -/
def text (error : UsageError) : String :=
  Arguments.usage ++ Arguments.program ++ ": error: " ++ error.message ++ "\n"

end UsageError

end Roster
