/-
**The parts of a database address.**

An address names a driver, and perhaps a user with a password, a host, a port, a database and options.
User, password, database and options are written with percent signs. What stands behind a bracketed host
and is no port is passed over, with all that follows.

* `Target.read` — takes an address apart.
* `Target.supported` — asks for a driver that can be used.
* `Target.forEngine` — what an engine is built for.
* `Target.text` — puts it together again; options come in the order of their names.
-/

import Roster.Connection.Driver
import Roster.Number.Numeral
import Roster.Text.Clip
import Roster.Text.Percent
import Roster.Text.WordCharacter

namespace Roster.Connection

/-- The parts of a database address. -/
structure Target where
  driver : String
  user : Option String := none
  password : Option String := none
  host : Option String := none
  port : Option Int := none
  database : Option String := none
  options : List (String × String) := []
deriving DecidableEq, Repr, Inhabited

/-- Why a text is no address. -/
inductive TargetError where
  | unreadable
  /-- The port is no number. -/
  | port (text : String)
  /-- The port has too many digits. -/
  | longPort (digits : Nat)
  /-- The driver has more than two names. -/
  | longDriver
  /-- There is no such driver. -/
  | unknownDriver (driver : String)
  /-- The driver needs a package that is not there. -/
  | missingPackage (package : String)
  /-- The driver cannot wait without blocking. -/
  | blockingDriver (driver : String)
deriving DecidableEq, Repr, Inhabited

/-- The most characters of a port that are shown in a message. -/
def mostShown : Nat := 200

/-- The wording of an address error. -/
def TargetError.message : TargetError → String
  | .unreadable => "Could not parse SQLAlchemy URL from given URL string"
  | .port text =>
    "invalid literal for int() with base 10: " ++ Text.clip mostShown (Text.Quoted.encode text)
  | .longPort digits =>
    "Exceeds the limit (" ++ toString Numeral.mostDigits
      ++ " digits) for integer string conversion: value has " ++ toString digits
      ++ " digits; use sys.set_int_max_str_digits() to increase the limit"
  | .longDriver => "too many values to unpack (expected 2)"
  | .unknownDriver driver => "Can't load plugin: sqlalchemy.dialects:" ++ driver
  | .missingPackage package => "No module named " ++ Text.Quoted.encode package
  | .blockingDriver driver =>
    "The asyncio extension requires an async driver to be used. The loaded "
      ++ Text.Quoted.encode driver ++ " is not async."

/-- The name of the kind of an address error. -/
def TargetError.name : TargetError → String
  | .unreadable => "ArgumentError"
  | .port _ | .longPort _ | .longDriver => "ValueError"
  | .unknownDriver _ => "NoSuchModuleError"
  | .missingPackage _ => "ModuleNotFoundError"
  | .blockingDriver _ => "InvalidRequestError"

namespace Target

/-- What stands before the first character of a kind, and what stands behind it. -/
def cut? (mark : Char) (input : List Char) : Option (List Char × List Char) :=
  match input.dropWhile (· ≠ mark) with
  | [] => none
  | _ :: rest => some (input.takeWhile (· ≠ mark), rest)

/-- The driver before the first `://`: a word in which plus signs may stand. -/
def driver? (input : List Char) : Option (String × List Char) :=
  let name := input.takeWhile fun c => Text.isWordCharacter c || c = '+'
  match input.drop name.length with
  | ':' :: '/' :: '/' :: rest => if name.isEmpty then none else some (String.ofList name, rest)
  | _ => none

/-- A user behind whom an at sign follows at once. -/
def bareUser? (name behind : List Char) : Option (String × Option String × List Char) :=
  (cut? '@' name.reverse).map fun (after, before) =>
    (String.ofList before.reverse, none, after.reverse ++ behind)

/-- User and password before an at sign. -/
def user? (input : List Char) : Option (String × Option String × List Char) :=
  let name := input.takeWhile fun c => c ≠ ':' ∧ c ≠ '/'
  let behind := input.drop name.length
  match behind with
  | ':' :: rest =>
    match cut? '@' rest with
    | some (password, rest) => some (String.ofList name, some (String.ofList password), rest)
    | none => bareUser? name behind
  | _ => bareUser? name behind

/-- One option, if it has a value. -/
def option? (part : String) : Option (String × String) :=
  match cut? '=' part.toList with
  | some (name, value) =>
    if value.isEmpty then none
    else some (Text.Percent.decodeForm (String.ofList name),
      Text.Percent.decodeForm (String.ofList value))
  | none => none

/-- The number of a port. -/
def portNumber (text : String) : Except TargetError Int :=
  match Numeral.read? 10 text with
  | some number =>
    if Numeral.mostDigits < Numeral.digitCount text then .error (.longPort (Numeral.digitCount text))
    else .ok number
  | none => .error (.port text)

/-- A character ends the host with its port. -/
def endsHost (c : Char) : Bool := c = '/' || c = '?'

/-- A host between brackets, with what follows: the last bracket before the host's end closes it, and
there is something in between. -/
def bracketed? : List Char → Option (List Char × List Char)
  | '[' :: inner =>
    let here := inner.takeWhile (!endsHost ·)
    match cut? ']' here.reverse with
    | some (after, before) =>
      if before.isEmpty then none
      else some (before.reverse, after.reverse ++ inner.drop here.length)
    | none => none
  | _ => none

/-- The host with what follows. -/
def takeHost (input : List Char) : List Char × List Char :=
  (bracketed? input).getD
    (input.takeWhile isBare, input.dropWhile isBare)
where
  /-- The character belongs to a host without brackets. -/
  isBare (c : Char) : Bool := !endsHost c && c ≠ ':'

/-- The port as it is written, if one is, with what follows. -/
def takePort : List Char → Option (List Char) × List Char
  | ':' :: rest =>
    let digits := rest.takeWhile (!endsHost ·)
    (some digits, rest.drop digits.length)
  | rest => (none, rest)

/-- The database, if one is named, with what follows. -/
def takeDatabase : List Char → Option (List Char) × List Char
  | '/' :: rest =>
    let name := rest.takeWhile (· ≠ '?')
    (some name, rest.drop name.length)
  | rest => (none, rest)

/-- The options on the line behind a question mark. -/
def readOptions : List Char → List (String × String)
  | '?' :: rest => ((String.ofList (rest.takeWhile (· ≠ '\n'))).splitOn "&").filterMap option?
  | _ => []

/-- Takes an address apart. -/
def read (address : String) : Except TargetError Target := do
  let some (driver, rest) := driver? address.toList | throw .unreadable
  let (user, password, rest) := match user? rest with
    | some (user, password, rest) => (some user, password, rest)
    | none => (none, none, rest)
  let (host, rest) := takeHost rest
  let (digits, rest) := takePort rest
  let (database, rest) := takeDatabase rest
  return {
    driver
    user := user.map Text.Percent.decode
    password := password.map Text.Percent.decode
    host := if host.isEmpty then none else some (String.ofList host)
    port := ← digits.mapM fun digits => portNumber (String.ofList digits)
    database := database.map (Text.Percent.decode <| String.ofList ·)
    options := readOptions rest }

/-- An address whose driver can be used: the name of the kind of database comes first, and after a plus sign
there may be one further name. -/
def supported (target : Target) : Except TargetError Target :=
  let names := target.driver.splitOn "+"
  if 2 < names.length then .error .longDriver
  else match Driver.find? target.driver with
    | some .usable => .ok target
    | some (.lacking package) => .error (.missingPackage package)
    | some (.blocking name) => .error (.blockingDriver name)
    | none => .error (.unknownDriver (".".intercalate names))

/-- The parts of the address that an engine is built for: the plain schemes are replaced first. -/
def forEngine (address : String) : Except TargetError Target :=
  read (forDriver address) >>= supported

/-- Puts an address together. -/
def text (target : Target) : String :=
  let isSafe := fun c : Char => c = ' ' || c = '+'
  let user := match target.user with
    | some user => Text.Percent.encode isSafe user
        ++ (match target.password with
          | some password => ":" ++ Text.Percent.encode isSafe password
          | none => "") ++ "@"
    | none => ""
  let host := match target.host with
    | some host => if host.toList.contains ':' then "[" ++ host ++ "]" else host
    | none => ""
  let port := match target.port with
    | some port => ":" ++ toString port
    | none => ""
  let database := match target.database with
    | some database => "/" ++ Text.Percent.encode (fun c => isSafe c || c = '/') database
    | none => ""
  let options := (target.options.mergeSort fun a b => decide (a.1 ≤ b.1)).map fun option =>
    Text.Percent.encodeForm option.1 ++ "=" ++ Text.Percent.encodeForm option.2
  target.driver ++ "://" ++ user ++ host ++ port ++ database
    ++ (if options.isEmpty then "" else "?" ++ "&".intercalate options)

end Target

end Roster.Connection
