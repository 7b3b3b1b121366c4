/-
**Reading the fields of a table.**

A request comes as a table of named fields. Each field is read as a value of some type; what cannot be
read is a `FieldError`. A field that is absent and one that holds nothing count as missing.

* `FieldError` — why a field cannot be read.
* `Fields.need`, `Fields.maybe`, `Fields.withDefault` — a field that must, may or need not be there.
* `Fields.uuid`, `Fields.instant`, `Fields.word`, … — values of the types in use.
-/

import Roster.Store.Record
import Roster.Text.Clip
import Roster.Text.Hexadecimal
import Roster.Time.Reader
import Roster.Value.Basic

namespace Roster

/-- The closed sets of words. -/
inductive WordSet where
  | teamKind
  | teamRole
  | eventKind
  | source
  | action
  | runStatus
deriving DecidableEq, Repr, Inhabited

/-- Why a field cannot be read. -/
inductive FieldError where
  /-- The field is missing or of another shape. -/
  | malformed
  /-- A column that may not be empty is empty. -/
  | emptyColumn
  /-- The text is no identifier. -/
  | identifier (error : Uuid.ReadError)
  /-- The text is no sequence of bytes. -/
  | bytes (error : Text.Hexadecimal.ReadError)
  /-- The text is no time. -/
  | time (error : Instant.ReadError)
  /-- The time is out of range. -/
  | timeRange (error : TimeError)
  /-- The word does not belong to the set. -/
  | word (set : WordSet) (value : Value)
deriving Repr, Inhabited

namespace Fields

/-- Reads a value as one of some type, or says why it is none. -/
abbrev Reader := ReaderT Value (Except FieldError)

/-- A text. -/
def text : Reader String
  | .text value => return value
  | _ => throw .malformed

/-- A whole number; a truth value counts as 0 or 1. -/
def int : Reader Int
  | .int value => return value
  | .bool value => return if value then 1 else 0
  | _ => throw .malformed

/-- A length of time in units of some microseconds each, which may be out of range. -/
def span (unit : Nat) : Reader (Except TimeError Span)
  | .real value => return Span.ofUnits unit value
  | value => return Span.ofMicros ((← int value) * unit)

/-- A natural number; a negative one counts as 0. -/
def nat : Reader Nat := fun value => return (← int value).toNat

/-- More rows than a store holds. -/
def unlimited : Nat := Nat.pow 2 63 - 1

/-- How many rows are read at most; a negative number is no limit. -/
def limit : Reader Nat := fun value => do
  let number ← int value
  return if number < 0 then unlimited else number.toNat

/-- A truth value: whether the value counts as true. -/
def bool : Reader Bool := fun value => return value.isTrue

/-- Any value. -/
def any : Reader Value := fun value => return value

/-- The items of a list. -/
def listOf {α : Type} (item : Reader α) : Reader (List α)
  | .list items => items.mapM item
  | _ => throw .malformed

/-- The fields of a table. -/
def table : Reader (List (String × Value))
  | .table fields => return fields
  | _ => throw .malformed

/-- An identifier. -/
def uuid : Reader Uuid
  | .text value => match Uuid.read value with
    | .ok id => return id
    | .error error => throw (.identifier error)
  | _ => throw .malformed

/-- Bytes in hexadecimal digits. -/
def bytes : Reader (List UInt8)
  | .text value => match Text.Hexadecimal.read value with
    | .ok bytes => return bytes
    | .error error => throw (.bytes error)
  | _ => throw .malformed

/-- A time. -/
def instant : Reader Instant
  | .text value => match Instant.read value with
    | .ok instant => return instant
    | .error error => throw (.time error)
  | _ => throw .malformed

/-- A time that a clock without an offset can show. -/
def universalInstant : Reader Instant := fun value => do
  match (← instant value).inUniversalTime with
  | .ok instant => return instant
  | .error error => throw (.timeRange error)

/-- A word of a closed set. -/
def word {α : Type} (set : WordSet) (all : List α) (label : α → String) : Reader α := fun value =>
  match value with
  | .text text => match ofLabel? all label text with
    | some found => return found
    | none => throw (.word set value)
  | _ => throw (.word set value)

/-- A kind of team. -/
def teamKind : Reader TeamKind := word .teamKind TeamKind.all TeamKind.label

/-- A role in a team. -/
def teamRole : Reader TeamRole := word .teamRole TeamRole.all TeamRole.label

/-- A kind of event that can be stored. -/
def eventKind : Reader EventKind := word .eventKind EventKind.all EventKind.label

/-- A source of a change. -/
def source : Reader SyncSource := word .source SyncSource.all SyncSource.label

/-- An action of the audit log. -/
def action : Reader AuditAction := word .action AuditAction.all AuditAction.label

/-- A field that must be there. -/
def need {α : Type} (reader : Reader α) (name : String) : Reader α := fun input =>
  match input.field? name with
  | some value => reader value
  | none => throw .malformed

/-- A field that may be missing. -/
def maybe {α : Type} (reader : Reader α) (name : String) : Reader (Option α) := fun input =>
  match input.field? name with
  | none | some .null => return none
  | some value => some <$> reader value

/-- A field with a value that holds if it is missing. -/
def withDefault {α : Type} (reader : Reader α) (name : String) (usual : α) : Reader α :=
  fun input => return (← maybe reader name input).getD usual

/-- A text, or a table with a text and how often it is repeated. -/
def longText : Reader String
  | .text value => return value
  | input => do
    return Text.repeated (← need text "text" input) (← withDefault nat "repeat" 1 input)

end Fields

end Roster
