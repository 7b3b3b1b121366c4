/-
**Settings from the environment.**

A setting is looked for under its name behind the names of its section, without regard to case. A whole
section may also be given at once as a data value, and settings below it replace its fields. A list is
written as a data value.

The program would also read a file beside it, called `.env`, for settings that no variable gives. That source
is left out: an environment here is one of a program without such a file, so its variables are all there is.

* `Environment.ofVariables` — the variables under their names in lower case.
* `Environment.ownFields` — the fields of a section as the section itself finds them.
* `Environment.sectionValue` — a section as the whole finds it.
-/

import Roster.Value.Reader

namespace Roster.Settings

/-- The variables with their names in lower case. No file adds settings to them. -/
abbrev Environment := List (String × String)

/-- A section of the settings: its name, its fields, and those among them that are lists. -/
structure Section where
  name : String
  fields : List String
  lists : List String := []
deriving Repr, Inhabited

namespace Environment

/-- What the names of all variables begin with. -/
def lead : String := "humans_"

/-- What stands between the name of a section and that of a field. -/
def separator : String := "__"

/-- A character in lower case; the sign for kelvin is a capital letter too. -/
def lower (c : Char) : Char := if c.toNat = 0x212A then 'k' else c.toLower

/-- A name in lower case. -/
def lowerText (name : String) : String := String.ofList (name.toList.map lower)

/-- Replaces the value of a variable in its place, or adds it at the end. -/
def set (name value : String) : Environment → Environment
  | [] => [(name, value)]
  | (other, old) :: rest =>
    if other = name then (name, value) :: rest else (other, old) :: set name value rest

/-- The variables under their names in lower case; of two with the same name the later counts. -/
def ofVariables (entries : List (String × String)) : Environment :=
  entries.foldl (fun environment entry => set (lowerText entry.1) entry.2 environment) []

/-- The value of a variable. -/
def value? (environment : Environment) (name : String) : Option String :=
  (environment.find? (·.1 = name)).map (·.2)

/-- What follows a beginning. -/
def after? (beginning name : String) : Option String :=
  if beginning.toList.isPrefixOf name.toList then
    some (String.ofList (name.toList.drop beginning.length))
  else none

/-- The value of a field of a section: `none` if it cannot be read, and nothing if there is none. -/
def ownField (environment : Environment) (part : Section) (field : String) :
    Option (Option Value) :=
  match environment.value? (lead ++ part.name ++ separator ++ field) with
  | none => some none
  | some text =>
    if part.lists.contains field then
      match Value.read? text with
      | none => none
      | some .null => some none
      | some value => some (some value)
    else some (some (.text text))

/-- The fields of a section as the section itself finds them, or the field that cannot be read. -/
def ownFields (environment : Environment) (part : Section) :
    Except String (List (String × Value)) :=
  part.fields.foldlM (fun found field =>
    match environment.ownField part field with
    | none => .error field
    | some none => .ok found
    | some (some value) => .ok (found ++ [(field, value)])) []

/-- Puts a value at the end of a way of names through tables. A way that leads through something else
than a table leads nowhere. -/
def putAt : (way : List String) → Value → List (String × Value) → List (String × Value)
  | [], _, fields => fields
  | [name], value, fields => Value.put name value fields
  | name :: way, value, fields =>
    match Value.lookup name fields with
    | none => Value.put name (.table (putAt way value [])) fields
    | some (.table inner) => Value.put name (.table (putAt way value inner)) fields
    | some _ => fields

/-- The names that a variable of a section leads through. -/
def way? (part : Section) (name : String) : Option (List String) :=
  (after? (lead ++ part.name ++ separator) name).map (·.splitOn separator)

/-- The value of a variable at the end of its way: lists are read, unless they are empty texts. -/
def wayValue (part : Section) (way : List String) (text : String) : Option Value :=
  match way with
  | [field] =>
    if part.lists.contains field && !text.isEmpty then Value.read? text else some (.text text)
  | _ => some (.text text)

/-- The fields of a section that are given one by one; `none` if one of them cannot be read. -/
def singleFields (environment : Environment) (part : Section) :
    Option (List (String × Value)) :=
  environment.foldlM (fun fields entry =>
    match way? part entry.1 with
    | none => some fields
    | some way => (wayValue part way entry.2).map fun value => putAt way value fields) []

mutual

/-- A value with another one laid over it: tables are laid over each other field by field. -/
def laidOver (below : Value) : (above : Value) → Value
  | .table above =>
    match below with
    | .table below => .table (laidOverFields below above)
    | _ => .table above
  | above => above

/-- Fields with others laid over them. -/
def laidOverFields (below : List (String × Value)) : (above : List (String × Value)) →
    List (String × Value)
  | [] => below
  | (name, value) :: rest =>
    laidOverFields (Value.put name (match Value.lookup name below with
      | some old => laidOver old value
      | none => value) below) rest

end

/-- The fields of a section under their declared names, found without regard to case. -/
def declaredNames (part : Section) (fields : List (String × Value)) : List (String × Value) :=
  fields.foldl (fun renamed field =>
    let name := (part.fields.find? (· = lowerText field.1)).getD field.1
    Value.put name field.2 renamed) []

/-- A section as the whole finds it: given at once, one by one, or both. It is an error if something
cannot be read, and nothing if there is none. -/
def sectionValue (environment : Environment) (part : Section) :
    Except String (Option Value) :=
  match environment.value? (lead ++ part.name) with
  | none =>
    match environment.singleFields part with
    | none => .error part.name
    | some [] => .ok none
    | some fields => .ok (some (.table (declaredNames part fields)))
  | some text =>
    match Value.read? text with
    | none => .error part.name
    | some (.table given) =>
      match environment.singleFields part with
      | none => .error part.name
      | some single => .ok (some (.table (declaredNames part (laidOverFields given single))))
    | some .null => .ok none
    | some other => .ok (some other)

end Environment

end Roster.Settings
