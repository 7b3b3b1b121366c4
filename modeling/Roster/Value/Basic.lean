/-
**Data values.**

A data value is what a job reports about its run and what a settings field is read from: nothing, a
truth value, a number, a text, a list, or a table of named fields in their order.

* `Value.same` — whether two values are the same.
* `Value.line` — the value as one line of a log.
* `Value.isTrue` — a value counts as true unless it is nothing, false, zero or empty.
* `Value.field?`, `Value.put` — look-up and replacement of a field.
-/

import Roster.Number.Shortest
import Roster.Text.Quoted

namespace Roster

/-- A data value. -/
inductive Value where
  | null
  | bool (value : Bool)
  | int (value : Int)
  | real (value : Binary64)
  | text (value : String)
  | list (items : List Value)
  | table (fields : List (String × Value))
deriving Repr, Inhabited

namespace Value

mutual

/-- Two values are the same: of one kind, with the same content. -/
def same : Value → Value → Bool
  | .null, .null => true
  | .bool a, .bool b => a == b
  | .int a, .int b => a == b
  | .real a, .real b => a == b
  | .text a, .text b => a == b
  | .list a, .list b => sameItems a b
  | .table a, .table b => sameFields a b
  | _, _ => false

/-- Two lists have the same items, in the same order. -/
def sameItems : List Value → List Value → Bool
  | [], [] => true
  | a :: restA, b :: restB => same a b && sameItems restA restB
  | _, _ => false

/-- Two tables have the same fields, in the same order. -/
def sameFields : List (String × Value) → List (String × Value) → Bool
  | [], [] => true
  | (nameA, a) :: restA, (nameB, b) :: restB => nameA == nameB && same a b && sameFields restA restB
  | _, _ => false

end

instance : BEq Value := ⟨same⟩

mutual

/-- A value is the same as itself. -/
theorem same_self : ∀ value : Value, same value value = true
  | .null => rfl
  | .bool value => beq_self_eq_true value
  | .int value => beq_self_eq_true value
  | .real value => beq_self_eq_true value
  | .text value => beq_self_eq_true value
  | .list items => sameItems_self items
  | .table fields => sameFields_self fields

theorem sameItems_self : ∀ items : List Value, sameItems items items = true
  | [] => rfl
  | item :: rest => by rw [sameItems, same_self item, sameItems_self rest]; rfl

theorem sameFields_self : ∀ fields : List (String × Value), sameFields fields fields = true
  | [] => rfl
  | (name, value) :: rest => by
    rw [sameFields, same_self value, sameFields_self rest, beq_self_eq_true]; rfl

end

mutual

theorem eq_of_same : ∀ {a b : Value}, same a b = true → a = b
  | .null, .null, _ => rfl
  | .bool _, .bool _, equal => congrArg bool (eq_of_beq equal)
  | .int _, .int _, equal => congrArg int (eq_of_beq equal)
  | .real _, .real _, equal => congrArg real (eq_of_beq equal)
  | .text _, .text _, equal => congrArg text (eq_of_beq equal)
  | .list _, .list _, equal => congrArg list (eq_of_sameItems equal)
  | .table _, .table _, equal => congrArg table (eq_of_sameFields equal)

theorem eq_of_sameItems : ∀ {a b : List Value}, sameItems a b = true → a = b
  | [], [], _ => rfl
  | _ :: _, _ :: _, equal => by
    rw [sameItems, Bool.and_eq_true] at equal
    rw [eq_of_same equal.1, eq_of_sameItems equal.2]

theorem eq_of_sameFields : ∀ {a b : List (String × Value)}, sameFields a b = true → a = b
  | [], [], _ => rfl
  | _ :: _, _ :: _, equal => by
    rw [sameFields, Bool.and_eq_true, Bool.and_eq_true] at equal
    rw [Prod.ext (eq_of_beq equal.1.1) (eq_of_same equal.1.2), eq_of_sameFields equal.2]

end

instance : LawfulBEq Value where
  eq_of_beq := eq_of_same
  rfl := same_self _

/-- A truth value as a log line shows it. -/
def boolText (value : Bool) : String :=
  if value then "True" else "False"

mutual

/-- The value as one line of a log: texts are quoted, lists and tables are bracketed. -/
def line : Value → String
  | .null => "None"
  | .bool value => boolText value
  | .int value => toString value
  | .real value => value.text
  | .text value => Text.Quoted.encode value
  | .list items => "[" ++ itemsLine items ++ "]"
  | .table fields => "\x7b" ++ fieldsLine fields ++ "\x7d"

/-- The items of a list, with commas between them. -/
def itemsLine : List Value → String
  | [] => ""
  | [item] => line item
  | item :: rest => line item ++ ", " ++ itemsLine rest

/-- The fields of a table, with commas between them. -/
def fieldsLine : List (String × Value) → String
  | [] => ""
  | [(name, value)] => Text.Quoted.encode name ++ ": " ++ line value
  | (name, value) :: rest =>
    Text.Quoted.encode name ++ ": " ++ line value ++ ", " ++ fieldsLine rest

end

/-- The value on its own in a log line: a text is not quoted then. -/
def plainLine : Value → String
  | .text value => value
  | value => value.line

/-- The name of the kind of a value, as messages show it. -/
def kindName : Value → String
  | .null => "NoneType"
  | .bool _ => "bool"
  | .int _ => "int"
  | .real _ => "float"
  | .text _ => "str"
  | .list _ => "list"
  | .table _ => "dict"

/-- A value counts as true unless it is nothing, false, zero or empty. -/
def isTrue : Value → Bool
  | .null => false
  | .bool value => value
  | .int value => value != 0
  | .real (.finite _ significand _) => significand != 0
  | .real _ => true
  | .text value => !value.isEmpty
  | .list items => !items.isEmpty
  | .table fields => !fields.isEmpty

/-- The value of a field by its name. -/
def lookup (name : String) (fields : List (String × Value)) : Option Value :=
  (fields.find? (·.1 == name)).map (·.2)

/-- The field of a table, if the value is a table that has it. -/
def field? (name : String) : Value → Option Value
  | .table fields => lookup name fields
  | _ => none

/-- Replaces a field in its place, or adds it at the end. -/
def put (name : String) (value : Value) : List (String × Value) → List (String × Value)
  | [] => [(name, value)]
  | (other, old) :: rest =>
    if other == name then (name, value) :: rest else (other, old) :: put name value rest

/-- A list of texts as a value. -/
def texts (items : List String) : Value := .list (items.map .text)

end Value

end Roster
