/-
**Problems with settings.**

A value that cannot be used as a setting is a problem: where it was found, of which kind it is, and
what is wrong with it. Several fields are checked side by side, and all their problems are kept, in
the order of the fields.

* `Problem` — what is wrong with a value, and where.
* `Checked` — a value, or all the problems that keep it from being one.
-/

namespace Roster.Settings

/-- A step on the way to a value: a field, or an item of a list. -/
inductive Place where
  | field (name : String)
  | item (index : Nat)
deriving DecidableEq, Repr, Inhabited

/-- A step as text. -/
def Place.text : Place → String
  | .field name => name
  | .item index => toString index

/-- What is wrong with a value, and where. -/
structure Problem where
  location : List Place
  kind : String
  message : String
deriving DecidableEq, Repr, Inhabited

/-- A problem with a value, before it is said where. -/
def Problem.of (kind message : String) : Problem := ⟨[], kind, message⟩

/-- A rule of the program that a value breaks. -/
def Problem.ofRule (message : String) : Problem := .of "value_error" ("Value error, " ++ message)

/-- The problem with its place inside a greater value. -/
def Problem.under (place : Place) (problem : Problem) : Problem :=
  { problem with location := place :: problem.location }

/-- A problem on one line: its location, with points between the steps, and the message. -/
def Problem.line (problem : Problem) : String :=
  "  - " ++ ".".intercalate (problem.location.map Place.text) ++ ": " ++ problem.message

/-- A value, or all the problems that keep it from being one. -/
inductive Checked (α : Type) where
  | valid (value : α)
  | invalid (problems : List Problem)
deriving Repr, Inhabited

namespace Checked

/-- One problem. -/
def problem {α : Type} (problem : Problem) : Checked α := .invalid [problem]

/-- Changes the value. -/
def map {α β : Type} (change : α → β) : Checked α → Checked β
  | .valid value => .valid (change value)
  | .invalid problems => .invalid problems

/-- Two checks side by side: all the problems of both are kept. -/
def both {α β : Type} : Checked (α → β) → Checked α → Checked β
  | .valid change, .valid value => .valid (change value)
  | .valid _, .invalid problems => .invalid problems
  | .invalid problems, .valid _ => .invalid problems
  | .invalid first, .invalid second => .invalid (first ++ second)

instance : Functor Checked := ⟨map, fun value checked => map (fun _ => value) checked⟩

instance : Seq Checked := ⟨fun change value => both change (value ())⟩

/-- A further check of a value. -/
def andThen {α β : Type} (next : α → Checked β) : Checked α → Checked β
  | .valid value => next value
  | .invalid problems => .invalid problems

/-- The problems with their place inside a greater value. -/
def under {α : Type} (place : Place) : Checked α → Checked α
  | .valid value => .valid value
  | .invalid problems => .invalid (problems.map (Problem.under place))

/-- The items of a list, each checked at its place. -/
def items {α β : Type} (check : α → Checked β) : (index : Nat) → List α → Checked (List β)
  | _, [] => .valid []
  | index, item :: rest =>
    List.cons <$> (check item).under (.item index) <*> items check (index + 1) rest

end Checked

end Roster.Settings
