/-
**Keeping the store in order by hand.**

Whoever looks after the store puts in rows given by their columns, sets columns of the rows that are picked,
or takes these rows out. Each piece of work is one transaction, which an outage can stop like any other. A
value that suits no column gives the work up.

* `Maintenance.insert`, `Maintenance.update`, `Maintenance.remove` — the pieces of work.
* `Application.maintain` — one piece of work in a session of its own.
-/

import Roster.Session
import Roster.Store.View

namespace Roster

/-- Work on the store that a value without a place in it may give up. -/
abbrev Maintenance := ExceptT FieldError Transaction

namespace Maintenance

/-- The row of a table with the given columns. Nothing in a column that needs a value breaks a rule of the
store. -/
def rowOf (table : Table) (id : Uuid) (columns : Value) : Maintenance Row := do
  match Row.read table id (← Act.readClock) columns with
  | .ok row => return row
  | .error .emptyColumn => throwThe Failure .constraint
  | .error error => throw error

/-- Inserts a row given by its columns. A row without an identifier is numbered, and its number is used up also
if the row is refused. -/
def insertRow (table : Table) (columns : Value) : Maintenance Unit := do
  let id ← match columns.field? table.idColumn with
    | some _ => pure default
    | none => (Act.issueRow : Transaction Uuid)
  let row ← rowOf table id columns
  Transaction.execute [.insert row]

/-- Inserts rows, one after the other. -/
def insert (rows : List (Table × Value)) : Maintenance Unit :=
  rows.forM fun row => insertRow row.1 row.2

/-- The rows of a table that have the given values in the given columns. -/
def pick (table : Table) (conditions : List (String × Value)) : Maintenance (List Row) :=
  ExceptT.lift (Transaction.read fun store => store.picked table conditions)

/-- A row before and after some of its columns are set, with the names of those that change. -/
def changed (values : List (String × Value)) (row : Row) :
    Maintenance ((Uuid × Row) × List String) := do
  let columns := values.foldl (fun columns value => Value.put value.1 value.2 columns) row.columns
  let after ← rowOf row.table row.id (.table columns)
  return ((row.id, after), (row.changedColumns after).map (·.1))

/-- Sets columns of the rows that are picked; the number of these rows. -/
def update (table : Table) (conditions values : List (String × Value)) : Maintenance Nat := do
  let rows ← pick table conditions
  let changes ← rows.mapM (changed values)
  let changes := (changes.filter fun change => !change.2.isEmpty).mergeSort fun a b =>
    decide (a.1.1 ≤ b.1.1)
  (runs changes).forM fun run => Transaction.write fun store =>
    run.foldl (fun store change => store.changeAt change.1 change.2) store
  return rows.length

/-- Takes out the rows that are picked; the number of these rows. -/
def remove (table : Table) (conditions : List (String × Value)) : Maintenance Nat := do
  let rows ← pick table conditions
  match (← getThe Session).store.remove table fun id => rows.any (·.id = id) with
  | some store => modifyThe Session ({ · with store })
  | none => throwThe Failure .constraint
  return rows.length

end Maintenance

/-- Does a piece of work in a session of its own, and commits unless it is given up. -/
def Application.maintain {α : Type} (work : Maintenance α) : Application (Except FieldError α) :=
  Application.transact do
    let outcome ← work.run
    return (outcome, match outcome with | .ok _ => .keep | .error _ => .discard)

end Roster
