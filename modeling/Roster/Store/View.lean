/-
**Looking into a store by its columns.**

Rows are picked by the values of some columns, and two stores are compared row by row.

* `Store.picked` — the rows that have some values in some columns.
* `Store.differences` — the rows that were inserted, changed or removed.
-/

import Roster.Store.Columns

namespace Roster

/-- One row that differs between two stores. -/
inductive Difference where
  | inserted (table : Table) (row : Row)
  | changed (table : Table) (id : Uuid) (columns : List (String × Value))
  | removed (table : Table) (id : Uuid)
deriving Repr, Inhabited

namespace Store

/-- Two texts denote the same time or the same identifier. -/
def sameMeaning (a b : String) : Bool :=
  match Instant.read a, Instant.read b with
  | .ok a, .ok b => a.micros = b.micros
  | _, _ => match Uuid.read a, Uuid.read b with
    | .ok a, .ok b => a = b
    | _, _ => false

/-- A column holds a value, perhaps in another spelling. -/
def holds (column value : Value) : Bool :=
  column == value || match column, value with
    | .text column, .text value => sameMeaning column value
    | _, _ => false

/-- The row has the given values in the given columns. -/
def isPicked (conditions : List (String × Value)) (row : Row) : Bool :=
  conditions.all fun condition =>
    (Value.lookup condition.1 row.columns).any (holds · condition.2)

/-- The rows of a table that have the given values in the given columns. -/
def picked (store : Store) (table : Table) (conditions : List (String × Value)) : List Row :=
  (store.rows table).filter (isPicked conditions)

/-- The differences in one table: first the rows of the later store, then the rows that are gone. -/
def tableDifferences (before after : Store) (table : Table) : List Difference :=
  let old := before.rows table
  let new := after.rows table
  new.filterMap (fun row =>
    match old.find? (·.id = row.id) with
    | none => some (.inserted table row)
    | some earlier =>
      let columns := earlier.changedColumns row
      if columns.isEmpty then none else some (.changed table row.id columns))
    ++ (old.filter fun row => !new.any (·.id = row.id)).map fun row => .removed table row.id

/-- The differences between two stores, table by table. -/
def differences (before after : Store) : List Difference :=
  Table.all.flatMap (tableDifferences before after)

end Store

end Roster
