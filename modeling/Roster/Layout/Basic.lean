/-
**The layout of the tables.**

Each table has columns, the first of which identifies its rows, checks on its rows, references to other
tables, and indexes. The layout is written as statements that create it.

* `Column`, `Reference`, `RowCheck`, `Index` — the parts of a layout.
* `TableLayout.creation` — the statement that creates a table.
* `TableLayout.indexCreations` — the statements that create its indexes.
-/

import Roster.Store.Basic

namespace Roster

/-- What a column holds. -/
inductive ColumnType where
  | uuid
  | instant
  | text (length : Option Nat)
  | boolean
  | integer
  /-- A word of a closed set. -/
  | word (set : String)
deriving DecidableEq, Repr, Inhabited

/-- The written form of a column type. -/
def ColumnType.written : ColumnType → String
  | .uuid => "UUID"
  | .instant => "TIMESTAMP WITH TIME ZONE"
  | .text none => "TEXT"
  | .text (some length) => "VARCHAR(" ++ toString length ++ ")"
  | .boolean => "BOOLEAN"
  | .integer => "INTEGER"
  | .word set => set

/-- A column of a table. -/
structure Column where
  name : String
  type : ColumnType
  /-- The column may be empty. -/
  mayBeEmpty : Bool := false
  /-- The expression that the database fills in. -/
  generated : Option String := none
  /-- The value that the database fills in once the table is created by a migration. -/
  initial : Option String := none
deriving DecidableEq, Repr, Inhabited

/-- Whether the layout is written as it is declared, or as a migration creates it. -/
inductive LayoutStyle where
  | declared
  | migrated
deriving DecidableEq, Repr, Inhabited

/-- The written form of a column. -/
def Column.written (style : LayoutStyle) (column : Column) : String :=
  let filled := match style with
    | .declared => column.generated
    | .migrated => column.generated <|> column.initial
  column.name ++ " " ++ column.type.written
    ++ (match filled with
      | some value => " DEFAULT " ++ value
      | none => "")
    ++ (if column.mayBeEmpty then "" else " NOT NULL")

/-- What becomes of a row when the row that it refers to is removed. -/
inductive RemovalRule where
  | cascade
  | restrict
  | setNull
deriving DecidableEq, Repr, Inhabited

/-- The written form of a removal rule. -/
def RemovalRule.written : RemovalRule → String
  | .cascade => "CASCADE"
  | .restrict => "RESTRICT"
  | .setNull => "SET NULL"

/-- A reference from a column to the rows of a table. -/
structure Reference where
  column : String
  table : Table
  key : String
  removal : RemovalRule
deriving DecidableEq, Repr, Inhabited

/-- The written form of a reference. -/
def Reference.written (table : Table) (reference : Reference) : String :=
  "CONSTRAINT fk_" ++ table.name ++ "_" ++ reference.column ++ "_" ++ reference.table.name
    ++ " FOREIGN KEY(" ++ reference.column ++ ") REFERENCES " ++ reference.table.name ++ " ("
    ++ reference.key ++ ") ON DELETE " ++ reference.removal.written

/-- A condition on every row of a table. -/
structure RowCheck where
  name : String
  condition : String
deriving DecidableEq, Repr, Inhabited

/-- The written form of a condition. -/
def RowCheck.written (table : Table) (check : RowCheck) : String :=
  "CONSTRAINT ck_" ++ table.name ++ "_" ++ check.name ++ " CHECK (" ++ check.condition ++ ")"

/-- An index of a table; a unique index may be limited to the rows with some condition. -/
structure Index where
  name : String
  columns : List String
  isUnique : Bool := false
  condition : Option String := none
deriving DecidableEq, Repr, Inhabited

namespace Index

/-- The full name of an index. -/
def fullName (table : Table) (index : Index) : String :=
  "ix_" ++ table.name ++ "_" ++ index.name

/-- The statement that creates an index. -/
def creation (table : Table) (index : Index) : String :=
  "CREATE " ++ (if index.isUnique then "UNIQUE " else "") ++ "INDEX " ++ index.fullName table
    ++ " ON " ++ table.name ++ " (" ++ ", ".intercalate index.columns ++ ")"
    ++ (match index.condition with
      | some condition => " WHERE " ++ condition
      | none => "")

end Index

/-- The layout of a table; its first column identifies the rows. -/
structure TableLayout where
  table : Table
  key : Column
  columns : List Column
  checks : List RowCheck := []
  references : List Reference := []
  indexes : List Index := []
deriving Repr, Inhabited

namespace TableLayout

/-- The statement that creates a table. -/
def creation (style : LayoutStyle) (layout : TableLayout) : String :=
  let name := layout.table.name
  let identity := "CONSTRAINT pk_" ++ name ++ " PRIMARY KEY (" ++ layout.key.name ++ ")"
  "CREATE TABLE " ++ name ++ " ( "
    ++ ", ".intercalate ((layout.key :: layout.columns).map (Column.written style)
      ++ identity :: layout.checks.map (RowCheck.written layout.table)
      ++ layout.references.map (Reference.written layout.table))
    ++ " )"

/-- The statements that create the indexes of a table, in the order of their declaration. -/
def indexCreations (layout : TableLayout) : List String :=
  layout.indexes.map (Index.creation layout.table)

/-- The statements that declare a table: its indexes come in the order of their names. -/
def declaration (layout : TableLayout) : List String :=
  let sorted := layout.indexes.mergeSort fun first second => decide (first.name ≤ second.name)
  layout.creation .declared :: sorted.map (Index.creation layout.table)

end TableLayout

end Roster
