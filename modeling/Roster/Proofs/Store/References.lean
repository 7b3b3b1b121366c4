/-
**References, as the layout declares them.**

A reference leads from a column of a row to the key of another. What becomes of a row when the row that it
refers to goes is declared with the reference: it goes too, it forbids the removal, or its column is emptied.

* `Reference.LeadsTo` — a row refers to another, read off the layout and the columns; `leadsTo_iff` says the
  same of the records.
* `Store.Linked` — every declared reference leads to a row; **these are the references that the store is
  to hold** (`linked_iff`).
* `Store.Goes`, `Store.Restricted`, `Store.RemovesAsDeclared` — what the removal of some rows takes along,
  what forbids it, and what it leaves.
* `RemovesAsDeclared.linked` — **a removal as declared leaves every reference in force**.
-/

import Roster.Layout.Tables
import Roster.Proofs.Outbox.Key
import Roster.Store.Columns

namespace Roster

/-! ### Columns by their names -/

theorem Value.lookup_map (f : String → Value → Value) (name : String) (columns : List (String × Value)) :
    lookup name (columns.map fun column => (column.1, f column.1 column.2))
      = (lookup name columns).map (f name) := by
  induction columns with
  | nil => rfl
  | cons first rest ih =>
    unfold lookup at ih ⊢
    rw [List.map_cons, List.find?_cons, List.find?_cons]
    cases same : first.1 == name with
    | false => exact ih
    | true => rw [eq_of_beq same]; rfl

theorem Value.ofUuid_injective {a b : Uuid} (same : ofUuid a = ofUuid b) : a = b :=
  Uuid.text_injective (Value.text.inj same)

theorem Value.ofOption_eq_ofUuid {reference : Option Uuid} {id : Uuid} :
    ofOption ofUuid reference = ofUuid id ↔ reference = some id := by
  cases reference with
  | none => exact ⟨nofun, nofun⟩
  | some other => exact ⟨fun same => congrArg some (ofUuid_injective same), fun same => by cases same; rfl⟩

/-! ### Where references lead -/

/-- The tables that references lead to. -/
def Table.referred : List Table := [.users, .teams, .documents, .versions]

/-- **These are all the tables that the layout has references to.** -/
theorem Table.mem_referred_iff {table : Table} : table ∈ referred ↔
    ∃ other : Table, ∃ reference ∈ other.layout.references, reference.table = table := by
  constructor
  · intro member
    simp only [referred, List.mem_cons, List.not_mem_nil, or_false] at member
    rcases member with rfl | rfl | rfl | rfl
    · exact ⟨.profiles, by decide⟩
    · exact ⟨.members, by decide⟩
    · exact ⟨.versions, by decide⟩
    · exact ⟨.consents, by decide⟩
  · rintro ⟨other, reference, declared, rfl⟩
    revert reference
    cases other <;> decide

/-- The reference leads from a row to another: its column holds the key of this row. -/
def Reference.LeadsTo (reference : Reference) (row other : Row) : Prop :=
  reference ∈ row.table.layout.references ∧ other.table = reference.table
    ∧ Value.lookup reference.column row.columns = Value.lookup reference.key other.columns

namespace Row

/-- The references of a row, with the identifiers that they hold. -/
def links : Row → List (Reference × Option Uuid)
  | .profile row => [(.toUser "user_id" .cascade, row.user)]
  | .grant row => [(.toUser "user_id" .cascade, row.user),
      (.toUser "created_by_user_id" .setNull, row.createdBy)]
  | .member row => [(.toTeam .cascade, row.team), (.toUser "user_id" .cascade, row.user)]
  | .document row => [(.toTeam .restrict, row.team)]
  | .version row => [(⟨"legal_document_id", .documents, "legal_document_id", .cascade⟩, row.document)]
  | .consent row => [(.toUser "user_id" .restrict, row.user),
      (⟨"document_version_id", .versions, "document_version_id", .restrict⟩, row.version)]
  | .entry row => [(.toUser "actor_user_id" .setNull, row.actorUser)]
  | _ => []

/-- What the columns of the declared references hold. -/
theorem links_eq (row : Row) :
    row.table.layout.references.map (fun reference =>
        (reference, Value.lookup reference.column row.columns))
      = row.links.map fun link => (link.1, some (Value.ofOption Value.ofUuid link.2)) := by
  cases row <;> rfl

theorem lookup_idColumn (row : Row) :
    Value.lookup row.table.idColumn row.columns = some (Value.ofUuid row.id) := by
  cases row <;> rfl

end Row

theorem Table.key_of_reference (table : Table) :
    ∀ reference ∈ table.layout.references, reference.key = reference.table.idColumn := by
  cases table <;> decide

/-- Only a row that forbids its removal refers to rows that go with others. -/
theorem Table.cascade_ends (table : Table) : ∀ reference ∈ table.layout.references,
    reference.removal ≠ .restrict →
      ∀ further ∈ reference.table.layout.references, further.removal ≠ .cascade := by
  cases table <;> decide

theorem Table.idColumn_of_setNull (table : Table) :
    ∀ reference ∈ table.layout.references, reference.removal = .setNull →
      reference.column ≠ table.idColumn := by
  cases table <;> decide

theorem Row.exists_link {row : Row} {reference : Reference} {held : Option Value}
    (declared : reference ∈ row.table.layout.references)
    (holds : Value.lookup reference.column row.columns = held) :
    ∃ link, (reference, link) ∈ row.links ∧ held = some (Value.ofOption Value.ofUuid link) := by
  have shown := List.mem_map_of_mem
    (f := fun reference => (reference, Value.lookup reference.column row.columns)) declared
  rw [Row.links_eq] at shown
  obtain ⟨⟨_, link⟩, inside, same⟩ := List.mem_map.mp shown
  obtain ⟨rfl, same⟩ := Prod.mk.inj same
  exact ⟨link, inside, holds.symm.trans same.symm⟩

theorem Row.lookup_of_link {row : Row} {reference : Reference} {link : Option Uuid}
    (inside : (reference, link) ∈ row.links) :
    reference ∈ row.table.layout.references
      ∧ Value.lookup reference.column row.columns = some (Value.ofOption Value.ofUuid link) := by
  have shown := List.mem_map_of_mem
    (f := fun link => (link.1, some (Value.ofOption Value.ofUuid link.2))) inside
  rw [← Row.links_eq] at shown
  obtain ⟨_, declared, same⟩ := List.mem_map.mp shown
  obtain ⟨rfl, same⟩ := Prod.mk.inj same
  exact ⟨declared, same⟩

theorem Row.lookup_key {row other : Row} {reference : Reference}
    (declared : reference ∈ row.table.layout.references) (there : other.table = reference.table) :
    Value.lookup reference.key other.columns = some (Value.ofUuid other.id) := by
  rw [row.table.key_of_reference reference declared, ← there]
  exact other.lookup_idColumn

/-- **A reference leads from a row to another if the row has its identifier.** -/
theorem Reference.leadsTo_iff {reference : Reference} {row other : Row} :
    reference.LeadsTo row other ↔ (reference, some other.id) ∈ row.links ∧ other.table = reference.table := by
  constructor
  · rintro ⟨declared, there, same⟩
    rw [Row.lookup_key declared there] at same
    obtain ⟨link, inside, held⟩ := Row.exists_link declared same
    rw [Value.ofOption_eq_ofUuid.mp (Option.some.inj held).symm] at inside
    exact ⟨inside, there⟩
  · rintro ⟨inside, there⟩
    obtain ⟨declared, held⟩ := Row.lookup_of_link inside
    exact ⟨declared, there, held.trans (Row.lookup_key declared there).symm⟩

/-- Nothing takes along a row that a reference leads to, unless the reference forbids its removal. -/
theorem Reference.LeadsTo.removal_ne {reference : Reference} {row other : Row}
    (leads : reference.LeadsTo row other) (mild : reference.removal ≠ .restrict) :
    ∀ link ∈ other.links, link.1.removal ≠ .cascade := by
  intro link inside
  refine row.table.cascade_ends reference leads.1 mild link.1 ?_
  rw [← leads.2.1]
  exact (Row.lookup_of_link inside).1

namespace Store

variable {store after : Store} {chosen : Row → Prop} {row other : Row} {table : Table}

theorem table_of_mem_rows (member : row ∈ store.rows table) : row.table = table := by
  cases table <;> obtain ⟨_, _, rfl⟩ := List.mem_map.mp member <;> rfl

theorem mem_rows_table (member : row ∈ store.rows table) : row ∈ store.rows row.table := by
  rwa [table_of_mem_rows member]

/-- Every declared reference of a row is empty or leads to a row that exists. -/
def Linked (store : Store) : Prop :=
  ∀ table, ∀ row ∈ store.rows table, ∀ reference ∈ table.layout.references,
    Value.lookup reference.column row.columns = some .null
      ∨ ∃ other ∈ store.rows reference.table, reference.LeadsTo row other

/-- The declared references, by the identifiers that the rows hold. -/
theorem linked_iff_links : store.Linked ↔ ∀ table, ∀ row ∈ store.rows table, ∀ link ∈ row.links,
    ∀ id ∈ link.2, id ∈ (store.rows link.1.table).map Row.id := by
  constructor
  · rintro linked table row member ⟨reference, link⟩ inside id held
    obtain ⟨declared, shown⟩ := Row.lookup_of_link inside
    obtain rfl : link = some id := held
    rw [table_of_mem_rows member] at declared
    rcases linked table row member reference declared with empty | ⟨other, there, leads⟩
    · cases shown.symm.trans empty
    · obtain ⟨declared, same, reaches⟩ := leads
      rw [shown, Row.lookup_key declared same] at reaches
      exact List.mem_map.mpr ⟨other, there, (Value.ofUuid_injective (Option.some.inj reaches)).symm⟩
  · intro links table row member reference declared
    rw [← table_of_mem_rows member] at declared
    obtain ⟨link, inside, shown⟩ := Row.exists_link declared rfl
    cases link with
    | none => exact .inl shown
    | some id =>
      obtain ⟨other, there, rfl⟩ := List.mem_map.mp (links table row member _ inside id rfl)
      exact .inr ⟨other, there, Reference.leadsTo_iff.mpr ⟨inside, table_of_mem_rows there⟩⟩

theorem forall_table {P : Table → Prop} : (∀ table, P table) ↔ P .users ∧ P .profiles ∧ P .grants
    ∧ P .teams ∧ P .members ∧ P .documents ∧ P .versions ∧ P .consents ∧ P .events ∧ P .audit := by
  constructor
  · exact fun all => ⟨all _, all _, all _, all _, all _, all _, all _, all _, all _, all _⟩
  · rintro ⟨_, _, _, _, _, _, _, _, _, _⟩ table
    cases table <;> assumption

/-- An identifier that a row holds is that of a row that exists. -/
theorem Linked.exists_row (linked : store.Linked) (member : row ∈ store.rows row.table)
    {reference : Reference} {id : Uuid} (inside : (reference, some id) ∈ row.links) :
    ∃ other ∈ store.rows reference.table, other.id = id ∧ reference.LeadsTo row other := by
  obtain ⟨other, there, rfl⟩ :=
    List.mem_map.mp (linked_iff_links.mp linked _ row member _ inside id rfl)
  exact ⟨other, there, rfl, Reference.leadsTo_iff.mpr ⟨inside, table_of_mem_rows there⟩⟩

/-- **The references that the store is to hold are the declared ones.** -/
theorem linked_iff : store.Linked ↔ store.ReferencesHold := by
  rw [linked_iff_links, forall_table]
  simp only [rows, List.forall_mem_map, Row.links, List.forall_mem_cons, List.not_mem_nil, false_implies,
    implies_true, and_true, true_and, Option.mem_def, Option.some.injEq, forall_eq', List.map_map,
    ReferencesHold, Reference.toUser, Reference.toTeam]
  rfl

/-! ### What a removal takes along -/

/-- The rows that go if the chosen ones are removed: these, and whatever refers to a row that goes by a
reference with which it goes too. -/
inductive Goes (store : Store) (chosen : Row → Prop) : Row → Prop
  | first {row : Row} (member : row ∈ store.rows row.table) (choice : chosen row) : Goes store chosen row
  | along {row other : Row} {reference : Reference} (member : row ∈ store.rows row.table)
      (leads : reference.LeadsTo row other) (rule : reference.removal = .cascade)
      (goes : Goes store chosen other) : Goes store chosen row

/-- Some row forbids that the chosen rows are removed: it refers to a row that goes. -/
def Restricted (store : Store) (chosen : Row → Prop) : Prop :=
  ∃ table, ∃ row ∈ store.rows table, ∃ (reference : Reference) (other : Row),
    reference.LeadsTo row other ∧ reference.removal = .restrict ∧ store.Goes chosen other

/-- A column of a row is emptied once some rows are gone: it held a reference to one of them. -/
def Empties (gone : Row → Prop) (row : Row) (name : String) : Prop :=
  ∃ (reference : Reference) (other : Row), reference.LeadsTo row other ∧ reference.column = name
    ∧ reference.removal = .setNull ∧ gone other

open Classical in
/-- The columns of a row once some rows are gone. -/
noncomputable def columnsWithout (gone : Row → Prop) (row : Row) : List (String × Value) :=
  row.columns.map fun column => (column.1, if Empties gone row column.1 then .null else column.2)

open Classical in
/-- **The removal of the chosen rows, as the layout declares it**: nothing forbids it, and in every table
the rows that do not go are left in their order, those of their references emptied that led to a row that
goes. -/
structure RemovesAsDeclared (store : Store) (chosen : Row → Prop) (after : Store) : Prop where
  allowed : ¬ store.Restricted chosen
  rows : ∀ table, (after.rows table).map Row.columns
    = ((store.rows table).filter fun row => ¬ store.Goes chosen row).map
        (columnsWithout (store.Goes chosen))

section Declared

open Classical in
theorem lookup_columnsWithout (gone : Row → Prop) (row : Row) (name : String) :
    Value.lookup name (columnsWithout gone row)
      = (Value.lookup name row.columns).map fun value => if Empties gone row name then .null else value :=
  Value.lookup_map (fun name value => if Empties gone row name then .null else value) name row.columns

/-- Rows keep their identifiers. -/
theorem lookup_idColumn_columnsWithout (gone : Row → Prop) (row : Row) :
    Value.lookup row.table.idColumn (columnsWithout gone row) = some (Value.ofUuid row.id) := by
  rw [lookup_columnsWithout, row.lookup_idColumn, Option.map_some, if_neg]
  rintro ⟨reference, _, leads, same, rule, _⟩
  exact row.table.idColumn_of_setNull reference leads.1 rule same

/-- A row that is left was there, and did not go. -/
theorem RemovesAsDeclared.mem_of_after (removed : store.RemovesAsDeclared chosen after)
    (member : row ∈ after.rows table) : ∃ before ∈ store.rows table, ¬ store.Goes chosen before
      ∧ row.columns = columnsWithout (store.Goes chosen) before := by
  classical
  have inside := List.mem_map_of_mem (f := Row.columns) member
  rw [removed.rows table] at inside
  obtain ⟨before, kept, same⟩ := List.mem_map.mp inside
  rw [List.mem_filter, decide_eq_true_iff] at kept
  exact ⟨before, kept.1, kept.2, same.symm⟩

/-- A row that does not go is left. -/
theorem RemovesAsDeclared.mem_of_before (removed : store.RemovesAsDeclared chosen after)
    (member : row ∈ store.rows table) (stays : ¬ store.Goes chosen row) :
    ∃ left ∈ after.rows table, left.columns = columnsWithout (store.Goes chosen) row := by
  classical
  refine List.mem_map.mp ?_
  rw [removed.rows table]
  refine List.mem_map_of_mem (List.mem_filter.mpr ⟨member, ?_⟩)
  rwa [decide_eq_true_iff]

/-- **A removal as declared leaves every reference in force.** A reference that led to a row that goes would
have taken its row along, forbidden the removal, or been emptied. -/
theorem RemovesAsDeclared.linked (removed : store.RemovesAsDeclared chosen after) (linked : store.Linked) :
    after.Linked := by
  intro table row member reference declared
  obtain ⟨before, there, stays, columns⟩ := removed.mem_of_after member
  rcases linked table before there reference declared with empty | ⟨other, target, leads⟩
  · left
    rw [columns, lookup_columnsWithout, empty, Option.map_some, ite_self]
  · have held : Value.lookup reference.column before.columns = some (Value.ofUuid other.id) :=
      leads.2.2.trans (Row.lookup_key leads.1 leads.2.1)
    by_cases empties : Empties (store.Goes chosen) before reference.column
    · left
      rw [columns, lookup_columnsWithout, held, Option.map_some, if_pos empties]
    · have remains : ¬ store.Goes chosen other := by
        intro goes
        cases rule : reference.removal with
        | cascade => exact stays (.along (mem_rows_table there) leads rule goes)
        | restrict => exact removed.allowed ⟨table, before, there, reference, other, leads, rule, goes⟩
        | setNull => exact empties ⟨reference, other, leads, rfl, rule, goes⟩
      obtain ⟨left, kept, same⟩ := removed.mem_of_before target remains
      refine .inr ⟨left, kept, table_of_mem_rows member ▸ declared, table_of_mem_rows kept, ?_⟩
      rw [columns, lookup_columnsWithout, held, Option.map_some, if_neg empties, same,
        table.key_of_reference reference declared, ← leads.2.1, lookup_idColumn_columnsWithout]

end Declared

end Store

end Roster
