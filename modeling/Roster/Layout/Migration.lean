/-
**The first migration.**

The migration creates the closed sets of words, the ten tables with their indexes, and two guards that
keep consents and audit entries from being changed. Going back, everything is dropped in the reverse
order.

* `Migration.upgrade`, `Migration.downgrade` — the statements there and back.
* `Migration.address` — the address of the database that is migrated.
-/

import Roster.Connection.Driver
import Roster.Layout.Tables

namespace Roster.Migration

/-- The name under which the migration is recorded. -/
def revision : String := "001"

/-- A text between quotes. -/
def quoted (text : String) : String := "\x27" ++ text ++ "\x27"

/-- The closed sets of words, each with its words. -/
def wordSets : List (String × List String) :=
  [("system_team_type", TeamKind.all.map TeamKind.label),
    ("team_member_role", TeamRole.all.map TeamRole.label),
    ("outbox_event_type", EventKind.all.map EventKind.label),
    ("sync_source", SyncSource.all.map SyncSource.label),
    ("audit_action", AuditAction.all.map AuditAction.label)]

/-- The statement that creates a closed set of words. -/
def wordSetCreation (set : String × List String) : String :=
  "CREATE TYPE " ++ set.1 ++ " AS ENUM (" ++ ", ".intercalate (set.2.map quoted) ++ ")"

/-- A guard that refuses changes of the rows of a table, with what it does before it refuses one. -/
structure Guard where
  table : Table
  function : String
  exemption : String := ""
deriving Repr, Inhabited

namespace Guard

/-- The consents never change. -/
def ofConsents : Guard := ⟨.consents, "prevent_consent_record_modification", ""⟩

/-- An audit entry may only lose the user that it names, which happens when the user is removed. -/
def ofAudit : Guard where
  table := .audit
  function := "prevent_audit_log_modification"
  exemption := "IF TG_OP = 'UPDATE' AND NEW.actor_user_id IS NULL AND OLD.actor_user_id IS NOT NULL"
    ++ " AND (to_jsonb(NEW) - 'actor_user_id') = (to_jsonb(OLD) - 'actor_user_id')"
    ++ " THEN RETURN NEW; END IF; "

/-- The name of the trigger of a guard. -/
def trigger (guard : Guard) : String := "trg_" ++ guard.table.name ++ "_immutable"

/-- The statement that creates the function of a guard. -/
def functionCreation (guard : Guard) : String :=
  "CREATE OR REPLACE FUNCTION " ++ guard.function ++ "() RETURNS TRIGGER AS $$ BEGIN "
    ++ guard.exemption ++ "RAISE EXCEPTION '" ++ guard.table.name
    ++ " is append-only: % is not allowed', TG_OP; END; $$ LANGUAGE plpgsql;"

/-- The statement that creates the trigger of a guard. -/
def triggerCreation (guard : Guard) : String :=
  "CREATE TRIGGER " ++ guard.trigger ++ " BEFORE UPDATE OR DELETE ON " ++ guard.table.name
    ++ " FOR EACH ROW EXECUTE FUNCTION " ++ guard.function ++ "()"

/-- The statements that drop a guard. -/
def removal (guard : Guard) : List String :=
  ["DROP TRIGGER IF EXISTS " ++ guard.trigger ++ " ON " ++ guard.table.name,
    "DROP FUNCTION IF EXISTS " ++ guard.function ++ "()"]

end Guard

/-- The two guards. -/
def guards : List Guard := [.ofConsents, .ofAudit]

/-- The statements that create a table with its indexes. -/
def tableCreations (table : Table) : List String :=
  table.layout.creation .migrated :: table.layout.indexCreations

/-- The statements between the beginning and the commit of one transaction. -/
def asTransaction (statements : List String) : List String :=
  "BEGIN" :: statements ++ ["COMMIT"]

/-- The table in which migrations are recorded. -/
def recordTable : String := "alembic_version"

/-- The statements of the migration. -/
def upgrade : List String :=
  asTransaction (
    ("CREATE TABLE " ++ recordTable ++ " ( version_num VARCHAR(32) NOT NULL, CONSTRAINT "
      ++ recordTable ++ "_pkc PRIMARY KEY (version_num) )")
    :: wordSets.map wordSetCreation
    ++ Table.all.flatMap tableCreations
    ++ guards.map Guard.functionCreation
    ++ guards.map Guard.triggerCreation
    ++ ["INSERT INTO " ++ recordTable ++ " (version_num) VALUES (" ++ quoted revision
      ++ ") RETURNING " ++ recordTable ++ ".version_num"])

/-- The statements that take the migration back. -/
def downgrade : List String :=
  asTransaction (
    guards.flatMap Guard.removal
    ++ Table.all.reverse.map (fun table => "DROP TABLE " ++ table.name)
    ++ wordSets.reverse.map (fun set => "DROP TYPE IF EXISTS " ++ set.1)
    ++ ["DELETE FROM " ++ recordTable ++ " WHERE " ++ recordTable ++ ".version_num = "
      ++ quoted revision])

/-- The address that the environment names, if it names one that is not empty, or else the configured one. -/
def chosenAddress (named : Option String) (configured : String) : String :=
  match named with
  | some address => if address.isEmpty then configured else address
  | none => configured

/-- The address of the database that is migrated: of the one that is chosen, the first plain scheme that it
begins with is replaced. -/
def address (named : Option String) (configured : String) : String :=
  let chosen := chosenAddress named configured
  match [Connection.plainScheme, Connection.shortScheme].find? (Text.beginsWith · chosen) with
  | some scheme => Text.replaceFirst scheme Connection.driverScheme chosen
  | none => chosen

end Roster.Migration
