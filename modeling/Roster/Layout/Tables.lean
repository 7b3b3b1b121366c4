/-
**The ten tables.**

The layout of each table, as the store keeps it. The unique indexes and the references are those that
the store enforces.

* `Table.layout` — the layout of a table.
-/

import Roster.Layout.Basic

namespace Roster

namespace Column

/-- The column that identifies the rows of a table. -/
def key (name : String) : Column := { name, type := .uuid, generated := some "gen_random_uuid()" }

/-- The time at which a row was written, as the database fills it in. -/
def stamp (name : String) : Column := { name, type := .instant, generated := some "now()" }

/-- A column that holds an identifier. -/
def uuid (name : String) : Column := { name, type := .uuid }

/-- A column that holds a time. -/
def instant (name : String) : Column := { name, type := .instant }

/-- A column that holds a text up to a length. -/
def text (name : String) (length : Nat) : Column := { name, type := .text (some length) }

/-- A column that holds a text of any length. -/
def longText (name : String) : Column := { name, type := .text none }

/-- A column that holds a truth value. -/
def flag (name : String) (usual : Bool) : Column :=
  { name, type := .boolean, initial := some (if usual then "true" else "false") }

/-- A column that holds a whole number. -/
def integer (name : String) (usual : Int) : Column :=
  { name, type := .integer, initial := some ("\x27" ++ toString usual ++ "\x27") }

/-- A column that holds a word of a closed set. -/
def word (name set : String) : Column := { name, type := .word set }

/-- The column with a word that is filled in. -/
def filled (usual : String) (column : Column) : Column :=
  { column with initial := some ("\x27" ++ usual ++ "\x27") }

/-- The column, which may be empty. -/
def orEmpty (column : Column) : Column := { column with mayBeEmpty := true }

end Column

namespace Reference

/-- A reference to a user. -/
def toUser (column : String) (removal : RemovalRule) : Reference :=
  ⟨column, .users, "user_id", removal⟩

/-- A reference to a team. -/
def toTeam (removal : RemovalRule) : Reference := ⟨"team_id", .teams, "team_id", removal⟩

end Reference

namespace Table

open Column (key stamp uuid instant text longText flag integer word)

/-- The layout of a table. -/
def layout : Table → TableLayout
  | .users => {
      table := .users
      key := key "user_id"
      columns := [stamp "created_at", text "display_name" 256, (text "email" 256).orEmpty]
      indexes := [{ name := "email", columns := ["email"], isUnique := true }] }
  | .profiles => {
      table := .profiles
      key := key "profile_id"
      columns := [stamp "created_at", stamp "updated_at", uuid "user_id",
        flag "is_approved" false, flag "is_suspended" false, (longText "admin_notes").orEmpty]
      references := [.toUser "user_id" .cascade]
      indexes := [{ name := "user_id", columns := ["user_id"], isUnique := true }] }
  | .grants => {
      table := .grants
      key := key "role_assignment_id"
      columns := [stamp "created_at", uuid "user_id", text "role_name" 256, instant "valid_from",
        (instant "valid_to").orEmpty, (text "notes" 2000).orEmpty,
        (uuid "created_by_user_id").orEmpty]
      checks := [⟨"valid_window", "valid_to IS NULL OR valid_to > valid_from"⟩]
      references := [.toUser "user_id" .cascade, .toUser "created_by_user_id" .setNull]
      indexes := [
        { name := "user_id", columns := ["user_id"] },
        { name := "role_name", columns := ["role_name"] },
        { name := "user_role_window",
          columns := ["user_id", "role_name", "valid_from", "valid_to"] }] }
  | .teams => {
      table := .teams
      key := key "team_id"
      columns := [stamp "created_at", stamp "updated_at", text "name" 256, text "slug" 256,
        flag "is_active" true,
        (word "system_team_type" "system_team_type").filled TeamKind.none.label]
      indexes := [
        { name := "slug", columns := ["slug"], isUnique := true },
        { name := "system_team_type", columns := ["system_team_type"], isUnique := true,
          condition := some "system_team_type <> \x27none\x27" }] }
  | .members => {
      table := .members
      key := key "team_member_id"
      columns := [uuid "team_id", uuid "user_id",
        (word "role" "team_member_role").filled TeamRole.member.label, instant "joined_at",
        (instant "left_at").orEmpty]
      references := [.toTeam .cascade, .toUser "user_id" .cascade]
      indexes := [
        { name := "active_team_user", columns := ["team_id", "user_id"], isUnique := true,
          condition := some "left_at IS NULL" },
        { name := "user_id", columns := ["user_id"] }] }
  | .documents => {
      table := .documents
      key := key "legal_document_id"
      columns := [stamp "created_at", text "name" 256, (uuid "team_id").orEmpty,
        flag "is_required" true, flag "is_active" true, integer "grace_period_days" 7,
        (text "source_path" 512).orEmpty, (instant "last_synced_at").orEmpty]
      references := [.toTeam .restrict]
      indexes := [{ name := "scope_active", columns := ["team_id", "is_active", "is_required"] }] }
  | .versions => {
      table := .versions
      key := key "document_version_id"
      columns := [stamp "created_at", uuid "legal_document_id", text "version_number" 50,
        (text "commit_sha" 40).orEmpty, instant "effective_from", flag "requires_re_consent" false,
        (text "changes_summary" 2000).orEmpty]
      references := [⟨"legal_document_id", .documents, "legal_document_id", .cascade⟩]
      indexes := [
        { name := "document_effective_from", columns := ["legal_document_id", "effective_from"],
          isUnique := true }] }
  | .consents => {
      table := .consents
      key := key "consent_record_id"
      columns := [uuid "user_id", uuid "document_version_id", instant "consented_at",
        flag "explicit_consent" true, text "ip_address" 45, text "user_agent" 1024,
        text "content_hash" 64, (longText "notes").orEmpty]
      references := [.toUser "user_id" .restrict,
        ⟨"document_version_id", .versions, "document_version_id", .restrict⟩]
      indexes := [
        { name := "user_version", columns := ["user_id", "document_version_id"], isUnique := true },
        { name := "consented_at", columns := ["consented_at"] },
        { name := "document_version_id", columns := ["document_version_id"] }] }
  | .events => {
      table := .events
      key := key "event_id"
      columns := [word "event_type" "outbox_event_type", uuid "team_id", uuid "user_id",
        instant "occurred_at", (instant "processed_at").orEmpty, (instant "abandoned_at").orEmpty,
        integer "retry_count" 0, (text "last_error" 4000).orEmpty, text "deduplication_key" 200,
        (word "sync_source" "sync_source").orEmpty]
      indexes := [
        { name := "processed_occurred", columns := ["processed_at", "occurred_at"] },
        { name := "team_user_processed", columns := ["team_id", "user_id", "processed_at"] },
        { name := "pending_deduplication_key", columns := ["deduplication_key"], isUnique := true,
          condition := some "processed_at IS NULL AND abandoned_at IS NULL" }] }
  | .audit => {
      table := .audit
      key := key "entry_id"
      columns := [word "action" "audit_action", text "entity_type" 100, uuid "entity_id",
        text "description" 4000, instant "occurred_at", (uuid "actor_user_id").orEmpty,
        text "actor_name" 200, (uuid "related_entity_id").orEmpty,
        (text "related_entity_type" 100).orEmpty, (word "sync_source" "sync_source").orEmpty]
      references := [.toUser "actor_user_id" .setNull]
      indexes := [
        { name := "entity", columns := ["entity_type", "entity_id"] },
        { name := "related_entity", columns := ["related_entity_type", "related_entity_id"] },
        { name := "occurred_at", columns := ["occurred_at"] },
        { name := "action", columns := ["action"] }] }

end Table

end Roster
