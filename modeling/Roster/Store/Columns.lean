/-
**Rows by their columns.**

Every row can be shown as a table of named columns, in the order in which they are declared: an
identifier and a time as their text, a word of a closed set as the stored word, an absent value as
nothing. A row can be read from such columns too; some columns have a value that holds if they are
left out.

* `Row.columns` — the named columns of a row.
* `Row.changedColumns` — the columns in which two rows differ.
* `Row.read` — the row of a table with the given columns.
-/

import Roster.Store.Basic
import Roster.Value.Fields

namespace Roster

namespace Value

/-- An identifier as a value. -/
def ofUuid (id : Uuid) : Value := .text id.text

/-- A time as a value. -/
def ofInstant (instant : Instant) : Value := .text instant.universalText

/-- A value that may be absent. -/
def ofOption {α : Type} (shown : α → Value) : Option α → Value
  | some value => shown value
  | none => .null

end Value

open Value (ofUuid ofInstant ofOption)

/-- The columns of a user. -/
def User.columns (row : User) : List (String × Value) :=
  [("user_id", ofUuid row.id), ("display_name", .text row.displayName),
    ("email", ofOption .text row.email)]

/-- The columns of a profile. -/
def Profile.columns (row : Profile) : List (String × Value) :=
  [("profile_id", ofUuid row.id), ("updated_at", ofInstant row.updatedAt),
    ("user_id", ofUuid row.user), ("is_approved", .bool row.isApproved),
    ("is_suspended", .bool row.isSuspended), ("admin_notes", ofOption .text row.adminNotes)]

/-- The columns of a role grant. -/
def RoleGrant.columns (row : RoleGrant) : List (String × Value) :=
  [("role_assignment_id", ofUuid row.id), ("user_id", ofUuid row.user),
    ("role_name", .text row.roleName), ("valid_from", ofInstant row.validFrom),
    ("valid_to", ofOption ofInstant row.validTo), ("notes", ofOption .text row.notes),
    ("created_by_user_id", ofOption ofUuid row.createdBy)]

/-- The columns of a team. -/
def Team.columns (row : Team) : List (String × Value) :=
  [("team_id", ofUuid row.id), ("updated_at", ofInstant row.updatedAt), ("name", .text row.name),
    ("slug", .text row.slug), ("is_active", .bool row.isActive),
    ("system_team_type", .text row.kind.label)]

/-- The columns of a stay in a team. -/
def TeamMember.columns (row : TeamMember) : List (String × Value) :=
  [("team_member_id", ofUuid row.id), ("team_id", ofUuid row.team), ("user_id", ofUuid row.user),
    ("role", .text row.role.label), ("joined_at", ofInstant row.joinedAt),
    ("left_at", ofOption ofInstant row.leftAt)]

/-- The columns of a document. -/
def LegalDocument.columns (row : LegalDocument) : List (String × Value) :=
  [("legal_document_id", ofUuid row.id), ("name", .text row.name),
    ("team_id", ofOption ofUuid row.team), ("is_required", .bool row.isRequired),
    ("is_active", .bool row.isActive), ("grace_period_days", .int row.graceDays),
    ("source_path", ofOption .text row.sourcePath),
    ("last_synced_at", ofOption ofInstant row.lastSyncedAt)]

/-- The columns of a version of a document. -/
def DocumentVersion.columns (row : DocumentVersion) : List (String × Value) :=
  [("document_version_id", ofUuid row.id), ("legal_document_id", ofUuid row.document),
    ("version_number", .text row.number), ("commit_sha", ofOption .text row.commit),
    ("effective_from", ofInstant row.effectiveFrom),
    ("requires_re_consent", .bool row.requiresReConsent),
    ("changes_summary", ofOption .text row.changesSummary)]

/-- The columns of a consent. -/
def ConsentRecord.columns (row : ConsentRecord) : List (String × Value) :=
  [("consent_record_id", ofUuid row.id), ("user_id", ofUuid row.user),
    ("document_version_id", ofUuid row.version), ("consented_at", ofInstant row.consentedAt),
    ("explicit_consent", .bool row.isExplicit), ("ip_address", .text row.ipAddress),
    ("user_agent", .text row.userAgent), ("content_hash", .text row.contentHash),
    ("notes", ofOption .text row.notes)]

/-- The columns of an event to relay. -/
def OutboxEvent.columns (row : OutboxEvent) : List (String × Value) :=
  [("event_id", ofUuid row.id), ("event_type", .text row.kind.label), ("team_id", ofUuid row.team),
    ("user_id", ofUuid row.user), ("occurred_at", ofInstant row.occurredAt),
    ("processed_at", ofOption ofInstant row.processedAt),
    ("abandoned_at", ofOption ofInstant row.abandonedAt), ("retry_count", .int row.retryCount),
    ("last_error", ofOption .text row.lastError), ("deduplication_key", .text row.key),
    ("sync_source", ofOption (fun source => .text source.label) row.source)]

/-- The columns of an audit entry. -/
def AuditEntry.columns (row : AuditEntry) : List (String × Value) :=
  [("entry_id", ofUuid row.id), ("action", .text row.action.label),
    ("entity_type", .text row.entityType), ("entity_id", ofUuid row.entity),
    ("description", .text row.description), ("occurred_at", ofInstant row.occurredAt),
    ("actor_user_id", ofOption ofUuid row.actorUser), ("actor_name", .text row.actorName),
    ("related_entity_id", ofOption ofUuid row.relatedEntity),
    ("related_entity_type", ofOption .text row.relatedType),
    ("sync_source", ofOption (fun source => .text source.label) row.source)]

namespace Row

/-- The named columns of a row. -/
def columns : Row → List (String × Value)
  | .user row => row.columns
  | .profile row => row.columns
  | .grant row => row.columns
  | .team row => row.columns
  | .member row => row.columns
  | .document row => row.columns
  | .version row => row.columns
  | .consent row => row.columns
  | .event row => row.columns
  | .entry row => row.columns

/-- The columns of the second row in which it differs from the first, which is of the same table. -/
def changedColumns (before after : Row) : List (String × Value) :=
  ((before.columns.zip after.columns).filter fun pair => pair.1.2 != pair.2.2).map (·.2)

/-- A column that may not be empty, perhaps with a value that holds if it is left out. -/
def column {α : Type} (reader : Fields.Reader α) (name : String) (usual : Option α) :
    Fields.Reader α := fun input =>
  match input.field? name, usual with
  | some .null, _ => throw .emptyColumn
  | some value, _ => reader value
  | none, some usual => return usual
  | none, none => throw .emptyColumn

open Fields (text int bool uuid universalInstant maybe)

/-- The row of a table with the given columns. The identifier and the time of change are given for
rows that leave them out. -/
def read (table : Table) (id : Uuid) (clock : Instant) (input : Value) :
    Except FieldError Row := do
  let idIn (name : String) := column uuid name (some id) input
  match table with
  | .users => return .user {
      id := ← idIn "user_id"
      displayName := ← column text "display_name" none input
      email := ← maybe text "email" input }
  | .profiles => return .profile {
      id := ← idIn "profile_id"
      updatedAt := ← column universalInstant "updated_at" (some clock) input
      user := ← column uuid "user_id" none input
      isApproved := ← column bool "is_approved" (some false) input
      isSuspended := ← column bool "is_suspended" (some false) input
      adminNotes := ← maybe text "admin_notes" input }
  | .grants => return .grant {
      id := ← idIn "role_assignment_id"
      user := ← column uuid "user_id" none input
      roleName := ← column text "role_name" none input
      validFrom := ← column universalInstant "valid_from" none input
      validTo := ← maybe universalInstant "valid_to" input
      notes := ← maybe text "notes" input
      createdBy := ← maybe uuid "created_by_user_id" input }
  | .teams => return .team {
      id := ← idIn "team_id"
      updatedAt := ← column universalInstant "updated_at" (some clock) input
      name := ← column text "name" none input
      slug := ← column text "slug" none input
      isActive := ← column bool "is_active" (some true) input
      kind := ← column Fields.teamKind "system_team_type" (some .none) input }
  | .members => return .member {
      id := ← idIn "team_member_id"
      team := ← column uuid "team_id" none input
      user := ← column uuid "user_id" none input
      role := ← column Fields.teamRole "role" (some .member) input
      joinedAt := ← column universalInstant "joined_at" none input
      leftAt := ← maybe universalInstant "left_at" input }
  | .documents => return .document {
      id := ← idIn "legal_document_id"
      name := ← column text "name" none input
      team := ← maybe uuid "team_id" input
      isRequired := ← column bool "is_required" (some true) input
      isActive := ← column bool "is_active" (some true) input
      graceDays := ← column int "grace_period_days" (some 7) input
      sourcePath := ← maybe text "source_path" input
      lastSyncedAt := ← maybe universalInstant "last_synced_at" input }
  | .versions => return .version {
      id := ← idIn "document_version_id"
      document := ← column uuid "legal_document_id" none input
      number := ← column text "version_number" none input
      commit := ← maybe text "commit_sha" input
      effectiveFrom := ← column universalInstant "effective_from" none input
      requiresReConsent := ← column bool "requires_re_consent" (some false) input
      changesSummary := ← maybe text "changes_summary" input }
  | .consents => return .consent {
      id := ← idIn "consent_record_id"
      user := ← column uuid "user_id" none input
      version := ← column uuid "document_version_id" none input
      consentedAt := ← column universalInstant "consented_at" none input
      isExplicit := ← column bool "explicit_consent" (some true) input
      ipAddress := ← column text "ip_address" none input
      userAgent := ← column text "user_agent" none input
      contentHash := ← column text "content_hash" none input
      notes := ← maybe text "notes" input }
  | .events => return .event {
      id := ← idIn "event_id"
      kind := ← column Fields.eventKind "event_type" none input
      team := ← column uuid "team_id" none input
      user := ← column uuid "user_id" none input
      occurredAt := ← column universalInstant "occurred_at" none input
      processedAt := ← maybe universalInstant "processed_at" input
      abandonedAt := ← maybe universalInstant "abandoned_at" input
      retryCount := ← column int "retry_count" (some 0) input
      lastError := ← maybe text "last_error" input
      key := ← column text "deduplication_key" none input
      source := ← maybe Fields.source "sync_source" input }
  | .audit => return .entry {
      id := ← idIn "entry_id"
      action := ← column Fields.action "action" none input
      entityType := ← column text "entity_type" none input
      entity := ← column uuid "entity_id" none input
      description := ← column text "description" none input
      occurredAt := ← column universalInstant "occurred_at" none input
      actorUser := ← maybe uuid "actor_user_id" input
      actorName := ← column text "actor_name" none input
      relatedEntity := ← maybe uuid "related_entity_id" input
      relatedType := ← maybe text "related_entity_type" input
      source := ← maybe Fields.source "sync_source" input }

end Row

/-- The name of the column that holds the identifiers of a table. -/
def Table.idColumn : Table → String
  | .users => "user_id"
  | .profiles => "profile_id"
  | .grants => "role_assignment_id"
  | .teams => "team_id"
  | .members => "team_member_id"
  | .documents => "legal_document_id"
  | .versions => "document_version_id"
  | .consents => "consent_record_id"
  | .events => "event_id"
  | .audit => "entry_id"

end Roster
