/-
**The membership store.**

A store keeps ten tables of records in the order of their insertion. Its rules are stated on the whole
store: identifiers are distinct within a table, the unique indexes hold (a partial one only over the
rows it covers, and absent values never collide), a role grant ends after it begins, and, where the
store enforces references, every reference leads to a row that exists.

* `Store.Valid` — the rules.
* `Store.insert`, `Store.change` — one row added at the end, or replaced in its place.
* `Store.remove` — rows taken out, with what happens to the rows that refer to them.
-/

import Roster.Store.Record

namespace Roster

/-- The tables, in the order in which they are shown. -/
inductive Table where
  | users
  | profiles
  | grants
  | teams
  | members
  | documents
  | versions
  | consents
  | events
  | audit
deriving DecidableEq, Repr, Inhabited

/-- All tables in the order in which they are shown. -/
def Table.all : List Table :=
  [.users, .profiles, .grants, .teams, .members, .documents, .versions, .consents, .events, .audit]

/-- The stored name of a table. -/
def Table.name : Table → String
  | .users => "users"
  | .profiles => "profiles"
  | .grants => "role_assignments"
  | .teams => "teams"
  | .members => "team_members"
  | .documents => "legal_documents"
  | .versions => "document_versions"
  | .consents => "consent_records"
  | .events => "outbox_events"
  | .audit => "audit_log"

/-- A record of some table. -/
inductive Row where
  | user (row : User)
  | profile (row : Profile)
  | grant (row : RoleGrant)
  | team (row : Team)
  | member (row : TeamMember)
  | document (row : LegalDocument)
  | version (row : DocumentVersion)
  | consent (row : ConsentRecord)
  | event (row : OutboxEvent)
  | entry (row : AuditEntry)
deriving DecidableEq, Repr, Inhabited

/-- The table that a row belongs to. -/
def Row.table : Row → Table
  | .user _ => .users
  | .profile _ => .profiles
  | .grant _ => .grants
  | .team _ => .teams
  | .member _ => .members
  | .document _ => .documents
  | .version _ => .versions
  | .consent _ => .consents
  | .event _ => .events
  | .entry _ => .audit

/-- The identifier of a row. -/
def Row.id : Row → Uuid
  | .user row => row.id
  | .profile row => row.id
  | .grant row => row.id
  | .team row => row.id
  | .member row => row.id
  | .document row => row.id
  | .version row => row.id
  | .consent row => row.id
  | .event row => row.id
  | .entry row => row.id

/-- The ten tables, and whether references between them are enforced. -/
structure Store where
  users : List User := []
  profiles : List Profile := []
  grants : List RoleGrant := []
  teams : List Team := []
  members : List TeamMember := []
  documents : List LegalDocument := []
  versions : List DocumentVersion := []
  consents : List ConsentRecord := []
  events : List OutboxEvent := []
  audit : List AuditEntry := []
  enforcesReferences : Bool := false
deriving DecidableEq, Repr, Inhabited

namespace Store

/-- The rows of one table, in the order of their insertion. -/
def rows (store : Store) : Table → List Row
  | .users => store.users.map .user
  | .profiles => store.profiles.map .profile
  | .grants => store.grants.map .grant
  | .teams => store.teams.map .team
  | .members => store.members.map .member
  | .documents => store.documents.map .document
  | .versions => store.versions.map .version
  | .consents => store.consents.map .consent
  | .events => store.events.map .event
  | .audit => store.audit.map .entry

/-- Adds a row at the end of its table. -/
def insert (store : Store) : Row → Store
  | .user row => { store with users := store.users ++ [row] }
  | .profile row => { store with profiles := store.profiles ++ [row] }
  | .grant row => { store with grants := store.grants ++ [row] }
  | .team row => { store with teams := store.teams ++ [row] }
  | .member row => { store with members := store.members ++ [row] }
  | .document row => { store with documents := store.documents ++ [row] }
  | .version row => { store with versions := store.versions ++ [row] }
  | .consent row => { store with consents := store.consents ++ [row] }
  | .event row => { store with events := store.events ++ [row] }
  | .entry row => { store with audit := store.audit ++ [row] }

/-- Puts a record in the place of the one with the given identifier. -/
def replaced {α : Type} (idOf : α → Uuid) (id : Uuid) (row : α) (table : List α) : List α :=
  table.map fun other => if idOf other = id then row else other

/-- Puts a row in the place of the one with the given identifier. -/
def changeAt (store : Store) (id : Uuid) : Row → Store
  | .user row => { store with users := replaced User.id id row store.users }
  | .profile row => { store with profiles := replaced Profile.id id row store.profiles }
  | .grant row => { store with grants := replaced RoleGrant.id id row store.grants }
  | .team row => { store with teams := replaced Team.id id row store.teams }
  | .member row => { store with members := replaced TeamMember.id id row store.members }
  | .document row => { store with documents := replaced LegalDocument.id id row store.documents }
  | .version row => { store with versions := replaced DocumentVersion.id id row store.versions }
  | .consent row => { store with consents := replaced ConsentRecord.id id row store.consents }
  | .event row => { store with events := replaced OutboxEvent.id id row store.events }
  | .entry row => { store with audit := replaced AuditEntry.id id row store.audit }

/-- Puts a row in the place of the one with its own identifier. -/
def change (store : Store) (row : Row) : Store := store.changeAt row.id row

/-! ### The rules -/

/-- The identifiers of every table are distinct. -/
def IdsDistinct (store : Store) : Prop :=
  (store.users.map User.id).Nodup ∧ (store.profiles.map Profile.id).Nodup
    ∧ (store.grants.map RoleGrant.id).Nodup ∧ (store.teams.map Team.id).Nodup
    ∧ (store.members.map TeamMember.id).Nodup ∧ (store.documents.map LegalDocument.id).Nodup
    ∧ (store.versions.map DocumentVersion.id).Nodup
    ∧ (store.consents.map ConsentRecord.id).Nodup ∧ (store.events.map OutboxEvent.id).Nodup
    ∧ (store.audit.map AuditEntry.id).Nodup

/-- The unique indexes hold: an address belongs to one user, a profile to one user, a short name and
a rule to one team; nobody is in a team twice at a time; a document has one version from an instant
on; a version is agreed to once; and a key is pending once. -/
def IndexesDistinct (store : Store) : Prop :=
  (store.users.filterMap User.email).Nodup
    ∧ (store.profiles.map Profile.user).Nodup
    ∧ (store.teams.map Team.slug).Nodup
    ∧ ((store.teams.filter Team.isSystem).map Team.kind).Nodup
    ∧ ((store.members.filter TeamMember.isOpen).map fun stay => (stay.team, stay.user)).Nodup
    ∧ (store.versions.map fun version => (version.document, version.effectiveFrom.micros)).Nodup
    ∧ (store.consents.map fun record => (record.user, record.version)).Nodup
    ∧ ((store.events.filter OutboxEvent.isPending).map OutboxEvent.key).Nodup

/-- Every role grant that ends does so after it begins. -/
def WindowsOrdered (store : Store) : Prop :=
  ∀ grant ∈ store.grants, ∀ finish ∈ grant.validTo, grant.validFrom < finish

/-- Every reference leads to a row that exists. -/
def ReferencesHold (store : Store) : Prop :=
  (∀ profile ∈ store.profiles, profile.user ∈ store.users.map User.id)
    ∧ (∀ grant ∈ store.grants, grant.user ∈ store.users.map User.id
        ∧ ∀ author ∈ grant.createdBy, author ∈ store.users.map User.id)
    ∧ (∀ stay ∈ store.members, stay.team ∈ store.teams.map Team.id
        ∧ stay.user ∈ store.users.map User.id)
    ∧ (∀ document ∈ store.documents, ∀ team ∈ document.team, team ∈ store.teams.map Team.id)
    ∧ (∀ version ∈ store.versions, version.document ∈ store.documents.map LegalDocument.id)
    ∧ (∀ record ∈ store.consents, record.user ∈ store.users.map User.id
        ∧ record.version ∈ store.versions.map DocumentVersion.id)
    ∧ (∀ entry ∈ store.audit, ∀ actor ∈ entry.actorUser, actor ∈ store.users.map User.id)

/-- The rules that a store keeps. -/
def Valid (store : Store) : Prop :=
  store.IdsDistinct ∧ store.IndexesDistinct ∧ store.WindowsOrdered
    ∧ (store.enforcesReferences = true → store.ReferencesHold)

instance (store : Store) : Decidable store.IdsDistinct := by unfold IdsDistinct; infer_instance

instance (store : Store) : Decidable store.IndexesDistinct := by
  unfold IndexesDistinct; infer_instance

instance (store : Store) : Decidable store.WindowsOrdered := by
  unfold WindowsOrdered; infer_instance

instance (store : Store) : Decidable store.ReferencesHold := by
  unfold ReferencesHold; infer_instance

instance (store : Store) : Decidable store.Valid := by unfold Valid; infer_instance

/-! ### Removal -/

/-- Forgets a reference to a row that goes. -/
def forget (goes : Uuid → Bool) (reference : Option Uuid) : Option Uuid :=
  reference.filter fun id => !goes id

/-- Takes users out: their profiles, role grants and stays go with them, grants they made and entries
they caused forget them. Consents they gave forbid it. -/
def removeUsers (store : Store) (goes : Uuid → Bool) : Option Store :=
  if store.consents.any fun record => goes record.user then none
  else some { store with
    users := store.users.filter fun user => !goes user.id
    profiles := store.profiles.filter fun profile => !goes profile.user
    grants := (store.grants.filter fun grant => !goes grant.user).map fun grant =>
      { grant with createdBy := forget goes grant.createdBy }
    members := store.members.filter fun stay => !goes stay.user
    audit := store.audit.map fun entry => { entry with actorUser := forget goes entry.actorUser } }

/-- Takes teams out, with the stays in them. Documents of the team forbid it. -/
def removeTeams (store : Store) (goes : Uuid → Bool) : Option Store :=
  if store.documents.any fun document => document.team.any goes then none
  else some { store with
    teams := store.teams.filter fun team => !goes team.id
    members := store.members.filter fun stay => !goes stay.team }

/-- Takes versions out. Consents to them forbid it. -/
def removeVersions (store : Store) (goes : DocumentVersion → Bool) : Option Store :=
  if store.consents.any fun record =>
      store.versions.any fun version => version.id == record.version && goes version then none
  else some { store with versions := store.versions.filter fun version => !goes version }

/-- Takes documents out, with their versions. -/
def removeDocuments (store : Store) (goes : Uuid → Bool) : Option Store :=
  (store.removeVersions fun version => goes version.document).map fun rest =>
    { rest with documents := rest.documents.filter fun document => !goes document.id }

/-- Takes rows out of a table without regard to references. -/
def dropRows (store : Store) (table : Table) (goes : Uuid → Bool) : Store :=
  match table with
  | .users => { store with users := store.users.filter fun row => !goes row.id }
  | .profiles => { store with profiles := store.profiles.filter fun row => !goes row.id }
  | .grants => { store with grants := store.grants.filter fun row => !goes row.id }
  | .teams => { store with teams := store.teams.filter fun row => !goes row.id }
  | .members => { store with members := store.members.filter fun row => !goes row.id }
  | .documents => { store with documents := store.documents.filter fun row => !goes row.id }
  | .versions => { store with versions := store.versions.filter fun row => !goes row.id }
  | .consents => { store with consents := store.consents.filter fun row => !goes row.id }
  | .events => { store with events := store.events.filter fun row => !goes row.id }
  | .audit => { store with audit := store.audit.filter fun row => !goes row.id }

/-- Takes the rows with certain identifiers out of a table: `none` if a reference forbids it. -/
def remove (store : Store) (table : Table) (goes : Uuid → Bool) : Option Store :=
  if store.enforcesReferences then
    match table with
    | .users => store.removeUsers goes
    | .teams => store.removeTeams goes
    | .documents => store.removeDocuments goes
    | .versions => store.removeVersions fun version => goes version.id
    | _ => some (store.dropRows table goes)
  else some (store.dropRows table goes)

end Store

end Roster
