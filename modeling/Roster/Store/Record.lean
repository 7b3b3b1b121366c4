/-
**The records of the membership store.**

Ten kinds of record are kept: users, their profiles and role grants, teams and their members, legal
documents with their versions and the consents given to them, the outbox of changes to relay, and
the audit log. Each closed set of words has a type of its own, with the word that is stored.

* `User`, `Profile`, `RoleGrant` — who somebody is and what they were granted.
* `Team`, `TeamMember` — membership, with its history.
* `LegalDocument`, `DocumentVersion`, `ConsentRecord` — what has to be agreed to, and who did.
* `OutboxEvent`, `AuditEntry` — what has to be relayed, and what happened.
-/

import Roster.Time.Instant
import Roster.Uuid

namespace Roster

/-- How a team gets its members: `none` by hand, the others by a rule. -/
inductive TeamKind where
  | none
  | volunteers
  | metaleads
  | board
deriving DecidableEq, Repr, Inhabited

/-- The role of a member inside a team. -/
inductive TeamRole where
  | member
  | metalead
deriving DecidableEq, Repr, Inhabited

/-- What a relayed event asks for. A label outside the two known ones is kept as it was found. -/
inductive EventKind where
  | add
  | remove
  | other (label : String)
deriving DecidableEq, Repr, Inhabited

/-- What caused a change of membership. -/
inductive SyncSource where
  | teamMemberJoined
  | teamMemberLeft
  | manualSync
  | scheduledSync
  | suspension
  | systemTeamSync
deriving DecidableEq, Repr, Inhabited

/-- What an audit entry records. -/
inductive AuditAction where
  | teamMemberAdded
  | teamMemberRemoved
  | memberSuspended
  | memberUnsuspended
  | memberApproved
  | roleAssigned
  | roleEnded
  | consentRecorded
deriving DecidableEq, Repr, Inhabited

/-- The stored word of a team kind. -/
def TeamKind.label : TeamKind → String
  | .none => "none"
  | .volunteers => "volunteers"
  | .metaleads => "metaleads"
  | .board => "board"

/-- All team kinds in their declared order. -/
def TeamKind.all : List TeamKind := [.none, .volunteers, .metaleads, .board]

/-- The stored word of a team role. -/
def TeamRole.label : TeamRole → String
  | .member => "member"
  | .metalead => "metalead"

/-- All team roles in their declared order. -/
def TeamRole.all : List TeamRole := [.member, .metalead]

/-- The stored word of an event kind. -/
def EventKind.label : EventKind → String
  | .add => "add_user_to_team_resources"
  | .remove => "remove_user_from_team_resources"
  | .other label => label

/-- The event kinds that can be stored, in their declared order. -/
def EventKind.all : List EventKind := [.add, .remove]

/-- The kind that undoes another one. -/
def EventKind.opposite? : EventKind → Option EventKind
  | .add => some .remove
  | .remove => some .add
  | .other _ => Option.none

/-- The stored word of a source. -/
def SyncSource.label : SyncSource → String
  | .teamMemberJoined => "team_member_joined"
  | .teamMemberLeft => "team_member_left"
  | .manualSync => "manual_sync"
  | .scheduledSync => "scheduled_sync"
  | .suspension => "suspension"
  | .systemTeamSync => "system_team_sync"

/-- All sources in their declared order. -/
def SyncSource.all : List SyncSource :=
  [.teamMemberJoined, .teamMemberLeft, .manualSync, .scheduledSync, .suspension, .systemTeamSync]

/-- The stored word of an action. -/
def AuditAction.label : AuditAction → String
  | .teamMemberAdded => "team_member_added"
  | .teamMemberRemoved => "team_member_removed"
  | .memberSuspended => "member_suspended"
  | .memberUnsuspended => "member_unsuspended"
  | .memberApproved => "member_approved"
  | .roleAssigned => "role_assigned"
  | .roleEnded => "role_ended"
  | .consentRecorded => "consent_recorded"

/-- All actions in their declared order. -/
def AuditAction.all : List AuditAction :=
  [.teamMemberAdded, .teamMemberRemoved, .memberSuspended, .memberUnsuspended, .memberApproved,
    .roleAssigned, .roleEnded, .consentRecorded]

/-- The member of a closed set that has a stored word. -/
def ofLabel? {α : Type} (all : List α) (label : α → String) (word : String) : Option α :=
  all.find? (label · == word)

/-- A person known to the system. -/
structure User where
  id : Uuid
  displayName : String
  email : Option String
deriving DecidableEq, Repr, Inhabited

/-- What decides about a person's access before roles and consents are looked at. -/
structure Profile where
  id : Uuid
  updatedAt : Instant
  user : Uuid
  isApproved : Bool
  isSuspended : Bool
  adminNotes : Option String
deriving DecidableEq, Repr, Inhabited

/-- A named role given to a person for a time; `validTo` is the first instant outside it. -/
structure RoleGrant where
  id : Uuid
  user : Uuid
  roleName : String
  validFrom : Instant
  validTo : Option Instant
  notes : Option String
  createdBy : Option Uuid
deriving DecidableEq, Repr, Inhabited

/-- A working group. -/
structure Team where
  id : Uuid
  updatedAt : Instant
  name : String
  slug : String
  isActive : Bool
  kind : TeamKind
deriving DecidableEq, Repr, Inhabited

/-- One stay of a person in a team, open while `leftAt` is not set. -/
structure TeamMember where
  id : Uuid
  team : Uuid
  user : Uuid
  role : TeamRole
  joinedAt : Instant
  leftAt : Option Instant
deriving DecidableEq, Repr, Inhabited

/-- A document that members may have to agree to. Without a team it concerns everybody. -/
structure LegalDocument where
  id : Uuid
  name : String
  team : Option Uuid
  isRequired : Bool
  isActive : Bool
  graceDays : Int
  sourcePath : Option String
  lastSyncedAt : Option Instant
deriving DecidableEq, Repr, Inhabited

/-- One published version of a document. -/
structure DocumentVersion where
  id : Uuid
  document : Uuid
  number : String
  commit : Option String
  effectiveFrom : Instant
  requiresReConsent : Bool
  changesSummary : Option String
deriving DecidableEq, Repr, Inhabited

/-- The record that a person agreed to a version; only an explicit one satisfies a requirement. -/
structure ConsentRecord where
  id : Uuid
  user : Uuid
  version : Uuid
  consentedAt : Instant
  isExplicit : Bool
  ipAddress : String
  userAgent : String
  contentHash : String
  notes : Option String
deriving DecidableEq, Repr, Inhabited

/-- A change of somebody's access that has to be relayed, with what became of it. -/
structure OutboxEvent where
  id : Uuid
  kind : EventKind
  team : Uuid
  user : Uuid
  occurredAt : Instant
  processedAt : Option Instant
  abandonedAt : Option Instant
  retryCount : Int
  lastError : Option String
  key : String
  source : Option SyncSource
deriving DecidableEq, Repr, Inhabited

/-- One recorded change and who made it. -/
structure AuditEntry where
  id : Uuid
  action : AuditAction
  entityType : String
  entity : Uuid
  description : String
  occurredAt : Instant
  actorUser : Option Uuid
  actorName : String
  relatedEntity : Option Uuid
  relatedType : Option String
  source : Option SyncSource
deriving DecidableEq, Repr, Inhabited

/-- The stay is not over. -/
def TeamMember.isOpen (stay : TeamMember) : Bool := stay.leftAt.isNone

/-- The team gets its members by a rule. -/
def Team.isSystem (team : Team) : Bool := team.kind != .none

/-- The event is neither processed nor abandoned. -/
def OutboxEvent.isPending (event : OutboxEvent) : Bool :=
  event.processedAt.isNone && event.abandonedAt.isNone

end Roster
