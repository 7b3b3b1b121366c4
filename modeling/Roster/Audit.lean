/-
**The audit log.**

An entry says what was changed, and who changed it: a job under its name, or an administrator under a
name that outlives their account. Entries are staged with the change they document, so one is
committed exactly when the other is.

* `Actor.job`, `Actor.admin` — who can change something.
* `Audit.append` — stages an entry.
* `Audit.ofEntity`, `Audit.ofUser`, `Audit.recent` — the newest entries first.
-/

import Roster.Session
import Roster.Text.Clip

namespace Roster

/-- Who performed a change. -/
structure Actor where
  name : String
  user : Option Uuid := none
deriving DecidableEq, Repr, Inhabited

namespace Actor

/-- How many code points of an actor's name are kept. -/
def maxNameLength : Nat := 200

/-- A job acts under its name. -/
def job (name : String) : Actor := ⟨Text.clip maxNameLength name, none⟩

/-- An administrator acts under a name that is marked as one, and under their identifier. -/
def admin (user : Uuid) (displayName : String) : Actor :=
  ⟨Text.clip maxNameLength ("Admin: " ++ displayName), some user⟩

/-- The actor is a job. -/
def isJob (actor : Actor) : Bool := actor.user.isNone

end Actor

namespace Audit

/-- How many code points a description may have. -/
def maxDescriptionLength : Nat := 4000

/-- A description that is too long loses its end to three points. -/
def clipDescription (description : String) : String :=
  if description.length ≤ maxDescriptionLength then description
  else Text.clip (maxDescriptionLength - 3) description ++ "..."

/-- A change as it is reported to the log. -/
structure Report where
  action : AuditAction
  entityType : String
  entity : Uuid
  description : String
  actor : Actor
  relatedEntity : Option Uuid := none
  relatedType : Option String := none
  source : Option SyncSource := none
  occurredAt : Option Instant := none
deriving Repr, Inhabited

/-- The entry that a report makes. -/
def Report.entry (report : Report) (id : Uuid) (clock : Instant) : AuditEntry where
  id := id
  action := report.action
  entityType := report.entityType
  entity := report.entity
  description := clipDescription report.description
  occurredAt := report.occurredAt.getD clock
  actorUser := report.actor.user
  actorName := report.actor.name
  relatedEntity := report.relatedEntity
  relatedType := report.relatedType
  source := report.source

/-- Stages an entry; it is saved with the rest of the transaction. -/
def append (report : Report) : Transaction AuditEntry := do
  let id ← Act.issueEntry
  let entry := report.entry id (← Act.readClock)
  Transaction.stage (.insert (.entry entry))
  Act.note (.entryStaged report.action report.entityType report.entity report.actor.name)
  return entry

/-- The entries that satisfy a condition, the newest first, up to a limit. -/
def newestIn (wanted : AuditEntry → Bool) (limit : Nat) (store : Store) : List AuditEntry :=
  ((store.audit.filter wanted).mergeSort fun a b => decide (b.occurredAt ≤ a.occurredAt)).take limit

/-- The entry is about an entity. -/
def isAbout (entityType : String) (entity : Uuid) (entry : AuditEntry) : Bool :=
  entry.entityType = entityType ∧ entry.entity = entity

/-- The entry is about a user, or a user is the related entity. -/
def concerns (user : Uuid) (entry : AuditEntry) : Bool :=
  isAbout "User" user entry || (entry.relatedType = some "User" ∧ entry.relatedEntity = some user)

/-- The entries about an entity. -/
def ofEntity (entityType : String) (entity : Uuid) (limit : Nat) : Transaction (List AuditEntry) :=
  Transaction.read (newestIn (isAbout entityType entity) limit)

/-- The entries that concern a user. -/
def ofUser (user : Uuid) (limit : Nat) : Transaction (List AuditEntry) :=
  Transaction.read (newestIn (concerns user) limit)

/-- The latest entries, perhaps of one action only. -/
def recent (limit : Nat) (action : Option AuditAction) : Transaction (List AuditEntry) :=
  Transaction.read (newestIn (fun entry => action.all (entry.action = ·)) limit)

/-- How many entries are read if no limit is given. -/
def defaultLimit : Nat := 100

/-- How many recent entries are read if no limit is given. -/
def defaultRecentLimit : Nat := 50

end Audit

end Roster
