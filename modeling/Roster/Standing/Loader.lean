/-
**Standings from the store.**

The standing of one member is found by asking the store for no more than the rules need; the
questions about many members at once ask once for the requirements and once for the consents.

* `Standing.load` — the standing of a member.
* `Standing.requirements` — the requirements of everybody, or of the members of a team.
* `Standing.missingConsents`, `Standing.hasAllConsents`, `Standing.hasExpiredConsents` — one member.
* `Standing.withAllConsents`, `Standing.withExpiredConsent`, `Standing.requiringUpdate` — many.
* `Standing.snapshot` — the standing and the consents as the member sees them.
-/

import Roster.Consent
import Roster.Standing

namespace Roster

namespace Standing

/-- The profiles of a user. -/
def profilesIn (user : Uuid) (store : Store) : List Profile :=
  store.profiles.filter fun profile => profile.user = user

/-- The roles of a user that are in force. -/
def activeGrantsIn (user : Uuid) (now : Instant) (store : Store) : List RoleGrant :=
  store.grants.filter fun grant => grant.user = user ∧ grant.isActive now

/-- The users who have some role in force. -/
def roleHoldersIn (now : Instant) (store : Store) : List Uuid :=
  distinct ((store.grants.filter (·.isActive now)).map RoleGrant.user)

/-- The versions in force of the active, required documents of a scope, with their documents. -/
def requiredRowsIn (scope : Option Uuid) (now : Instant) (store : Store) :
    List (DocumentVersion × LegalDocument) :=
  store.versions.flatMap fun version =>
    (store.documents.filter fun document =>
      version.document = document.id ∧ document.isActive ∧ document.isRequired
        ∧ document.team = scope ∧ version.effectiveFrom ≤ now).map fun document =>
      (version, document)

/-- The user is in the team of the volunteers now. -/
def isVolunteerIn (user : Uuid) (store : Store) : Bool :=
  store.members.any fun stay => stay.user = user ∧ stay.isOpen
    ∧ store.teams.any fun team => team.id = stay.team ∧ team.kind = .volunteers

/-- The requirements of a scope: of everybody, or of the members of a team. -/
def requirements (scope : Option Uuid) (now : Instant) : Transaction (List Requirement) :=
  Transaction.read fun store => Requirement.current (requiredRowsIn scope now store) now

/-- The versions that a user agreed to, if there is anything to agree to. -/
def consentedTo (required : List Requirement) (user : Uuid) : Transaction (List Uuid) :=
  if required.isEmpty then return [] else Consent.versionsOf user

/-- The standing of a member. What everybody has to agree to decides. -/
def load (user : Uuid) (now : Instant) : Transaction Standing := do
  match ← Transaction.readOne (profilesIn user) with
  | Option.none => return .none
  | some profile =>
    if profile.isSuspended || !profile.isApproved then
      Act.inTime (ofFacts profile.flags [] [] [] now)
    else
      let roles ← Transaction.read (activeGrantsIn user now)
      if roles.isEmpty then return .none
      let required ← requirements Option.none now
      let consented ← consentedTo required user
      Act.inTime (ofFacts profile.flags (roles.map RoleGrant.window) required consented now)

/-- The required versions that a user has not agreed to. -/
def missingConsents (user : Uuid) (now : Instant) (scope : Option Uuid) :
    Transaction (List Uuid) := do
  let required ← requirements scope now
  let consented ← consentedTo required user
  return (Requirement.missing required consented).map Requirement.version

/-- The user agreed to everything required. -/
def hasAllConsents (user : Uuid) (now : Instant) (scope : Option Uuid) : Transaction Bool :=
  return (← missingConsents user now scope).isEmpty

/-- Some requirement that the user has not agreed to is past its days of grace. -/
def hasExpiredConsents (user : Uuid) (now : Instant) (scope : Option Uuid) : Transaction Bool := do
  let required ← requirements scope now
  let consented ← consentedTo required user
  Act.inTime (Requirement.hasExpired required consented now)

/-- The user has some role in force. -/
def hasActiveRoles (user : Uuid) (now : Instant) : Transaction Bool :=
  return !(← Transaction.read (activeGrantsIn user now)).isEmpty

/-- The users among some who agreed to all of certain versions. -/
def agreedTo (users versions : List Uuid) (consented : List (Uuid × List Uuid)) : List Uuid :=
  users.filter fun user =>
    let given := ((consented.find? (·.1 = user)).map (·.2)).getD []
    versions.all (given.contains ·)

/-- The users among some who agreed to everything required. -/
def withAllConsents (users : List Uuid) (now : Instant) (scope : Option Uuid) :
    Transaction (List Uuid) := do
  let users := distinct users
  if users.isEmpty then return []
  let required ← requirements scope now
  if required.isEmpty then return users
  let versions := required.map Requirement.version
  let consented ← Consent.versionsOfAll users (some versions)
  return agreedTo users versions consented

/-- The users among some who have not agreed to a requirement past its days of grace. -/
def withExpiredConsent (users : List Uuid) (now : Instant) (scope : Option Uuid) :
    Transaction (List Uuid) := do
  let users := distinct users
  if users.isEmpty then return []
  let required ← requirements scope now
  let expired ← Act.inTime (required.filterM (·.isExpired now))
  if expired.isEmpty then return []
  let versions := expired.map Requirement.version
  let consented ← Consent.versionsOfAll users (some versions)
  let agreed := agreedTo users versions consented
  return users.filter fun user => !agreed.contains user

/-- The users with a role in force who have not agreed to a requirement past its days of grace. -/
def requiringUpdate (now : Instant) : Transaction (List Uuid) := do
  let holders ← Transaction.read (roleHoldersIn now)
  let users ← withExpiredConsent holders now Option.none
  if !users.isEmpty then
    Act.note (.requiringUpdate users.length holders.length)
  return users

/-- The standing and the consents as the member sees them. -/
structure Snapshot where
  standing : Standing
  isVolunteer : Bool
  requiredCount : Nat
  pendingCount : Nat
  missingVersions : List Uuid
deriving Repr, Inhabited

/-- The standing and the consents of a member. -/
def snapshot (user : Uuid) (now : Instant) : Transaction Snapshot := do
  let standing ← load user now
  let required ← requirements Option.none now
  let consented ← consentedTo required user
  let missing := Requirement.missing required consented
  let isVolunteer ← Transaction.read (isVolunteerIn user)
  return {
    standing
    isVolunteer
    requiredCount := required.length
    pendingCount := missing.length
    missingVersions := missing.map Requirement.version }

end Standing

end Roster
