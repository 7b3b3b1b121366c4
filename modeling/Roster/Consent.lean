/-
**Consents.**

A consent is recorded once for a user and a version and never changes. Only an explicit one counts as
agreement; one that is not explicit still stands in the way of another record.

* `Consent.ofUser`, `Consent.of`, `Consent.isGiven`, `Consent.versionsOf`, `Consent.versionsOfAll`,
  `Consent.usersWithout` — the look-ups.
* `Consent.give` — records a consent.
-/

import Roster.Digest
import Roster.Session
import Roster.Text.Clip

namespace Roster.Consent

/-- How many code points of a browser's description are kept. -/
def maxAgentLength : Nat := 1024

/-- The consents of a user, the newest first. -/
def ofUserIn (user : Uuid) (store : Store) : List ConsentRecord :=
  (store.consents.filter fun record => record.user = user).mergeSort fun a b =>
    decide (b.consentedAt ≤ a.consentedAt)

/-- The records of a user for a version. -/
def recordsIn (user version : Uuid) (store : Store) : List ConsentRecord :=
  store.consents.filter fun record => record.user = user ∧ record.version = version

/-- The user agreed to the version explicitly. -/
def isGivenIn (user version : Uuid) (store : Store) : Bool :=
  store.consents.any fun record => record.user = user ∧ record.version = version ∧ record.isExplicit

/-- The versions that a user agreed to explicitly. -/
def versionsIn (user : Uuid) (store : Store) : List Uuid :=
  distinct ((store.consents.filter fun record => record.user = user ∧ record.isExplicit).map
    (·.version))

/-- The users who did not agree to a version explicitly. -/
def usersWithoutIn (version : Uuid) (store : Store) : List Uuid :=
  let agreed := (store.consents.filter fun record => record.version = version ∧ record.isExplicit).map
    (·.user)
  (store.users.map User.id).filter fun user => !agreed.contains user

/-- Who among some users agreed explicitly to what, perhaps among certain versions only. -/
def agreementsIn (users : List Uuid) (among : Option (List Uuid)) (store : Store) :
    List (Uuid × Uuid) :=
  (store.consents.filter fun record => users.contains record.user ∧ record.isExplicit
    ∧ among.all (·.contains record.version)).map fun record => (record.user, record.version)

/-- Enters a version with the user who agreed to it, unless it is there. The user needs to have an
entry. -/
def enter (user version : Uuid) :
    List (Uuid × List Uuid) → Except Failure (List (Uuid × List Uuid))
  | [] => .error (.noEntry user)
  | entry :: rest =>
    if entry.1 = user then
      .ok ((user, if entry.2.contains version then entry.2 else entry.2 ++ [version]) :: rest)
    else (enter user version rest).map (entry :: ·)

/-- The consents of a user, the newest first. -/
def ofUser (user : Uuid) : Transaction (List ConsentRecord) :=
  Transaction.read (ofUserIn user)

/-- The record of a user for a version. -/
def of (user version : Uuid) : Transaction (Option ConsentRecord) :=
  Transaction.readOne (recordsIn user version)

/-- Whether the user agreed to the version explicitly. -/
def isGiven (user version : Uuid) : Transaction Bool :=
  Transaction.read (isGivenIn user version)

/-- The versions that a user agreed to explicitly. -/
def versionsOf (user : Uuid) : Transaction (List Uuid) :=
  Transaction.read (versionsIn user)

/-- The versions that each of several users agreed to explicitly, perhaps among certain versions only.
Every user asked about has an answer. -/
def versionsOfAll (users : List Uuid) (among : Option (List Uuid)) :
    Transaction (List (Uuid × List Uuid)) := do
  let users := distinct users
  if users.isEmpty then return []
  let unentered := users.map fun user => (user, [])
  if among = some [] then return unentered
  let agreements ← Transaction.read (agreementsIn users among)
  MonadExcept.ofExcept (agreements.foldlM (fun entries agreement =>
    enter agreement.1 agreement.2 entries) unentered)

/-- The users who did not agree to a version explicitly. -/
def usersWithout (version : Uuid) : Transaction (List Uuid) :=
  Transaction.read (usersWithoutIn version)

/-- What somebody agreed to, and how. -/
structure Given where
  user : Uuid
  version : Uuid
  /-- The digest of the content that was shown. -/
  contentHash : String
  ipAddress : String
  userAgent : String
  isExplicit : Bool := true
  consentedAt : Option Instant := none
deriving Repr, Inhabited

/-- The same with the digest of the content that was shown. -/
def Given.showing (given : Given) (content : Digest.Content) : Given :=
  { given with contentHash := Digest.ofContent content }

/-- Records a consent, unless the user has a record for the version already. -/
def give (given : Given) : Transaction ConsentRecord := do
  if (← of given.user given.version).isSome then
    throw (.alreadyConsented given.user given.version)
  let id ← Act.issueConsent
  let clock ← Act.readClock
  let record : ConsentRecord :=
    { id
      user := given.user
      version := given.version
      consentedAt := given.consentedAt.getD clock
      isExplicit := given.isExplicit
      ipAddress := given.ipAddress
      userAgent := Text.clip maxAgentLength given.userAgent
      contentHash := given.contentHash
      notes := none }
  Transaction.stage (.insert (.consent record))
  Transaction.flush
  Act.note (.consentRecorded given.user given.version given.isExplicit)
  return record

end Roster.Consent
