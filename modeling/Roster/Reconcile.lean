/-
**Reconciling derived teams.**

A pass compares the members of a team with those its rule asks for and applies only the difference.
Every change is written with its audit entry and its event to relay, all of a pass in one transaction,
so a pass that fails changes nothing.

* `Reconcile.pass` — one team.
* `Reconcile.all` — the three derived teams in order, until the signal to stop.
-/

import Roster.Audit
import Roster.Eligibility
import Roster.Outbox.Basic

namespace Roster.Reconcile

/-- The derived teams in the order in which they are reconciled. -/
def order : List TeamKind := [.volunteers, .metaleads, .board]

/-- The name under which changes are recorded if no other is set. -/
def defaultJobName : String := "SystemTeamSyncJob"

/-- What a pass changed. -/
structure PassResult where
  kind : TeamKind
  team : Option Uuid := none
  added : List Uuid := []
  removed : List Uuid := []
  skipped : Bool := false
deriving DecidableEq, Repr, Inhabited

namespace PassResult

/-- Somebody was added or removed. -/
def changed (result : PassResult) : Bool := !result.added.isEmpty || !result.removed.isEmpty

/-- A pass in numbers. -/
def summary (result : PassResult) : Value :=
  .table [("team", .text result.kind.label), ("added", .int result.added.length),
    ("removed", .int result.removed.length), ("skipped", .bool result.skipped)]

end PassResult

/-- What a run over all derived teams did. -/
structure SyncRun where
  passes : List PassResult := []
  cancelled : Bool := false
deriving DecidableEq, Repr, Inhabited

/-- A run in numbers. -/
def SyncRun.summary (run : SyncRun) : Value :=
  .table [("teams", .list (run.passes.map PassResult.summary)), ("cancelled", .bool run.cancelled)]

/-- Under which circumstances a pass is made. -/
structure Mode where
  now : Instant
  source : SyncSource := .systemTeamSync
  jobName : String := defaultJobName
deriving Repr, Inhabited

/-- Identifiers in the order of their texts. -/
def sorted (ids : List Uuid) : List Uuid := ids.mergeSort fun a b => decide (a ≤ b)

/-- The teams of a kind. -/
def teamsOfIn (kind : TeamKind) (store : Store) : List Team :=
  store.teams.filter fun team => team.kind = kind

/-- The open stays in a team. -/
def openStaysIn (team : Uuid) (store : Store) : List TeamMember :=
  store.members.filter fun stay => stay.team = team ∧ stay.isOpen

/-- The names of the users among some. -/
def namesIn (users : List Uuid) (store : Store) : List (Uuid × String) :=
  (store.users.filter fun user => users.contains user.id).map fun user =>
    (user.id, user.displayName)

/-- The name of a user, or their identifier if no name is known. -/
def nameOf (names : List (Uuid × String)) (user : Uuid) : String :=
  ((names.find? (·.1 = user)).map (·.2)).getD user.text

/-- The entry that documents that a user was added or removed. -/
def report (mode : Mode) (team : Team) (user : Uuid) (action : AuditAction) (change : String) :
    Audit.Report where
  action := action
  entityType := "Team"
  entity := team.id
  description := change ++ team.name ++ " by system sync"
  actor := Actor.job mode.jobName
  relatedEntity := some user
  relatedType := some "User"
  source := some mode.source
  occurredAt := some mode.now

/-- The event that relays that a user was added or removed. -/
def orderFor (mode : Mode) (team : Team) (user : Uuid) (kind : EventKind) : Outbox.Order where
  kind := kind
  team := team.id
  user := user
  occurredAt := some mode.now
  source := some mode.source

/-- Adds a user to a team. -/
def add (mode : Mode) (team : Team) (names : List (Uuid × String)) (user : Uuid) :
    Transaction Unit := do
  let id ← Act.issueMember
  Transaction.stage (.insert (.member
    { id, team := team.id, user, role := .member, joinedAt := mode.now, leftAt := none }))
  let _ ← Audit.append (report mode team user .teamMemberAdded (nameOf names user ++ " added to "))
  let _ ← Outbox.enqueue (orderFor mode team user .add)

/-- Ends the stay of a user in a team. -/
def remove (mode : Mode) (team : Team) (names : List (Uuid × String)) (stay : TeamMember) :
    Transaction Unit := do
  Transaction.stage (.change (.member { stay with leftAt := some mode.now }))
  let _ ← Audit.append
    (report mode team stay.user .teamMemberRemoved (nameOf names stay.user ++ " removed from "))
  let _ ← Outbox.enqueue (orderFor mode team stay.user .remove)

/-- Applies the difference between the members of a team and those its rule asks for. -/
def applyDifference (mode : Mode) (team : Team) (stays : List TeamMember) (added removed : List Uuid) :
    Transaction Unit := do
  let names ← Transaction.read (namesIn (added ++ removed))
  added.forM (add mode team names)
  removed.forM fun user =>
    match stays.find? (·.user = user) with
    | some stay => remove mode team names stay
    | none => pure ()
  Transaction.stage (.change (.team { team with updatedAt := mode.now }))

/-- What a pass does in its transaction; it names the team if it changed it. -/
def body (kind : TeamKind) (rule : Eligibility) (mode : Mode) :
    Transaction ((PassResult × Option String) × Ending) := do
  match ← Transaction.readOne (teamsOfIn kind) with
  | none =>
    Act.note (.teamMissing kind)
    return (({ kind, skipped := true }, none), .discard)
  | some team =>
    let stays ← Transaction.read (openStaysIn team.id)
    let eligible ← rule mode.now
    let members := stays.map TeamMember.user
    let added := sorted ((distinct eligible).filter fun user => !members.contains user)
    let removed := sorted (members.filter fun user => !eligible.contains user)
    let result : PassResult := { kind, team := some team.id, added, removed }
    if !result.changed then
      Act.note (.teamUpToDate team.name)
      return ((result, none), .discard)
    applyDifference mode team stays added removed
    return ((result, some team.name), .keep)

/-- Brings one derived team in line with its rule, or with the given one. -/
def pass (kind : TeamKind) (rule : Option Eligibility) (mode : Mode) : Application PassResult := do
  match rule <|> Eligibility.builtIn? kind with
  | none => throw (.noRule kind)
  | some rule =>
    let (result, synced) ←
      try Application.transact (body kind rule mode)
      catch failure =>
        if !failure.isInterrupt then Act.note (.passFailed kind)
        throw failure
    match synced with
    | some name => Act.note (.teamSynced name result.added.length result.removed.length)
    | none => pure ()
    return result

/-- Reconciles the teams of some kinds, until the signal to stop. -/
def passes (mode : Mode) : List TeamKind → Application SyncRun
  | [] => return {}
  | kind :: rest => do
    if ← Act.isCancelled then
      Act.note (.syncCancelled kind)
      return { cancelled := true }
    else
      let result ← pass kind none mode
      let later ← passes mode rest
      return { later with passes := result :: later.passes }

/-- Reconciles the three derived teams, one transaction each. -/
def all (mode : Mode) : Application SyncRun := do
  Act.note (.syncStarted mode.now)
  let run ← passes mode order
  Act.note (.syncCompleted run.passes.length (run.passes.filter PassResult.changed).length
    run.cancelled)
  return run

end Roster.Reconcile
