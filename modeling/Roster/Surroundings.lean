/-
**What the system lives among.**

The surroundings are everything outside the store that a step can see or change: the clock, the
signal to stop, an outage of the database that may be about to strike, the pool of connections to
it, the numbers of the identifiers issued so far, the groupware that keeps the resources of the
teams, and the journal.

The groupware is a function of all the requests it has had: any behaviour of it, also one that
changes its mind, is such a function.

* `Act` — an action on the surroundings that may fail; what it did before a failure stays done.
* `Groupware` — how the groupware replies.
* `send` — a statement on its way to the database, which an outage may stop.
* `ask` — a request to the groupware.
-/

import Roster.Journal

namespace Roster

/-- A change of somebody's access to the resources of a team. -/
inductive Access where
  | granted
  | revoked
deriving DecidableEq, Repr, Inhabited

/-- What the groupware is asked to do. -/
structure Request where
  access : Access
  team : Uuid
  user : Uuid
deriving DecidableEq, Repr, Inhabited

/-- What the groupware does with a request: it takes its time, it may raise the signal to stop, and
it may refuse. -/
structure Reply where
  delay : Except TimeError Span := .ok ⟨0⟩
  stops : Bool := false
  failure : Option Failure := none
  notices : List Notice := []
deriving Inhabited

/-- How the groupware replies to a request after the requests it has had, the oldest first. -/
abbrev Groupware := List Request → Request → Reply

/-- The groupware that does nothing but note what it would do. -/
def Groupware.dryRun : Groupware := fun _ request =>
  { notices := [match request.access with
      | .granted => .wouldAdd request.team request.user
      | .revoked => .wouldRemove request.team request.user] }

/-- What a statement does. -/
inductive StatementKind where
  | read
  | write
  | commit
deriving DecidableEq, Repr, Inhabited

/-- An outage that stops one statement of a kind, after so many that get through. -/
structure Outage where
  stops : StatementKind
  name : FailureName := .database
  message : String
  passes : Nat
deriving Repr, Inhabited

/-- How many identifiers of each sort have been issued. -/
structure Issued where
  entries : Nat := 0
  members : Nat := 0
  consents : Nat := 0
  events : Nat := 0
  rows : Nat := 0
deriving DecidableEq, Repr, Inhabited

/-- The pool of connections to the database: why it cannot be opened, if it cannot, and how often it
was opened and closed. -/
structure Pool where
  refusal : Option Failure := none
  opened : Nat := 0
  closed : Nat := 0
deriving Repr, Inhabited

/-- What the system lives among. -/
structure Surroundings where
  clock : Instant
  cancelled : Bool := false
  outage : Option Outage := none
  pool : Pool := {}
  issued : Issued := {}
  groupware : Groupware := Groupware.dryRun
  /-- The requests made so far, the oldest first, with whether each was granted. -/
  requests : List (Request × Bool) := []
  journal : List Notice := []
deriving Inhabited

/-- An action on the surroundings that may fail. -/
abbrev Act := EStateM Failure Surroundings

namespace Act

/-- Notes what happened. -/
def note (notice : Notice) : Act Unit :=
  modify fun now => { now with journal := now.journal ++ [notice] }

/-- The time on the clock. -/
def readClock : Act Instant := return (← get).clock

/-- Whether the signal to stop has been raised. -/
def isCancelled : Act Bool := return (← get).cancelled

/-- Raises the signal to stop. -/
def cancel : Act Unit := modify ({ · with cancelled := true })

/-- A result that depends on times and spans which stay in range. -/
def inTime {α : Type} : Except TimeError α → Act α
  | .ok result => return result
  | .error error => throw (.time error)

/-- Moves the clock. -/
def wait (delay : Except TimeError Span) : Act Unit := do
  let later ← inTime ((← readClock).plus (← inTime delay))
  modify ({ · with clock := later })

/-- Opens the pool of connections. -/
def openPool : Act Unit := do
  match (← get).pool.refusal with
  | some failure => throw failure
  | none => modify fun now => { now with pool := { now.pool with opened := now.pool.opened + 1 } }

/-- Closes the pool of connections. -/
def closePool : Act Unit :=
  modify fun now => { now with pool := { now.pool with closed := now.pool.closed + 1 } }

/-- Issues the identifier of an audit entry. -/
def issueEntry : Act Uuid := do
  let number := (← get).issued.entries + 1
  modify fun now => { now with issued := { now.issued with entries := number } }
  return .numbered 10 number

/-- Issues the identifier of a stay in a team. -/
def issueMember : Act Uuid := do
  let number := (← get).issued.members + 1
  modify fun now => { now with issued := { now.issued with members := number } }
  return .numbered 11 number

/-- Issues the identifier of a consent. -/
def issueConsent : Act Uuid := do
  let number := (← get).issued.consents + 1
  modify fun now => { now with issued := { now.issued with consents := number } }
  return .numbered 12 number

/-- Issues the identifier of an event to relay. -/
def issueEvent : Act Uuid := do
  let number := (← get).issued.events + 1
  modify fun now => { now with issued := { now.issued with events := number } }
  return .numbered 14 number

/-- Issues the identifier of a row that is put in by hand. -/
def issueRow : Act Uuid := do
  let number := (← get).issued.rows + 1
  modify fun now => { now with issued := { now.issued with rows := number } }
  return .numbered 15 number

/-- Lets a statement through to the database, unless an outage stops it. -/
def send (kind : StatementKind) : Act Unit := do
  match (← get).outage with
  | none => pure ()
  | some outage =>
    if outage.stops = kind then
      match outage.passes with
      | 0 =>
        modify ({ · with outage := none })
        throw (.reported (.database outage.name) outage.message)
      | passes + 1 => modify ({ · with outage := some { outage with passes } })
    else pure ()

/-- What a reply does, short of refusing. -/
def takeReply (reply : Reply) : Act Unit := do
  reply.notices.forM note
  wait reply.delay
  if reply.stops then cancel
  match reply.failure with
  | some failure => throw failure
  | none => pure ()

/-- Asks the groupware for a change of access. The request is remembered, with whether it was
granted. -/
def ask (request : Request) : Act Unit := do
  let now ← get
  let reply := now.groupware (now.requests.map (·.1)) request
  let remember (granted : Bool) : Act Unit :=
    modify fun now => { now with requests := now.requests ++ [(request, granted)] }
  try
    takeReply reply
    remember true
  catch failure =>
    remember false
    throw failure

end Act

end Roster
