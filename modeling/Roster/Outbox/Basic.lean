/-
**The outbox.**

A change of membership puts an event into the outbox in its own transaction, so the event exists
exactly when the change does. Of each key at most one event is pending. An event supersedes the
pending events that ask for the opposite, which then count as processed without being relayed.

* `Outbox.defaultKey` — one key per kind, team and user.
* `Outbox.enqueue` — puts an event into the outbox.
* `Outbox.pending`, `Outbox.pendingCount`, `Outbox.abandoned` — the look-ups.
-/

import Roster.Session
import Roster.Text.Clip

namespace Roster.Outbox

/-- How many code points of a key are kept. -/
def maxKeyLength : Nat := 200

/-- The key of an event that is given none: one per kind, team and user. -/
def defaultKey (kind : EventKind) (team user : Uuid) : String :=
  kind.label ++ ":" ++ team.text ++ ":" ++ user.text

/-- An event as it is asked for. -/
structure Order where
  kind : EventKind
  team : Uuid
  user : Uuid
  key : Option String := none
  occurredAt : Option Instant := none
  source : Option SyncSource := none
  /-- Another transaction may put an event of the same key into the outbox unseen. -/
  isRace : Bool := false
deriving Repr, Inhabited

/-- The key of an event: the given one, unless it is empty, up to the limit. -/
def Order.storedKey (order : Order) : String :=
  let key := order.key.getD ""
  Text.clip maxKeyLength (if key.isEmpty then defaultKey order.kind order.team order.user else key)

/-- Some pending event has the key. -/
def hasPendingIn (key : String) (store : Store) : Bool :=
  store.events.any fun event => event.key = key ∧ event.isPending

/-- The pending events of a kind for a team and a user. -/
def pendingOfIn (kind : EventKind) (team user : Uuid) (store : Store) : List OutboxEvent :=
  store.events.filter fun event =>
    event.kind = kind ∧ event.team = team ∧ event.user = user ∧ event.isPending

/-- An event that a later one of another kind makes pointless. -/
def superseded (event : OutboxEvent) (successor : EventKind) (moment : Instant) : OutboxEvent :=
  { event with
    processedAt := some moment
    lastError := some ("Superseded by " ++ successor.label ++ " before delivery") }

/-- Retires the pending events that a new event reverses. -/
def supersedeOpposite (order : Order) (moment : Instant) : Transaction Unit := do
  match order.kind.opposite? with
  | none => pure ()
  | some opposite =>
    let reversed ← Transaction.read (pendingOfIn opposite order.team order.user)
    reversed.forM fun event => do
      Transaction.stage (.change (.event (superseded event order.kind moment)))
      Act.note (.eventSuperseded event.id opposite order.team order.user)

/-- The event that an order makes. -/
def Order.event (order : Order) (id : Uuid) (moment : Instant) : OutboxEvent where
  id := id
  kind := order.kind
  team := order.team
  user := order.user
  occurredAt := moment
  processedAt := none
  abandonedAt := none
  retryCount := 0
  lastError := none
  key := order.storedKey
  source := order.source

/-- Adds an event behind a savepoint. An event whose key has become pending meanwhile is dropped. -/
def insertEvent (event : OutboxEvent) : Transaction (Option OutboxEvent) := do
  try
    Transaction.insertSafely (.event event)
    Act.note (.eventEnqueued event.id event.kind event.team event.user)
    return some event
  catch failure =>
    if failure == .constraint then
      Act.note (.eventDuplicateRace event.key)
      return none
    else if failure.isDatabase then
      Act.note (.eventNotEnqueued event.key failure.message)
      throw (.notEnqueued failure.message)
    else throw failure

/-- Puts an event into the outbox, unless one of its key is pending. -/
def enqueue (order : Order) : Transaction (Option OutboxEvent) := do
  let isPending ← if order.isRace then pure false else Transaction.read (hasPendingIn order.storedKey)
  if isPending then
    Act.note (.eventDuplicate order.storedKey)
    return none
  let clock ← Act.readClock
  let moment := order.occurredAt.getD clock
  supersedeOpposite order moment
  let id ← Act.issueEvent
  insertEvent (order.event id moment)

/-! ### Look-ups -/

/-- The oldest pending events with fewer attempts than allowed, up to a limit. -/
def pendingIn (batchSize : Nat) (maxRetry : Int) (store : Store) : List OutboxEvent :=
  ((store.events.filter fun event => event.isPending ∧ event.retryCount < maxRetry).mergeSort
    fun a b => decide (a.occurredAt ≤ b.occurredAt)).take batchSize

/-- The number of pending events. -/
def pendingCountIn (store : Store) : Nat :=
  (store.events.filter OutboxEvent.isPending).length

/-- The abandoned events, the latest first, up to a limit. -/
def abandonedIn (limit : Nat) (store : Store) : List OutboxEvent :=
  let given := store.events.filterMap fun event => event.abandonedAt.map fun moment => (moment, event)
  ((given.mergeSort fun a b => decide (b.1 ≤ a.1)).map (·.2)).take limit

/-- The oldest pending events with fewer attempts than allowed, up to a limit. -/
def pending (batchSize : Nat) (maxRetry : Int) : Transaction (List OutboxEvent) :=
  Transaction.read (pendingIn batchSize maxRetry)

/-- The number of pending events. -/
def pendingCount : Transaction Nat := Transaction.read pendingCountIn

/-- The abandoned events, the latest first, up to a limit. -/
def abandoned (limit : Nat) : Transaction (List OutboxEvent) := Transaction.read (abandonedIn limit)

/-- How many abandoned events are read if no limit is given. -/
def defaultLimit : Nat := 100

end Roster.Outbox
