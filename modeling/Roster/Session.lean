/-
**Sessions and transactions.**

A session works on its own copy of the store. Writes are staged and go out before the next read, at
a flush, at a savepoint and at the commit; each statement is refused if the store would break its
rules. A refused write spoils the transaction: nothing but giving it up is possible then.

The committed store is replaced only by a commit that succeeds, so a transaction that fails leaves it
as it was.

* `Transaction` — what can be done in a session; `read`, `stage`, `flush`, `insertSafely`.
* `Application` — what can be done with the committed store and the surroundings.
* `transact` — one transaction from its start to its commit or its end without one.
-/

import Roster.Store.Columns
import Roster.Surroundings

namespace Roster

/-- A write that is staged in a session. -/
inductive Write where
  | insert (row : Row)
  | change (row : Row)
deriving DecidableEq, Repr, Inhabited

namespace Write

/-- The row as the write leaves it. -/
def row : Write → Row
  | insert row => row
  | change row => row

/-- The write adds a row. -/
def isInsert : Write → Bool
  | insert _ => true
  | change _ => false

/-- The store after a write. -/
def apply (store : Store) : Write → Store
  | insert row => store.insert row
  | change row => store.change row

end Write

/-- The row of a table with an identifier. -/
def Store.find? (store : Store) (table : Table) (id : Uuid) : Option Row :=
  (store.rows table).find? (·.id = id)

/-- The names of the columns that a change of a row alters. -/
def Store.alteredColumns (store : Store) (row : Row) : List String :=
  match store.find? row.table row.id with
  | some before => (before.changedColumns row).map (·.1)
  | none => []

/-- The distinct members of a list, in the order of their first occurrence. -/
def distinct {α : Type} [DecidableEq α] : List α → List α
  | [] => []
  | first :: rest => first :: (distinct rest).filter (· ≠ first)

/-- The runs of changes that alter the same columns. -/
def runs {α : Type} : List (α × List String) → List (List α)
  | [] => []
  | (change, columns) :: rest =>
    match rest, runs rest with
    | (_, others) :: _, first :: later =>
      if columns = others then (change :: first) :: later else [change] :: first :: later
    | _, later => [change] :: later

/-- The statements that one table needs: its changes in the order of identifiers, one for each run, then
all its new rows at once. A change that alters nothing needs none. -/
def tableStatements (store : Store) (staged : List Write) (table : Table) : List (List Write) :=
  let here := staged.filter fun write => write.row.table = table
  let changes := (here.filter fun write => !write.isInsert).map fun write =>
    (write.row, store.alteredColumns write.row)
  let changes := (changes.filter fun change => !change.2.isEmpty).mergeSort fun a b =>
    decide (a.1.id ≤ b.1.id)
  let inserts := here.filter Write.isInsert
  (runs changes).map (·.map Write.change) ++ (if inserts.isEmpty then [] else [inserts])

/-- The statements for what is staged: the tables that get new rows come first. -/
def statements (store : Store) (staged : List Write) : List (List Write) :=
  let tables := distinct ((staged.filter Write.isInsert ++ staged).map fun write => write.row.table)
  tables.flatMap (tableStatements store staged)

/-- A session: its view of the surroundings and of the store, what is staged, whether a statement has
been sent, and the wording of the failure that spoiled the transaction, if one did. -/
structure Session where
  surroundings : Surroundings
  store : Store
  staged : List Write := []
  opened : Bool := false
  spoiled : Option String := none
deriving Inhabited

/-- What can be done in a session. -/
abbrev Transaction := EStateM Failure Session

namespace Transaction

/-- An action on the surroundings, inside a session. -/
def act {α : Type} (action : Act α) : Transaction α := fun session =>
  match action session.surroundings with
  | .ok result surroundings => .ok result { session with surroundings }
  | .error failure surroundings => .error failure { session with surroundings }

instance : MonadLift Act Transaction := ⟨act⟩

/-- Sends one statement that changes the store. It fails if an outage stops it or if the store would
break its rules. -/
def write (change : Store → Store) : Transaction Unit := do
  modify ({ · with opened := true })
  act (Act.send .write)
  let after := change (← get).store
  if after.Valid then modify ({ · with store := after }) else throw .constraint

/-- Sends one statement for some writes. -/
def execute (writes : List Write) : Transaction Unit :=
  write fun store => writes.foldl Write.apply store

/-- Nothing can be done in a spoiled transaction. -/
def requireSound : Transaction Unit := do
  match (← get).spoiled with
  | some cause => throw (.spoiled cause)
  | none => pure ()

/-- Sends what is staged. A failure spoils the transaction. -/
def flush : Transaction Unit := do
  requireSound
  let session ← get
  let pending := statements session.store session.staged
  set { session with staged := [] }
  try pending.forM execute
  catch failure =>
    modify ({ · with spoiled := some failure.message })
    throw failure

/-- Stages a write. -/
def stage (write : Write) : Transaction Unit :=
  modify fun session => { session with staged := session.staged ++ [write] }

/-- Asks the store a question, after sending what is staged. -/
def read {α : Type} (query : Store → α) : Transaction α := do
  flush
  modify ({ · with opened := true })
  act (Act.send .read)
  return query (← get).store

/-- Asks the store a question that has at most one answer. -/
def readOne {α : Type} (query : Store → List α) : Transaction (Option α) := do
  match ← read query with
  | [] => return none
  | [answer] => return some answer
  | _ => throw .severalRows

/-- Adds a row behind a savepoint: if the row is refused, the transaction goes on without it. -/
def insertSafely (row : Row) : Transaction Unit := do
  flush
  execute [.insert row]

/-- Commits: what is staged goes out, and the commit itself if any statement went before it. -/
def commit : Transaction Unit := do
  flush
  if (← get).opened then act (Act.send .commit)

end Transaction

/-- The committed store and the surroundings. -/
structure World where
  surroundings : Surroundings
  store : Store
deriving Inhabited

/-- What can be done with the committed store and the surroundings. -/
abbrev Application := EStateM Failure World

/-- Whether a transaction is to be committed. -/
inductive Ending where
  | keep
  | discard
deriving DecidableEq, Repr, Inhabited

namespace Application

/-- An action on the surroundings, outside of any session. -/
def act {α : Type} (action : Act α) : Application α := fun world =>
  match action world.surroundings with
  | .ok result surroundings => .ok result { world with surroundings }
  | .error failure surroundings => .error failure { world with surroundings }

instance : MonadLift Act Application := ⟨act⟩

/-- Runs a body in a session of its own and commits if the body asks for it. The committed store
changes only if the commit succeeds. -/
def transact {α : Type} (body : Transaction (α × Ending)) : Application α := fun world =>
  match body { surroundings := world.surroundings, store := world.store } with
  | .error failure session => .error failure { world with surroundings := session.surroundings }
  | .ok (result, .discard) session => .ok result { world with surroundings := session.surroundings }
  | .ok (result, .keep) session =>
    match Transaction.commit session with
    | .error failure session => .error failure { world with surroundings := session.surroundings }
    | .ok _ session => .ok result { surroundings := session.surroundings, store := session.store }

/-- Runs a body in a session of its own and commits. -/
def commitAfter {α : Type} (body : Transaction α) : Application α :=
  transact (return (← body, .keep))

end Application

end Roster
