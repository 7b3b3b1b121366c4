/-
**One change of the members of a team.**

A pass makes its changes one after another. Each of them stages a stay and its audit entry, and the order
for its event sends both before it looks for a pending event; so after every change the session is settled
again.

* `Change` — somebody joins, or a stay ends; `Change.make` — what a pass does for it.
* `Changed` — what a change leaves behind; `Change.make_ok` — **a change that returns has left it behind**,
  if the identifier of its event was not taken.
* `Written` — what it leaves behind apart from events; `Change.make_written`, `Change.make_elsewhere` —
  whatever that identifier was.
* `Change.make_of_isUp` — without an outage a possible change returns.
-/

import Roster.Proofs.Outbox.Enqueue
import Roster.Reconcile

namespace Roster.Reconcile

open EStateM (Result)

/-- One change of the members of a team. -/
inductive Change where
  | join (user : Uuid)
  | leave (stay : TeamMember)
deriving DecidableEq

/-- A stay that begins with a pass. -/
def joining (mode : Mode) (team : Team) (user id : Uuid) : TeamMember where
  id := id
  team := team.id
  user := user
  role := .member
  joinedAt := mode.now
  leftAt := none

/-- A stay that ends with a pass. -/
def leaving (mode : Mode) (stay : TeamMember) : TeamMember :=
  { stay with leftAt := some mode.now }

namespace Change

/-- Whom a change is about. -/
def user : Change → Uuid
  | join user => user
  | leave stay => stay.user

/-- What has to be relayed about a change. -/
def kind : Change → EventKind
  | join _ => .add
  | leave _ => .remove

/-- The order for the event of a change. -/
def order (mode : Mode) (team : Team) (change : Change) : Outbox.Order :=
  orderFor mode team change.user change.kind

/-- The entry that documents a change. -/
def entry (mode : Mode) (team : Team) (names : List (Uuid × String)) (id : Uuid) :
    Change → AuditEntry
  | join user =>
    (report mode team user .teamMemberAdded (nameOf names user ++ " added to ")).entry id mode.now
  | leave stay =>
    (report mode team stay.user .teamMemberRemoved
      (nameOf names stay.user ++ " removed from ")).entry id mode.now

/-- How many stays begin with a change. -/
def begins : Change → Nat
  | join _ => 1
  | leave _ => 0

/-- The stays after a change, if so many identifiers of stays have been issued before. -/
def members (mode : Mode) (team : Team) (issued : Nat) (members : List TeamMember) :
    Change → List TeamMember
  | join user => members ++ [joining mode team user (.numbered 11 (issued + 1))]
  | leave stay => Store.replaced TeamMember.id stay.id (leaving mode stay) members

/-- What a pass does for a change. -/
def make (mode : Mode) (team : Team) (names : List (Uuid × String)) : Change → Transaction Unit
  | join user => add mode team names user
  | leave stay => remove mode team names stay

/-- A stay that ends is one of the open ones. -/
def Fits (store : Store) : Change → Prop
  | join _ => True
  | leave stay => stay ∈ store.members ∧ stay.isOpen = true

end Change

section OneChange

variable {mode : Mode} {team : Team} {names : List (Uuid × String)} {change : Change}
  {session after : Session}

/-! ### What is staged -/

/-- What a change stages, if so many identifiers have been issued before. -/
def Change.staged (mode : Mode) (team : Team) (names : List (Uuid × String)) (issued : Issued)
    (change : Change) : List Write :=
  match change with
  | join user => [.insert (.member (joining mode team user (.numbered 11 (issued.members + 1)))),
      .insert (.entry (change.entry mode team names (.numbered 10 (issued.entries + 1))))]
  | leave stay => [.change (.member (leaving mode stay)),
      .insert (.entry (change.entry mode team names (.numbered 10 (issued.entries + 1))))]

/-- The identifiers issued after a change, apart from that of its event. -/
def Change.issued (issued : Issued) (change : Change) : Issued :=
  { issued with entries := issued.entries + 1, members := issued.members + change.begins }

/-- **A change is an order with the stay and its entry staged.** -/
theorem Change.make_eq (settled : session.Settled) :
    ∃ journal, change.make mode team names session
      = (Outbox.enqueue (change.order mode team) >>= fun _ => pure ()) { session with
          staged := change.staged mode team names session.surroundings.issued
          surroundings := { session.surroundings with
            issued := change.issued session.surroundings.issued
            journal } } := by
  obtain ⟨surroundings, store, staged, opened, spoiled⟩ := session
  obtain rfl : staged = [] := settled.staged
  cases change with
  | join user => exact ⟨_, rfl⟩
  | leave stay => exact ⟨_, rfl⟩

/-- The stays and the log after a change. -/
def Change.written (mode : Mode) (team : Team) (names : List (Uuid × String)) (issued : Issued)
    (store : Store) (change : Change) : Store :=
  { store with
    members := change.members mode team issued.members store.members
    audit := store.audit ++ [change.entry mode team names (.numbered 10 (issued.entries + 1))] }

theorem alteredColumns_leaving {store : Store} {stay : TeamMember} (valid : store.Valid)
    (member : stay ∈ store.members) (opened : stay.isOpen = true) :
    store.alteredColumns (.member (leaving mode stay)) ≠ [] :=
  Store.alteredColumns_member_ne_nil valid.memberIds member rfl opened rfl

theorem Change.foldl_apply_statements {store : Store} {issued : Issued} (valid : store.Valid)
    (fits : change.Fits store) :
    (statements store (change.staged mode team names issued)).flatten.foldl Write.apply store
      = change.written mode team names issued store := by
  cases change with
  | join user =>
    rw [staged, statements_join]
    rfl
  | leave stay =>
    rw [staged, statements_leave (alteredColumns_leaving valid fits.1 fits.2)]
    rfl

/-! ### What a change leaves behind -/

/-- **A change was made**: the stay and its entry are in the store, the order for the event was made, and
nothing else changed. -/
structure Changed (mode : Mode) (team : Team) (names : List (Uuid × String)) (change : Change)
    (session after : Session) : Prop where
  settled : after.Settled
  store : after.store = { change.written mode team names session.surroundings.issued session.store with
    events := after.store.events }
  became : ∃ result, Outbox.Enqueued (change.order mode team) mode.now
      session.surroundings.issued.events session.store.events result
      after.surroundings.issued.events after.store.events
    ∧ (result = none → after.store.events = session.store.events)
  issued : after.surroundings.issued = { change.issued session.surroundings.issued with
    events := after.surroundings.issued.events }

/-- **A change that returns** has sent the stay and its entry before the order for its event. -/
theorem Change.make_eq_ok (settled : session.Settled) (fits : change.Fits session.store)
    (ran : change.make mode team names session = .ok () after) :
    ∃ result flushed, flushed.Settled
      ∧ flushed.store = change.written mode team names session.surroundings.issued session.store
      ∧ flushed.surroundings.issued = change.issued session.surroundings.issued
      ∧ Outbox.enqueue (change.order mode team) flushed = .ok result after := by
  obtain ⟨journal, made⟩ := @Change.make_eq mode team names change session settled
  rw [made] at ran
  obtain ⟨result, _, ran, ⟨⟩⟩ := bind_eq_ok.mp ran
  obtain ⟨flushed, flushes, settledFlushed, ordered⟩ :=
    Outbox.flush_of_enqueue_ok (by exact settled.valid) rfl ran
  obtain ⟨_, store⟩ := Transaction.flush_ok flushes settled.valid
  exact ⟨result, flushed, settledFlushed, store.trans (foldl_apply_statements settled.valid fits),
    Surroundings.Quiet.issued (Transaction.keeps_flush.of_ok flushes), ordered⟩

/-- **A change that returns was made.** -/
theorem Change.make_ok (settled : session.Settled) (fits : change.Fits session.store)
    (fresh : session.surroundings.issued.events < after.surroundings.issued.events →
      .numbered 14 (session.surroundings.issued.events + 1)
        ∉ session.store.events.map OutboxEvent.id)
    (ran : change.make mode team names session = .ok () after) :
    Changed mode team names change session after := by
  obtain ⟨result, flushed, settledFlushed, written, issued, ordered⟩ := make_eq_ok settled fits ran
  have events : flushed.store.events = session.store.events := by
    rw [written]
    rfl
  have issuedEvents : flushed.surroundings.issued.events = session.surroundings.issued.events := by
    rw [issued]
    rfl
  rw [← events, ← issuedEvents] at fresh
  obtain ⟨settledAfter, ⟨moment, given, became⟩, storeAfter, issuedAfter⟩ :=
    Outbox.enqueue_ok settledFlushed fresh ordered
  have plain := Outbox.enqueue_eq_none settledFlushed fresh rfl ordered
  obtain rfl := given mode.now rfl
  rw [events, issuedEvents] at became
  rw [events] at plain
  rw [written] at storeAfter
  rw [issued] at issuedAfter
  exact ⟨settledAfter, storeAfter, ⟨result, became, plain⟩, issuedAfter⟩

/-- **A change was written**: the stay and its entry are in the store, and of the rest at most events
changed. -/
structure Written (mode : Mode) (team : Team) (names : List (Uuid × String)) (change : Change)
    (session after : Session) : Prop where
  settled : after.Settled
  store : after.store = { change.written mode team names session.surroundings.issued session.store with
    events := after.store.events }
  issued : after.surroundings.issued = { change.issued session.surroundings.issued with
    events := after.surroundings.issued.events }

theorem Changed.written (changed : Changed mode team names change session after) :
    Written mode team names change session after :=
  ⟨changed.settled, changed.store, changed.issued⟩

/-- **A change that returns was written**, whatever identifier its event was given. -/
theorem Change.make_written (settled : session.Settled) (fits : change.Fits session.store)
    (ran : change.make mode team names session = .ok () after) :
    Written mode team names change session after := by
  obtain ⟨_, flushed, settledFlushed, written, issued, ordered⟩ := make_eq_ok settled fits ran
  obtain ⟨settledAfter, store, count⟩ := Outbox.enqueue_confined settledFlushed ordered
  rw [written] at store
  rw [issued] at count
  exact ⟨settledAfter, store, count⟩

/-- **A change leaves the events of other teams alone**, whatever identifier its event was given. -/
theorem Change.make_elsewhere {other : Uuid} (settled : session.Settled)
    (fits : change.Fits session.store) (ran : change.make mode team names session = .ok () after)
    (elsewhere : other ≠ team.id) :
    Outbox.ofTeam other after.store.events = Outbox.ofTeam other session.store.events := by
  obtain ⟨_, flushed, settledFlushed, written, _, ordered⟩ := make_eq_ok settled fits ran
  have events : flushed.store.events = session.store.events := by
    rw [written]
    rfl
  rw [← events]
  exact Outbox.enqueue_elsewhere settledFlushed ordered elsewhere.symm

/-! ### Changes that are possible -/

/-- **A change is possible**: a new stay and its entry get identifiers that are not taken, the user exists
and is not in the team; a stay that ends is one of the open ones. -/
structure Change.Possible (team : Team) (issued : Issued) (store : Store) (change : Change) : Prop where
  entry : .numbered 10 (issued.entries + 1) ∉ store.audit.map AuditEntry.id
  fits : change.Fits store
  joins : ∀ user, change = .join user →
    .numbered 11 (issued.members + 1) ∉ store.members.map TeamMember.id
      ∧ (∀ stay ∈ store.members, stay.isOpen = true → stay.team = team.id → stay.user ≠ user)
      ∧ (store.enforcesReferences = true →
        team.id ∈ store.teams.map Team.id ∧ user ∈ store.users.map User.id)

theorem Change.validAlong {store : Store} {issued : Issued} (valid : store.Valid)
    (possible : change.Possible team issued store) :
    store.ValidAlong (statements store (change.staged mode team names issued)) := by
  cases change with
  | join user =>
    rw [staged, statements_join]
    obtain ⟨fresh, outside, known⟩ := possible.joins user rfl
    have joined := @Store.Valid.withMember _ valid
      (joining mode team user (.numbered 11 (issued.members + 1))) fresh outside known
    exact ⟨joined, joined.withEntry possible.entry rfl, trivial⟩
  | leave stay =>
    rw [staged, statements_leave (alteredColumns_leaving valid possible.fits.1 possible.fits.2)]
    have documented := @Store.Valid.withEntry _ valid
      (Change.entry mode team names (.numbered 10 (issued.entries + 1)) (.leave stay)) possible.entry rfl
    exact ⟨documented, documented.withLeft possible.fits.1 mode.now, trivial⟩

/-- **Without an outage a possible change returns.** -/
theorem Change.make_of_isUp (settled : session.Settled) (up : session.surroundings.IsUp)
    (possible : change.Possible team session.surroundings.issued session.store) :
    ∃ after, change.make mode team names session = .ok () after := by
  obtain ⟨journal, made⟩ := @Change.make_eq mode team names change session settled
  obtain ⟨opened, flushes⟩ := @Transaction.flush_of_isUp { session with
    staged := change.staged mode team names session.surroundings.issued
    surroundings := { session.surroundings with
      issued := change.issued session.surroundings.issued, journal } }
    up settled.sound (validAlong settled.valid possible)
  obtain ⟨settledFlushed, _⟩ := Transaction.flush_ok flushes settled.valid
  obtain ⟨result, after, ordered⟩ := @Outbox.enqueue_of_isUp (change.order mode team) _
    settledFlushed up
  rw [made]
  exact ⟨after, bind_eq_ok.mpr ⟨result, after,
    (Outbox.enqueue_of_flush flushes settledFlushed rfl).trans ordered, rfl⟩⟩

theorem Change.keeps_make (change : Change) :
    Keeps Session.Calm (change.make mode team names) := by
  have ordered : Keeps Session.Calm (Outbox.enqueue (change.order mode team) >>= fun _ => pure ()) :=
    Keeps.bind (Outbox.keeps_enqueue _) fun _ => Keeps.pure ()
  have appended : ∀ report, Keeps Session.Calm (Audit.append report) := fun report =>
    Keeps.bind (Transaction.keeps_act Act.keeps_issueEntry) fun _ =>
      Keeps.bind (Transaction.keeps_act Act.keeps_readClock) fun _ =>
        Keeps.bind (Transaction.keeps_stage _).calm fun _ =>
          Keeps.bind (Transaction.keeps_act (Act.keeps_note _)) fun _ => Keeps.pure _
  cases change with
  | join user =>
    exact Keeps.bind (Transaction.keeps_act Act.keeps_issueMember) fun _ =>
      Keeps.bind (Transaction.keeps_stage _).calm fun _ => Keeps.bind (appended _) fun _ => ordered
  | leave stay =>
    exact Keeps.bind (Transaction.keeps_stage _).calm fun _ => Keeps.bind (appended _) fun _ => ordered

end OneChange

end Roster.Reconcile
