/-
**What the writers put into rows.**

Orders, drains, reports and consents uphold a property of rows if the rows that they write have it; a drain may
take it for granted of the events that it attempts, and an order of those that it retires. A pass does so with
the entries and the orders of its changes.

* `upholds_enqueue`, `upholds_drain`, `upholds_append`, `upholds_give` — one rule for each writer.
* `Change.upholds_make` — the change of a pass.
* `every_of_pass` — **the committed store after a pass, whichever way it ends**.
-/

import Roster.Proofs.Consent.Recording
import Roster.Proofs.Outbox.Drain
import Roster.Proofs.Reconcile.Worked
import Roster.Proofs.Session.Rows

namespace Roster

open EStateM (Result)

variable {groupware : Groupware} {Q : Row → Prop}

theorem Store.Every.event {store : Store} {event : OutboxEvent} (every : store.Every Q)
    (member : event ∈ store.events) : Q (.event event) :=
  every .events _ (List.mem_map_of_mem member)

namespace Outbox

variable {order : Order}

theorem upholds_supersedeOpposite {moment : Instant}
    (retired : ∀ event, Q (.event event) → order.reverses event = true →
      Q (.event (superseded event order.kind moment))) :
    Upholds groupware Q (supersedeOpposite order moment) fun _ => True := by
  unfold supersedeOpposite
  cases opposes : order.kind.opposite? with
  | none => exact Upholds.pure trivial
  | some opposite =>
    refine Upholds.bind (Upholds.read _) fun reversed ⟨store, _, every, found⟩ =>
      Upholds.forM fun event inside => ?_
    rw [found, pendingOfIn_eq opposes] at inside
    obtain ⟨member, reverses⟩ := List.mem_filter.mp inside
    exact Upholds.bind (Upholds.stage (retired event (every.event member) reverses)) fun _ _ =>
      Upholds.calm (Act.keeps_note _)

theorem upholds_insertEvent {event : OutboxEvent} (new : Q (.event event)) :
    Upholds groupware Q (insertEvent event) fun _ => True := by
  refine fun session carries => ⟨?_, fun _ _ _ => trivial⟩
  have inserted := (Upholds.insertSafely new session carries).1
  have noted : ∀ (after : Session) (journal : List Notice), after.Carries groupware Q →
      { after with surroundings := { after.surroundings with journal } }.Carries groupware Q :=
    fun after journal here => ⟨here.groupware, here.valid, here.stored, here.staged⟩
  rw [insertEvent_apply]
  cases ran : Transaction.insertSafely (.event event) session with
  | ok _ after =>
    rw [ran] at inserted
    exact noted after _ inserted
  | error failure after =>
    rw [ran] at inserted
    split
    case h_1 same => cases same
    case h_2 same =>
      cases same
      exact noted _ _ inserted
    case h_3 same =>
      cases same
      split
      · exact noted _ _ inserted
      · exact inserted

/-- **An order upholds a property** that its event has, whatever identifier and time it gets, and that the events
keep which it retires. -/
theorem upholds_enqueue (new : ∀ id moment, Q (.event (order.event id moment)))
    (retired : ∀ event moment, Q (.event event) → order.reverses event = true →
      Q (.event (superseded event order.kind moment))) :
    Upholds groupware Q (enqueue order) fun _ => True := by
  have places : Upholds groupware Q (place order) fun _ => True :=
    Upholds.bind (Upholds.calm Act.keeps_readClock) fun _ _ =>
      Upholds.bind (upholds_supersedeOpposite fun event => retired event _) fun _ _ =>
        Upholds.bind (Upholds.calm Act.keeps_issueEvent) fun _ _ => upholds_insertEvent (new _ _)
  have answered : ∀ isPending, Upholds groupware Q (placeUnless order isPending) fun _ => True :=
    fun isPending => Upholds.ite (fun _ => Upholds.bind (Upholds.calm (Act.keeps_note _)) fun _ _ =>
      Upholds.pure trivial) fun _ => places
  cases race : order.isRace with
  | true =>
    rw [enqueue_of_race race]
    exact answered false
  | false =>
    rw [enqueue_of_not_race race]
    exact Upholds.bind (Upholds.read _) fun isPending _ => answered isPending

variable {policy : Policy} {mode : DrainMode}
  (attempted : ∀ event moment now, Q (.event event) → now.groupware = groupware →
    Q (.event ((attemptAt event moment now).outcome policy)))

include attempted

/-- An attempt stages what came of it, and nothing if it was interrupted. -/
theorem upholds_relay {event : OutboxEvent} (known : Q (.event event)) (moment : Instant)
    (report : DrainReport) :
    Upholds groupware Q (relay policy event moment report) fun _ => True := by
  refine fun session carries => ⟨?_, fun _ _ _ => trivial⟩
  obtain ⟨_, now, rfl, _, asked, _, relays | ⟨failure, _, _, relays⟩⟩ :=
    relay_cases policy event moment report session
  · have new : Q (Write.change (.event ((attemptAt event moment session.surroundings).outcome policy))).row :=
      attempted event moment session.surroundings known carries.groupware
    have staged := (Upholds.stage new session carries).1
    rw [relays]
    exact ⟨asked.groupware.trans carries.groupware, staged.valid, staged.stored, staged.staged⟩
  · rw [relays]
    exact ⟨asked.groupware.trans carries.groupware, carries.valid, carries.stored, carries.staged⟩

theorem upholds_relayAll {batch : List OutboxEvent} (known : ∀ event ∈ batch, Q (.event event))
    (report : DrainReport) :
    Upholds groupware Q (relayAll policy mode batch report) fun _ => True := by
  induction batch generalizing report with
  | nil => exact Upholds.pure trivial
  | cons event rest ih =>
    refine fun session carries => ⟨?_, fun _ _ _ => trivial⟩
    rw [relayAll_cons]
    split
    · exact ⟨carries.groupware, carries.valid, carries.stored, carries.staged⟩
    · have first := upholds_relay attempted (known event List.mem_cons_self)
        (mode.now.getD session.surroundings.clock) report session carries
      cases ran : relay policy event (mode.now.getD session.surroundings.clock) report session with
      | ok later after =>
        rw [ran] at first
        exact (ih (fun other inside => known other (List.mem_cons_of_mem _ inside)) later after first.1).1
      | error failure after =>
        rw [ran] at first
        exact first.1

/-- **A drain upholds a property** that every attempt at an event keeps. -/
theorem upholds_drain : Upholds groupware Q (drain policy mode) fun _ => True := by
  refine Upholds.bind (Upholds.read _) fun batch ⟨store, _, every, found⟩ => ?_
  have known : ∀ event ∈ batch, Q (.event event) := by
    intro event inside
    rw [found, pendingIn] at inside
    have member := List.mem_mergeSort.mp (List.mem_of_mem_take inside)
    exact every.event (List.mem_filter.mp member).1
  refine Upholds.ite (fun _ => Upholds.bind (Upholds.calm (Act.keeps_note _)) fun _ _ =>
    Upholds.pure trivial) fun _ => ?_
  exact Upholds.bind (upholds_relayAll attempted known _) fun _ _ =>
    Upholds.bind Upholds.flush fun _ _ =>
      Upholds.bind (Upholds.calm (Act.keeps_note _)) fun _ _ => Upholds.pure trivial

end Outbox

/-- **A report upholds a property** that its entry has. -/
theorem Audit.upholds_append {report : Report} (new : ∀ id clock, Q (.entry (report.entry id clock))) :
    Upholds groupware Q (append report) fun _ => True :=
  Upholds.bind (Upholds.calm Act.keeps_issueEntry) fun _ _ =>
    Upholds.bind (Upholds.calm Act.keeps_readClock) fun _ _ =>
      Upholds.bind (Upholds.stage (new _ _)) fun _ _ =>
        Upholds.bind (Upholds.calm (Act.keeps_note _)) fun _ _ => Upholds.pure trivial

/-- **A consent upholds a property** that its record has. -/
theorem Consent.upholds_give {given : Given} (new : ∀ id clock, Q (.consent (given.record id clock))) :
    Upholds groupware Q (give given) fun _ => True := by
  rw [give_eq]
  refine Upholds.bind (Upholds.readOne _) fun found _ => Upholds.ite (fun _ => Upholds.throw _) fun _ => ?_
  exact Upholds.bind (Upholds.calm Act.keeps_issueConsent) fun _ _ =>
    Upholds.bind (Upholds.calm Act.keeps_readClock) fun _ _ =>
      Upholds.bind (Upholds.stage (new _ _)) fun _ _ => Upholds.bind Upholds.flush fun _ _ =>
        Upholds.bind (Upholds.calm (Act.keeps_note _)) fun _ _ => Upholds.pure trivial

namespace Reconcile

variable {kind : TeamKind} {mode : Mode} {team : Team} {names : List (Uuid × String)} {change : Change}

/-- What a pass writes for a change has the property, and the events keep it which it retires. -/
structure Change.Suits (Q : Row → Prop) (mode : Mode) (team : Team) (names : List (Uuid × String))
    (change : Change) : Prop where
  entry : ∀ id, Q (.entry (change.entry mode team names id))
  event : ∀ id moment, Q (.event ((change.order mode team).event id moment))
  retired : ∀ event moment, Q (.event event) → (change.order mode team).reverses event = true →
    Q (.event (Outbox.superseded event (change.order mode team).kind moment))

/-- The name of a user does not depend on whose names were looked up with it. -/
theorem Change.Suits.of_asked {store : Store} {users : List Uuid}
    (suits : change.Suits Q mode team (namesIn [change.user] store)) (asked : change.user ∈ users) :
    change.Suits Q mode team (namesIn users store) where
  entry id := by
    rw [Change.entry_congr (nameOf_namesIn asked)]
    exact suits.entry id
  event := suits.event
  retired := suits.retired

/-- **A change upholds a property** of the entry and the event that are written for it. -/
theorem Change.upholds_make (members : ∀ stay, Q (.member stay)) (suits : change.Suits Q mode team names) :
    Upholds groupware Q (change.make mode team names) fun _ => True := by
  have ordered : Upholds groupware Q (Outbox.enqueue (change.order mode team)) fun _ => True :=
    Outbox.upholds_enqueue suits.event suits.retired
  cases change with
  | join user =>
    refine Upholds.bind (Upholds.calm Act.keeps_issueMember) fun id _ =>
      Upholds.bind (Upholds.stage (members _)) fun _ _ => ?_
    exact Upholds.bind (Audit.upholds_append fun id _ => suits.entry id) fun _ _ =>
      Upholds.bind ordered fun _ _ => Upholds.pure trivial
  | leave stay =>
    refine Upholds.bind (Upholds.stage (members _)) fun _ _ => ?_
    exact Upholds.bind (Audit.upholds_append fun id _ => suits.entry id) fun _ _ =>
      Upholds.bind ordered fun _ _ => Upholds.pure trivial

/-- **The committed store after a pass**, whichever way it ends: every row has a property that the stays and the
teams have, and that suits the changes of the teams there were. -/
theorem every_of_pass {given : Option Eligibility} {world : World} (valid : world.store.Valid)
    (asks : ∀ rule ∈ given, rule.OnlyAsks) (every : world.store.Every Q)
    (members : ∀ stay, Q (.member stay)) (teams : ∀ team, Q (.team team))
    (suits : ∀ team ∈ world.store.teams, ∀ change : Change,
      change.Suits Q mode team (namesIn [change.user] world.store)) :
    (endOf (pass kind given mode world)).store.Valid
      ∧ (endOf (pass kind given mode world)).store.Every Q := by
  cases ran : pass kind given mode world with
  | error failure after =>
    have same : after.store = world.store := pass_error ran
    exact ⟨same ▸ valid, same ▸ every⟩
  | ok result after =>
    obtain ⟨rule, _, ⟨same, _⟩ | ⟨team, eligible, named, session, committed, carries, commits, same, _⟩⟩ :=
      pass_eq_ok_of_asks valid asks ran
    · exact ⟨same ▸ valid, same ▸ every⟩
    · obtain ⟨middle, made, rfl⟩ := carries.made
      have listed : ∀ change ∈ changesIn team.id eligible world.store,
          change.user ∈ result.added ++ result.removed := by
        intro change inside
        have user := List.mem_map_of_mem (f := Change.user) inside
        rw [map_user_changesIn valid] at user
        rw [carries.result_eq]
        exact user
      have start : named.Carries named.surroundings.groupware Q :=
        ⟨rfl, carries.settled.valid, carries.store ▸ every,
          carries.settled.staged ▸ List.forall_mem_nil _⟩
      have changes := (Upholds.forM fun change inside => Change.upholds_make members
        ((suits team (mem_of_teamsOfIn carries.found).1 change).of_asked (listed change inside))).of_ok
          start made
      have timed : Q (retime mode team).row := teams _
      have staged := (Upholds.stage timed).of_ok changes rfl
      have final := Upholds.commit.of_ok staged commits
      exact ⟨same ▸ final.valid, same ▸ final.stored⟩

end Reconcile

end Roster
