/-
**Orders that are left out.**

An order without a key of its own is left out if its key is pending. That key can be read back, so among events
with default keys the order is left out exactly when an event waits that asks for the same thing: no change of
membership is lost to a key that two things share. What is staged counts as well as what is stored, and so does
an event that another transaction put in unseen.

* `enqueue_of_flush_ok` — an order acts on what a flush would leave, with or without a race.
* `Enqueued.eq_none_iff` — when an order is left out, in terms of what is asked for.
* `left_out_iff_waiting` — **default keys identify what is asked for**, whole and through every order.
-/

import Roster.Proofs.Outbox.Orders

namespace Roster

/-- An event is in the session: it is stored, or staged. -/
def Session.HasEvent (session : Session) (event : OutboxEvent) : Prop :=
  event ∈ session.store.events ∨ ∃ write ∈ session.staged, write.row = .event event

/-- A flush puts nothing into the store but what was in the session. -/
theorem Session.hasEvent_of_flush {session flushed : Session} {event : OutboxEvent}
    (flushes : Transaction.flush session = .ok () flushed) (member : event ∈ flushed.store.events) :
    session.HasEvent event := by
  obtain ⟨_, _, store⟩ := Transaction.ready_of_flush flushes
  rw [store] at member
  refine (Store.mem_events_foldl_apply _ member).imp_right fun ⟨write, sent, put⟩ => ?_
  exact ⟨write, mem_of_mem_statements sent, put⟩

theorem EventKind.opposite?_ne {kind other : EventKind} (opposes : kind.opposite? = some other) :
    other ≠ kind := by
  cases kind <;> cases opposes <;> exact nofun

theorem EventKind.exists_opposite {kind : EventKind} (known : kind ∈ EventKind.all) :
    ∃ other, kind.opposite? = some other := by
  rcases Outbox.mem_all_iff.mp known with rfl | rfl
  · exact ⟨_, rfl⟩
  · exact ⟨_, rfl⟩

namespace Outbox

variable {order : Order} {session after : Session} {result : Option OutboxEvent}

/-! ### What is staged goes out first -/

/-- An order of a known kind begins with a question, whether or not it looks for its key. -/
theorem place_of_flush {flushed : Session} (known : order.kind ∈ EventKind.all)
    (flushes : Transaction.flush session = .ok () flushed) (settled : flushed.Settled) :
    place order session = place order flushed := by
  obtain ⟨opposite, opposes⟩ := EventKind.exists_opposite known
  have clock : session.surroundings.clock = flushed.surroundings.clock := by
    rw [(Transaction.keeps_flush.of_ok flushes : session.surroundings.Quiet _).same]
  unfold place supersedeOpposite
  rw [opposes]
  dsimp only [Transaction.liftM_eq_act]
  rw [bind_of_ok (Transaction.act_readClock _), bind_of_ok (Transaction.act_readClock _), clock]
  simp only [bind_apply, Transaction.read_of_flush flushes settled]

theorem flush_of_place_ok (known : order.kind ∈ EventKind.all)
    (ran : place order session = .ok result after) :
    ∃ flushed, Transaction.flush session = .ok () flushed := by
  obtain ⟨opposite, opposes⟩ := EventKind.exists_opposite known
  obtain ⟨clock, _, ⟨⟩, ran⟩ := bind_eq_ok.mp ran
  obtain ⟨_, _, supersedes, _⟩ := bind_eq_ok.mp ran
  unfold supersedeOpposite at supersedes
  rw [opposes] at supersedes
  obtain ⟨_, _, reads, _⟩ := bind_eq_ok.mp supersedes
  obtain ⟨flushed, _, flushes, _⟩ := Transaction.read_eq_ok.mp reads
  exact ⟨flushed, flushes⟩

/-- **An order that returns has sent what was staged**, and did the rest on what that left. -/
theorem enqueue_of_flush_ok (known : order.kind ∈ EventKind.all) (valid : session.store.Valid)
    (ran : enqueue order session = .ok result after) :
    ∃ seen, Transaction.flush session = .ok () seen ∧ seen.Settled
      ∧ enqueue order seen = .ok result after := by
  cases race : order.isRace with
  | false => exact flush_of_enqueue_ok valid race ran
  | true =>
    rw [enqueue_of_race race] at ran ⊢
    obtain ⟨seen, flushes⟩ := flush_of_place_ok known ran
    obtain ⟨settled, _⟩ := Transaction.flush_ok flushes valid
    exact ⟨seen, flushes, settled, (place_of_flush known flushes settled).symm.trans ran⟩

/-! ### What is left out -/

/-- **An order is left out exactly when an event waits that asks for the same thing**, if all events carry
default keys. -/
theorem Enqueued.eq_none_iff {moment : Instant} {issued issuedAfter : Nat}
    {events eventsAfter : List OutboxEvent} (known : order.kind ∈ EventKind.all)
    (default : order.IsDefault) (keyed : ∀ event ∈ events, event.Keyed)
    (enqueued : Enqueued order moment issued events result issuedAfter eventsAfter) :
    result = none ↔ IsWaiting order.kind order.team order.user events := by
  have stored := Order.storedKey_of_default default known
  have waits : ∀ event ∈ events, event.key = order.storedKey → event.isPending = true →
      IsWaiting order.kind order.team order.user events := by
    intro event member key pending
    obtain ⟨kind, team, user⟩ := (keyed event member).eq_of_key_eq known (key.trans stored)
    exact ⟨event, member, kind, team, user, pending⟩
  cases enqueued with
  | duplicate taken =>
    obtain ⟨event, member, key, pending⟩ := taken
    exact iff_of_true rfl (waits event member key pending)
  | lost taken =>
    obtain ⟨_, member, key, pending⟩ := taken
    obtain ⟨event, was, rfl⟩ := List.mem_map.mp member
    rw [Order.settle_key] at key
    exact iff_of_true rfl (waits event was key (Order.isPending_of_settle pending).1)
  | placed absent =>
    refine iff_of_false nofun ?_
    rintro ⟨event, member, kind, team, user, pending⟩
    have key : event.key = order.storedKey := by
      rw [stored, (keyed event member).2, kind, team, user]
    have free := absent event member key
    rw [Order.settle_of_not_reverses, pending] at free
    · cases free
    · refine decide_eq_false fun reversed => ?_
      exact EventKind.opposite?_ne reversed.1 kind

/-- **Default keys identify what is asked for.** Nothing of a default key is cut off; two orders share one
exactly if they ask for the same kind of change of the same team and user; and among events with default keys
an order that returns is left out exactly when an event waits that asks for the same thing. -/
theorem left_out_iff_waiting :
    (∀ order : Order, order.kind ∈ EventKind.all → order.IsDefault →
        order.storedKey = defaultKey order.kind order.team order.user)
      ∧ (∀ one two : Order, one.kind ∈ EventKind.all → two.kind ∈ EventKind.all → one.IsDefault →
          two.IsDefault → (one.storedKey = two.storedKey ↔
            one.kind = two.kind ∧ one.team = two.team ∧ one.user = two.user))
      ∧ ∀ (order : Order) (session after : Session) (result : Option OutboxEvent),
          order.kind ∈ EventKind.all → order.IsDefault → session.store.Valid →
          (∀ event, session.HasEvent event → event.Keyed
            ∧ event.id ≠ .numbered 14 (session.surroundings.issued.events + 1)) →
          enqueue order session = .ok result after →
          ∃ seen, Transaction.flush session = .ok () seen
            ∧ (result = none ↔ IsWaiting order.kind order.team order.user seen.store.events) := by
  refine ⟨fun order known default => Order.storedKey_of_default default known, ?_, ?_⟩
  · intro one two knownOne knownTwo defaultOne defaultTwo
    rw [Order.storedKey_of_default defaultOne knownOne, Order.storedKey_of_default defaultTwo knownTwo]
    constructor
    · intro same
      obtain ⟨label, team, user⟩ := defaultKey_inj same
      exact ⟨label_injective knownOne knownTwo label, team, user⟩
    · rintro ⟨kind, team, user⟩
      rw [kind, team, user]
  · intro order session after result known default valid keyed ran
    obtain ⟨seen, flushes, settled, ran⟩ := enqueue_of_flush_ok known valid ran
    have inSession : ∀ event ∈ seen.store.events, event.Keyed
        ∧ event.id ≠ .numbered 14 (session.surroundings.issued.events + 1) := fun event member =>
      keyed event (Session.hasEvent_of_flush flushes member)
    have issued : seen.surroundings.issued = session.surroundings.issued :=
      Surroundings.Quiet.issued (Transaction.keeps_flush.of_ok flushes)
    have free : .numbered 14 (seen.surroundings.issued.events + 1)
        ∉ seen.store.events.map OutboxEvent.id := by
      rw [issued]
      intro taken
      obtain ⟨event, member, same⟩ := List.mem_map.mp taken
      exact (inSession event member).2 same
    obtain ⟨moment, _, became⟩ := (enqueue_ok settled (fun _ => free) ran).became
    exact ⟨seen, flushes, became.eq_none_iff known default fun event member => (inSession event member).1⟩

/-- A session with one event to relay, which has its default key. -/
def oneWaiting : Session where
  surroundings := { clock := default, issued := { events := 1 } }
  store := { events :=
    [Order.event { kind := .add, team := .numbered 5 1, user := .numbered 1 1 } (.numbered 14 1) default] }

/-- The same change is left out, and the same change in another team is not. -/
theorem oneWaiting_left_out :
    (∃ after, enqueue { kind := .add, team := .numbered 5 1, user := .numbered 1 1 } oneWaiting
        = .ok none after)
      ∧ ∃ event after, enqueue { kind := .add, team := .numbered 5 2, user := .numbered 1 1 } oneWaiting
        = .ok (some event) after := by
  have start : oneWaiting.store.Valid ∧ ∀ event ∈ oneWaiting.store.events, event.Keyed
      ∧ event.id ≠ .numbered 14 2 := by decide +kernel
  have keyed : ∀ event, oneWaiting.HasEvent event → event.Keyed ∧ event.id ≠ .numbered 14 2 := by
    rintro event (stored | ⟨_, ⟨⟩, _⟩)
    exact start.2 event stored
  have settled : oneWaiting.Settled := ⟨rfl, rfl, start.1⟩
  have returns : ∀ order : Order, order.kind ∈ EventKind.all → order.IsDefault →
      ∃ result after, enqueue order oneWaiting = .ok result after ∧ (result = none ↔
        IsWaiting order.kind order.team order.user oneWaiting.store.events) := by
    intro order known default
    obtain ⟨result, after, ran⟩ := @enqueue_of_isUp order _ settled rfl
    obtain ⟨seen, flushes, left⟩ := left_out_iff_waiting.2.2 order oneWaiting after result known default
      start.1 keyed ran
    cases flushes.symm.trans (Transaction.flush_of_settled settled)
    exact ⟨result, after, ran, left⟩
  constructor
  · obtain ⟨result, after, ran, left⟩ := returns
      { kind := .add, team := .numbered 5 1, user := .numbered 1 1 } (by decide) rfl
    obtain rfl := left.mpr (by decide +kernel)
    exact ⟨after, ran⟩
  · obtain ⟨result, after, ran, left⟩ := returns
      { kind := .add, team := .numbered 5 2, user := .numbered 1 1 } (by decide) rfl
    obtain ⟨event, rfl⟩ := Option.ne_none_iff_exists'.mp
      fun none => absurd (left.mp none) (by decide +kernel)
    exact ⟨event, after, ran⟩

end Outbox

end Roster
