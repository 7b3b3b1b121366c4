/-
**What an order does to the outbox.**

An order that returns did one of three things: it found its key pending and changed nothing, it placed
its event, or it lost against an event that came up meanwhile; `Enqueued` names them. It fails only if
an outage stops a statement, or if the transaction was spoiled before.

* `Enqueued` — what became of an order; `Made` — what it left behind in its session; `enqueue_ok` says
  that **one of the three did**, if the identifier of its event was not taken.
* `Confined`, `enqueue_elsewhere` — an order changes events only, and of its own team only, whether the
  identifier was taken or not.
* `Enqueued.follows`, `Enqueued.kept` — what holds of the events afterwards.
* `enqueue_of_flush` — an order sees what is staged.
* `enqueue_of_isUp` — **without an outage every order returns**.
-/

import Roster.Proofs.Outbox.Lifecycle
import Roster.Proofs.Session.Flush

namespace Roster.Outbox

open EStateM (Result)

/-- **What became of an order**: the event that it returned, the number of identifiers of events issued
since the beginning, and the events. -/
inductive Enqueued (order : Order) (moment : Instant) (issued : Nat) (events : List OutboxEvent) :
    Option OutboxEvent → Nat → List OutboxEvent → Prop where
  | duplicate (taken : ∃ event ∈ events, event.key = order.storedKey ∧ event.isPending = true) :
      Enqueued order moment issued events none issued events
  | placed (absent : ∀ event ∈ events, event.key = order.storedKey →
        (order.settle moment event).isPending = false) :
      Enqueued order moment issued events (some (order.event (.numbered 14 (issued + 1)) moment))
        (issued + 1) (order.placed (.numbered 14 (issued + 1)) moment events)
  | lost (taken : ∃ event ∈ events.map (order.settle moment),
        event.key = order.storedKey ∧ event.isPending = true) :
      Enqueued order moment issued events none (issued + 1) (events.map (order.settle moment))

/-- Every event has an identifier issued since the beginning. -/
def Numbered (start issued : Nat) (events : List OutboxEvent) : Prop :=
  ∀ event ∈ events, ∃ number, start < number ∧ number ≤ issued ∧ event.id = .numbered 14 number

theorem numbered_nil {start issued : Nat} : Numbered start issued [] := by
  intro event member
  cases member

/-- **The identifiers issued from now on are free** if those issued since the beginning are fresh. -/
theorem Numbered.free {start issued last : Nat} {events : List OutboxEvent}
    (numbered : Numbered start issued events) (ascends : start ≤ issued)
    (fresh : Uuid.FreshBetween 14 start last) :
    Uuid.FreeBetween 14 issued last (events.map OutboxEvent.id) := by
  refine ⟨fun a b afterA boundA afterB boundB => fresh a b (Nat.lt_of_le_of_lt ascends afterA) boundA
    (Nat.lt_of_le_of_lt ascends afterB) boundB, fun next later bound taken => ?_⟩
  obtain ⟨event, member, same⟩ := List.mem_map.mp taken
  obtain ⟨number, after, before, id⟩ := numbered event member
  have equal := fresh number next after (by omega) (by omega) bound (id.symm.trans same)
  omega

/-- **The next identifier is not taken** if those issued are fresh. -/
theorem Numbered.not_taken {start issued : Nat} {events : List OutboxEvent}
    (numbered : Numbered start issued events) (ascends : start ≤ issued)
    (fresh : Uuid.FreshBetween 14 start (issued + 1)) :
    .numbered 14 (issued + 1) ∉ events.map OutboxEvent.id :=
  (numbered.free ascends fresh).unused _ (Nat.lt_succ_self _) (Nat.le_refl _)

theorem Numbered.map {start issued : Nat} {events : List OutboxEvent}
    (numbered : Numbered start issued events) {change : OutboxEvent → OutboxEvent}
    (same : ∀ event ∈ events, (change event).id = event.id) :
    Numbered start issued (events.map change) := by
  intro event member
  obtain ⟨before, was, rfl⟩ := List.mem_map.mp member
  rw [same before was]
  exact numbered before was

theorem Numbered.mono {start issued later : Nat} {events : List OutboxEvent}
    (numbered : Numbered start issued events) (ascends : issued ≤ later) :
    Numbered start later events := by
  intro event member
  obtain ⟨number, after, before, id⟩ := numbered event member
  exact ⟨number, after, Nat.le_trans before ascends, id⟩

namespace Enqueued

variable {order : Order} {moment : Instant} {issued issuedAfter : Nat}
  {events eventsAfter : List OutboxEvent} {result : Option OutboxEvent}
  (became : Enqueued order moment issued events result issuedAfter eventsAfter)

include became

theorem ascends : issued ≤ issuedAfter := by
  cases became with
  | duplicate taken => exact Nat.le_refl _
  | placed absent => exact Nat.le_succ _
  | lost taken => exact Nat.le_succ _

theorem issued_le : issuedAfter ≤ issued + 1 := by
  cases became with
  | duplicate taken => exact Nat.le_succ _
  | placed absent => exact Nat.le_refl _
  | lost taken => exact Nat.le_refl _

theorem numbered {start : Nat} (before : Numbered start issued events) (start_le : start ≤ issued) :
    Numbered start issuedAfter eventsAfter := by
  cases became with
  | duplicate taken => exact before
  | placed absent =>
    intro event member
    rcases List.mem_append.mp member with old | new
    · exact (before.mono (Nat.le_succ _)).map (fun _ _ => Order.settle_id) event old
    · rw [List.mem_singleton.mp new]
      exact ⟨issued + 1, Nat.lt_succ_of_le start_le, Nat.le_refl _, rfl⟩
  | lost taken => exact (before.mono (Nat.le_succ _)).map fun _ _ => Order.settle_id

/-- **An event that is not pending stays as it is.** -/
theorem kept {event : OutboxEvent} (member : event ∈ events) (settled : event.isPending = false) :
    event ∈ eventsAfter := by
  have inside : event ∈ events.map (order.settle moment) :=
    List.mem_map.mpr ⟨event, member, Order.settle_of_not_pending settled⟩
  cases became with
  | duplicate taken => exact member
  | placed absent => exact List.mem_append_left _ inside
  | lost taken => exact inside

/-- **An order keeps the lines following**, whatever became of it. -/
theorem follows {wanted : Uuid → Uuid → Option EventKind} (before : Follows wanted events)
    (known : order.kind ∈ EventKind.all) (default : order.IsDefault) :
    Follows (wantedAfter order wanted) eventsAfter := by
  cases became with
  | duplicate taken =>
    obtain ⟨event, member, same, pending⟩ := taken
    rw [before.wantedAfter_eq known default member same pending]
    exact before
  | placed absent => exact before.placed known default absent _
  | lost taken =>
    obtain ⟨event, member, same, pending⟩ := taken
    obtain ⟨was, inside, rfl⟩ := List.mem_map.mp member
    obtain ⟨pending, _⟩ := Order.isPending_of_settle pending
    rw [Order.settle_key] at same
    rw [before.wantedAfter_eq known default inside same pending,
      before.map_settle_eq known default inside same pending]
    exact before

end Enqueued

/-! ### Superseding -/

variable {order : Order} {moment : Instant}

/-- The events that an order supersedes, as it leaves them. -/
def Order.retired (order : Order) (moment : Instant) (events : List OutboxEvent) : List OutboxEvent :=
  (events.filter order.reverses).map fun event => superseded event order.kind moment

theorem Order.reverses_eq_false (plain : order.kind.opposite? = none) (event : OutboxEvent) :
    order.reverses event = false := by
  simp [Order.reverses, plain]

/-- The pending events of the opposite kind are those that the order reverses. -/
theorem pendingOfIn_eq {opposite : EventKind} (reversed : order.kind.opposite? = some opposite)
    (store : Store) :
    pendingOfIn opposite order.team order.user store = store.events.filter order.reverses := by
  refine List.filter_congr fun event _ => ?_
  simp only [Order.reverses, reversed, Option.some.injEq, eq_comm]

theorem map_id_retired_sublist (events : List OutboxEvent) :
    ((order.retired moment events).map OutboxEvent.id).Sublist (events.map OutboxEvent.id) := by
  rw [Order.retired, List.map_map]
  exact List.filter_sublist.map OutboxEvent.id

section Retired

variable {store : Store} (valid : store.Valid)

include valid

theorem nodup_retired : ((order.retired moment store.events).map OutboxEvent.id).Nodup :=
  valid.eventIds.sublist (map_id_retired_sublist store.events)

theorem alteredColumns_retired {change : OutboxEvent}
    (member : change ∈ order.retired moment store.events) :
    store.alteredColumns (.event change) ≠ [] := by
  obtain ⟨event, reversed, rfl⟩ := List.mem_map.mp member
  obtain ⟨inside, reverses⟩ := List.mem_filter.mp reversed
  simp only [Order.reverses, decide_eq_true_eq] at reverses
  refine Store.alteredColumns_event_ne_nil valid.eventIds inside rfl (.inl ⟨?_, rfl⟩)
  rw [(OutboxEvent.isPending_iff.mp reverses.2.2.2).1]
  rfl

theorem keepsKey_retired {change : OutboxEvent} (member : change ∈ order.retired moment store.events) :
    store.KeepsKey change := by
  obtain ⟨event, reversed, rfl⟩ := List.mem_map.mp member
  intro other inside same
  obtain rfl : other = event :=
    Store.eq_of_id_eq valid.eventIds inside (List.mem_of_mem_filter reversed) same
  exact ⟨rfl, nofun⟩

theorem updated_retired :
    Store.updated OutboxEvent.id (order.retired moment store.events) store.events
      = store.events.map (order.settle moment) := by
  refine Store.updated_eq_of_forall (fun event member change retired same => ?_)
    fun event member kept => ?_
  · obtain ⟨before, reversed, rfl⟩ := List.mem_map.mp retired
    obtain ⟨inside, reverses⟩ := List.mem_filter.mp reversed
    obtain rfl : before = event := Store.eq_of_id_eq valid.eventIds inside member same
    rw [Order.settle, if_pos reverses]
  · by_cases reverses : order.reverses event = true
    · exact absurd rfl (kept (superseded event order.kind moment)
        (List.mem_map_of_mem (List.mem_filter.mpr ⟨member, reverses⟩)))
    · rw [Bool.not_eq_true] at reverses
      exact (Order.settle_of_not_reverses reverses).symm

end Retired

/-- **Superseding stages the retired events** and issues nothing. -/
theorem forM_supersede (opposite : EventKind) (events : List OutboxEvent) (session : Session) :
    ∃ journal, (events.forM fun event => do
        Transaction.stage (.change (.event (superseded event order.kind moment)))
        Act.note (.eventSuperseded event.id opposite order.team order.user)) session
      = .ok () { session with
          staged := session.staged
            ++ eventChanges (events.map fun event => superseded event order.kind moment)
          surroundings := { session.surroundings with journal } } := by
  induction events generalizing session with
  | nil => exact ⟨session.surroundings.journal, by simp [eventChanges, forM_nil_apply]⟩
  | cons event rest ih =>
    obtain ⟨journal, later⟩ := ih { session with
      staged := session.staged ++ [.change (.event (superseded event order.kind moment))]
      surroundings := { session.surroundings with journal := session.surroundings.journal
        ++ [.eventSuperseded event.id opposite order.team order.user] } }
    refine ⟨journal, bind_eq_ok.mpr ⟨(), _, rfl, later.trans ?_⟩⟩
    simp [eventChanges]

/-- What superseding leaves behind. -/
theorem supersedeOpposite_ok {session after : Session} (settled : session.Settled)
    (ran : supersedeOpposite order moment session = .ok () after) :
    after.store = session.store ∧ after.spoiled = none
      ∧ after.staged = eventChanges (order.retired moment session.store.events)
      ∧ after.surroundings.issued = session.surroundings.issued := by
  unfold supersedeOpposite at ran
  cases reversed : order.kind.opposite? with
  | none =>
    rw [reversed] at ran
    cases ran
    have none : session.store.events.filter order.reverses = [] := List.filter_eq_nil_iff.mpr
      fun event _ => by simp [Order.reverses_eq_false reversed event]
    refine ⟨rfl, settled.sound, ?_, rfl⟩
    rw [settled.staged, Order.retired, none]
    rfl
  | some opposite =>
    rw [reversed] at ran
    obtain ⟨found, asked, reads, ran⟩ := bind_eq_ok.mp ran
    have quiet : session.surroundings.Quiet asked.surroundings :=
      (Transaction.keeps_read _).of_ok reads
    obtain ⟨still, store, rfl⟩ := Transaction.read_ok reads settled
    rw [pendingOfIn_eq reversed] at ran
    obtain ⟨journal, staged⟩ := @forM_supersede order moment opposite _ asked
    cases staged.symm.trans ran
    refine ⟨store, still.sound, ?_, quiet.issued⟩
    rw [still.staged, List.nil_append, Order.retired]

theorem supersedeOpposite_of_isUp {session : Session} (settled : session.Settled)
    (up : session.surroundings.IsUp) :
    ∃ after, supersedeOpposite order moment session = .ok () after ∧ after.surroundings.IsUp := by
  unfold supersedeOpposite
  cases order.kind.opposite? with
  | none => exact ⟨session, rfl, up⟩
  | some opposite =>
    obtain ⟨journal, staged⟩ := @forM_supersede order moment opposite
      (pendingOfIn opposite order.team order.user session.store) { session with opened := true }
    exact ⟨_, bind_eq_ok.mpr ⟨_, _, Transaction.read_of_settled settled up, staged⟩, up⟩

/-! ### Inserting -/

theorem insertEvent_apply (event : OutboxEvent) (session : Session) :
    insertEvent event session = match Transaction.insertSafely (.event event) session with
      | .ok _ after => .ok (some event) { after with surroundings := { after.surroundings with
          journal := after.surroundings.journal
            ++ [.eventEnqueued event.id event.kind event.team event.user] } }
      | .error .constraint after => .ok none { after with surroundings := { after.surroundings with
          journal := after.surroundings.journal ++ [.eventDuplicateRace event.key] } }
      | .error failure after =>
        if failure.isDatabase then .error (.notEnqueued failure.message) { after with
          surroundings := { after.surroundings with journal := after.surroundings.journal
            ++ [.eventNotEnqueued event.key failure.message] } }
        else .error failure after := by
  unfold insertEvent
  rw [bind_apply, tryCatch_apply, bind_apply]
  cases Transaction.insertSafely (.event event) session with
  | ok _ after => rfl
  | error failure after =>
    cases failure with
    | reported kind message => cases kind <;> rfl
    | _ => rfl

/-- **What an insertion leaves behind**, after the staged retired events have gone out: the event was
added, or the rules of the store forbid it. -/
theorem insertEvent_ok {event : OutboxEvent} {session after : Session} {result : Option OutboxEvent}
    (valid : session.store.Valid) (sound : session.spoiled = none)
    (staged : session.staged = eventChanges (order.retired moment session.store.events))
    (ran : insertEvent event session = .ok result after) :
    after.Settled ∧ after.surroundings.issued = session.surroundings.issued
      ∧ (result = some event ∧ after.store = { session.store with
            events := session.store.events.map (order.settle moment) ++ [event] }
        ∨ result = none ∧ after.store = { session.store with
            events := session.store.events.map (order.settle moment) }
          ∧ ¬ { session.store with
            events := session.store.events.map (order.settle moment) ++ [event] }.Valid) := by
  rw [insertEvent_apply, Transaction.insertSafely, bind_apply] at ran
  cases flushes : Transaction.flush session with
  | error failure spoiled =>
    have along := valid.along_statements (@nodup_retired order moment _ valid)
      (fun _ => alteredColumns_retired valid) fun _ => keepsKey_retired valid
    rw [← staged] at along
    obtain ⟨name, message, rfl⟩ := Transaction.flush_error flushes sound along
    rw [flushes] at ran
    cases ran
  | ok _ flushed =>
    have quiet : session.surroundings.Quiet flushed.surroundings :=
      Transaction.keeps_flush.of_ok flushes
    obtain ⟨settled, store⟩ := Transaction.flush_eventChanges_ok staged (nodup_retired valid)
      (fun _ => alteredColumns_retired valid) valid flushes
    rw [updated_retired valid] at store
    have inserted : [Write.insert (.event event)].foldl Write.apply flushed.store
        = { session.store with
          events := session.store.events.map (order.settle moment) ++ [event] } := by
      rw [store]
      rfl
    rw [flushes] at ran
    dsimp only at ran
    have issued := Transaction.keeps_execute [.insert (.event event)] flushed
    cases sent : Transaction.execute [.insert (.event event)] flushed with
    | ok _ final =>
      obtain ⟨validNow, now, through, rfl⟩ := Transaction.write_eq_ok.mp sent
      rw [sent] at ran issued
      cases ran
      refine ⟨⟨settled.staged, settled.sound, validNow⟩,
        (Surroundings.Quiet.issued issued).trans quiet.issued, .inl ⟨rfl, inserted⟩⟩
    | error failure final =>
      rw [sent] at ran issued
      rcases Transaction.write_error sent with ⟨name, message, rfl⟩ | ⟨rfl, broken, now, rfl⟩
      · cases ran
      · cases ran
        exact ⟨⟨settled.staged, settled.sound, settled.valid⟩,
          (Surroundings.Quiet.issued issued).trans quiet.issued, .inr ⟨rfl, store, inserted ▸ broken⟩⟩

theorem insertEvent_of_isUp {event : OutboxEvent} {session : Session}
    (up : session.surroundings.IsUp) (valid : session.store.Valid) (sound : session.spoiled = none)
    (staged : session.staged = eventChanges (order.retired moment session.store.events)) :
    ∃ result after, insertEvent event session = .ok result after := by
  have along := valid.along_statements (@nodup_retired order moment _ valid)
    (fun _ => alteredColumns_retired valid) fun _ => keepsKey_retired valid
  rw [← staged] at along
  obtain ⟨opened, flushes⟩ := Transaction.flush_of_isUp up sound along
  rw [insertEvent_apply, Transaction.insertSafely, bind_of_ok flushes, Transaction.execute,
    Transaction.write_apply, Act.send_of_isUp up]
  dsimp only
  by_cases fits : Store.Valid ([Write.insert (.event event)].foldl Write.apply
      ((statements session.store session.staged).flatten.foldl Write.apply session.store))
  · rw [if_pos fits]
    exact ⟨_, _, rfl⟩
  · rw [if_neg fits]
    exact ⟨_, _, rfl⟩

/-! ### Orders -/

/-- What an order does if its key is not found pending. -/
def place (order : Order) : Transaction (Option OutboxEvent) := do
  let clock ← Act.readClock
  let moment := order.occurredAt.getD clock
  supersedeOpposite order moment
  let id ← Act.issueEvent
  insertEvent (order.event id moment)

/-- What an order does, apart from the look-up. -/
def placeUnless (order : Order) (isPending : Bool) : Transaction (Option OutboxEvent) :=
  if isPending then do
    Act.note (.eventDuplicate order.storedKey)
    return none
  else place order

theorem enqueue_of_race (race : order.isRace = true) : enqueue order = placeUnless order false := by
  unfold enqueue
  rw [race]
  rfl

theorem enqueue_of_not_race (plain : order.isRace = false) :
    enqueue order = Transaction.read (hasPendingIn order.storedKey) >>= placeUnless order := by
  unfold enqueue
  rw [plain]
  rfl

/-- **An order sees what is staged.** -/
theorem enqueue_of_flush {session flushed : Session}
    (flushes : Transaction.flush session = .ok () flushed) (settled : flushed.Settled)
    (plain : order.isRace = false) : enqueue order session = enqueue order flushed := by
  rw [enqueue_of_not_race plain, bind_apply, bind_apply, Transaction.read_of_flush flushes settled]

theorem hasPendingIn_iff {key : String} {store : Store} :
    hasPendingIn key store = true ↔
      ∃ event ∈ store.events, event.key = key ∧ event.isPending = true := by
  simp [hasPendingIn]

/-- An insertion that the rules forbid met a pending event of the same key. -/
theorem taken_of_not_valid {store : Store} {event : OutboxEvent} {events : List OutboxEvent}
    (valid : { store with events }.Valid) (fresh : event.id ∉ events.map OutboxEvent.id)
    (broken : ¬ { store with events := events ++ [event] }.Valid) :
    ∃ other ∈ events, other.key = event.key ∧ other.isPending = true := by
  by_contra absent
  refine broken (valid.withEvent fresh fun other inside same => ?_)
  by_contra pending
  exact absent ⟨other, inside, same, Bool.not_eq_false _ ▸ pending⟩

theorem map_id_settle (events : List OutboxEvent) :
    (events.map (order.settle moment)).map OutboxEvent.id = events.map OutboxEvent.id := by
  rw [List.map_map]
  exact List.map_congr_left fun event _ => Order.settle_id

/-- A valid store that ends in the event of an order had its key free. -/
theorem free_of_valid {store : Store} {id : Uuid} {events : List OutboxEvent}
    (valid : { store with events := events ++ [order.event id moment] }.Valid) :
    ∀ event ∈ events, event.key = order.storedKey → event.isPending = false := by
  intro event inside same
  by_contra pending
  rw [Bool.not_eq_false] at pending
  have keys := valid.pendingKeys
  have own : (order.event id moment).isPending = true := rfl
  dsimp only at keys
  rw [List.filter_append, List.map_append, List.filter_singleton, own] at keys
  refine (List.nodup_append.mp keys).2.2 event.key ?_ order.storedKey List.mem_cons_self same
  exact List.mem_map_of_mem (List.mem_filter.mpr ⟨inside, pending⟩)

/-- **An order was made in a session**: one of three things became of it, and nothing else changed but
that perhaps an identifier was issued. -/
structure Made (order : Order) (result : Option OutboxEvent) (session after : Session) : Prop where
  settled : after.Settled
  became : ∃ moment, (∀ given ∈ order.occurredAt, moment = given)
    ∧ Enqueued order moment session.surroundings.issued.events session.store.events result
      after.surroundings.issued.events after.store.events
  store : after.store = { session.store with events := after.store.events }
  issued : after.surroundings.issued = { session.surroundings.issued with
    events := after.surroundings.issued.events }

/-- **An order whose key is not found pending** issues an identifier and adds its event behind those that it
retires, unless the rules of the store forbid it. -/
theorem place_eq_ok {session after : Session} {result : Option OutboxEvent} (settled : session.Settled)
    (ran : place order session = .ok result after) :
    after.Settled
      ∧ after.surroundings.issued = { session.surroundings.issued with
          events := session.surroundings.issued.events + 1 }
      ∧ ∃ moment event, (∀ given ∈ order.occurredAt, moment = given)
        ∧ event = order.event (.numbered 14 (session.surroundings.issued.events + 1)) moment
        ∧ (result = some event ∧ after.store = { session.store with
              events := session.store.events.map (order.settle moment) ++ [event] }
          ∨ result = none ∧ after.store = { session.store with
              events := session.store.events.map (order.settle moment) }
            ∧ ¬ { session.store with
              events := session.store.events.map (order.settle moment) ++ [event] }.Valid) := by
  obtain ⟨clock, _, ⟨⟩, ran⟩ := bind_eq_ok.mp ran
  obtain ⟨_, retired, supersedes, ran⟩ := bind_eq_ok.mp ran
  obtain ⟨id, numbered, issues, ran⟩ := bind_eq_ok.mp ran
  obtain ⟨store, sound, staged, issued⟩ := supersedeOpposite_ok settled supersedes
  have counted : id = .numbered 14 (session.surroundings.issued.events + 1)
      ∧ numbered.surroundings.issued = { session.surroundings.issued with
          events := session.surroundings.issued.events + 1 }
      ∧ numbered.store = session.store ∧ numbered.staged = retired.staged
      ∧ numbered.spoiled = retired.spoiled := by
    cases issues
    rw [← issued]
    exact ⟨rfl, rfl, store, rfl, rfl⟩
  obtain ⟨rfl, count, sameStore, sameStaged, sameSpoiled⟩ := counted
  obtain ⟨settledAfter, issuedAfter, became⟩ := insertEvent_ok (sameStore ▸ settled.valid)
    (sameSpoiled.trans sound) (sameStore ▸ sameStaged.trans staged) ran
  rw [sameStore] at became
  refine ⟨settledAfter, issuedAfter.trans count, order.occurredAt.getD session.surroundings.clock, _,
    ?_, rfl, became⟩
  rintro given same
  rw [same]
  rfl

/-- **What an order does whose key is not found pending**: it places its event or loses, and in both cases
it issues an identifier. -/
theorem place_ok {session after : Session} {result : Option OutboxEvent} (settled : session.Settled)
    (fresh : session.surroundings.issued.events < after.surroundings.issued.events →
      .numbered 14 (session.surroundings.issued.events + 1)
        ∉ session.store.events.map OutboxEvent.id)
    (ran : place order session = .ok result after) : Made order result session after
      ∧ after.surroundings.issued.events = session.surroundings.issued.events + 1 := by
  obtain ⟨settledAfter, issuedAfter, moment, event, given, rfl, became⟩ := place_eq_ok settled ran
  have free := fresh (issuedAfter ▸ Nat.lt_succ_self _)
  have validAfter := settledAfter.valid
  refine ⟨⟨settledAfter, ⟨moment, given, ?_⟩, ?_, ?_⟩, by rw [issuedAfter]⟩
  · rw [issuedAfter]
    rcases became with ⟨rfl, storeAfter⟩ | ⟨rfl, storeAfter, broken⟩
    · rw [storeAfter] at validAfter ⊢
      refine .placed fun event member same => ?_
      exact free_of_valid validAfter _ (List.mem_map_of_mem member) (Order.settle_key.trans same)
    · rw [storeAfter] at validAfter ⊢
      exact .lost (taken_of_not_valid validAfter (map_id_settle session.store.events ▸ free) broken)
  · rcases became with ⟨_, storeAfter⟩ | ⟨_, storeAfter, _⟩
    · rw [storeAfter]
    · rw [storeAfter]
  · rw [issuedAfter]

/-- **An order that returns** found its key pending, or went on to place its event. -/
theorem enqueue_eq_ok {session after : Session} {result : Option OutboxEvent} (settled : session.Settled)
    (ran : enqueue order session = .ok result after) :
    ∃ asked : Session, asked.Settled ∧ asked.store = session.store
      ∧ asked.surroundings.issued = session.surroundings.issued
      ∧ (place order asked = .ok result after
        ∨ result = none ∧ after.Settled ∧ after.store = asked.store
          ∧ after.surroundings.issued = asked.surroundings.issued
          ∧ ∃ event ∈ asked.store.events, event.key = order.storedKey ∧ event.isPending = true) := by
  cases race : order.isRace with
  | true =>
    rw [enqueue_of_race race] at ran
    exact ⟨session, settled, rfl, rfl, .inl ran⟩
  | false =>
    rw [enqueue_of_not_race race] at ran
    obtain ⟨isPending, asked, reads, ran⟩ := bind_eq_ok.mp ran
    have issued : asked.surroundings.issued = session.surroundings.issued :=
      Surroundings.Quiet.issued ((Transaction.keeps_read _).of_ok reads)
    obtain ⟨settledAsked, store, answer⟩ := Transaction.read_ok reads settled
    refine ⟨asked, settledAsked, store, issued, ?_⟩
    cases isPending with
    | true =>
      cases ran
      rw [← store] at answer
      exact .inr ⟨rfl, ⟨settledAsked.staged, settledAsked.sound, settledAsked.valid⟩, rfl, rfl,
        hasPendingIn_iff.mp answer.symm⟩
    | false => exact .inl ran

/-- **An order that returns** found its key pending, placed its event or lost. -/
theorem enqueue_ok {session after : Session} {result : Option OutboxEvent} (settled : session.Settled)
    (fresh : session.surroundings.issued.events < after.surroundings.issued.events →
      .numbered 14 (session.surroundings.issued.events + 1)
        ∉ session.store.events.map OutboxEvent.id)
    (ran : enqueue order session = .ok result after) : Made order result session after := by
  obtain ⟨asked, settledAsked, store, issued, placed | ⟨rfl, settledAfter, same, count, taken⟩⟩ :=
    enqueue_eq_ok settled ran
  · rw [← store, ← issued] at fresh
    have made := (place_ok settledAsked fresh placed).1
    exact ⟨made.settled, store ▸ issued ▸ made.became, store ▸ made.store, issued ▸ made.issued⟩
  · rw [store] at same taken
    rw [issued] at count
    refine ⟨settledAfter, ⟨order.occurredAt.getD default, fun given same => by rw [same]; rfl, ?_⟩, ?_, ?_⟩
    · rw [same, count]
      exact .duplicate taken
    · rw [same]
    · rw [count]

/-- **Whatever identifier an order issues, it changes events only.** -/
structure Confined (session after : Session) : Prop where
  settled : after.Settled
  store : after.store = { session.store with events := after.store.events }
  issued : after.surroundings.issued = { session.surroundings.issued with
    events := after.surroundings.issued.events }

theorem enqueue_confined {session after : Session} {result : Option OutboxEvent}
    (settled : session.Settled) (ran : enqueue order session = .ok result after) :
    Confined session after := by
  obtain ⟨asked, settledAsked, store, issued, placed | ⟨_, settledAfter, same, count, _⟩⟩ :=
    enqueue_eq_ok settled ran
  · obtain ⟨settledAfter, count, moment, event, _, _, became⟩ := place_eq_ok settledAsked placed
    rw [store] at became
    rw [issued] at count
    refine ⟨settledAfter, ?_, by rw [count]⟩
    rcases became with ⟨_, storeAfter⟩ | ⟨_, storeAfter, _⟩
    · rw [storeAfter]
    · rw [storeAfter]
  · exact ⟨settledAfter, by rw [same, store], by rw [count, issued]⟩

/-- The events about a team, in the order of their insertion. -/
def ofTeam (team : Uuid) (events : List OutboxEvent) : List OutboxEvent :=
  events.filter fun event => event.team = team

theorem ofTeam_map_settle {other : Uuid} (elsewhere : order.team ≠ other) (events : List OutboxEvent) :
    ofTeam other (events.map (order.settle moment)) = ofTeam other events := by
  have known : (fun event : OutboxEvent => decide (event.team = other)) ∘ order.settle moment
      = fun event => decide (event.team = other) := by
    funext event
    rw [Function.comp_apply, Order.settle_team]
  rw [ofTeam, List.filter_map, known]
  refine (List.map_congr_left fun event inside => ?_).trans (List.map_id' _)
  have same := of_decide_eq_true (List.mem_filter.mp inside).2
  refine Order.settle_of_not_reverses (decide_eq_false fun reversed => elsewhere ?_)
  exact reversed.2.1.symm.trans same

/-- **An order leaves the events of other teams alone**, whatever identifier it issues. -/
theorem enqueue_elsewhere {session after : Session} {result : Option OutboxEvent} {other : Uuid}
    (settled : session.Settled) (ran : enqueue order session = .ok result after)
    (elsewhere : order.team ≠ other) :
    ofTeam other after.store.events = ofTeam other session.store.events := by
  obtain ⟨asked, settledAsked, store, _, placed | ⟨_, _, same, _, _⟩⟩ := enqueue_eq_ok settled ran
  · obtain ⟨_, _, moment, event, _, rfl, became⟩ := place_eq_ok settledAsked placed
    rw [store] at became
    have retired := @ofTeam_map_settle order moment other elsewhere session.store.events
    rcases became with ⟨_, storeAfter⟩ | ⟨_, storeAfter, _⟩
    · have foreign : ofTeam other [order.event (.numbered 14 (asked.surroundings.issued.events + 1))
          moment] = [] := List.filter_cons_of_neg fun same => elsewhere (of_decide_eq_true same)
      rw [storeAfter, ofTeam, List.filter_append]
      exact (congrArg₂ _ retired foreign).trans (List.append_nil _)
    · rw [storeAfter]
      exact retired
  · rw [same, store]

/-- **An order without an event has changed none**, unless one of its key came up unseen. -/
theorem enqueue_eq_none {session after : Session} {result : Option OutboxEvent}
    (settled : session.Settled)
    (fresh : session.surroundings.issued.events < after.surroundings.issued.events →
      .numbered 14 (session.surroundings.issued.events + 1)
        ∉ session.store.events.map OutboxEvent.id)
    (plain : order.isRace = false) (ran : enqueue order session = .ok result after)
    (none : result = none) : after.store.events = session.store.events := by
  rw [enqueue_of_not_race plain] at ran
  obtain ⟨isPending, asked, reads, ran⟩ := bind_eq_ok.mp ran
  have issued : asked.surroundings.issued = session.surroundings.issued :=
    Surroundings.Quiet.issued ((Transaction.keeps_read _).of_ok reads)
  obtain ⟨settledAsked, store, answer⟩ := Transaction.read_ok reads settled
  cases isPending with
  | true =>
    cases ran
    exact congrArg Store.events store
  | false =>
    rw [← store, ← issued] at fresh
    obtain ⟨moment, _, became⟩ := (place_ok settledAsked fresh ran).1.became
    rw [store] at became
    subst none
    have free : ¬ ∃ event ∈ session.store.events,
        event.key = order.storedKey ∧ event.isPending = true := fun taken =>
      Bool.false_ne_true (answer.trans (hasPendingIn_iff.mpr taken))
    generalize after.store.events = eventsAfter at became
    generalize after.surroundings.issued.events = issuedAfter at became
    cases became with
    | duplicate taken => rfl
    | lost taken =>
      obtain ⟨event, member, same, pending⟩ := taken
      obtain ⟨before, was, rfl⟩ := List.mem_map.mp member
      rw [Order.settle_key] at same
      exact absurd ⟨before, was, same, (Order.isPending_of_settle pending).1⟩ free

/-- An order that returns has sent what was staged first. -/
theorem flush_of_enqueue_ok {session after : Session} {result : Option OutboxEvent}
    (valid : session.store.Valid) (plain : order.isRace = false)
    (ran : enqueue order session = .ok result after) :
    ∃ flushed, Transaction.flush session = .ok () flushed ∧ flushed.Settled
      ∧ enqueue order flushed = .ok result after := by
  have whole := ran
  rw [enqueue_of_not_race plain] at whole
  obtain ⟨_, asked, reads, _⟩ := bind_eq_ok.mp whole
  obtain ⟨flushed, _, flushes, _⟩ := Transaction.read_eq_ok.mp reads
  obtain ⟨settled, _⟩ := Transaction.flush_ok flushes valid
  exact ⟨flushed, flushes, settled, (enqueue_of_flush flushes settled plain).symm.trans ran⟩

/-- **Without an outage every order returns.** -/
theorem enqueue_of_isUp {session : Session} (settled : session.Settled)
    (up : session.surroundings.IsUp) : ∃ result after, enqueue order session = .ok result after := by
  have places : ∀ asked : Session, asked.Settled → asked.surroundings.IsUp →
      ∃ result after, place order asked = .ok result after := by
    intro asked settled up
    obtain ⟨retired, supersedes, upRetired⟩ := @supersedeOpposite_of_isUp order
      (order.occurredAt.getD asked.surroundings.clock) asked settled up
    obtain ⟨store, sound, staged, _⟩ := supersedeOpposite_ok settled supersedes
    obtain ⟨result, after, inserts⟩ := @insertEvent_of_isUp order
      (order.occurredAt.getD asked.surroundings.clock)
      (order.event (.numbered 14 (retired.surroundings.issued.events + 1))
        (order.occurredAt.getD asked.surroundings.clock))
      { retired with surroundings := { retired.surroundings with
          issued := { retired.surroundings.issued with
            events := retired.surroundings.issued.events + 1 } } }
      upRetired (store ▸ settled.valid) sound (store ▸ staged)
    exact ⟨result, after, bind_eq_ok.mpr ⟨_, _, rfl, bind_eq_ok.mpr ⟨_, _, supersedes,
      bind_eq_ok.mpr ⟨_, _, rfl, inserts⟩⟩⟩⟩
  cases race : order.isRace with
  | true =>
    rw [enqueue_of_race race]
    exact places session settled up
  | false =>
    rw [enqueue_of_not_race race, bind_of_ok (Transaction.read_of_settled settled up)]
    cases hasPendingIn order.storedKey session.store with
    | true => exact ⟨none, _, rfl⟩
    | false =>
      exact places _ ⟨settled.staged, settled.sound, settled.valid⟩ up

/-! ### Orders do not ask the groupware -/

theorem keeps_supersedeOpposite : Keeps Session.Calm (supersedeOpposite order moment) := by
  unfold supersedeOpposite
  cases order.kind.opposite? with
  | none => exact Keeps.pure ()
  | some opposite =>
    refine Keeps.bind (Transaction.keeps_read _).calm fun reversed => Keeps.forM (fun event => ?_) _
    exact Keeps.bind (Transaction.keeps_stage _).calm fun _ =>
      Transaction.keeps_act (Act.keeps_note _)

theorem keeps_insertEvent (event : OutboxEvent) : Keeps Session.Calm (insertEvent event) := by
  intro session
  have inserted := (Transaction.keeps_insertSafely (.event event)).calm session
  have noted : ∀ (notice : Notice) (after : Session), session.Calm after →
      session.Calm { after with surroundings := { after.surroundings with
        journal := after.surroundings.journal ++ [notice] } } := fun notice after here =>
    trans_of Session.Calm here (Transaction.keeps_act (Act.keeps_note notice) after)
  rw [insertEvent_apply]
  split
  · rename_i ran
    rw [ran] at inserted
    exact noted _ _ inserted
  · rename_i ran
    rw [ran] at inserted
    exact noted _ _ inserted
  · rename_i ran
    rw [ran] at inserted
    split
    · exact noted _ _ inserted
    · exact inserted

theorem keeps_enqueue (order : Order) : Keeps Session.Calm (enqueue order) := by
  have places : Keeps Session.Calm (place order) :=
    Keeps.bind (Transaction.keeps_act Act.keeps_readClock) fun _ =>
      Keeps.bind keeps_supersedeOpposite fun _ =>
        Keeps.bind (Transaction.keeps_act Act.keeps_issueEvent) fun _ => keeps_insertEvent _
  have answered : ∀ isPending, Keeps Session.Calm (placeUnless order isPending) := fun isPending =>
    Keeps.ite (Keeps.bind (Transaction.keeps_act (Act.keeps_note _)) fun _ => Keeps.pure none) places
  cases race : order.isRace with
  | true =>
    rw [enqueue_of_race race]
    exact answered false
  | false =>
    rw [enqueue_of_not_race race]
    exact Keeps.bind (Transaction.keeps_read _).calm answered

end Roster.Outbox
