/-
**Orders one after another.**

What one order does to the lines of other teams and users is nothing; in its own line its event is
pending afterwards, and an event that it reverses stays pending only if the order found its own key
pending first.

* `IsWaiting` — some event of a kind is pending for a team and a user.
* `Enqueued.line_eq`, `Enqueued.isWaiting`, `Enqueued.isWaiting_opposite` — one order.
* `EnqueuedAll` — **orders one after another**, at one moment; the same facts for all of them.
-/

import Roster.Proofs.Outbox.Enqueue

namespace Roster.Outbox

/-- Some event of the kind is pending for the team and the user. -/
def IsWaiting (kind : EventKind) (team user : Uuid) (events : List OutboxEvent) : Prop :=
  ∃ event ∈ events, event.kind = kind ∧ event.team = team ∧ event.user = user
    ∧ event.isPending = true

instance (kind : EventKind) (team user : Uuid) (events : List OutboxEvent) :
    Decidable (IsWaiting kind team user events) :=
  inferInstanceAs (Decidable (∃ event ∈ events, event.kind = kind ∧ event.team = team
    ∧ event.user = user ∧ event.isPending = true))

/-- Whether an event is pending for a team and a user is seen from their line. -/
theorem isWaiting_line {kind : EventKind} {team user : Uuid} {events : List OutboxEvent} :
    IsWaiting kind team user (line team user events) ↔ IsWaiting kind team user events := by
  unfold IsWaiting
  refine exists_congr fun event => ?_
  rw [mem_line]
  exact ⟨fun ⟨⟨inside, _, _⟩, rest⟩ => ⟨inside, rest⟩,
    fun ⟨inside, kind, team, user, pending⟩ => ⟨⟨inside, team, user⟩, kind, team, user, pending⟩⟩

theorem IsWaiting.congr {kind : EventKind} {team user : Uuid} {events others : List OutboxEvent}
    (same : line team user events = line team user others) :
    IsWaiting kind team user events ↔ IsWaiting kind team user others := by
  rw [← isWaiting_line, same, isWaiting_line]

section OneOrder

variable {order : Order} {moment : Instant} {issued issuedAfter : Nat}
  {events eventsAfter : List OutboxEvent} {result : Option OutboxEvent} {team user : Uuid}

/-- After settling, no event of the kind that the order reverses is pending. -/
theorem not_isWaiting_map_settle {opposite : EventKind}
    (reversed : order.kind.opposite? = some opposite) :
    ¬ IsWaiting opposite order.team order.user (events.map (order.settle moment)) := by
  rintro ⟨_, member, kind, sameTeam, sameUser, pending⟩
  obtain ⟨event, _, rfl⟩ := List.mem_map.mp member
  rw [Order.settle_kind] at kind
  rw [Order.settle_team] at sameTeam
  rw [Order.settle_user] at sameUser
  obtain ⟨pending, kept⟩ := Order.isPending_of_settle pending
  exact of_decide_eq_false kept ⟨kind ▸ reversed, sameTeam, sameUser, pending⟩

theorem isWaiting_of_taken (known : order.kind ∈ EventKind.all) (default : order.IsDefault)
    (keyed : ∀ event ∈ events, event.Keyed)
    (taken : ∃ event ∈ events, event.key = order.storedKey ∧ event.isPending = true) :
    IsWaiting order.kind order.team order.user events := by
  obtain ⟨event, member, same, pending⟩ := taken
  obtain ⟨kind, team, user⟩ := (keyed event member).eq_of_key_eq known
    (same.trans (Order.storedKey_of_default default known))
  exact ⟨event, member, kind, team, user, pending⟩

namespace Enqueued

variable (became : Enqueued order moment issued events result issuedAfter eventsAfter)

include became

/-- **The lines of others stay as they are.** -/
theorem line_eq (other : ¬ order.IsAbout team user) :
    line team user eventsAfter = line team user events := by
  cases became with
  | duplicate taken => rfl
  | placed absent => exact line_placed_of_other other events
  | lost taken => exact line_map_settle_of_other other events

/-- Every event was there before, or has an identifier issued since. -/
theorem ids {event : OutboxEvent} (member : event ∈ eventsAfter) :
    event.id ∈ events.map OutboxEvent.id
      ∨ event.id = .numbered 14 (issued + 1) ∧ issuedAfter = issued + 1 := by
  have settled : ∀ event ∈ events.map (order.settle moment),
      event.id ∈ events.map OutboxEvent.id := fun event inside => by
    obtain ⟨before, was, rfl⟩ := List.mem_map.mp inside
    rw [Order.settle_id]
    exact List.mem_map_of_mem was
  cases became with
  | duplicate taken => exact .inl (List.mem_map_of_mem member)
  | placed absent =>
    rcases List.mem_append.mp member with old | new
    · exact .inl (settled event old)
    · rw [List.mem_singleton.mp new]
      exact .inr ⟨rfl, rfl⟩
  | lost taken => exact .inl (settled event member)

variable (known : order.kind ∈ EventKind.all) (default : order.IsDefault)

include known default

/-- Default keys stay. -/
theorem keyed (before : ∀ event ∈ events, event.Keyed) : ∀ event ∈ eventsAfter, event.Keyed := by
  have settled : ∀ event ∈ events.map (order.settle moment), event.Keyed := by
    intro event inside
    obtain ⟨was, member, rfl⟩ := List.mem_map.mp inside
    simpa [OutboxEvent.Keyed] using before was member
  cases became with
  | duplicate taken => exact before
  | placed absent =>
    intro event member
    rcases List.mem_append.mp member with old | new
    · exact settled event old
    · rw [List.mem_singleton.mp new]
      exact ⟨known, Order.storedKey_of_default default known⟩
  | lost taken => exact settled

variable (before : ∀ event ∈ events, event.Keyed)

include before

/-- **The event of an order is pending afterwards**, the new one or the one that was pending already. -/
theorem isWaiting : IsWaiting order.kind order.team order.user eventsAfter := by
  have keyed := became.keyed known default before
  cases became with
  | duplicate taken => exact isWaiting_of_taken known default before taken
  | placed absent => exact ⟨_, List.mem_append_right _ List.mem_cons_self, rfl, rfl, rfl, rfl⟩
  | lost taken => exact isWaiting_of_taken known default keyed taken

/-- **An event of the opposite kind stays pending** only next to one of the order's own kind. -/
theorem isWaiting_opposite (plain : result = none → eventsAfter = events) {opposite : EventKind}
    (reversed : order.kind.opposite? = some opposite) :
    IsWaiting opposite order.team order.user eventsAfter ↔
      IsWaiting order.kind order.team order.user events
        ∧ IsWaiting opposite order.team order.user events := by
  have gone := @not_isWaiting_map_settle order moment events opposite reversed
  have different : order.kind ≠ opposite := fun same => by
    rcases mem_all_iff.mp known with ask | ask <;> simp [← same, ask, EventKind.opposite?] at reversed
  cases became with
  | duplicate taken => exact (and_iff_right (isWaiting_of_taken known default before taken)).symm
  | placed absent =>
    constructor
    · rintro ⟨event, member, kind, team, user, pending⟩
      rcases List.mem_append.mp member with old | new
      · exact absurd ⟨event, old, kind, team, user, pending⟩ gone
      · rw [List.mem_singleton.mp new] at kind
        exact absurd kind different
    · rintro ⟨⟨event, member, kind, team, user, pending⟩, _⟩
      have key : event.key = order.storedKey := by
        rw [Order.storedKey_of_default default known, (before event member).2, kind, team, user]
      have kept : order.settle moment event = event := by
        refine Order.settle_of_not_reverses (decide_eq_false fun reverses => different ?_)
        rw [← kind]
        exact Option.some.inj (reverses.1.symm.trans reversed)
      have settled := absent event member key
      rw [kept, pending] at settled
      cases settled
  | lost taken =>
    have same : events.map (order.settle moment) = events := plain rfl
    rw [same] at gone ⊢
    exact iff_of_false gone fun both => gone both.2

end Enqueued

end OneOrder

/-! ### Orders one after another -/

/-- **What became of orders one after another** at one moment: the number of identifiers of events issued
afterwards, and the events. An order without an event has changed none. -/
inductive EnqueuedAll (moment : Instant) (issued : Nat) (events : List OutboxEvent) :
    List Order → Nat → List OutboxEvent → Prop where
  | nil : EnqueuedAll moment issued events [] issued events
  | concat {orders : List Order} {order : Order} {result : Option OutboxEvent}
      {issuedBefore issuedAfter : Nat} {eventsBefore eventsAfter : List OutboxEvent}
      (earlier : EnqueuedAll moment issued events orders issuedBefore eventsBefore)
      (became : Enqueued order moment issuedBefore eventsBefore result issuedAfter eventsAfter)
      (plain : result = none → eventsAfter = eventsBefore) :
      EnqueuedAll moment issued events (orders ++ [order]) issuedAfter eventsAfter

namespace EnqueuedAll

variable {orders : List Order} {order : Order} {moment : Instant} {issued issuedAfter : Nat}
  {events eventsAfter : List OutboxEvent} {team user : Uuid}
  (all : EnqueuedAll moment issued events orders issuedAfter eventsAfter)

include all

theorem ascends : issued ≤ issuedAfter := by
  induction all with
  | nil => exact Nat.le_refl _
  | concat earlier became plain ih => exact Nat.le_trans ih became.ascends

theorem issued_le : issuedAfter ≤ issued + orders.length := by
  induction all with
  | nil => exact Nat.le_refl _
  | concat earlier became plain ih =>
    have one := became.issued_le
    rw [List.length_append, List.length_singleton]
    omega

theorem ids {event : OutboxEvent} (member : event ∈ eventsAfter) :
    event.id ∈ events.map OutboxEvent.id
      ∨ ∃ number, issued < number ∧ number ≤ issuedAfter ∧ event.id = .numbered 14 number := by
  induction all generalizing event with
  | nil => exact .inl (List.mem_map_of_mem member)
  | concat earlier became plain ih =>
    rcases became.ids member with old | ⟨id, last⟩
    · obtain ⟨before, was, same⟩ := List.mem_map.mp old
      rw [← same]
      rcases ih was with older | ⟨number, after, below, id⟩
      · exact .inl older
      · exact .inr ⟨number, after, Nat.le_trans below became.ascends, id⟩
    · exact .inr ⟨_, Nat.lt_succ_of_le earlier.ascends, Nat.le_of_eq last.symm, id⟩

theorem numbered {start : Nat} (before : Numbered start issued events) (start_le : start ≤ issued) :
    Numbered start issuedAfter eventsAfter := by
  induction all with
  | nil => exact before
  | concat earlier became plain ih => exact became.numbered ih (Nat.le_trans start_le earlier.ascends)

/-- **The next identifier is not taken** if those up to a last one are free. -/
theorem not_taken {last : Nat}
    (free : Uuid.FreeBetween 14 issued last (events.map OutboxEvent.id)) (below : issuedAfter < last) :
    .numbered 14 (issuedAfter + 1) ∉ eventsAfter.map OutboxEvent.id := by
  intro taken
  obtain ⟨event, member, same⟩ := List.mem_map.mp taken
  rcases all.ids member with old | ⟨number, after, before, id⟩
  · exact free.unused _ (Nat.lt_succ_of_le all.ascends) below (same ▸ old)
  · have equal := free.fresh number (issuedAfter + 1) after (by omega) (Nat.lt_succ_of_le all.ascends)
      below (id.symm.trans same)
    omega

/-- **The lines of others stay as they are.** -/
theorem line_eq (others : ∀ order ∈ orders, ¬ order.IsAbout team user) :
    line team user eventsAfter = line team user events := by
  induction all with
  | nil => rfl
  | concat earlier became plain ih =>
    rw [became.line_eq (others _ (List.mem_append_right _ List.mem_cons_self))]
    exact ih fun order member => others order (List.mem_append_left _ member)

variable (plain : ∀ order ∈ orders, order.kind ∈ EventKind.all ∧ order.IsDefault)

include plain

theorem follows {wanted : Uuid → Uuid → Option EventKind} (before : Follows wanted events) :
    Follows (orders.foldl (fun wanted order => wantedAfter order wanted) wanted) eventsAfter := by
  induction all with
  | nil => exact before
  | concat earlier became _ ih =>
    obtain ⟨known, default⟩ := plain _ (List.mem_append_right _ List.mem_cons_self)
    rw [List.foldl_append]
    exact became.follows (ih fun order member => plain order (List.mem_append_left _ member)) known
      default

variable (keyed : ∀ event ∈ events, event.Keyed)

include keyed

theorem keyed_after : ∀ event ∈ eventsAfter, event.Keyed := by
  induction all with
  | nil => exact keyed
  | concat earlier became _ ih =>
    obtain ⟨known, default⟩ := plain _ (List.mem_append_right _ List.mem_cons_self)
    exact became.keyed known default (ih fun order member => plain order (List.mem_append_left _ member))

variable (apart : orders.Pairwise fun a b => ¬ b.IsAbout a.team a.user) (member : order ∈ orders)

include apart member

/-- **The event of each order is pending afterwards** if no two orders are about the same. -/
theorem isWaiting : IsWaiting order.kind order.team order.user eventsAfter := by
  induction all with
  | nil => cases member
  | concat earlier became _ ih =>
    obtain ⟨known, default⟩ := plain _ (List.mem_append_right _ List.mem_cons_self)
    have plainEarlier := fun order inside => plain order (List.mem_append_left _ inside)
    obtain ⟨apartEarlier, _, apartLast⟩ := List.pairwise_append.mp apart
    rcases List.mem_append.mp member with old | last
    · rw [IsWaiting.congr (became.line_eq (apartLast order old _ List.mem_cons_self))]
      exact ih plainEarlier apartEarlier old
    · rw [List.mem_singleton.mp last]
      exact became.isWaiting known default (earlier.keyed_after plainEarlier keyed)

/-- **Events of the opposite kind stay pending** only where both kinds were pending before. -/
theorem isWaiting_opposite {opposite : EventKind} (reversed : order.kind.opposite? = some opposite) :
    IsWaiting opposite order.team order.user eventsAfter ↔
      IsWaiting order.kind order.team order.user events
        ∧ IsWaiting opposite order.team order.user events := by
  induction all with
  | nil => cases member
  | concat earlier became none ih =>
    obtain ⟨known, default⟩ := plain _ (List.mem_append_right _ List.mem_cons_self)
    have plainEarlier := fun order inside => plain order (List.mem_append_left _ inside)
    obtain ⟨apartEarlier, _, apartLast⟩ := List.pairwise_append.mp apart
    rcases List.mem_append.mp member with old | last
    · rw [IsWaiting.congr (became.line_eq (apartLast order old _ List.mem_cons_self))]
      exact ih plainEarlier apartEarlier old
    · rw [List.mem_singleton] at last
      subst last
      have same := earlier.line_eq fun other inside about =>
        apartLast other inside order List.mem_cons_self ⟨about.1.symm, about.2.symm⟩
      rw [became.isWaiting_opposite known default (earlier.keyed_after plainEarlier keyed) none reversed,
        IsWaiting.congr same, IsWaiting.congr same]

end EnqueuedAll

end Roster.Outbox
