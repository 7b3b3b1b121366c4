/-
**The life of an event in the outbox.**

An event is pending until it is delivered, superseded or abandoned. An order adds an event and
supersedes the pending events that it reverses; a drain changes pending events only, and what an event
asks for, of whom and under which key never changes.

The events for one team and one user form a line in the order of their insertion. **The line follows
what was asked for last**: only its last event may be pending, that event asks for what was asked for
last, and it is not superseded.

* `OutboxEvent.IsDelivered`, `OutboxEvent.IsSuperseded`, `OutboxEvent.IsAbandoned` — the ends of a life.
* `Order.placed` — the events after an order; `Attempted` — an event after a drain.
* `Follows` — the lines follow a record of what was asked for last; `Follows.placed`,
  `Follows.wantedAfter_eq` and `Follows.attempted` say that orders and drains keep it.
-/

import Roster.Outbox.Drain
import Roster.Proofs.Outbox.Key
import Roster.Proofs.Store.Rows

namespace Roster

/-! ### The ends of a life -/

namespace OutboxEvent

/-- The event was relayed: it is processed and keeps no error. -/
def IsDelivered (event : OutboxEvent) : Prop :=
  event.processedAt.isSome = true ∧ event.lastError = none

/-- The event was retired by a later one: it is processed and its error says so. -/
def IsSuperseded (event : OutboxEvent) : Prop :=
  event.processedAt.isSome = true ∧ ∃ successor ∈ EventKind.all,
    event.lastError = some ("Superseded by " ++ successor.label ++ " before delivery")

/-- The event was given up. -/
def IsAbandoned (event : OutboxEvent) : Prop :=
  event.abandonedAt.isSome = true ∧ event.processedAt = none

/-- The event asks for something that can be relayed, under its default key. -/
def Keyed (event : OutboxEvent) : Prop :=
  event.kind ∈ EventKind.all ∧ event.key = Outbox.defaultKey event.kind event.team event.user

instance (event : OutboxEvent) : Decidable event.Keyed :=
  inferInstanceAs (Decidable (event.kind ∈ EventKind.all
    ∧ event.key = Outbox.defaultKey event.kind event.team event.user))

/-- The event is about a team and a user. -/
def isAbout (team user : Uuid) (event : OutboxEvent) : Bool := event.team = team ∧ event.user = user

theorem isPending_iff {event : OutboxEvent} :
    event.isPending = true ↔ event.processedAt = none ∧ event.abandonedAt = none := by
  rw [isPending, Bool.and_eq_true, Option.isNone_iff_eq_none, Option.isNone_iff_eq_none]

theorem IsSuperseded.not_alive {event : OutboxEvent} (superseded : event.IsSuperseded) :
    ¬ (event.isPending = true ∨ event.IsDelivered ∨ event.IsAbandoned) := by
  obtain ⟨processed, successor, _, error⟩ := superseded
  rintro (pending | ⟨_, clear⟩ | ⟨_, unprocessed⟩)
  · rw [(isPending_iff.mp pending).1] at processed
    cases processed
  · rw [clear] at error
    cases error
  · rw [unprocessed] at processed
    cases processed

/-- Pending events with default keys and one key ask for the same thing. -/
theorem Keyed.eq_of_key_eq {event : OutboxEvent} (keyed : event.Keyed) {kind : EventKind}
    (known : kind ∈ EventKind.all) {team user : Uuid}
    (same : event.key = Outbox.defaultKey kind team user) :
    event.kind = kind ∧ event.team = team ∧ event.user = user := by
  obtain ⟨label, team, user⟩ := Outbox.defaultKey_inj (keyed.2.symm.trans same)
  exact ⟨Outbox.label_injective keyed.1 known label, team, user⟩

end OutboxEvent

namespace Outbox

/-! ### What orders and drains do to events -/

/-- The order reverses the event: it asks for the opposite of what the event, still pending, asks for. -/
def Order.reverses (order : Order) (event : OutboxEvent) : Bool :=
  order.kind.opposite? = some event.kind ∧ event.team = order.team ∧ event.user = order.user
    ∧ event.isPending

/-- An event after an order was made: superseded if the order reverses it. -/
def Order.settle (order : Order) (moment : Instant) (event : OutboxEvent) : OutboxEvent :=
  if order.reverses event then superseded event order.kind moment else event

/-- **The events after an order**: those it reverses are superseded, and its own event comes last. -/
def Order.placed (order : Order) (id : Uuid) (moment : Instant) (events : List OutboxEvent) :
    List OutboxEvent :=
  events.map (order.settle moment) ++ [order.event id moment]

/-- **An event before and after a drain**: untouched, or attempted while it was pending. -/
inductive Attempted (before : OutboxEvent) : OutboxEvent → Prop where
  | untouched : Attempted before before
  | delivered (moment : Instant) (pending : before.isPending = true) :
      Attempted before (delivered before moment)
  | failed (policy : Policy) (failure : Failure) (moment : Instant)
      (pending : before.isPending = true) : Attempted before (failed policy before failure moment)

section Settle

variable {order : Order} {moment : Instant} {event : OutboxEvent}

theorem Order.settle_of_not_reverses (other : order.reverses event = false) :
    order.settle moment event = event := by
  rw [Order.settle, other]
  rfl

theorem Order.settle_of_not_pending (settled : event.isPending = false) :
    order.settle moment event = event := by
  refine Order.settle_of_not_reverses ?_
  simp [Order.reverses, settled]

@[simp] theorem Order.settle_id : (order.settle moment event).id = event.id := by
  unfold Order.settle; split <;> rfl

@[simp] theorem Order.settle_kind : (order.settle moment event).kind = event.kind := by
  unfold Order.settle; split <;> rfl

@[simp] theorem Order.settle_team : (order.settle moment event).team = event.team := by
  unfold Order.settle; split <;> rfl

@[simp] theorem Order.settle_user : (order.settle moment event).user = event.user := by
  unfold Order.settle; split <;> rfl

@[simp] theorem Order.settle_key : (order.settle moment event).key = event.key := by
  unfold Order.settle; split <;> rfl

/-- No event becomes pending by an order for another one. -/
theorem Order.isPending_of_settle (pending : (order.settle moment event).isPending = true) :
    event.isPending = true ∧ order.reverses event = false := by
  by_cases reversed : order.reverses event = true
  · rw [Order.settle, if_pos reversed] at pending
    cases pending
  · rw [Bool.not_eq_true] at reversed
    rw [Order.settle_of_not_reverses reversed] at pending
    exact ⟨pending, reversed⟩

end Settle

namespace Attempted

variable {before after : OutboxEvent} (attempted : Attempted before after)

include attempted

theorem id_eq : after.id = before.id := by cases attempted <;> rfl

theorem kind_eq : after.kind = before.kind := by cases attempted <;> rfl

theorem team_eq : after.team = before.team := by cases attempted <;> rfl

theorem user_eq : after.user = before.user := by cases attempted <;> rfl

theorem key_eq : after.key = before.key := by cases attempted <;> rfl

theorem eq_of_not_pending (settled : before.isPending = false) : after = before := by
  cases attempted with
  | untouched => rfl
  | delivered moment pending => rw [settled] at pending; cases pending
  | failed policy failure moment pending => rw [settled] at pending; cases pending

/-- An attempt leaves an event pending, delivered or given up. -/
theorem alive (was : before.isPending = true ∨ before.IsDelivered ∨ before.IsAbandoned) :
    after.isPending = true ∨ after.IsDelivered ∨ after.IsAbandoned := by
  cases attempted with
  | untouched => exact was
  | delivered moment pending => exact .inr (.inl ⟨rfl, rfl⟩)
  | failed policy failure moment pending =>
    obtain ⟨unprocessed, kept⟩ := OutboxEvent.isPending_iff.mp pending
    by_cases last : policy.maxRetry ≤ before.retryCount + 1
    · exact .inr (.inr ⟨by simp [Outbox.failed, last], unprocessed⟩)
    · refine .inl (OutboxEvent.isPending_iff.mpr ⟨unprocessed, ?_⟩)
      simp [Outbox.failed, last, kept]

end Attempted

/-! ### The line of a team and a user -/

/-- The events about a team and a user, in the order of their insertion. -/
def line (team user : Uuid) (events : List OutboxEvent) : List OutboxEvent :=
  events.filter (OutboxEvent.isAbout team user)

theorem mem_line {team user : Uuid} {events : List OutboxEvent} {event : OutboxEvent} :
    event ∈ line team user events ↔ event ∈ events ∧ event.team = team ∧ event.user = user := by
  simp [line, OutboxEvent.isAbout]

theorem line_append {team user : Uuid} {events more : List OutboxEvent} :
    line team user (events ++ more) = line team user events ++ line team user more :=
  List.filter_append events more

theorem line_map {team user : Uuid} {events : List OutboxEvent} {change : OutboxEvent → OutboxEvent}
    (same : ∀ event ∈ events, (change event).team = event.team ∧ (change event).user = event.user) :
    line team user (events.map change) = (line team user events).map change := by
  rw [line, line, List.filter_map]
  refine congrArg _ (List.filter_congr fun event member => ?_)
  simp [OutboxEvent.isAbout, (same event member).1, (same event member).2]

/-- The order is about the team and the user. -/
def Order.IsAbout (order : Order) (team user : Uuid) : Prop := order.team = team ∧ order.user = user

section LineOfOrder

variable {order : Order} {moment : Instant} {id team user : Uuid}

theorem line_map_settle (events : List OutboxEvent) :
    line team user (events.map (order.settle moment))
      = (line team user events).map (order.settle moment) :=
  line_map fun _ _ => ⟨Order.settle_team, Order.settle_user⟩

theorem line_map_settle_of_other (other : ¬ order.IsAbout team user) (events : List OutboxEvent) :
    line team user (events.map (order.settle moment)) = line team user events := by
  rw [line_map_settle]
  refine (List.map_congr_left fun event member => ?_).trans (List.map_id' _)
  obtain ⟨_, sameTeam, sameUser⟩ := mem_line.mp member
  refine Order.settle_of_not_reverses (decide_eq_false ?_)
  exact fun reversed => other ⟨reversed.2.1.symm.trans sameTeam, reversed.2.2.1.symm.trans sameUser⟩

/-- **An order adds its event to its own line**, and settles the events in it. -/
theorem line_placed_self (events : List OutboxEvent) :
    line order.team order.user (order.placed id moment events)
      = (line order.team order.user events).map (order.settle moment) ++ [order.event id moment] := by
  have own : line order.team order.user [order.event id moment] = [order.event id moment] := by
    simp [line, OutboxEvent.isAbout, Order.event]
  rw [Order.placed, line_append, own, line_map_settle]

/-- **An order leaves every other line alone.** -/
theorem line_placed_of_other (other : ¬ order.IsAbout team user) (events : List OutboxEvent) :
    line team user (order.placed id moment events) = line team user events := by
  have foreign : line team user [order.event id moment] = [] := by
    simpa [line, OutboxEvent.isAbout, Order.event, Order.IsAbout] using other
  rw [Order.placed, line_append, foreign, List.append_nil, line_map_settle_of_other other]

end LineOfOrder

/-- After a drain a line ends in what became of its last event. -/
theorem Attempted.exists_last {team user : Uuid} {events : List OutboxEvent}
    {change : OutboxEvent → OutboxEvent} (each : ∀ event ∈ events, Attempted event (change event))
    {last : OutboxEvent} (ends : last ∈ (line team user (events.map change)).getLast?) :
    ∃ before ∈ (line team user events).getLast?, last = change before ∧ Attempted before last := by
  rw [line_map fun event member => ⟨(each event member).team_eq, (each event member).user_eq⟩,
    List.getLast?_map, Option.mem_def, Option.map_eq_some_iff] at ends
  obtain ⟨before, was, rfl⟩ := ends
  exact ⟨before, was, rfl, each before (mem_line.mp (List.mem_of_getLast? was)).1⟩

/-- **The lines follow a record of what was asked for last**, team by team and user by user. -/
structure Follows (wanted : Uuid → Uuid → Option EventKind) (events : List OutboxEvent) : Prop where
  keyed : ∀ event ∈ events, event.Keyed
  latest : ∀ team user, (line team user events).getLast?.map OutboxEvent.kind = wanted team user
  settled : ∀ team user, ∀ event ∈ (line team user events).dropLast, event.isPending = false
  alive : ∀ team user, ∀ event ∈ (line team user events).getLast?,
    event.isPending = true ∨ event.IsDelivered ∨ event.IsAbandoned

/-- A record of what was asked for last, after an order. -/
def wantedAfter (order : Order) (wanted : Uuid → Uuid → Option EventKind) (team user : Uuid) :
    Option EventKind :=
  if order.team = team ∧ order.user = user then some order.kind else wanted team user

namespace Follows

variable {wanted : Uuid → Uuid → Option EventKind} {events : List OutboxEvent}

theorem empty : Follows (fun _ _ => none) [] where
  keyed event member := by cases member
  latest team user := rfl
  settled team user event member := by cases member
  alive team user event last := by cases last

variable (follows : Follows wanted events)

include follows

/-- **A pending event is the last of its line.** -/
theorem getLast?_of_pending {event : OutboxEvent} (member : event ∈ events)
    (pending : event.isPending = true) : (line event.team event.user events).getLast? = some event := by
  have inside : event ∈ line event.team event.user events := mem_line.mpr ⟨member, rfl, rfl⟩
  have some : line event.team event.user events ≠ [] := List.ne_nil_of_mem inside
  rw [← List.dropLast_append_getLast some, List.mem_append, List.mem_singleton] at inside
  rcases inside with earlier | last
  · rw [follows.settled _ _ event earlier] at pending
    cases pending
  · rw [List.getLast?_eq_some_getLast some, ← last]

theorem wanted_of_pending {event : OutboxEvent} (member : event ∈ events)
    (pending : event.isPending = true) : wanted event.team event.user = some event.kind := by
  rw [← follows.latest, follows.getLast?_of_pending member pending]
  rfl

/-- **At most one event of a line is pending.** -/
theorem length_pending_le_one (team user : Uuid) :
    ((line team user events).filter OutboxEvent.isPending).length ≤ 1 := by
  rcases List.eq_nil_or_concat (line team user events) with empty | ⟨earlier, last, split⟩
  · rw [empty]
    exact Nat.zero_le 1
  · have settled : earlier.filter OutboxEvent.isPending = [] := by
      refine List.filter_eq_nil_iff.mpr fun event member => ?_
      have early : event ∈ (line team user events).dropLast := by
        rw [split, List.concat_eq_append, List.dropLast_concat]
        exact member
      rw [follows.settled team user event early]
      exact Bool.false_ne_true
    rw [split, List.concat_eq_append, List.filter_append, settled, List.nil_append]
    exact List.length_filter_le _ [last]

/-- **A drain keeps the lines following.** -/
theorem attempted {change : OutboxEvent → OutboxEvent}
    (each : ∀ event ∈ events, Attempted event (change event)) : Follows wanted (events.map change) := by
  have lines : ∀ team user, line team user (events.map change) = (line team user events).map change :=
    fun team user => line_map fun event member => ⟨(each event member).team_eq,
      (each event member).user_eq⟩
  have inside : ∀ {team user event}, event ∈ line team user events → event ∈ events :=
    fun member => (mem_line.mp member).1
  refine ⟨fun event member => ?_, fun team user => ?_, fun team user event member => ?_,
    fun team user event last => ?_⟩
  · obtain ⟨before, was, rfl⟩ := List.mem_map.mp member
    have attempt := each before was
    unfold OutboxEvent.Keyed
    rw [attempt.kind_eq, attempt.key_eq, attempt.team_eq, attempt.user_eq]
    exact follows.keyed before was
  · rw [lines, List.getLast?_map, Option.map_map, ← follows.latest team user]
    refine Option.map_congr fun event last => ?_
    exact (each event (inside (List.mem_of_getLast? last))).kind_eq
  · rw [lines, ← List.map_dropLast] at member
    obtain ⟨before, earlier, rfl⟩ := List.mem_map.mp member
    have settled := follows.settled team user before earlier
    have attempt := each before (inside (List.dropLast_subset _ earlier))
    rw [attempt.eq_of_not_pending settled]
    exact settled
  · obtain ⟨before, was, _, attempt⟩ := Attempted.exists_last each last
    exact attempt.alive (follows.alive team user before was)

variable {order : Order} (known : order.kind ∈ EventKind.all) (default : order.IsDefault)

include known default

/-- A pending event with the key of an order asks for what the order asks for. -/
theorem same_of_key_eq {event : OutboxEvent} (member : event ∈ events)
    (same : event.key = order.storedKey) :
    event.kind = order.kind ∧ event.team = order.team ∧ event.user = order.user :=
  (follows.keyed event member).eq_of_key_eq known
    (same.trans (Order.storedKey_of_default default known))

/-- **An order whose event is pending already** asks for what was asked for last. -/
theorem wantedAfter_eq {event : OutboxEvent} (member : event ∈ events)
    (same : event.key = order.storedKey) (pending : event.isPending = true) :
    wantedAfter order wanted = wanted := by
  obtain ⟨kind, team, user⟩ := follows.same_of_key_eq known default member same
  have last := follows.wanted_of_pending member pending
  funext otherTeam otherUser
  unfold wantedAfter
  split
  · rename_i pair
    rw [← pair.1, ← pair.2, ← team, ← user, last, kind]
  · rfl

theorem map_settle_eq {event : OutboxEvent} (member : event ∈ events)
    (same : event.key = order.storedKey) (pending : event.isPending = true) (moment : Instant) :
    events.map (order.settle moment) = events := by
  obtain ⟨kind, team, user⟩ := follows.same_of_key_eq known default member same
  have kept : ∀ other ∈ events, order.settle moment other = other := by
    intro other inside
    refine Order.settle_of_not_reverses ?_
    by_contra reversed
    rw [Bool.not_eq_false, Order.reverses, decide_eq_true_eq] at reversed
    obtain ⟨opposite, sameTeam, sameUser, waiting⟩ := reversed
    have last := follows.wanted_of_pending inside waiting
    rw [sameTeam, sameUser, ← team, ← user, follows.wanted_of_pending member pending, kind] at last
    rw [← Option.some.inj last] at opposite
    rcases mem_all_iff.mp known with ask | ask <;> simp [ask, EventKind.opposite?] at opposite
  exact (List.map_congr_left kept).trans (List.map_id' events)

variable {moment : Instant} (absent : ∀ event ∈ events, event.key = order.storedKey →
  (order.settle moment event).isPending = false)

include absent

/-- No event of its line stays pending after an order whose own event is not: one that is pending asks for
the opposite and is superseded. -/
theorem retired {event : OutboxEvent} (member : event ∈ line order.team order.user events) :
    (order.settle moment event).isPending = false := by
  obtain ⟨inside, team, user⟩ := mem_line.mp member
  by_contra pending
  rw [Bool.not_eq_false] at pending
  have keyed := follows.keyed event inside
  have different : event.kind ≠ order.kind := fun same => by
    have key : event.key = order.storedKey := by
      rw [Order.storedKey_of_default default known, keyed.2, same, team, user]
    rw [absent event inside key] at pending
    cases pending
  obtain ⟨pending, kept⟩ := Order.isPending_of_settle pending
  have opposite : order.kind.opposite? = some event.kind := by
    rcases mem_all_iff.mp known with ask | ask <;> rcases mem_all_iff.mp keyed.1 with was | was <;>
      simp_all [EventKind.opposite?]
  simp [Order.reverses, opposite, team, user, pending] at kept

/-- **An order whose event is not pending keeps the lines following**: its event is the last of its line
now, and the one before it is no longer pending. -/
theorem placed (id : Uuid) : Follows (wantedAfter order wanted) (order.placed id moment events) := by
  refine ⟨fun event member => ?_, fun team user => ?_, fun team user event member => ?_,
    fun team user event last => ?_⟩
  · rcases List.mem_append.mp member with old | new
    · obtain ⟨before, was, rfl⟩ := List.mem_map.mp old
      simpa [OutboxEvent.Keyed] using follows.keyed before was
    · rw [List.mem_singleton] at new
      subst new
      exact ⟨known, Order.storedKey_of_default default known⟩
  · by_cases pair : order.IsAbout team user
    · obtain ⟨rfl, rfl⟩ := pair
      rw [line_placed_self, List.getLast?_concat]
      simp [wantedAfter, Order.event]
    · rw [line_placed_of_other pair, follows.latest]
      exact (if_neg pair).symm
  · by_cases pair : order.IsAbout team user
    · obtain ⟨rfl, rfl⟩ := pair
      rw [line_placed_self, List.dropLast_concat] at member
      obtain ⟨before, was, rfl⟩ := List.mem_map.mp member
      exact follows.retired known default absent was
    · rw [line_placed_of_other pair] at member
      exact follows.settled team user event member
  · by_cases pair : order.IsAbout team user
    · obtain ⟨rfl, rfl⟩ := pair
      rw [line_placed_self, List.getLast?_concat, Option.mem_some_iff] at last
      subst last
      exact .inl rfl
    · rw [line_placed_of_other pair] at last
      exact follows.alive team user event last

end Follows

end Outbox

end Roster
