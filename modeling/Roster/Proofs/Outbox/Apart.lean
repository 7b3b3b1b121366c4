/-
**Orders that do not meet.**

Orders about different teams or users do not see each other's events. Each of them takes effect unless its
event is pending from the start; the events from the start keep their places, those that are reversed are
superseded there, and the new ones come behind. So, identifiers aside, the order in which such orders are
made does not matter.

* `effective` — the orders that take effect; `settledBy` — an event after some orders.
* `EnqueuedAll.shape` — **what orders that do not meet leave in the outbox**.
* `Order.settle_comm`, `settledBy_perm` — events are settled in any order.
-/

import Mathlib.Data.List.Pairwise
import Roster.Proofs.Outbox.Orders

namespace Roster

/-- An event without its identifier. -/
def OutboxEvent.withoutId (event : OutboxEvent) : OutboxEvent := { event with id := default }

namespace Outbox

/-- The orders whose event is not pending yet. -/
def effective (events : List OutboxEvent) (orders : List Order) : List Order :=
  orders.filter fun order => ¬ IsWaiting order.kind order.team order.user events

/-- An event after some orders. -/
def settledBy (moment : Instant) (orders : List Order) (event : OutboxEvent) : OutboxEvent :=
  orders.foldl (fun event order => order.settle moment event) event

variable {order other : Order} {orders others : List Order} {moment : Instant}
  {events eventsAfter : List OutboxEvent} {event : OutboxEvent} {issued issuedAfter : Nat}

theorem settledBy_concat : settledBy moment (orders ++ [order]) event
    = order.settle moment (settledBy moment orders event) :=
  List.foldl_concat _ _ _ _

theorem settledBy_id : (settledBy moment orders event).id = event.id := by
  induction orders generalizing event with
  | nil => rfl
  | cons order rest ih => exact ih.trans Order.settle_id

theorem effective_concat : effective events (orders ++ [order]) = effective events orders
    ++ if IsWaiting order.kind order.team order.user events then [] else [order] := by
  rw [effective, List.filter_append, List.filter_singleton]
  by_cases waits : IsWaiting order.kind order.team order.user events
  · simp [effective, waits]
  · simp [effective, waits]

/-! ### In any order -/

/-- An order about others does not settle an event. -/
theorem Order.settle_of_not_isAbout (elsewhere : ¬ order.IsAbout event.team event.user) :
    order.settle moment event = event := by
  refine Order.settle_of_not_reverses (decide_eq_false fun reversed => elsewhere ?_)
  exact ⟨reversed.2.1.symm, reversed.2.2.1.symm⟩

/-- **Orders about different teams or users settle an event in any order.** -/
theorem Order.settle_comm (apart : ¬ other.IsAbout order.team order.user) :
    other.settle moment (order.settle moment event) = order.settle moment (other.settle moment event) := by
  by_cases about : order.IsAbout event.team event.user
  · have elsewhere : ¬ other.IsAbout event.team event.user := fun both =>
      apart ⟨both.1.trans about.1.symm, both.2.trans about.2.symm⟩
    rw [settle_of_not_isAbout elsewhere, settle_of_not_isAbout]
    rwa [settle_team, settle_user]
  · have elsewhere : ¬ order.IsAbout (other.settle moment event).team
        (other.settle moment event).user := by
      rwa [settle_team, settle_user]
    rw [settle_of_not_isAbout about, settle_of_not_isAbout elsewhere]

/-- **Which events are settled does not depend on the order** in which orders that do not meet are made. -/
theorem settledBy_perm (perm : orders.Perm others)
    (apart : orders.Pairwise fun a b => ¬ b.IsAbout a.team a.user) :
    settledBy moment orders event = settledBy moment others event := by
  have meets : ∀ a ∈ orders, ∀ b ∈ orders, a = b ∨ ¬ b.IsAbout a.team a.user := by
    intro a insideA b insideB
    by_cases same : a = b
    · exact .inl same
    · have symmetric : Std.Symm fun a b : Order => ¬ b.IsAbout a.team a.user :=
        ⟨fun a b apart about => apart ⟨about.1.symm, about.2.symm⟩⟩
      exact .inr (apart.forall insideA insideB same)
  refine perm.foldl_eq' (fun a insideA b insideB event => ?_) event
  rcases meets a insideA b insideB with rfl | apart
  · rfl
  · exact Order.settle_comm apart

theorem effective_perm (perm : orders.Perm others) :
    (effective events orders).Perm (effective events others) := perm.filter _

/-! ### What is left in the outbox -/

/-- Orders one after another, and others after them. -/
theorem EnqueuedAll.append {issuedBetween : Nat} {eventsBetween : List OutboxEvent}
    (first : EnqueuedAll moment issued events orders issuedBetween eventsBetween)
    (second : EnqueuedAll moment issuedBetween eventsBetween others issuedAfter eventsAfter) :
    EnqueuedAll moment issued events (orders ++ others) issuedAfter eventsAfter := by
  induction second with
  | nil => rwa [List.append_nil]
  | concat earlier became plain ih =>
    rw [← List.append_assoc]
    exact .concat ih became plain

/-- An order that finds its key taken had its event pending; one that does not had not. -/
theorem taken_iff_isWaiting (known : order.kind ∈ EventKind.all) (default : order.IsDefault)
    (keyed : ∀ event ∈ events, event.Keyed) :
    (∃ event ∈ events, event.key = order.storedKey ∧ event.isPending = true)
      ↔ IsWaiting order.kind order.team order.user events := by
  refine ⟨isWaiting_of_taken known default keyed, ?_⟩
  rintro ⟨event, member, kind, team, user, pending⟩
  refine ⟨event, member, ?_, pending⟩
  rw [Order.storedKey_of_default default known, (keyed event member).2, kind, team, user]

/-- No order supersedes the event that it asks for itself. -/
theorem not_reverses_own (known : order.kind ∈ EventKind.all) (own : event.kind = order.kind) :
    order.reverses event = false := by
  refine decide_eq_false fun reversed => ?_
  rw [own] at reversed
  rcases mem_all_iff.mp known with kind | kind
  · rw [kind] at reversed
    cases reversed.1
  · rw [kind] at reversed
    cases reversed.1

/-- **What one order did**: nothing if its event was pending, and otherwise its event came behind those that
it settled. -/
theorem Enqueued.shape {result : Option OutboxEvent}
    (became : Enqueued order moment issued events result issuedAfter eventsAfter)
    (plain : result = none → eventsAfter = events) (known : order.kind ∈ EventKind.all)
    (default : order.IsDefault) (keyed : ∀ event ∈ events, event.Keyed) :
    IsWaiting order.kind order.team order.user events ∧ eventsAfter = events
      ∨ ¬ IsWaiting order.kind order.team order.user events
        ∧ eventsAfter = events.map (order.settle moment) ++ [order.event (.numbered 14 (issued + 1)) moment] := by
  cases became with
  | duplicate taken => exact .inl ⟨(taken_iff_isWaiting known default keyed).mp taken, rfl⟩
  | placed absent =>
    refine .inr ⟨fun waits => ?_, rfl⟩
    obtain ⟨event, member, kind, team, user, pending⟩ := waits
    have key : event.key = order.storedKey := by
      rw [Order.storedKey_of_default default known, (keyed event member).2, kind, team, user]
    have settled := absent event member key
    rw [Order.settle_of_not_reverses (not_reverses_own known kind), pending] at settled
    cases settled
  | lost taken =>
    refine .inl ⟨?_, plain rfl⟩
    rw [plain rfl] at taken
    exact (taken_iff_isWaiting known default keyed).mp taken

/-- **What orders that do not meet leave in the outbox**: the events from the start, settled by the orders
that took effect, and behind them the events of these orders. -/
theorem EnqueuedAll.shape (all : EnqueuedAll moment issued events orders issuedAfter eventsAfter)
    (plain : ∀ order ∈ orders, order.kind ∈ EventKind.all ∧ order.IsDefault)
    (keyed : ∀ event ∈ events, event.Keyed)
    (apart : orders.Pairwise fun a b => ¬ b.IsAbout a.team a.user) :
    ∃ placed, eventsAfter = events.map (settledBy moment (effective events orders)) ++ placed
      ∧ placed.map OutboxEvent.withoutId
        = (effective events orders).map fun order => order.event default moment := by
  induction all with
  | nil => exact ⟨[], by rw [List.append_nil]; exact (List.map_id events).symm, rfl⟩
  | @concat orders order result issuedBefore issuedAfter eventsBefore eventsAfter earlier became none ih =>
    have plainEarlier := fun order inside => plain order (List.mem_append_left _ inside)
    obtain ⟨apartEarlier, _, apartLast⟩ := List.pairwise_append.mp apart
    obtain ⟨known, isDefault⟩ := plain order (List.mem_append_right _ List.mem_cons_self)
    obtain ⟨placed, before, names⟩ := ih plainEarlier apartEarlier
    have elsewhere : ∀ earlier ∈ orders, ¬ earlier.IsAbout order.team order.user :=
      fun earlier inside about =>
        apartLast earlier inside order List.mem_cons_self ⟨about.1.symm, about.2.symm⟩
    have waits := @IsWaiting.congr order.kind _ _ _ _ (earlier.line_eq elsewhere)
    rw [effective_concat]
    rcases became.shape none known isDefault (earlier.keyed_after plainEarlier keyed) with
      ⟨waiting, same⟩ | ⟨free, after⟩
    · rw [if_pos (waits.mp waiting), List.append_nil]
      exact ⟨placed, same.trans before, names⟩
    · rw [if_neg (mt waits.mpr free)]
      -- The new events are about other teams or users, so the order does not settle them.
      have kept : placed.map (order.settle moment) = placed := by
        refine (List.map_congr_left fun event inside => ?_).trans (List.map_id' _)
        have named := List.mem_map_of_mem (f := OutboxEvent.withoutId) inside
        rw [names] at named
        obtain ⟨author, took, same⟩ := List.mem_map.mp named
        refine Order.settle_of_not_isAbout fun about => elsewhere author (List.mem_of_mem_filter took) ?_
        have team : author.team = event.team := congrArg OutboxEvent.team same
        have user : author.user = event.user := congrArg OutboxEvent.user same
        exact ⟨team.trans about.1.symm, user.trans about.2.symm⟩
      refine ⟨placed ++ [order.event (.numbered 14 (issuedBefore + 1)) moment], ?_, ?_⟩
      · rw [after, before, List.map_append, List.map_map, kept, List.append_assoc]
        exact congrArg (· ++ _) (List.map_congr_left fun event _ => settledBy_concat.symm)
      · rw [List.map_append, names, List.map_append]
        rfl

end Outbox

end Roster
