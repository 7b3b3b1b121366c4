/-
**The life of events, as recorded.**

What is done to events is recorded beside a run: that an event was dispatched, with whether the dispatch
succeeded, and that it was superseded. What a transaction recorded is part of the record once it is
committed, and lost if it is given up.

With one cap on the attempts, **the state of an event can be read off its record**: it failed as often as it
counts, and after the failures it is pending or abandoned, or it was delivered, or it was superseded.

* `Deed` — what is recorded; `Scene.deeds` — what a move adds to the record.
* `Stage` — an event as its own record leaves it; `Stage.dispatched`, `Stage.retired` — what one deed does.
* `Chronicle` — a scene with its record; `Chronicle.Faithful.run` — **every run keeps record and events
  together**.
* `Life` — what the record of an event says about its columns; `outbox_lifecycle` — the whole life.
-/

import Roster.Proofs.Outbox.Scene

namespace Roster.Outbox

open EStateM (Result)

/-! ### The record -/

/-- What is done to an event: it is dispatched, with or without success, or it is superseded. -/
inductive Deed where
  | dispatched (event : Uuid) (granted : Bool)
  | superseded (event : Uuid)
deriving DecidableEq, Repr

namespace Deed

/-- The event to which it is done. -/
def event : Deed → Uuid
  | dispatched event _ => event
  | superseded event => event

/-- A dispatch, as opposed to being superseded. -/
def isDispatch : Deed → Bool
  | dispatched _ _ => true
  | superseded _ => false

end Deed

/-- What of a record is about one event. -/
def recordOf (id : Uuid) (log : List Deed) : List Deed := log.filter fun deed => deed.event = id

@[simp] theorem recordOf_append (id : Uuid) (log more : List Deed) :
    recordOf id (log ++ more) = recordOf id log ++ recordOf id more := List.filter_append log more

theorem recordOf_eq_nil {id : Uuid} {log : List Deed} (other : ∀ deed ∈ log, deed.event ≠ id) :
    recordOf id log = [] :=
  List.filter_eq_nil_iff.mpr fun deed member same => other deed member (of_decide_eq_true same)

theorem mem_recordOf {deed : Deed} {log : List Deed} : deed ∈ recordOf deed.event log ↔ deed ∈ log := by
  simp [recordOf]

/-- The dispatches that a drain reports. -/
def DrainReport.deeds (report : DrainReport) : List Deed :=
  report.processed.map (Deed.dispatched · true) ++ report.failed.map (Deed.dispatched · false)

/-- The events that an order supersedes: those that it reverses, unless it finds its own key pending. -/
def Order.supersedes (order : Order) (store : Store) : List OutboxEvent :=
  if !order.isRace && hasPendingIn order.storedKey store then []
  else store.events.filter order.reverses

/-- **What a move adds to the record**, if it is not given up. -/
def Scene.deeds (scene : Scene) : Move → List Deed
  | .use _ (.order order) =>
    (order.supersedes scene.session.store).map fun event => .superseded event.id
  | .use now (.drain policy mode) =>
    match drain policy mode (scene.resumed now) with
    | .ok report _ => report.deeds
    | .error _ _ => []
  | .commit _ => []
  | .giveUp => []

/-! ### One event and its record -/

/-- The failures that an event counts. -/
def failures (event : OutboxEvent) : List Deed :=
  List.replicate event.retryCount.toNat (.dispatched event.id false)

/-- **An event as its own record leaves it.** -/
inductive Stage (cap : Int) (event : OutboxEvent) : List Deed → Prop where
  | pending (pending : event.isPending = true) (below : event.retryCount < cap) :
      Stage cap event (failures event)
  | delivered (delivered : event.IsDelivered) (kept : event.abandonedAt = none)
      (below : event.retryCount < cap) :
      Stage cap event (failures event ++ [.dispatched event.id true])
  | superseded (superseded : event.IsSuperseded) (kept : event.abandonedAt = none)
      (below : event.retryCount < cap) : Stage cap event (failures event ++ [.superseded event.id])
  | abandoned (abandoned : event.IsAbandoned) (last : event.retryCount = cap) :
      Stage cap event (failures event)

/-- **The record tells the life of an event**: it counts its failures, and it is as they and what came
after them leave it. -/
structure Lived (cap : Int) (log : List Deed) (event : OutboxEvent) : Prop where
  counted : 0 ≤ event.retryCount
  stage : Stage cap event (recordOf event.id log)

section OneEvent

variable {cap : Int} {log more : List Deed} {event : OutboxEvent}

theorem Lived.pending_inv (lived : Lived cap log event) (pending : event.isPending = true) :
    event.retryCount < cap ∧ recordOf event.id log = failures event := by
  obtain ⟨open_, unabandoned⟩ := OutboxEvent.isPending_iff.mp pending
  obtain ⟨counted, stage⟩ := lived
  generalize recordOf event.id log = own at stage ⊢
  cases stage with
  | pending _ below => exact ⟨below, rfl⟩
  | delivered delivered kept below =>
    have processed := delivered.1
    rw [open_] at processed
    cases processed
  | superseded superseded kept below =>
    have processed := superseded.1
    rw [open_] at processed
    cases processed
  | abandoned abandoned last =>
    have given := abandoned.1
    rw [unabandoned] at given
    cases given

/-- What is done to other events does not matter. -/
theorem Lived.append_of_other (lived : Lived cap log event)
    (other : recordOf event.id more = []) : Lived cap (log ++ more) event := by
  refine ⟨lived.counted, ?_⟩
  rw [recordOf_append, other, List.append_nil]
  exact lived.stage

/-- **A pending event that is dispatched** is delivered, or it counts one more failure and is abandoned with
the last one. -/
theorem Lived.dispatched {policy : Policy} {attempt : Attempt} (lived : Lived cap log attempt.event)
    (pending : attempt.event.isPending = true) (capped : policy.maxRetry = cap)
    (own : recordOf attempt.event.id more = [.dispatched attempt.event.id attempt.failure.isNone]) :
    Lived cap (log ++ more) (attempt.outcome policy) := by
  obtain ⟨below, before⟩ := lived.pending_inv pending
  obtain ⟨unprocessed, unabandoned⟩ := OutboxEvent.isPending_iff.mp pending
  have counted := lived.counted
  cases failure : attempt.failure with
  | none =>
    have outcome : attempt.outcome policy = Outbox.delivered attempt.event attempt.moment := by
      unfold Attempt.outcome
      rw [failure]
    rw [outcome]
    refine ⟨counted, ?_⟩
    show Stage cap (Outbox.delivered attempt.event attempt.moment)
      (recordOf attempt.event.id (log ++ more))
    rw [recordOf_append, before, own, failure]
    exact .delivered ⟨rfl, rfl⟩ unabandoned below
  | some failed =>
    have outcome : attempt.outcome policy
        = Outbox.failed policy attempt.event failed attempt.moment := by
      unfold Attempt.outcome
      rw [failure]
    have once : failures (Outbox.failed policy attempt.event failed attempt.moment)
        = failures attempt.event ++ [.dispatched attempt.event.id false] := by
      have next : (attempt.event.retryCount + 1).toNat = attempt.event.retryCount.toNat + 1 := by omega
      show List.replicate (attempt.event.retryCount + 1).toNat _ = _
      rw [next, List.replicate_succ']
      rfl
    rw [outcome]
    refine ⟨by show 0 ≤ attempt.event.retryCount + 1; omega, ?_⟩
    show Stage cap (Outbox.failed policy attempt.event failed attempt.moment)
      (recordOf attempt.event.id (log ++ more))
    rw [recordOf_append, before, own, failure]
    show Stage cap _ (failures attempt.event ++ [.dispatched attempt.event.id false])
    rw [← once]
    by_cases last : policy.maxRetry ≤ attempt.event.retryCount + 1
    · refine .abandoned ⟨by simp [Outbox.failed, last], unprocessed⟩ ?_
      show attempt.event.retryCount + 1 = cap
      omega
    · refine .pending (OutboxEvent.isPending_iff.mpr ⟨unprocessed, ?_⟩) ?_
      · simp [Outbox.failed, last, unabandoned]
      · show attempt.event.retryCount + 1 < cap
        omega

/-- **A pending event that is superseded** keeps its count. -/
theorem Lived.retired {successor : EventKind} {moment : Instant} (lived : Lived cap log event)
    (pending : event.isPending = true) (known : successor ∈ EventKind.all)
    (own : recordOf event.id more = [.superseded event.id]) :
    Lived cap (log ++ more) (superseded event successor moment) := by
  obtain ⟨below, before⟩ := lived.pending_inv pending
  refine ⟨lived.counted, ?_⟩
  show Stage cap (superseded event successor moment) (recordOf event.id (log ++ more))
  rw [recordOf_append, before, own]
  exact .superseded ⟨rfl, successor, known, rfl⟩ (OutboxEvent.isPending_iff.mp pending).2 below

/-- An event that an order adds has no record yet. -/
theorem lived_event {order : Order} {id : Uuid} {moment : Instant} (positive : 1 ≤ cap)
    (unknown : recordOf id log = []) : Lived cap log (order.event id moment) := by
  refine ⟨Int.le_refl 0, ?_⟩
  show Stage cap (order.event id moment) (recordOf id log)
  rw [unknown]
  exact .pending rfl (by show (0 : Int) < cap; omega)

end OneEvent

/-! ### What a stage says about the columns -/

instance (event : OutboxEvent) : Decidable event.IsDelivered :=
  inferInstanceAs (Decidable (event.processedAt.isSome = true ∧ event.lastError = none))

theorem not_mem_failures {event : OutboxEvent} {deed : Deed} (other : deed ≠ .dispatched event.id false) :
    deed ∉ failures event := fun member => other (List.eq_of_mem_replicate member)

namespace Stage

variable {cap : Int} {event : OutboxEvent} {own : List Deed} (stage : Stage cap event own)

include stage

/-- Of pending, processed and abandoned an event is exactly one. -/
theorem one :
    [event.isPending, event.processedAt.isSome, event.abandonedAt.isSome].count true = 1 := by
  cases stage with
  | pending pending below =>
    obtain ⟨unprocessed, unabandoned⟩ := OutboxEvent.isPending_iff.mp pending
    rw [pending, unprocessed, unabandoned]
    rfl
  | delivered delivered kept below =>
    have ceased : event.isPending = false := by
      rw [OutboxEvent.isPending, ← Option.not_isSome, delivered.1]
      rfl
    rw [ceased, delivered.1, kept]
    rfl
  | superseded superseded kept below =>
    have ceased : event.isPending = false := by
      rw [OutboxEvent.isPending, ← Option.not_isSome, superseded.1]
      rfl
    rw [ceased, superseded.1, kept]
    rfl
  | abandoned abandoned last =>
    have ceased : event.isPending = false := by
      rw [OutboxEvent.isPending, ← Option.not_isSome event.abandonedAt, abandoned.1, Bool.not_true,
        Bool.and_false]
    rw [ceased, abandoned.1, abandoned.2]
    rfl

/-- An event is abandoned exactly when it has used up the cap. -/
theorem abandoned_iff : event.abandonedAt.isSome = true ↔ event.retryCount = cap := by
  cases stage with
  | pending pending below =>
    rw [(OutboxEvent.isPending_iff.mp pending).2]
    exact iff_of_false Bool.false_ne_true (by omega)
  | delivered delivered kept below =>
    rw [kept]
    exact iff_of_false Bool.false_ne_true (by omega)
  | superseded superseded kept below =>
    rw [kept]
    exact iff_of_false Bool.false_ne_true (by omega)
  | abandoned abandoned last => exact iff_of_true abandoned.1 last

theorem retryCount_le : event.retryCount ≤ cap := by
  cases stage with
  | pending pending below => exact Int.le_of_lt below
  | delivered delivered kept below => exact Int.le_of_lt below
  | superseded superseded kept below => exact Int.le_of_lt below
  | abandoned abandoned last => exact Int.le_of_eq last

/-- **A delivery was a dispatch that succeeded.** -/
theorem isDelivered_iff : event.IsDelivered ↔ .dispatched event.id true ∈ own := by
  have unfailed : Deed.dispatched event.id true ∉ failures event := not_mem_failures nofun
  cases stage with
  | pending pending below =>
    refine iff_of_false (fun delivered => ?_) unfailed
    have processed := delivered.1
    rw [(OutboxEvent.isPending_iff.mp pending).1] at processed
    cases processed
  | delivered delivered kept below =>
    exact iff_of_true delivered (List.mem_append_right _ List.mem_cons_self)
  | superseded superseded kept below =>
    refine iff_of_false (fun delivered => superseded.not_alive (.inr (.inl delivered))) ?_
    simpa using unfailed
  | abandoned abandoned last =>
    refine iff_of_false (fun delivered => ?_) unfailed
    have processed := delivered.1
    rw [abandoned.2] at processed
    cases processed

/-- **What counts as superseded was superseded**, and no dispatch of it succeeded. -/
theorem isSuperseded_iff :
    event.IsSuperseded ↔ .superseded event.id ∈ own ∧ .dispatched event.id true ∉ own := by
  have unfailed : Deed.dispatched event.id true ∉ failures event := not_mem_failures nofun
  have unretired : Deed.superseded event.id ∉ failures event := not_mem_failures nofun
  cases stage with
  | pending pending below =>
    exact iff_of_false (fun superseded => superseded.not_alive (.inl pending))
      fun both => unretired both.1
  | delivered delivered kept below =>
    refine iff_of_false (fun superseded => superseded.not_alive (.inr (.inl delivered))) fun both => ?_
    exact both.2 (List.mem_append_right _ List.mem_cons_self)
  | superseded superseded kept below =>
    refine iff_of_true superseded ⟨List.mem_append_right _ List.mem_cons_self, ?_⟩
    simpa using unfailed
  | abandoned abandoned last =>
    exact iff_of_false (fun superseded => superseded.not_alive (.inr (.inr abandoned)))
      fun both => unretired both.1

/-- **An event was dispatched as often as it failed**, and once more if it was delivered. -/
theorem countP_isDispatch (counted : 0 ≤ event.retryCount) :
    (own.countP Deed.isDispatch : Int) = event.retryCount + if event.IsDelivered then 1 else 0 := by
  have failed : ((failures event).countP Deed.isDispatch : Int) = event.retryCount := by
    have all : (failures event).countP Deed.isDispatch = event.retryCount.toNat := by
      rw [failures, List.countP_replicate]
      rfl
    rw [all]
    omega
  have delivers := stage.isDelivered_iff
  have unfailed : Deed.dispatched event.id true ∉ failures event := not_mem_failures nofun
  cases stage with
  | pending pending below =>
    rw [if_neg fun delivered => unfailed (delivers.mp delivered), failed, Int.add_zero]
  | delivered delivered kept below =>
    rw [if_pos delivered, List.countP_append, Int.natCast_add, failed]
    rfl
  | superseded superseded kept below =>
    rw [if_neg fun delivered => superseded.not_alive (.inr (.inl delivered)), List.countP_append,
      Int.natCast_add, failed]
    rfl
  | abandoned abandoned last =>
    rw [if_neg fun delivered => unfailed (delivers.mp delivered), failed, Int.add_zero]

end Stage

/-- **What the record of an event says about its columns.** -/
structure Life (cap : Int) (log : List Deed) (event : OutboxEvent) : Prop where
  one : [event.isPending, event.processedAt.isSome, event.abandonedAt.isSome].count true = 1
  retries : event.retryCount ≤ cap
  abandoned : event.abandonedAt.isSome = true ↔ event.retryCount = cap
  pending : event.isPending = true → event.retryCount < cap
  dispatches : ((recordOf event.id log).countP Deed.isDispatch : Int)
    = event.retryCount + if event.IsDelivered then 1 else 0
  delivered : event.IsDelivered ↔ .dispatched event.id true ∈ log
  superseded : event.IsSuperseded ↔ .superseded event.id ∈ log ∧ .dispatched event.id true ∉ log

theorem Lived.life {cap : Int} {log : List Deed} {event : OutboxEvent} (lived : Lived cap log event) :
    Life cap log event where
  one := lived.stage.one
  retries := lived.stage.retryCount_le
  abandoned := lived.stage.abandoned_iff
  pending pending := (lived.pending_inv pending).1
  dispatches := lived.stage.countP_isDispatch lived.counted
  delivered := lived.stage.isDelivered_iff.trans (@mem_recordOf (.dispatched event.id true) log)
  superseded := lived.stage.isSuperseded_iff.trans
    (and_congr (@mem_recordOf (.superseded event.id) log)
      (not_congr (@mem_recordOf (.dispatched event.id true) log)))

/-! ### All events and their record -/

/-- **The record tells the life of all events**, and of nothing else. -/
structure Told (cap : Int) (log : List Deed) (events : List OutboxEvent) : Prop where
  known : ∀ deed ∈ log, deed.event ∈ events.map OutboxEvent.id
  lived : ∀ event ∈ events, Lived cap log event

theorem told_nil {cap : Int} : Told cap [] [] :=
  ⟨fun _ member => absurd member List.not_mem_nil, fun _ member => absurd member List.not_mem_nil⟩

/-- The deed of an attempt. -/
def Attempt.deed (attempt : Attempt) : Deed := .dispatched attempt.event.id attempt.failure.isNone

/-- **What a drain reports are the deeds of its attempts.** -/
theorem DrainReport.Tells.deeds_perm {report : DrainReport} {batch : List OutboxEvent}
    {attempts : List Attempt} (tells : report.Tells batch attempts) :
    report.deeds.Perm (attempts.map Attempt.deed) := by
  have granted : report.processed.map (Deed.dispatched · true)
      = (attempts.filter fun attempt => attempt.failure.isNone).map Attempt.deed := by
    rw [tells.processed, List.map_map]
    refine List.map_congr_left fun attempt member => ?_
    have returned := (List.mem_filter.mp member).2
    unfold Attempt.deed
    rw [returned]
    rfl
  have refused : report.failed.map (Deed.dispatched · false)
      = (attempts.filter fun attempt => !attempt.failure.isNone).map Attempt.deed := by
    have same : (fun attempt : Attempt => attempt.failure.isSome)
        = fun attempt => !attempt.failure.isNone := by
      funext attempt
      cases attempt.failure <;> rfl
    rw [tells.failed, List.map_map, same]
    refine List.map_congr_left fun attempt member => ?_
    have failed := (List.mem_filter.mp member).2
    rw [Bool.not_eq_true'] at failed
    unfold Attempt.deed
    rw [failed]
    rfl
  rw [deeds, granted, refused, ← List.map_append]
  exact (List.filter_append_perm _ attempts).map Attempt.deed

section AllEvents

variable {cap : Int} {log : List Deed} {attempts : List Attempt} {order : Order} {moment : Instant}

/-- The record of an event after its attempt. -/
theorem recordOf_deeds {deeds : List Deed} (perm : deeds.Perm (attempts.map Attempt.deed))
    (ids : ((attempts.map Attempt.event).map OutboxEvent.id).Nodup) {attempt : Attempt}
    (made : attempt ∈ attempts) :
    recordOf attempt.event.id deeds = [.dispatched attempt.event.id attempt.failure.isNone] := by
  have ids : (attempts.map fun other => other.event.id).Nodup := by
    rw [List.map_map] at ids
    exact ids
  have own : recordOf attempt.event.id (attempts.map Attempt.deed) = [attempt.deed] := by
    have single := Store.filter_of_nodup ids made
    rw [recordOf, List.filter_map]
    exact congrArg (List.map Attempt.deed) single
  exact List.perm_singleton.mp (own ▸ perm.filter _)

/-- Without an attempt an event has no new record. -/
theorem recordOf_deeds_of_other {deeds : List Deed} (perm : deeds.Perm (attempts.map Attempt.deed))
    {id : Uuid} (other : ∀ attempt ∈ attempts, attempt.event.id ≠ id) : recordOf id deeds = [] := by
  refine recordOf_eq_nil fun deed member => ?_
  obtain ⟨attempt, made, rfl⟩ := List.mem_map.mp (perm.mem_iff.mp member)
  exact other attempt made

/-- **A drain keeps record and events together.** -/
theorem Told.drained {policy : Policy} {batch : List OutboxEvent} {session after : Session}
    {report : DrainReport} (told : Told cap log session.store.events) (valid : session.store.Valid)
    (whole : IsBatch session.store batch) (capped : policy.maxRetry = cap)
    (drained : Drained policy batch session after report attempts) :
    Told cap (log ++ report.deeds) after.store.events := by
  obtain ⟨change, events, attempted, outcomes, untouched⟩ := drained.exists_change valid whole
  have first := whole.of_first drained.first
  have perm := drained.tells.deeds_perm
  have ids : after.store.events.map OutboxEvent.id = session.store.events.map OutboxEvent.id := by
    rw [events, List.map_map]
    exact List.map_congr_left fun event member => (attempted event member).id_eq
  refine ⟨fun deed member => ?_, fun event member => ?_⟩
  · rw [ids]
    rcases List.mem_append.mp member with old | new
    · exact told.known deed old
    · obtain ⟨attempt, made, rfl⟩ := List.mem_map.mp (perm.mem_iff.mp new)
      exact List.mem_map_of_mem (first.inside _ (List.mem_map_of_mem made))
  · rw [events] at member
    obtain ⟨before, was, rfl⟩ := List.mem_map.mp member
    by_cases inside : before ∈ attempts.map Attempt.event
    · obtain ⟨attempt, made, rfl⟩ := List.mem_map.mp inside
      rw [outcomes attempt made]
      exact (told.lived _ was).dispatched (first.pending _ inside) capped
        (recordOf_deeds perm first.ids made)
    · rw [untouched before was inside]
      refine (told.lived before was).append_of_other (recordOf_deeds_of_other perm ?_)
      intro attempt made same
      have equal := Store.eq_of_id_eq valid.eventIds (first.inside _ (List.mem_map_of_mem made)) was same
      exact inside (equal ▸ List.mem_map_of_mem made)

/-- **Superseding keeps record and events together.** -/
theorem Told.settled {events : List OutboxEvent} (told : Told cap log events)
    (ids : (events.map OutboxEvent.id).Nodup) :
    Told cap (log ++ (events.filter order.reverses).map fun event => .superseded event.id)
      (events.map (order.settle moment)) := by
  refine ⟨fun deed member => ?_, fun event member => ?_⟩
  · rw [map_id_settle]
    rcases List.mem_append.mp member with old | new
    · exact told.known deed old
    · obtain ⟨event, reversed, rfl⟩ := List.mem_map.mp new
      exact List.mem_map_of_mem (List.mem_of_mem_filter reversed)
  · obtain ⟨before, was, rfl⟩ := List.mem_map.mp member
    cases reverses : order.reverses before with
    | false =>
      rw [Order.settle_of_not_reverses reverses]
      refine (told.lived before was).append_of_other (recordOf_eq_nil fun deed made same => ?_)
      obtain ⟨event, reversed, rfl⟩ := List.mem_map.mp made
      obtain ⟨inside, does⟩ := List.mem_filter.mp reversed
      rw [Store.eq_of_id_eq ids inside was same, reverses] at does
      cases does
    | true =>
      have asked := of_decide_eq_true reverses
      have single := Store.filter_of_nodup (ids.sublist (List.filter_sublist.map OutboxEvent.id))
        (List.mem_filter.mpr ⟨was, reverses⟩)
      have known : order.kind ∈ EventKind.all := by
        cases kind : order.kind with
        | add => exact mem_all_iff.mpr (.inl rfl)
        | remove => exact mem_all_iff.mpr (.inr rfl)
        | other label =>
          have none := asked.1
          rw [kind] at none
          cases none
      rw [Order.settle, if_pos reverses]
      refine (told.lived before was).retired asked.2.2.2 known ?_
      rw [recordOf, List.filter_map]
      exact congrArg (List.map fun event => Deed.superseded event.id) single

/-- An event with a new identifier has no record yet. -/
theorem Told.placed {events : List OutboxEvent} (told : Told cap log events) (positive : 1 ≤ cap)
    {id : Uuid} (fresh : id ∉ events.map OutboxEvent.id) :
    Told cap log (events ++ [order.event id moment]) := by
  refine ⟨fun deed member => ?_, fun event member => ?_⟩
  · rw [List.map_append]
    exact List.mem_append_left _ (told.known deed member)
  · rcases List.mem_append.mp member with old | new
    · exact told.lived event old
    · rw [List.mem_singleton.mp new]
      exact lived_event positive (recordOf_eq_nil fun deed made same => fresh (same ▸ told.known deed made))

end AllEvents

/-! ### What an order supersedes -/

/-- **An order changes no event, or it retires those that it supersedes** and perhaps adds its own. -/
theorem enqueue_supersedes {order : Order} {session after : Session} {result : Option OutboxEvent}
    (settled : session.Settled)
    (fresh : session.surroundings.issued.events < after.surroundings.issued.events →
      .numbered 14 (session.surroundings.issued.events + 1)
        ∉ session.store.events.map OutboxEvent.id)
    (ran : enqueue order session = .ok result after) :
    order.supersedes session.store = [] ∧ after.store.events = session.store.events
      ∨ order.supersedes session.store = session.store.events.filter order.reverses ∧ ∃ moment,
        after.store.events = session.store.events.map (order.settle moment)
          ∨ ∃ id, id ∉ session.store.events.map OutboxEvent.id
            ∧ after.store.events = order.placed id moment session.store.events := by
  have places : ∀ asked : Session, asked.Settled → asked.store = session.store →
      asked.surroundings.issued = session.surroundings.issued →
      place order asked = .ok result after → ∃ moment,
        after.store.events = session.store.events.map (order.settle moment)
          ∨ ∃ id, id ∉ session.store.events.map OutboxEvent.id
            ∧ after.store.events = order.placed id moment session.store.events := by
    intro asked settledAsked store issued ran
    rw [← store, ← issued] at fresh
    obtain ⟨made, once⟩ := place_ok settledAsked fresh ran
    obtain ⟨moment, _, became⟩ := made.became
    have free := fresh (once ▸ Nat.lt_succ_self _)
    rw [store] at became free
    refine ⟨moment, ?_⟩
    generalize after.store.events = eventsAfter at became ⊢
    generalize after.surroundings.issued.events = issuedAfter at became once
    cases became with
    | duplicate taken => exact absurd once (Nat.ne_of_lt (Nat.lt_succ_self _))
    | placed absent => exact .inr ⟨_, free, rfl⟩
    | lost taken => exact .inl rfl
  unfold Order.supersedes
  cases race : order.isRace with
  | true =>
    rw [enqueue_of_race race] at ran
    exact .inr ⟨rfl, places session settled rfl rfl ran⟩
  | false =>
    rw [enqueue_of_not_race race] at ran
    obtain ⟨isPending, asked, reads, ran⟩ := bind_eq_ok.mp ran
    have issued : asked.surroundings.issued = session.surroundings.issued :=
      Surroundings.Quiet.issued ((Transaction.keeps_read _).of_ok reads)
    obtain ⟨settledAsked, store, rfl⟩ := Transaction.read_ok reads settled
    cases pending : hasPendingIn order.storedKey session.store with
    | true =>
      rw [pending] at ran
      cases ran
      exact .inl ⟨rfl, congrArg Store.events store⟩
    | false =>
      rw [pending] at ran
      exact .inr ⟨rfl, places asked settledAsked store issued ran⟩

/-- **An order keeps record and events together.** -/
theorem Told.ordered {cap : Int} {log : List Deed} {order : Order} {session after : Session}
    {result : Option OutboxEvent} (told : Told cap log session.store.events) (positive : 1 ≤ cap)
    (settled : session.Settled)
    (fresh : session.surroundings.issued.events < after.surroundings.issued.events →
      .numbered 14 (session.surroundings.issued.events + 1)
        ∉ session.store.events.map OutboxEvent.id)
    (ran : enqueue order session = .ok result after) :
    Told cap (log ++ (order.supersedes session.store).map fun event => .superseded event.id)
      after.store.events := by
  have ids := settled.valid.eventIds
  rcases enqueue_supersedes settled fresh ran with
    ⟨none, same⟩ | ⟨retired, moment, same | ⟨id, unknown, same⟩⟩
  · rw [none, same, List.map_nil, List.append_nil]
    exact told
  · rw [retired, same]
    exact told.settled ids
  · rw [retired, same]
    refine (told.settled ids).placed positive ?_
    rw [map_id_settle]
    exact unknown

/-! ### Runs with their record -/

/-- A scene with the record of what was committed and of what was done in the open transaction. -/
structure Chronicle where
  scene : Scene
  log : List Deed := []
  logHere : List Deed := []

/-- The move makes no drain but with the cap. -/
def Move.IsCapped (cap : Int) : Move → Prop
  | .use _ (.drain policy _) => policy.maxRetry = cap
  | _ => True

namespace Chronicle

/-- The first transaction on a store. -/
def opened (now : Surroundings) (store : Store) : Chronicle where
  scene := .opened now store

/-- **A move is recorded**, and what the transaction recorded is lost if it was given up. -/
def noted (chronicle : Chronicle) (move : Move) (next : Scene) : Chronicle :=
  if next.givenUp = chronicle.scene.givenUp then
    match move with
    | .commit _ => { scene := next, log := chronicle.log ++ chronicle.logHere }
    | move => { chronicle with
        scene := next
        logHere := chronicle.logHere ++ chronicle.scene.deeds move }
  else { scene := next, log := chronicle.log }

/-- What one move does, with its record. -/
def after (chronicle : Chronicle) (move : Move) : Chronicle :=
  chronicle.noted move (chronicle.scene.after move)

/-- The scene after some moves, with its record. -/
def run (chronicle : Chronicle) (moves : List Move) : Chronicle := moves.foldl after chronicle

variable {chronicle : Chronicle} {start : Nat} {cap : Int} {move : Move} {next : Scene}

/-- The record does not change what happens. -/
@[simp] theorem noted_scene : (chronicle.noted move next).scene = next := by
  unfold noted
  split
  · split <;> rfl
  · rfl

theorem noted_of_use {now : Surroundings} {use : Use} (same : next.givenUp = chronicle.scene.givenUp) :
    chronicle.noted (.use now use) next = { chronicle with
      scene := next
      logHere := chronicle.logHere ++ chronicle.scene.deeds (.use now use) } := if_pos same

theorem noted_of_commit {now : Surroundings} (same : next.givenUp = chronicle.scene.givenUp) :
    chronicle.noted (.commit now) next
      = { scene := next, log := chronicle.log ++ chronicle.logHere } := if_pos same

theorem noted_of_gaveUp (gaveUp : next.givenUp ≠ chronicle.scene.givenUp) :
    chronicle.noted move next = { scene := next, log := chronicle.log } := if_neg gaveUp

theorem run_concat (chronicle : Chronicle) (moves : List Move) (move : Move) :
    chronicle.run (moves ++ [move]) = (chronicle.run moves).after move := List.foldl_concat ..

theorem run_scene (chronicle : Chronicle) (moves : List Move) :
    (chronicle.run moves).scene = chronicle.scene.run moves := by
  induction moves using List.reverseRecOn with
  | nil => rfl
  | append_singleton moves move ih =>
    rw [run_concat, Scene.run_concat, ← ih]
    exact noted_scene

/-- **The record tells the events**, those committed and those that the transaction sees. -/
structure Faithful (cap : Int) (chronicle : Chronicle) : Prop where
  told : Told cap chronicle.log chronicle.scene.store.events
  toldHere : Told cap (chronicle.log ++ chronicle.logHere) chronicle.scene.session.store.events

/-- **Every move keeps record and events together.** -/
theorem Faithful.noted (faithful : chronicle.Faithful cap) (steady : chronicle.scene.Steady start)
    (positive : 1 ≤ cap) (capped : move.IsCapped cap) (step : Step chronicle.scene move next)
    (fresh : Uuid.FreshBetween 14 start next.issued) : (chronicle.noted move next).Faithful cap := by
  cases step with
  | @ordered now order result session ran =>
    have told : Told cap (chronicle.log ++ chronicle.logHere)
        (chronicle.scene.resumed now).store.events := faithful.toldHere
    have told := told.ordered positive (steady.settled_resumed now)
      (fun issues => steady.numberedHere.not_taken steady.ascends (fresh.mono issues)) ran
    have same : (chronicle.scene.ordered order (.ok result session)).givenUp
      = chronicle.scene.givenUp := rfl
    rw [noted_of_use same]
    refine ⟨faithful.told, ?_⟩
    rw [← List.append_assoc]
    exact told
  | @drained now policy mode report session ran =>
    obtain ⟨attempts, drained⟩ := steady.drained ran
    have told : Told cap (chronicle.log ++ chronicle.logHere)
        (chronicle.scene.resumed now).store.events := faithful.toldHere
    have told := told.drained steady.settled.valid
      (isBatch_pendingIn steady.settled.valid policy.batchSize policy.maxRetry) capped drained
    have deeds : chronicle.scene.deeds (.use now (.drain policy mode)) = report.deeds := by
      show (match drain policy mode (chronicle.scene.resumed now) with
        | .ok report _ => report.deeds
        | .error _ _ => []) = _
      rw [ran]
    have same : (chronicle.scene.drained (.ok report session)).givenUp = chronicle.scene.givenUp := rfl
    rw [noted_of_use same, deeds]
    refine ⟨faithful.told, ?_⟩
    rw [← List.append_assoc]
    exact told
  | @committed now session ran =>
    have told : Told cap (chronicle.log ++ chronicle.logHere) session.store.events := by
      rw [steady.committed_store ran]
      exact faithful.toldHere
    have same : (chronicle.scene.committed (.ok () session)).givenUp = chronicle.scene.givenUp := rfl
    rw [noted_of_commit same]
    refine ⟨told, ?_⟩
    rw [List.append_nil]
    exact told
  | @gaveUp _ now ascends =>
    have other : (chronicle.scene.abandon now).givenUp ≠ chronicle.scene.givenUp := Nat.succ_ne_self _
    rw [noted_of_gaveUp other]
    refine ⟨faithful.told, ?_⟩
    rw [List.append_nil]
    exact faithful.told

/-- **Every run keeps record and events together.** -/
theorem Faithful.run (faithful : chronicle.Faithful cap) (steady : chronicle.scene.Steady start)
    (positive : 1 ≤ cap) {moves : List Move} (capped : ∀ move ∈ moves, move.IsCapped cap)
    (fresh : Uuid.FreshBetween 14 start (chronicle.run moves).scene.issued) :
    (chronicle.run moves).Faithful cap := by
  induction moves using List.reverseRecOn with
  | nil => exact faithful
  | append_singleton moves move ih =>
    rw [run_concat] at fresh ⊢
    unfold Chronicle.after at fresh ⊢
    rw [noted_scene] at fresh
    have step := step_after (chronicle.run moves).scene move
    have freshBefore := fresh.mono step.ascends
    have before := ih (fun earlier member => capped earlier (List.mem_append_left _ member)) freshBefore
    have steadyBefore : (chronicle.run moves).scene.Steady start := by
      rw [run_scene] at freshBefore ⊢
      exact (steady.run freshBefore).1
    exact before.noted steadyBefore positive (capped move (List.mem_append_right _ List.mem_cons_self))
      step fresh

end Chronicle

/-! ### The whole life -/

/-- **The life of every event of an outbox with one cap**, at every scene of every run from an empty outbox.
Of pending, processed and abandoned it is exactly one; it is abandoned exactly when it has failed as often
as the cap allows, and it never fails more often; it was dispatched as often as it failed, and once more if
it was delivered; what says delivered was dispatched with success, and what says superseded was superseded.
No event disappears and no event changes once it has ended; every drain, with any policy and at any time,
dispatches pending events only, and none that had ended at an earlier scene. -/
theorem outbox_lifecycle {now : Surroundings} {store : Store} {moves : List Move} {cap : Int}
    (valid : store.Valid) (empty : store.events = []) (positive : 1 ≤ cap)
    (capped : ∀ move ∈ moves, move.IsCapped cap)
    (fresh : Uuid.FreshBetween 14 now.issued.events ((Scene.opened now store).run moves).issued) :
    let chronicle := (Chronicle.opened now store).run moves
    let scene := (Scene.opened now store).run moves
    chronicle.scene = scene
      ∧ (∀ event ∈ scene.store.events, Life cap chronicle.log event)
      ∧ (∀ event ∈ scene.session.store.events, Life cap (chronicle.log ++ chronicle.logHere) event)
      ∧ (∀ earlier, earlier <+: moves → ((Scene.opened now store).run earlier).Remembers scene)
      ∧ ∀ later policy mode,
        let batch := pendingIn policy.batchSize policy.maxRetry scene.session.store
        ∃ attempts : List Attempt, attempts.map Attempt.event <+: batch
          ∧ (endOf (drain policy mode (scene.resumed later))).surroundings.requests
              = scene.session.surroundings.requests ++ attempts.flatMap Attempt.calls
          ∧ (∀ report session, drain policy mode (scene.resumed later) = .ok report session →
              report.Tells batch attempts)
          ∧ ∀ attempt ∈ attempts, attempt.event.isPending = true
            ∧ ∀ earlier, earlier <+: moves → ∀ event,
              ((Scene.opened now store).run earlier).Shows scene event → event.isPending = false →
                event.id ≠ attempt.event.id := by
  intro chronicle scene
  have same : chronicle.scene = scene := Chronicle.run_scene _ moves
  have steady := @Scene.steady_opened now store valid empty
  obtain ⟨steadyAfter, remembered⟩ := steady.run fresh
  have opened : (Chronicle.opened now store).Faithful cap := by
    constructor
    · show Told cap [] store.events
      rw [empty]
      exact told_nil
    · show Told cap [] store.events
      rw [empty]
      exact told_nil
  have faithful : chronicle.Faithful cap := by
    refine opened.run steady positive capped ?_
    rw [Chronicle.run_scene]
    exact fresh
  refine ⟨same, fun event member => ?_, fun event member => ?_, remembered, fun later policy mode => ?_⟩
  · rw [← same] at member
    exact (faithful.told.lived event member).life
  · rw [← same] at member
    exact (faithful.toldHere.lived event member).life
  · obtain ⟨attempts, first, requests, tells, each⟩ := steadyAfter.drains later policy mode
    refine ⟨attempts, first, requests, tells, fun attempt made => ?_⟩
    obtain ⟨_, pending, others⟩ := each attempt made
    exact ⟨pending, fun earlier before => others _ (remembered earlier before)⟩

/-- A user is to be added to a team, which fails twice; they are to be added again, which is taken back, and
their removal is relayed. -/
def threeLives (team user : Uuid) : List Move :=
  let drained (now : Surroundings) : Move := .use now (.drain { maxRetry := 2 } {})
  let ordered (kind : EventKind) : Move := .use default (.order { kind, team, user })
  [ordered .add, drained .refusing, drained .refusing, ordered .add, ordered .remove, drained default,
    .commit default]

theorem isCapped_threeLives {team user : Uuid} : ∀ move ∈ threeLives team user, move.IsCapped 2 := by
  intro move member
  simp only [threeLives, List.mem_cons, List.not_mem_nil, or_false] at member
  rcases member with rfl | rfl | rfl | rfl | rfl | rfl | rfl
  all_goals trivial

/-- The record of three events, one abandoned, one superseded and one delivered, tells their lives. -/
theorem threeLives_recorded :
    let moves := threeLives (.numbered 5 1) (.numbered 1 1)
    let log := ((Chronicle.opened default {}).run moves).log
    log = [.dispatched (.numbered 14 1) false, .dispatched (.numbered 14 1) false,
        .superseded (.numbered 14 2), .dispatched (.numbered 14 3) true]
      ∧ ∀ event ∈ ((Scene.opened default {}).run moves).store.events, Life 2 log event := by
  intro moves log
  have recorded : (let chronicle := (Chronicle.opened default {}).run moves
      decide (chronicle.scene.issued ≤ 3 ∧ chronicle.log = [.dispatched (.numbered 14 1) false,
        .dispatched (.numbered 14 1) false, .superseded (.numbered 14 2),
        .dispatched (.numbered 14 3) true])) = true := by decide +kernel
  obtain ⟨issued, recorded⟩ := of_decide_eq_true recorded
  rw [Chronicle.run_scene] at issued
  exact ⟨recorded, (outbox_lifecycle (by decide) rfl (by decide) isCapped_threeLives
    (Uuid.freshBetween_of_le (Nat.le_trans issued (by decide)))).2.1⟩

end Roster.Outbox
