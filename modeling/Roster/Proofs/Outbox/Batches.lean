/-
**Batches and interruptions change no delivery.**

Every drain sorts what is pending anew, takes only so many events, and may be stopped before any of them. While
the groupware grants whatever it is asked for, an event that was relayed is never selected again, and the others
keep their places: sorting is stable, so what is left of the queue is the queue of what is left. An event of an
unknown kind is selected again and again until it is abandoned, but it asks for nothing.

* `IsQueue` — what the queue of a store is.
* `dueRequests` — what the queue asks for; `dueRequests_eq_append` — attempts at its first events take the first
  of this away and nothing else.
* `Visit.Served` — what one visit does of all that is due; `visits_of_serving` — what any number of them do.
* `batches_change_no_delivery` — **the requests of any drains are the first of those that one drain makes**, and
  all of them once a drain is idle.
-/

import Roster.Proofs.Outbox.Accounting
import Roster.Proofs.Outbox.Clearing
import Roster.Proofs.Sorting

namespace Roster

/-- What is behind the first part of a list without repetitions is what is not in it. -/
theorem filter_not_mem_append {α : Type} [DecidableEq α] {first rest : List α}
    (distinct : (first ++ rest).Nodup) : (first ++ rest).filter (fun a => a ∉ first) = rest := by
  have apart := List.disjoint_of_nodup_append distinct
  rw [List.filter_append, List.filter_eq_nil_iff.mpr (by simp), List.nil_append, List.filter_eq_self]
  exact fun a member => decide_eq_true fun early => apart early member

namespace Outbox

variable {cap : Int} {events first : List OutboxEvent} {session after : Session}

/-! ### The queue -/

/-- **The queue of a store**: the events that a drain may take, each once, the oldest first, and those that
occurred at one instant in the order in which they are stored. -/
structure IsQueue (cap : Int) (store : Store) (queue : List OutboxEvent) : Prop where
  member : ∀ event, event ∈ queue ↔ event ∈ store.events ∧ IsEligible cap event
  once : (queue.map OutboxEvent.id).Nodup
  sorted : queue.Pairwise fun earlier later => earlier.occurredAt ≤ later.occurredAt
  stored : ∀ micros, queue.filter (fun event => event.occurredAt.micros = micros)
    = store.events.filter fun event => IsEligible cap event ∧ event.occurredAt.micros = micros

theorem filter_queue (cap : Int) (events : List OutboxEvent) (keep : OutboxEvent → Bool) :
    (queue cap events).filter keep = (events.filter fun event => IsEligible cap event && keep event).mergeSort
      fun a b => decide (a.occurredAt ≤ b.occurredAt) := by
  rw [queue, filter_mergeSort occurredAt_trans occurredAt_total, List.filter_filter]
  simp only [Bool.and_comm]

theorem isQueue_queue {store : Store} (valid : store.Valid) (cap : Int) :
    IsQueue cap store (queue cap store.events) where
  member _ := mem_queue_iff
  once := by
    rw [queue, ((List.mergeSort_perm _ _).map OutboxEvent.id).nodup_iff]
    exact valid.eventIds.sublist (List.filter_sublist.map OutboxEvent.id)
  sorted := sorted_queue cap store.events
  stored micros := by
    -- Events of one instant are in order however they stand.
    rw [queue, filter_mergeSort_of_level occurredAt_trans occurredAt_total, List.filter_filter]
    · simp only [Bool.decide_and, Bool.and_comm]
    · intro a b startA startB
      exact decide_eq_true (Int.le_of_eq ((of_decide_eq_true startA).trans (of_decide_eq_true startB).symm))

/-- What an event asks the groupware for, if it asks for anything. -/
def requestOf (event : OutboxEvent) : Option Request :=
  match event.kind with
  | .add => some ⟨.granted, event.team, event.user⟩
  | .remove => some ⟨.revoked, event.team, event.user⟩
  | .other _ => none

theorem Attempt.calls_eq (attempt : Attempt) : attempt.calls
    = (requestOf attempt.event).toList.map fun request => (request, attempt.failure.isNone) := by
  unfold Attempt.calls requestOf
  cases attempt.event.kind <;> rfl

theorem requestOf_outcome (policy : Policy) (attempt : Attempt) :
    requestOf (attempt.outcome policy) = requestOf attempt.event := by
  unfold Attempt.outcome
  cases attempt.failure <;> rfl

/-- **What is due**: the requests of the queue, one after another. -/
def dueRequests (cap : Int) (events : List OutboxEvent) : List Request :=
  (queue cap events).filterMap requestOf

theorem filterMap_requestOf (events : List OutboxEvent) :
    events.filterMap requestOf = (events.filter fun event => (requestOf event).isSome).filterMap requestOf := by
  rw [List.filterMap_filter]
  refine List.filterMap_congr fun event _ => ?_
  cases requestOf event <;> rfl

/-- **Attempts at the first events of the queue take the first requests away**, if whatever asks for something
is pending no more, and nothing else changes that asks for anything. -/
theorem dueRequests_eq_append {change : OutboxEvent → OutboxEvent} (distinct : events.Nodup)
    (oldest : first <+: queue cap events)
    (granted : ∀ event ∈ first, ∀ request, requestOf event = some request →
      (change event).isPending = false)
    (silent : ∀ event ∈ first, requestOf event = none → requestOf (change event) = none)
    (untouched : ∀ event ∈ events, event ∉ first → change event = event) :
    dueRequests cap events = first.filterMap requestOf ++ dueRequests cap (events.map change) := by
  obtain ⟨rest, whole⟩ := oldest
  have different : (queue cap events).Nodup :=
    (List.mergeSort_perm _ _).nodup_iff.mpr (distinct.filter _)
  have apart : (queue cap events).filter (fun event => event ∉ first) = rest := by
    rw [← whole] at different ⊢
    exact filter_not_mem_append different
  -- What asks for something and may be taken afterwards was not among the first, so it is as it was.
  have left : ∀ event ∈ events, (IsEligible cap (change event) && (requestOf (change event)).isSome)
      = (IsEligible cap event && (decide (event ∉ first) && (requestOf event).isSome)) := by
    intro event member
    by_cases early : event ∈ first
    · cases asks : requestOf event with
      | none => simp [silent event early asks]
      | some request =>
        have ceased := granted event early request asks
        simp [early, IsEligible, ceased]
    · simp [untouched event member early, early]
  have same : (rest.filter fun event => (requestOf event).isSome)
      = (queue cap (events.map change)).filter fun event => (requestOf event).isSome := by
    rw [← apart, List.filter_filter, filter_queue, filter_queue, List.filter_map]
    simp only [Function.comp_def]
    rw [List.filter_congr left, List.map_congr_left (g := id), List.map_id]
    · simp only [Bool.and_comm, Bool.and_left_comm]
    · intro event member
      obtain ⟨inside, kept⟩ := List.mem_filter.mp member
      simp only [Bool.and_eq_true, decide_eq_true_eq] at kept
      exact untouched event inside kept.2.1
  rw [dueRequests, ← whole, List.filterMap_append, filterMap_requestOf rest, same, ← filterMap_requestOf]
  rfl

/-- **Attempts make the requests of their events**, each once and in order, granted or not. -/
theorem map_fst_calls (attempts : List Attempt) :
    (attempts.flatMap Attempt.calls).map Prod.fst = (attempts.map Attempt.event).filterMap requestOf := by
  induction attempts with
  | nil => rfl
  | cons attempt rest ih =>
    rw [List.flatMap_cons, List.map_append, ih, attempt.calls_eq, List.map_cons, List.filterMap_cons]
    cases requestOf attempt.event <;> rfl

/-- An attempt whose request was granted did not fail. -/
theorem failure_of_granted {attempts : List Attempt} {attempt : Attempt} {request : Request}
    (granted : ∀ call ∈ attempts.flatMap Attempt.calls, call.2 = true) (made : attempt ∈ attempts)
    (asks : requestOf attempt.event = some request) : attempt.failure = none := by
  have call : (request, attempt.failure.isNone) ∈ attempts.flatMap Attempt.calls := by
    refine List.mem_flatMap.mpr ⟨attempt, made, ?_⟩
    rw [attempt.calls_eq, asks]
    exact List.mem_cons_self
  exact Option.isNone_iff_eq_none.mp (granted _ call)

/-! ### Visits -/

namespace Visit

/-- The visit takes at least one event, under the cap, and nobody disturbs it but by the signal to stop, which
may be raised at any time. -/
structure Serves (cap : Int) (visit : Visit) : Prop where
  capped : visit.policy.maxRetry = cap
  takes : 1 ≤ visit.policy.batchSize
  undisturbed : visit.now.Undisturbed false

/-- **What one visit does of all that is due.** If its requests were granted, they are the first ones that were
due, and the others stay due. If it is idle nothing was due. If it takes everything and is not stopped, its
requests are those that were due, granted or not. -/
structure Served (cap : Int) (visit : Visit) (session after : Session) (report : DrainReport)
    (calls : List (Request × Bool)) : Prop where
  settled : after.Settled
  requests : after.surroundings.requests = session.surroundings.requests ++ calls
  due : (∀ call ∈ calls, call.2 = true) →
    dueRequests cap session.store.events = calls.map Prod.fst ++ dueRequests cap after.store.events
  idle : report.isIdle = true → dueRequests cap session.store.events = []
  whole : report.cancelled = false → (queue cap session.store.events).length ≤ visit.policy.batchSize →
    calls.map Prod.fst = dueRequests cap session.store.events

/-- **A visit serves what is due**, and it is not stopped if it does not heed the signal. -/
theorem run_of_serves {visit : Visit} (serves : visit.Serves cap) (settled : session.Settled) :
    ∃ report after calls, visit.run session = .ok report after
      ∧ Served cap visit session after report calls
      ∧ (visit.mode.heedsCancel = false → report.cancelled = false) := by
  obtain rfl := serves.capped
  have undisturbed : (visit.resumed session).surroundings.Undisturbed false :=
    ⟨serves.undisturbed.up, serves.undisturbed.uninterrupted, nofun⟩
  obtain ⟨attempts, after, ran, _, undisturbedAfter, drained, stops⟩ :=
    @drain_oneByOne visit.policy visit.mode _ false (visit.settled_resumed settled) undisturbed
  have batch : pendingIn visit.policy.batchSize visit.policy.maxRetry (visit.resumed session).store
      = (queue visit.policy.maxRetry session.store.events).take visit.policy.batchSize := rfl
  have whole := isBatch_pendingIn settled.valid visit.policy.batchSize visit.policy.maxRetry
  obtain ⟨change, events, _, outcomes, untouched⟩ := drained.exists_change settled.valid whole
  have tells := drained.tells
  rw [batch] at drained tells stops
  refine ⟨_, after, attempts.flatMap Attempt.calls, run_of_drain ran drained.settled undisturbedAfter.up,
    ⟨drained.settled, drained.asked.requests, fun granted => ?_, fun idle => ?_,
      fun uncancelled enough => ?_⟩, fun heedless => ?_⟩
  · rw [events, map_fst_calls]
    refine dueRequests_eq_append (List.Nodup.of_map _ settled.valid.eventIds)
      (drained.first.trans (List.take_prefix _ _)) (fun event early request asks => ?_)
      (fun event early silent => ?_) untouched
    · obtain ⟨attempt, made, rfl⟩ := List.mem_map.mp early
      rw [outcomes attempt made, Attempt.outcome, failure_of_granted granted made asks]
      rfl
    · obtain ⟨attempt, made, rfl⟩ := List.mem_map.mp early
      rw [outcomes attempt made, requestOf_outcome, silent]
  · have selected : ((queue visit.policy.maxRetry session.store.events).take visit.policy.batchSize).length
        = 0 := tells.selected.symm.trans (beq_iff_eq.mp idle)
    have takes := serves.takes
    have empty : queue visit.policy.maxRetry session.store.events = [] := by
      rw [List.length_take] at selected
      exact List.length_eq_zero_iff.mp (by omega)
    rw [dueRequests, empty, List.filterMap_nil]
  · rw [map_fst_calls, drained.complete uncancelled, List.take_of_length_le enough]
    rfl
  · refine Bool.eq_false_iff.mpr fun cancelled => ?_
    have stopped := stops (tells.cancelled.mp cancelled)
    rw [DrainMode.isStopped, heedless] at stopped
    cases stopped

end Visit

/-- **Visits serve what is due, one after another**: if all their requests were granted, these are the first ones
that were due, and nothing stays due once one of the visits is idle. -/
theorem visits_of_serving {list : List Visit} (serve : ∀ visit ∈ list, visit.Serves cap)
    (settled : session.Settled) :
    ∃ reports after calls, visits list session = .ok reports after
      ∧ after.surroundings.requests = session.surroundings.requests ++ calls
      ∧ ((∀ call ∈ calls, call.2 = true) →
        dueRequests cap session.store.events = calls.map Prod.fst ++ dueRequests cap after.store.events
          ∧ ((∃ report ∈ reports, report.isIdle = true) → dueRequests cap after.store.events = [])) := by
  unfold visits
  induction list generalizing session with
  | nil => exact ⟨[], session, [], rfl, (List.append_nil _).symm, fun _ => ⟨rfl, by simp⟩⟩
  | cons visit rest ih =>
    obtain ⟨report, middle, calls, ran, served, _⟩ :=
      Visit.run_of_serves (serve visit List.mem_cons_self) settled
    obtain ⟨reports, after, more, rests, requests, later⟩ :=
      ih (fun other member => serve other (List.mem_cons_of_mem _ member)) served.settled
    refine ⟨report :: reports, after, calls ++ more, ?_, ?_, fun granted => ?_⟩
    · rw [List.mapM_cons, bind_of_ok ran, bind_of_ok rests]
      rfl
    · rw [requests, served.requests, List.append_assoc]
    · obtain ⟨due, idle⟩ := later fun call member => granted call (List.mem_append_right _ member)
      have dueFirst := served.due fun call member => granted call (List.mem_append_left _ member)
      refine ⟨by rw [dueFirst, due, List.map_append, List.append_assoc], ?_⟩
      rintro ⟨other, member, rested⟩
      rcases List.mem_cons.mp member with rfl | rests
      -- Nothing was due when it was idle, so nothing is due later.
      · have none := served.idle rested
        rw [dueFirst, due] at none
        exact (List.append_eq_nil_iff.mp (List.append_eq_nil_iff.mp none).2).2
      · exact idle ⟨other, rests, rested⟩

/-- **Batches and interruptions change no delivery**, while nobody adds an event. The queue lists the eligible
events, each once, the oldest first, and as they are stored where they occurred at one instant. One drain that
takes all of them and is not stopped makes the requests of the queue in its order. Any drains, each of at least
one event and each stopped before any of its events or not at all, return; and if the groupware granted whatever
they asked for, they asked for the first of these requests in the same order, for none twice and leaving none
out, and for all of them once one of the drains is idle. -/
theorem batches_change_no_delivery (settled : session.Settled) (cap : Int) :
    ∃ queue, IsQueue cap session.store queue
      ∧ (∀ visit : Visit, visit.Serves cap → queue.length ≤ visit.policy.batchSize →
        ∃ report after calls, visit.run session = .ok report after
          ∧ after.surroundings.requests = session.surroundings.requests ++ calls
          ∧ (visit.mode.heedsCancel = false → report.cancelled = false)
          ∧ (report.cancelled = false → calls.map Prod.fst = queue.filterMap requestOf))
      ∧ ∀ list : List Visit, (∀ visit ∈ list, visit.Serves cap) →
        ∃ reports after calls, visits list session = .ok reports after
          ∧ after.surroundings.requests = session.surroundings.requests ++ calls
          ∧ ((∀ call ∈ calls, call.2 = true) → calls.map Prod.fst <+: queue.filterMap requestOf
            ∧ ((∃ report ∈ reports, report.isIdle = true) →
              calls.map Prod.fst = queue.filterMap requestOf)) := by
  refine ⟨queue cap session.store.events, isQueue_queue settled.valid cap, fun visit serves enough => ?_,
    fun list serve => ?_⟩
  · obtain ⟨report, after, calls, ran, served, heedless⟩ := Visit.run_of_serves serves settled
    exact ⟨report, after, calls, ran, served.requests, heedless, fun uncancelled =>
      served.whole uncancelled enough⟩
  · obtain ⟨reports, after, calls, ran, requests, later⟩ := visits_of_serving serve settled
    refine ⟨reports, after, calls, ran, requests, fun granted => ?_⟩
    obtain ⟨due, idle⟩ := later granted
    refine ⟨⟨_, due.symm⟩, fun rested => ?_⟩
    rw [idle rested, List.append_nil] at due
    exact due.symm

/-- Two events wait since one instant, stored in this order: one that gives a user the access and one that takes
it from another. -/
def sinceOneInstant : Session where
  surroundings := default
  store := { events :=
    [Order.event { kind := .add, team := .numbered 5 1, user := .numbered 1 1, key := "a" }
      (.numbered 14 2) default,
      Order.event { kind := .remove, team := .numbered 5 1, user := .numbered 1 2, key := "b" }
        (.numbered 14 1) default] }

/-- One drain of so many events at most, under a cap of one. The groupware grants every request and raises the
signal to stop at each. -/
def briefVisit (batchSize : Nat) (heedsCancel : Bool) : Visit where
  now := { clock := default, groupware := fun _ _ => { stops := true } }
  policy := { batchSize, maxRetry := 1 }
  mode := { heedsCancel }

theorem serves_briefVisit {batchSize : Nat} (takes : 1 ≤ batchSize) (heedsCancel : Bool) :
    (briefVisit batchSize heedsCancel).Serves 1 where
  capped := rfl
  takes := takes
  undisturbed := by
    refine ⟨rfl, fun earlier request failure refused => ?_, nofun⟩
    cases refused

theorem visits_sinceOneInstant : ∃ reports after,
    visits [briefVisit 5 true, briefVisit 1 true, briefVisit 1 true] sinceOneInstant = .ok reports after
      ∧ (∀ call ∈ after.surroundings.requests, call.2 = true)
      ∧ ∃ report ∈ reports, report.isIdle = true := by
  let visit := briefVisit 5 true
  let events := sinceOneInstant.store.events
  have settled : sinceOneInstant.Settled := ⟨rfl, rfl, by decide +kernel⟩
  have eligible : events.filter (fun event => event.isPending ∧ event.retryCount < 1) = events := by
    decide +kernel
  have oldest : pendingIn 5 1 sinceOneInstant.store = events := by
    rw [pendingIn, eligible, List.mergeSort_of_pairwise (by decide +kernel)]
    rfl
  have reads : pending 5 1 (visit.resumed sinceOneInstant) = .ok (pendingIn 5 1 sinceOneInstant.store)
      { visit.resumed sinceOneInstant with opened := true } :=
    Transaction.read_of_settled (visit.settled_resumed settled) rfl
  rw [oldest] at reads
  -- Sorting one event or none is computed; only the first drain has more to sort.
  have told : ∃ reports after,
      (do
        let report ← drainBatch visit.policy visit.mode events
        let reports ← visits [briefVisit 1 true, briefVisit 1 true]
        return report :: reports : Transaction (List DrainReport))
        { visit.resumed sinceOneInstant with opened := true } = .ok reports after
      ∧ (∀ call ∈ after.surroundings.requests, call.2 = true)
      ∧ ∃ report ∈ reports, report.isIdle = true := by decide +kernel
  obtain ⟨reports, after, ran, granted, rested⟩ := told
  obtain ⟨report, middle, drained, rest⟩ := bind_eq_ok.mp ran
  have first : visit.run sinceOneInstant = .ok report middle :=
    (bind_of_ok (modify_apply _ _)).trans (bind_of_ok ((bind_of_ok reads).trans drained))
  refine ⟨reports, after, ?_, granted, rested⟩
  rw [visits, List.mapM_cons, bind_of_ok first]
  exact rest

/-- The first drain gives the access and is stopped, the second takes the access away, and the third is idle. They
ask for the same as one drain that does not heed the signal. -/
theorem sinceOneInstant_in_batches :
    (∃ reports after,
      visits [briefVisit 5 true, briefVisit 1 true, briefVisit 1 true] sinceOneInstant = .ok reports after
        ∧ after.surroundings.requests.map Prod.fst
          = [⟨.granted, .numbered 5 1, .numbered 1 1⟩, ⟨.revoked, .numbered 5 1, .numbered 1 2⟩])
      ∧ ∃ report after, (briefVisit 2 false).run sinceOneInstant = .ok report after
        ∧ after.surroundings.requests.map Prod.fst
          = [⟨.granted, .numbered 5 1, .numbered 1 1⟩, ⟨.revoked, .numbered 5 1, .numbered 1 2⟩] := by
  have settled : sinceOneInstant.Settled := ⟨rfl, rfl, by decide +kernel⟩
  obtain ⟨queue, isQueue, single, many⟩ := batches_change_no_delivery settled 1
  have same : queue = sinceOneInstant.store.events := by
    have start : ∀ event ∈ sinceOneInstant.store.events, event.occurredAt.micros = 0 := by decide +kernel
    have kept : queue.filter (fun event => event.occurredAt.micros = 0) = queue :=
      List.filter_eq_self.mpr fun event member =>
        decide_eq_true (start event ((isQueue.member event).mp member).1)
    rw [← kept, isQueue.stored]
    decide +kernel
  have asks : queue.filterMap requestOf
      = [⟨.granted, .numbered 5 1, .numbered 1 1⟩, ⟨.revoked, .numbered 5 1, .numbered 1 2⟩] := by
    rw [same]
    rfl
  refine ⟨?_, ?_⟩
  · obtain ⟨reports, after, ran, granted, rested⟩ := visits_sinceOneInstant
    obtain ⟨_, _, calls, runs, requests, later⟩ := many
      [briefVisit 5 true, briefVisit 1 true, briefVisit 1 true] (fun visit member => by
        simp only [List.mem_cons, List.not_mem_nil, or_false] at member
        rcases member with rfl | rfl | rfl <;> exact serves_briefVisit (by decide) true)
    cases runs.symm.trans ran
    have made : after.surroundings.requests = calls := requests
    rw [made] at granted
    exact ⟨reports, after, ran, by rw [made, (later granted).2 rested, asks]⟩
  · obtain ⟨report, after, calls, ran, requests, heedless, whole⟩ := single (briefVisit 2 false)
      (serves_briefVisit (by decide) false) (by rw [same]; decide)
    have made : after.surroundings.requests = calls := requests
    exact ⟨report, after, ran, by rw [made, whole (heedless rfl), asks]⟩

end Outbox

end Roster
