/-
**A drain accounts for every event.**

The report of a drain, the rows it leaves and the requests it made tell the same story: the events that were
attempted are the oldest that could be, in order, and of each of them one can say what was asked, what came
of it, and under which list of the report it stands. An event that fails, one of an unknown kind or the signal
to stop in the middle changes nothing about the others.

* `queue` — the events that a drain may take, in their order.
* `IsSelection` — the events that a drain selects; `isSelection_pendingIn` says that it does.
* `Recorded` — what some attempts leave of the rows; `Drained.recorded` says that a drain leaves this.
* `Drained.pendingCount` — **the pending events that are gone are the processed and the abandoned ones**.
* `Accounts` — the whole account; `drain_accounts_for_every_event` — **every drain gives it**.
-/

import Roster.Proofs.Outbox.Undisturbed

namespace Roster.Outbox

variable {policy : Policy} {mode : DrainMode} {session after : Session}

/-! ### The selection -/

/-- An event that a drain may take: it is pending, and it failed less often than the cap allows. -/
def IsEligible (cap : Int) (event : OutboxEvent) : Prop :=
  event.isPending = true ∧ event.retryCount < cap

instance (cap : Int) (event : OutboxEvent) : Decidable (IsEligible cap event) :=
  inferInstanceAs (Decidable (_ ∧ _))

/-- **The queue of some events**: those that a drain may take, the oldest first. -/
def queue (cap : Int) (events : List OutboxEvent) : List OutboxEvent :=
  (events.filter fun event => IsEligible cap event).mergeSort fun a b =>
    decide (a.occurredAt ≤ b.occurredAt)

/-- A drain selects the first ones of the queue. -/
theorem pendingIn_eq_take (size : Nat) (cap : Int) (store : Store) :
    pendingIn size cap store = (queue cap store.events).take size := rfl

theorem occurredAt_trans (a b c : OutboxEvent) (first : decide (a.occurredAt ≤ b.occurredAt) = true)
    (second : decide (b.occurredAt ≤ c.occurredAt) = true) : decide (a.occurredAt ≤ c.occurredAt) = true :=
  decide_eq_true (Int.le_trans (of_decide_eq_true first) (of_decide_eq_true second))

theorem occurredAt_total (a b : OutboxEvent) :
    (decide (a.occurredAt ≤ b.occurredAt) || decide (b.occurredAt ≤ a.occurredAt)) = true := by
  rw [Bool.or_eq_true, decide_eq_true_iff, decide_eq_true_iff]
  exact Int.le_total _ _

theorem sorted_queue (cap : Int) (events : List OutboxEvent) :
    (queue cap events).Pairwise fun earlier later => earlier.occurredAt ≤ later.occurredAt :=
  (List.pairwise_mergeSort occurredAt_trans occurredAt_total _).imp of_decide_eq_true

theorem mem_queue_iff {cap : Int} {events : List OutboxEvent} {event : OutboxEvent} :
    event ∈ queue cap events ↔ event ∈ events ∧ IsEligible cap event := by
  rw [queue, List.mem_mergeSort, List.mem_filter, decide_eq_true_eq]

/-- **The events that a drain selects**: different eligible ones, as many as the batch holds, the oldest
first, and none that is left out is older than one of them. -/
structure IsSelection (policy : Policy) (store : Store) (batch : List OutboxEvent) : Prop where
  inside : ∀ event ∈ batch, event ∈ store.events ∧ IsEligible policy.maxRetry event
  ids : (batch.map OutboxEvent.id).Nodup
  length : batch.length = min policy.batchSize
    (store.events.countP fun event => IsEligible policy.maxRetry event)
  sorted : batch.Pairwise fun earlier later => earlier.occurredAt ≤ later.occurredAt
  oldest : ∀ event ∈ batch, ∀ other ∈ store.events, IsEligible policy.maxRetry other →
    other ∉ batch → event.occurredAt ≤ other.occurredAt

theorem isSelection_pendingIn {store : Store} (policy : Policy) (valid : store.Valid) :
    IsSelection policy store (pendingIn policy.batchSize policy.maxRetry store) := by
  have sorted := sorted_queue policy.maxRetry store.events
  rw [pendingIn_eq_take]
  refine ⟨fun event member => mem_queue_iff.mp (List.mem_of_mem_take member),
    (isBatch_pendingIn valid _ _).ids, ?_, sorted.sublist (List.take_sublist _ _),
    fun event member other inside able left => ?_⟩
  · rw [List.length_take, queue, List.length_mergeSort, List.countP_eq_length_filter]
  · have waits : other ∈ queue policy.maxRetry store.events := mem_queue_iff.mpr ⟨inside, able⟩
    rw [← List.take_append_drop policy.batchSize (queue policy.maxRetry store.events)] at sorted waits
    exact (List.pairwise_append.mp sorted).2.2 event member other
      ((List.mem_append.mp waits).resolve_left left)

/-! ### The lists of the report -/

/-- The identifiers of the events that were attempted. -/
def idsOf (attempts : List Attempt) : List Uuid := attempts.map fun attempt => attempt.event.id

/-- The attempts that were granted. -/
def granted (attempts : List Attempt) : List Attempt :=
  attempts.filter fun attempt => attempt.failure.isNone

/-- The attempts that failed. -/
def refused (attempts : List Attempt) : List Attempt :=
  attempts.filter fun attempt => attempt.failure.isSome

/-- The attempts that failed and were the last allowed. -/
def givenUp (policy : Policy) (attempts : List Attempt) : List Attempt :=
  (refused attempts).filter fun attempt => policy.maxRetry ≤ attempt.event.retryCount + 1

theorem refused_cons_of_none {attempt : Attempt} {attempts : List Attempt}
    (none : attempt.failure = none) : refused (attempt :: attempts) = refused attempts := by
  simp [refused, none]

theorem refused_cons_of_some {attempt : Attempt} {attempts : List Attempt} {failure : Failure}
    (some : attempt.failure = some failure) :
    refused (attempt :: attempts) = attempt :: refused attempts := by
  simp [refused, some]

theorem foldl_add_abandoned (policy : Policy) (attempts : List Attempt) (report : DrainReport) :
    (attempts.foldl (DrainReport.add policy) report).abandoned
      = report.abandoned ++ idsOf (givenUp policy attempts) := by
  induction attempts generalizing report with
  | nil => simp [givenUp, refused, idsOf]
  | cons attempt rest ih =>
    rw [List.foldl_cons, ih]
    cases failure : attempt.failure with
    | none => simp [DrainReport.add, givenUp, refused_cons_of_none failure, failure]
    | some failed =>
      by_cases last : policy.maxRetry ≤ attempt.event.retryCount + 1
      · simp [DrainReport.add, givenUp, refused_cons_of_some failure, failure, last, idsOf]
      · simp [DrainReport.add, givenUp, refused_cons_of_some failure, failure, last]

theorem abandoned_reportOf (policy : Policy) (batch : List OutboxEvent) (attempts : List Attempt) :
    (reportOf policy batch attempts).abandoned = idsOf (givenUp policy attempts) :=
  (foldl_add_abandoned policy attempts { selected := batch.length }).trans (List.nil_append _)

/-- **Granted and failed attempts together** are all attempts. -/
theorem perm_granted_refused (attempts : List Attempt) :
    (granted attempts ++ refused attempts).Perm attempts := by
  have others : refused attempts = attempts.filter fun attempt => !attempt.failure.isNone := by
    simp [refused]
  rw [others]
  exact List.filter_append_perm _ _

/-! ### The rows -/

/-- **After an attempt an event is pending** if it failed, and not for the last time. -/
theorem isPending_outcome {attempt : Attempt} (pending : attempt.event.isPending = true) :
    (attempt.outcome policy).isPending = (attempt.failure.isSome
      && !decide (policy.maxRetry ≤ attempt.event.retryCount + 1)) := by
  obtain ⟨unprocessed, unabandoned⟩ := OutboxEvent.isPending_iff.mp pending
  rw [Attempt.outcome, OutboxEvent.isPending]
  cases attempt.failure with
  | none => rfl
  | some failure =>
    by_cases last : policy.maxRetry ≤ attempt.event.retryCount + 1
    · simp [failed, last]
    · simp [failed, last, unprocessed, unabandoned]

/-- **What some attempts leave of the rows**: a granted event has the time it was processed at and no error,
a failed one the error and one attempt more, and it is abandoned if that was the last; every other row is as
it was. -/
structure Recorded (policy : Policy) (attempts : List Attempt) (before after : Store) : Prop where
  events : after = { before with events := after.events }
  ids : after.events.map OutboxEvent.id = before.events.map OutboxEvent.id
  granted : ∀ attempt ∈ attempts, attempt.failure = none →
    { attempt.event with processedAt := some attempt.moment, lastError := none } ∈ after.events
  refused : ∀ attempt ∈ attempts, ∀ failure, attempt.failure = some failure →
    { attempt.event with
      retryCount := attempt.event.retryCount + 1
      lastError := some (errorText failure policy.errorLength)
      abandonedAt := if policy.maxRetry ≤ attempt.event.retryCount + 1 then some attempt.moment
        else none } ∈ after.events
  kept : ∀ event ∈ before.events, event ∉ attempts.map Attempt.event → event ∈ after.events

/-- **What is pending no more was attempted**, and no event was attempted twice. -/
theorem perm_ceased {store : Store} {attempts : List Attempt} {change : OutboxEvent → OutboxEvent}
    (valid : store.Valid) (tried : IsBatch store (attempts.map Attempt.event))
    (outcomes : ∀ attempt ∈ attempts, change attempt.event = attempt.outcome policy)
    (untouched : ∀ event ∈ store.events, event ∉ attempts.map Attempt.event → change event = event) :
    ((store.events.filter OutboxEvent.isPending).filter fun event => !(change event).isPending).Perm
      ((attempts.filter fun attempt => !(attempt.outcome policy).isPending).map Attempt.event) := by
  refine (List.perm_ext_iff_of_nodup ?_ ?_).mpr fun event => ?_
  · refine (List.Nodup.of_map _ valid.eventIds).sublist ?_
    exact List.filter_sublist.trans List.filter_sublist
  · exact (List.Nodup.of_map _ tried.ids).sublist (List.filter_sublist.map _)
  · simp only [List.mem_filter, List.mem_map]
    constructor
    · rintro ⟨⟨member, pending⟩, ended⟩
      by_cases chosen : event ∈ attempts.map Attempt.event
      · obtain ⟨attempt, made, rfl⟩ := List.mem_map.mp chosen
        rw [outcomes attempt made] at ended
        exact ⟨attempt, ⟨made, ended⟩, rfl⟩
      · rw [untouched event member chosen, pending] at ended
        cases ended
    · rintro ⟨attempt, ⟨made, ended⟩, rfl⟩
      have chosen : attempt.event ∈ attempts.map Attempt.event := List.mem_map_of_mem made
      rw [outcomes attempt made]
      exact ⟨⟨tried.inside _ chosen, tried.pending _ chosen⟩, ended⟩

namespace Drained

variable {batch : List OutboxEvent} {report : DrainReport} {attempts : List Attempt}
  (drained : Drained policy batch session after report attempts) (valid : session.store.Valid)
  (whole : IsBatch session.store batch)

include drained valid whole

theorem recorded : Recorded policy attempts session.store after.store := by
  obtain ⟨change, events, _, outcomes, untouched⟩ := drained.exists_change valid whole
  have tried := whole.of_first drained.first
  have outcome : ∀ attempt ∈ attempts, attempt.outcome policy ∈ after.store.events := by
    intro attempt made
    rw [events, ← outcomes attempt made]
    exact List.mem_map_of_mem (tried.inside _ (List.mem_map_of_mem made))
  refine ⟨?_, drained.map_id valid whole, fun attempt made none => ?_,
    fun attempt made failure some => ?_, fun event member other => ?_⟩
  · rw [drained.store]
  · have row := outcome attempt made
    rw [Attempt.outcome, none] at row
    exact row
  · have row := outcome attempt made
    have pending := tried.pending _ (List.mem_map_of_mem made)
    rw [Attempt.outcome, some] at row
    unfold failed at row
    rw [(OutboxEvent.isPending_iff.mp pending).2] at row
    exact row
  · rw [events]
    exact List.mem_map.mpr ⟨event, member, untouched event member other⟩

/-- **The pending events that are gone after a drain** are those of the attempts that left none pending. -/
theorem length_ceased :
    pendingCountIn after.store
        + (attempts.filter fun attempt => !(attempt.outcome policy).isPending).length
      = pendingCountIn session.store := by
  obtain ⟨change, events, each, outcomes, untouched⟩ := drained.exists_change valid whole
  let waiting := session.store.events.filter OutboxEvent.isPending
  let still (event : OutboxEvent) : Bool := (change event).isPending
  have counts : pendingCountIn after.store = waiting.countP still := by
    rw [pendingCountIn, events, ← List.countP_eq_length_filter, List.countP_map, List.countP_filter]
    refine List.countP_congr fun event member => ?_
    cases pending : event.isPending with
    | true => simp [still]
    | false => simp [(each event member).eq_of_not_pending pending, pending]
  have ceased := perm_ceased valid (whole.of_first drained.first) outcomes untouched
  rw [counts, ← List.length_map Attempt.event, ← ceased.length_eq, List.countP_eq_length_filter]
  exact (List.length_eq_length_filter_add still).symm

/-- **What is pending no more is processed or abandoned.** -/
theorem pendingCount :
    pendingCountIn after.store + (granted attempts).length + (givenUp policy attempts).length
      = pendingCountIn session.store := by
  have tried := whole.of_first drained.first
  let ended := attempts.filter fun attempt => !(attempt.outcome policy).isPending
  have pending : ∀ attempt ∈ attempts, attempt.event.isPending = true := fun attempt made =>
    tried.pending _ (List.mem_map_of_mem made)
  have allGranted : granted ended = granted attempts := by
    rw [granted, List.filter_filter]
    refine List.filter_congr fun attempt made => ?_
    rw [isPending_outcome (pending attempt made)]
    cases attempt.failure <;> rfl
  have lastRefused : refused ended = givenUp policy attempts := by
    rw [refused, givenUp, refused, List.filter_filter, List.filter_filter]
    refine List.filter_congr fun attempt made => ?_
    rw [isPending_outcome (pending attempt made)]
    cases attempt.failure <;> simp
  have split : (granted attempts ++ givenUp policy attempts).Perm ended := by
    rw [← allGranted, ← lastRefused]
    exact perm_granted_refused ended
  rw [← drained.length_ceased valid whole, ← split.length_eq, List.length_append, Nat.add_assoc]

end Drained

/-! ### The account -/

/-- **The account of a drain**: what it selected, which of it was attempted and when, what the report says of
that, what was asked of the groupware, what became of the rows, and how many events are pending less. -/
structure Accounts (policy : Policy) (mode : DrainMode) (session after : Session) (report : DrainReport)
    (batch : List OutboxEvent) (attempts : List Attempt) : Prop where
  selection : IsSelection policy session.store batch
  selected : report.selected = batch.length
  first : attempts.map Attempt.event <+: batch
  oneByOne : OneByOne mode session.surroundings attempts after.surroundings
  unknown : ∀ attempt ∈ attempts, ∀ label, attempt.event.kind = .other label →
    attempt.failure = some (.unknownEventKind (.text label))
  cancelled : report.cancelled = true ↔ attempts.length < batch.length
  complete : mode.isStopped after.surroundings = false → attempts.map Attempt.event = batch
  processed : report.processed = idsOf (granted attempts)
  failed : report.failed = idsOf (refused attempts)
  abandoned : report.abandoned = idsOf (givenUp policy attempts)
  disjoint : report.processed.Disjoint report.failed
  together : (report.processed ++ report.failed).Perm (idsOf attempts)
  calls : after.surroundings.requests
    = session.surroundings.requests ++ attempts.flatMap Attempt.calls
  recorded : Recorded policy attempts session.store after.store
  count : pendingCountIn after.store + report.processed.length + report.abandoned.length
    = pendingCountIn session.store

theorem accounts_of_drained {batch : List OutboxEvent} {attempts : List Attempt}
    (valid : session.store.Valid) (selection : IsSelection policy session.store batch)
    (drained : Drained policy batch session after (reportOf policy batch attempts) attempts)
    (oneByOne : OneByOne mode session.surroundings attempts after.surroundings)
    (stops : attempts.length < batch.length → mode.isStopped after.surroundings = true) :
    Accounts policy mode session after (reportOf policy batch attempts) batch attempts := by
  have whole : IsBatch session.store batch :=
    ⟨fun event member => (selection.inside event member).1,
      fun event member => (selection.inside event member).2.1, selection.ids⟩
  have tells := drained.tells
  have processed : (reportOf policy batch attempts).processed = idsOf (granted attempts) :=
    tells.processed
  have failed : (reportOf policy batch attempts).failed = idsOf (refused attempts) := tells.failed
  have together : (idsOf (granted attempts) ++ idsOf (refused attempts)).Perm (idsOf attempts) := by
    rw [idsOf, idsOf, ← List.map_append]
    exact (perm_granted_refused attempts).map _
  have different : (idsOf attempts).Nodup := by
    have ids := (whole.of_first drained.first).ids
    rwa [List.map_map] at ids
  have disjoint := (List.nodup_append'.mp (together.nodup_iff.mpr different)).2.2
  refine ⟨selection, tells.selected, drained.first, oneByOne,
    fun attempt made label unknown => oneByOne.failure_of_unknown made unknown, tells.cancelled,
    fun unstopped => drained.complete (Bool.eq_false_iff.mpr fun cancelled => ?_), processed, failed,
    abandoned_reportOf policy batch attempts, ?_, ?_, drained.asked.requests,
    drained.recorded valid whole, ?_⟩
  · rw [stops (tells.cancelled.mp cancelled)] at unstopped
    cases unstopped
  · rw [processed, failed]
    exact disjoint
  · rw [processed, failed]
    exact together
  · rw [processed, abandoned_reportOf, idsOf, List.length_map, idsOf, List.length_map]
    exact drained.pendingCount valid whole

/-- **A drain accounts for every event**, whatever the groupware replies and whenever the signal to stop is
raised, while the database answers and nobody interrupts the drain. It returns. It selected the oldest eligible
events, as many as the batch holds, and attempted them in order, all of them or up to the signal. Each attempt
asked for what its event asks for, and its failure, if it had one, was kept by its own event and changed
nothing about the others; an event of an unknown kind asked for nothing and failed. The report lists the
granted and the failed attempts in their order, and of the failed ones those that were the last allowed. The
rows say the same, every other row is as it was, and so many events are pending less as were processed and
abandoned. -/
theorem drain_accounts_for_every_event {policy : Policy} {mode : DrainMode} {session : Session}
    (settled : session.Settled) (undisturbed : session.surroundings.Undisturbed false) :
    ∃ report after batch attempts, drain policy mode session = .ok report after ∧ after.Settled
      ∧ Accounts policy mode session after report batch attempts := by
  obtain ⟨attempts, after, ran, oneByOne, _, drained, stops⟩ :=
    @drain_oneByOne policy mode session _ settled undisturbed
  exact ⟨_, after, _, attempts, ran, drained.settled, accounts_of_drained settled.valid
    (isSelection_pendingIn policy settled.valid) drained oneByOne stops⟩

/-- Four events wait: one of an unknown kind, one for a first user that has failed before, one that takes the
access from a second user, and one for a third. The groupware refuses the first user, and while it takes the
access from somebody the signal to stop is raised. -/
def fourWaiting : Session where
  surroundings := { clock := default, groupware := fun _ request =>
    if request.user = .numbered 1 1 then .refusal else { stops := request.access = .revoked } }
  store := { events :=
    [Order.event { kind := .other "grow", team := .numbered 5 1, user := .numbered 1 1, key := "a" }
      (.numbered 14 1) default,
      { Order.event { kind := .add, team := .numbered 5 1, user := .numbered 1 1, key := "b" }
        (.numbered 14 2) ⟨11, ⟨0⟩, by decide⟩ with retryCount := 1 },
      Order.event { kind := .remove, team := .numbered 5 1, user := .numbered 1 2, key := "c" }
        (.numbered 14 3) ⟨12, ⟨0⟩, by decide⟩,
      Order.event { kind := .add, team := .numbered 5 1, user := .numbered 1 3, key := "d" }
        (.numbered 14 4) ⟨13, ⟨0⟩, by decide⟩] }

theorem undisturbed_fourWaiting : fourWaiting.surroundings.Undisturbed false := by
  refine ⟨rfl, fun earlier request failure refused => ?_,
    fun heeded => absurd heeded Bool.false_ne_true⟩
  dsimp only [fourWaiting] at refused
  split at refused
  · cases refused
    rfl
  · cases refused

theorem pendingIn_fourWaiting :
    pendingIn 100 2 fourWaiting.store = fourWaiting.store.events := by
  have eligible : fourWaiting.store.events.filter
      (fun event => event.isPending ∧ event.retryCount < 2) = fourWaiting.store.events := by
    decide +kernel
  rw [pendingIn, eligible, List.mergeSort_of_pairwise (by decide +kernel)]
  rfl

/-- Under a cap of two the first event fails, the second is abandoned, the third is processed and ends the
drain, and the fourth is left. -/
theorem fourWaiting_accounted :
    ∃ report after batch attempts, drain { maxRetry := 2 } {} fourWaiting = .ok report after
      ∧ Accounts { maxRetry := 2 } {} fourWaiting after report batch attempts
      ∧ report.failed = [.numbered 14 1, .numbered 14 2] ∧ report.abandoned = [.numbered 14 2]
      ∧ report.processed = [.numbered 14 3] ∧ report.cancelled = true
      ∧ pendingCountIn after.store = 2 := by
  have settled : fourWaiting.Settled := ⟨rfl, rfl, by decide +kernel⟩
  obtain ⟨report, after, batch, attempts, ran, _, accounts⟩ :=
    @drain_accounts_for_every_event { maxRetry := 2 } {} fourWaiting settled undisturbed_fourWaiting
  have reads := @Transaction.read_of_settled _ (pendingIn 100 2) fourWaiting settled rfl
  have told : ∃ report after, relayAll { maxRetry := 2 } {} fourWaiting.store.events
      { selected := 4 } { fourWaiting with opened := true } = .ok report after
        ∧ report.failed = [.numbered 14 1, .numbered 14 2] ∧ report.abandoned = [.numbered 14 2]
        ∧ report.processed = [.numbered 14 3] ∧ report.cancelled = true := by decide +kernel
  obtain ⟨_, _, relayed, failed, abandoned, processed, cancelled⟩ := told
  -- The report is the one that relaying the batch gives; the flush after it sends the rows.
  have whole := ran
  rw [drain, pending, bind_of_ok reads, pendingIn_fourWaiting, drainBatch,
    if_neg (by decide)] at whole
  obtain ⟨_, _, relays, rest⟩ := bind_eq_ok.mp whole
  cases relays.symm.trans relayed
  obtain ⟨_, _, _, ends⟩ := bind_eq_ok.mp rest
  cases ends
  have four : pendingCountIn fourWaiting.store = 4 := by decide +kernel
  have count := accounts.count
  rw [processed, abandoned, four] at count
  exact ⟨_, _, batch, attempts, ran, accounts, failed, abandoned, processed, cancelled,
    Nat.add_right_cancel (Nat.add_right_cancel count)⟩

/-- One event waits for a user, and the groupware refuses everybody. -/
def onlyChance : Session where
  surroundings := { clock := default, groupware := fun _ _ => .refusal }
  store := { events := [Order.event { kind := .add, team := .numbered 5 1, user := .numbered 1 1 }
    (.numbered 14 1) default] }

/-- **An event that is abandoned is pending no more either**: under a cap of one the drain processes nothing,
and yet one event is pending less. -/
theorem abandoned_event_lowers_pending_count :
    onlyChance.Settled ∧ onlyChance.surroundings.Undisturbed false
      ∧ ∃ report after, drain { maxRetry := 1 } {} onlyChance = .ok report after
        ∧ report.processed = [] ∧ report.abandoned = [.numbered 14 1]
        ∧ pendingCountIn after.store + report.processed.length ≠ pendingCountIn onlyChance.store := by
  refine ⟨⟨rfl, rfl, by decide +kernel⟩, ⟨rfl, fun earlier request failure refused => ?_,
    fun heeded => absurd heeded Bool.false_ne_true⟩, by decide +kernel⟩
  cases refused
  rfl

end Roster.Outbox
