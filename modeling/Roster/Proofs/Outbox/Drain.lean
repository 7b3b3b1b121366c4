/-
**What a drain does.**

A drain makes one attempt for each event of its batch, in order, until it is told to stop. Each attempt
asks the groupware once and leaves the event delivered or failed; what became of the events is staged
and goes out at the end.

* `Attempt` — one attempt; `Attempt.outcome` — the event after it; `Attempt.calls` — what it asked for.
* `Surroundings.Asked` — the requests made between two moments.
* `relayAll_relayed` — **what relaying a batch does, whichever way it ends**.
* `DrainReport.Tells` — what a report says about the attempts; `Returned` — what a drain has done, on any
  store; `Drained` — what it leaves behind if the store keeps its rules.
* `drain_returned`, `drain_ok`, `drain_error` — a whole drain.
-/

import Roster.Proofs.Outbox.Lifecycle
import Roster.Proofs.Session.Flush

namespace Roster

open EStateM (Result)

/-! ### Requests -/

/-- The reply that refuses a request. -/
def Reply.refusal : Reply where
  failure := some (.reported (.ordinary { text := "RuntimeError" }) "down")

/-- **Between two moments these requests were made**, each granted or not; apart from that identifiers
were at most issued, and no outage came up. -/
structure Surroundings.Asked (calls : List (Request × Bool)) (before after : Surroundings) : Prop where
  requests : after.requests = before.requests ++ calls
  groupware : after.groupware = before.groupware
  issued : before.issued.Ascends after.issued
  up : before.IsUp → after.IsUp

namespace Surroundings

variable {before middle after : Surroundings} {calls more : List (Request × Bool)}

theorem Calm.asked (calm : before.Calm after) : before.Asked [] after :=
  ⟨calm.requests.trans (List.append_nil _).symm, calm.groupware, calm.issued, calm.up⟩

theorem Asked.trans (first : before.Asked calls middle) (second : middle.Asked more after) :
    before.Asked (calls ++ more) after :=
  ⟨by rw [second.requests, first.requests, List.append_assoc],
    second.groupware.trans first.groupware, trans_of _ first.issued second.issued,
    fun up => second.up (first.up up)⟩

theorem Asked.trans_calm (first : before.Asked calls middle) (second : middle.Calm after) :
    before.Asked calls after := by
  have both := first.trans second.asked
  rw [List.append_nil] at both
  exact both

end Surroundings

namespace Act

theorem keeps_wait (delay : Except TimeError Span) : Keeps Surroundings.Calm (wait delay) := by
  refine Keeps.bind keeps_readClock fun _ => Keeps.bind (keeps_inTime _) fun _ =>
    Keeps.bind (keeps_inTime _) fun _ => ?_
  exact Keeps.modify fun now => ⟨rfl, rfl, refl_of _ now.issued, id⟩

theorem keeps_takeReply (reply : Reply) : Keeps Surroundings.Calm (takeReply reply) := by
  refine Keeps.bind (Keeps.forM keeps_note _) fun _ => Keeps.bind (keeps_wait _) fun _ => ?_
  have stops : Keeps Surroundings.Calm cancel := Keeps.modify fun now =>
    ⟨rfl, rfl, refl_of _ now.issued, id⟩
  cases reply.failure with
  | some failure => exact Keeps.ite (Keeps.bind stops fun _ => Keeps.throw failure) (Keeps.throw failure)
  | none => exact Keeps.ite (Keeps.bind stops fun _ => Keeps.pure ()) (Keeps.pure ())

/-- A request is made by taking the reply to it, and remembered with what came of that. -/
theorem ask_apply (request : Request) (now : Surroundings) :
    ask request now = match takeReply (now.groupware (now.requests.map (·.1)) request) now with
      | .ok _ after => .ok () { after with requests := after.requests ++ [(request, true)] }
      | .error failure after =>
        .error failure { after with requests := after.requests ++ [(request, false)] } := by
  refine (bind_of_ok (get_apply now)).trans ((tryCatch_apply _ _ _).trans ?_)
  rw [bind_apply]
  cases takeReply (now.groupware (now.requests.map (·.1)) request) now <;> rfl

/-- **A request is made once**, granted if the action returns and refused if it fails. -/
theorem ask_cases (request : Request) (now : Surroundings) :
    ∃ after, (ask request now = .ok () after ∧ now.Asked [(request, true)] after)
      ∨ ∃ failure, ask request now = .error failure after ∧ now.Asked [(request, false)] after := by
  have took := keeps_takeReply (now.groupware (now.requests.map (·.1)) request) now
  rw [ask_apply]
  cases ran : takeReply (now.groupware (now.requests.map (·.1)) request) now with
  | ok _ after =>
    rw [ran] at took
    exact ⟨{ after with requests := after.requests ++ [(request, true)] }, .inl ⟨rfl,
      by rw [← took.requests]; rfl, took.groupware, took.issued, took.up⟩⟩
  | error failure after =>
    rw [ran] at took
    exact ⟨{ after with requests := after.requests ++ [(request, false)] }, .inr ⟨failure, rfl,
      by rw [← took.requests]; rfl, took.groupware, took.issued, took.up⟩⟩

end Act

/-! ### Attempts -/

namespace Outbox

/-- One attempt to relay an event, when it was made, and the failure that came of it, if one did. -/
structure Attempt where
  event : OutboxEvent
  moment : Instant
  failure : Option Failure

namespace Attempt

/-- The event after an attempt. -/
def outcome (policy : Policy) (attempt : Attempt) : OutboxEvent :=
  match attempt.failure with
  | none => delivered attempt.event attempt.moment
  | some failure => failed policy attempt.event failure attempt.moment

/-- The request that an attempt made, with whether it was granted. -/
def calls (attempt : Attempt) : List (Request × Bool) :=
  match attempt.event.kind with
  | .add => [(⟨.granted, attempt.event.team, attempt.event.user⟩, attempt.failure.isNone)]
  | .remove => [(⟨.revoked, attempt.event.team, attempt.event.user⟩, attempt.failure.isNone)]
  | .other _ => []

/-- **Nothing is granted unasked**: an attempt that did not fail made a request. -/
def IsHonest (attempt : Attempt) : Prop := attempt.failure = none → attempt.calls ≠ []

@[simp] theorem outcome_id (policy : Policy) (attempt : Attempt) :
    (attempt.outcome policy).id = attempt.event.id := by
  unfold outcome
  cases attempt.failure <;> rfl

/-- **An attempt at a pending event is an attempt** in the sense of the life of events. -/
theorem attempted {policy : Policy} {attempt : Attempt} (pending : attempt.event.isPending = true) :
    Attempted attempt.event (attempt.outcome policy) := by
  unfold outcome
  cases attempt.failure with
  | none => exact .delivered attempt.moment pending
  | some failure => exact .failed policy failure attempt.moment pending

/-- **After an attempt an event is pending only if it failed**, once more, and below the cap still. -/
theorem retryCount_of_pending {policy : Policy} {attempt : Attempt}
    (pending : (attempt.outcome policy).isPending = true) :
    (attempt.outcome policy).retryCount = attempt.event.retryCount + 1
      ∧ (attempt.outcome policy).retryCount < policy.maxRetry := by
  unfold outcome at pending ⊢
  cases failure : attempt.failure with
  | none =>
    rw [failure] at pending
    cases pending
  | some failed =>
    rw [failure] at pending
    refine ⟨rfl, ?_⟩
    by_contra reached
    have last : policy.maxRetry ≤ attempt.event.retryCount + 1 := Int.not_lt.mp reached
    have unabandoned := (OutboxEvent.isPending_iff.mp pending).2
    simp [Outbox.failed, last] at unabandoned

end Attempt

/-- A report after one more attempt. -/
def DrainReport.add (policy : Policy) (report : DrainReport) (attempt : Attempt) : DrainReport :=
  match attempt.failure with
  | none => { report with processed := report.processed ++ [attempt.event.id] }
  | some _ => { report with
      failed := report.failed ++ [attempt.event.id]
      abandoned :=
        if policy.maxRetry ≤ attempt.event.retryCount + 1 then report.abandoned ++ [attempt.event.id]
        else report.abandoned }

/-- Dispatching an event makes the request of its attempt. -/
theorem dispatch_cases (event : OutboxEvent) (moment : Instant) (now : Surroundings) :
    ∃ after, (dispatch event now = .ok () after ∧ now.Asked (Attempt.calls ⟨event, moment, none⟩) after)
      ∨ ∃ failure, dispatch event now = .error failure after
        ∧ now.Asked (Attempt.calls ⟨event, moment, some failure⟩) after := by
  unfold dispatch Attempt.calls
  dsimp only
  cases event.kind with
  | add => exact Act.ask_cases ⟨.granted, event.team, event.user⟩ now
  | remove => exact Act.ask_cases ⟨.revoked, event.team, event.user⟩ now
  | other label => exact ⟨now, .inr ⟨_, rfl, (refl_of Surroundings.Calm now).asked⟩⟩

/-- Only what asks for something that can be relayed is dispatched without a failure. -/
theorem calls_ne_nil_of_dispatch {event : OutboxEvent} {now after : Surroundings}
    (ran : dispatch event now = .ok () after) (moment : Instant) (failure : Option Failure) :
    Attempt.calls ⟨event, moment, failure⟩ ≠ [] := by
  unfold dispatch at ran
  unfold Attempt.calls
  dsimp only
  cases kind : event.kind with
  | add => exact List.cons_ne_nil _ _
  | remove => exact List.cons_ne_nil _ _
  | other label =>
    rw [kind] at ran
    cases ran

/-- The attempt that is made at an event at some moment: what came of it is what came of dispatching the
event. -/
def attemptAt (event : OutboxEvent) (moment : Instant) (now : Surroundings) : Attempt :=
  ⟨event, moment, failureOf (dispatch event now)⟩

theorem noteFailure_eq_note (policy : Policy) (event : OutboxEvent) (error : String) :
    ∃ notice, noteFailure policy event error = Act.note notice := by
  unfold noteFailure
  split
  · exact ⟨_, rfl⟩
  · exact ⟨_, rfl⟩

/-- **One event is relayed**: it is attempted, and only the request to stop at once passes through. Nothing
else is done to the surroundings than to dispatch the event and to note what came of it. -/
theorem relay_cases (policy : Policy) (event : OutboxEvent) (moment : Instant) (report : DrainReport)
    (session : Session) :
    ∃ attempt now, attempt = attemptAt event moment session.surroundings ∧ attempt.IsHonest
      ∧ session.surroundings.Asked attempt.calls now
      ∧ now = { endOf (dispatch event session.surroundings) with journal := now.journal }
      ∧ (relay policy event moment report session = .ok (report.add policy attempt) { session with
            surroundings := now
            staged := session.staged ++ [.change (.event (attempt.outcome policy))] }
        ∨ ∃ failure, failure.isInterrupt = true
          ∧ dispatch event session.surroundings = .error failure now
          ∧ relay policy event moment report session
            = .error failure { session with surroundings := now }) := by
  unfold attemptAt
  obtain ⟨after, ⟨granted, asked⟩ | ⟨failure, refused, asked⟩⟩ :=
    dispatch_cases event moment session.surroundings
  · refine ⟨⟨event, moment, none⟩, after, by rw [granted]; rfl,
      fun _ => calls_ne_nil_of_dispatch granted _ _, asked, by rw [granted]; rfl, .inl ?_⟩
    have attempted : (Transaction.act (dispatch event)).attempt session
        = .ok (.ok ()) { session with surroundings := after } := by
      unfold Transaction.attempt
      rw [Transaction.act_of_ok granted]
    exact bind_of_ok attempted
  · have attempted : (Transaction.act (dispatch event)).attempt session
        = .ok (.error failure) { session with surroundings := after } := by
      unfold Transaction.attempt Transaction.act
      rw [refused]
    by_cases interrupt : failure.isInterrupt = true
    · refine ⟨⟨event, moment, some failure⟩, after, by rw [refused]; rfl, nofun, asked,
        by rw [refused]; rfl, .inr ⟨failure, interrupt, refused, ?_⟩⟩
      refine (bind_of_ok attempted).trans ?_
      dsimp only
      rw [if_pos interrupt]
      rfl
    · obtain ⟨notice, notes⟩ := noteFailure_eq_note policy (failed policy event failure moment)
        (errorText failure policy.errorLength)
      refine ⟨⟨event, moment, some failure⟩, { after with journal := after.journal ++ [notice] },
        by rw [refused]; rfl, nofun, asked.trans_calm (after.calm_journal _), by rw [refused]; rfl,
        .inl ?_⟩
      refine (bind_of_ok attempted).trans ?_
      dsimp only
      rw [if_neg interrupt, notes]
      rfl

/-- **What relaying a batch does, whichever way it ends**: it goes through the batch, it is told to
stop on the way, or a request to stop at once passes through. -/
inductive Relayed (policy : Policy) (batch : List OutboxEvent) (report : DrainReport)
    (session : Session) : Result Failure Session DrainReport → Prop where
  | finished (attempts : List Attempt) (now : Surroundings) (all : attempts.map Attempt.event = batch)
      (honest : ∀ attempt ∈ attempts, attempt.IsHonest)
      (asked : session.surroundings.Asked (attempts.flatMap Attempt.calls) now) :
      Relayed policy batch report session (.ok (attempts.foldl (DrainReport.add policy) report)
        { session with
          surroundings := now
          staged := session.staged ++ eventChanges (attempts.map (Attempt.outcome policy)) })
  | cancelled (attempts : List Attempt) (now : Surroundings)
      (some : attempts.map Attempt.event <+: batch) (fewer : attempts.length < batch.length)
      (honest : ∀ attempt ∈ attempts, attempt.IsHonest)
      (asked : session.surroundings.Asked (attempts.flatMap Attempt.calls) now) :
      Relayed policy batch report session (.ok
        { attempts.foldl (DrainReport.add policy) report with cancelled := true }
        { session with
          surroundings := now
          staged := session.staged ++ eventChanges (attempts.map (Attempt.outcome policy)) })
  | interrupted (attempts : List Attempt) (failure : Failure) (after : Session)
      (some : attempts.map Attempt.event <+: batch) (interrupt : failure.isInterrupt = true)
      (asked : session.surroundings.Asked (attempts.flatMap Attempt.calls) after.surroundings) :
      Relayed policy batch report session (.error failure after)

/-- A batch is relayed one event first. -/
theorem Relayed.cons {policy : Policy} {attempt : Attempt} {rest : List OutboxEvent}
    {report : DrainReport} {session : Session} {now : Surroundings}
    {result : Result Failure Session DrainReport} (honest : attempt.IsHonest)
    (asked : session.surroundings.Asked attempt.calls now)
    (later : Relayed policy rest (report.add policy attempt) { session with
      surroundings := now
      staged := session.staged ++ [.change (.event (attempt.outcome policy))] } result) :
    Relayed policy (attempt.event :: rest) report session result := by
  cases later with
  | finished attempts final all each more =>
    have whole := @Relayed.finished policy _ report session (attempt :: attempts) final
      (congrArg (attempt.event :: ·) all) (List.forall_mem_cons.mpr ⟨honest, each⟩) (asked.trans more)
    simpa [eventChanges] using whole
  | cancelled attempts final some fewer each more =>
    have whole := @Relayed.cancelled policy _ report session (attempt :: attempts) final
      ((List.prefix_cons_inj attempt.event).mpr some) (Nat.succ_lt_succ fewer)
      (List.forall_mem_cons.mpr ⟨honest, each⟩) (asked.trans more)
    simpa [eventChanges] using whole
  | interrupted attempts failure after some interrupt more =>
    exact .interrupted (attempt :: attempts) failure after
      ((List.prefix_cons_inj attempt.event).mpr some) interrupt (asked.trans more)

/-- The next event of a batch is relayed unless the signal to stop is heeded. -/
theorem relayAll_cons (policy : Policy) (mode : DrainMode) (event : OutboxEvent)
    (rest : List OutboxEvent) (report : DrainReport) (session : Session) :
    relayAll policy mode (event :: rest) report session =
      if (mode.heedsCancel && session.surroundings.cancelled) = true then
        .ok { report with cancelled := true } { session with surroundings := { session.surroundings with
          journal := session.surroundings.journal
            ++ [.drainCancelled report.processed.length report.failed.length
              (report.selected - report.processed.length - report.failed.length)] } }
      else match relay policy event (mode.now.getD session.surroundings.clock) report session with
        | .ok later after => relayAll policy mode rest later after
        | .error failure after => .error failure after := by
  rw [relayAll]
  have reads : Transaction.act Act.isCancelled session
      = .ok session.surroundings.cancelled session := rfl
  refine (bind_of_ok reads).trans ?_
  by_cases stopped : (mode.heedsCancel && session.surroundings.cancelled) = true
  · rw [if_pos stopped, if_pos stopped]
    rfl
  · rw [if_neg stopped, if_neg stopped]
    refine (bind_of_ok (Transaction.act_readClock session)).trans ((bind_apply _ _ _).trans ?_)
    cases relay policy event (mode.now.getD session.surroundings.clock) report session <;> rfl

/-- **Relaying a batch attempts its events in order.** -/
theorem relayAll_relayed (policy : Policy) (mode : DrainMode) (batch : List OutboxEvent)
    (report : DrainReport) (session : Session) :
    Relayed policy batch report session (relayAll policy mode batch report session) := by
  induction batch generalizing report session with
  | nil =>
    have whole := @Relayed.finished policy _ report session [] session.surroundings rfl
      (List.forall_mem_nil _) (refl_of Surroundings.Calm session.surroundings).asked
    simpa [relayAll, eventChanges] using whole
  | cons event rest ih =>
    rw [relayAll_cons]
    by_cases stopped : (mode.heedsCancel && session.surroundings.cancelled) = true
    · rw [if_pos stopped]
      have whole := fun journal => @Relayed.cancelled policy (event :: rest) report session [] _
        List.nil_prefix (Nat.zero_lt_succ _) (List.forall_mem_nil _)
        (session.surroundings.calm_journal journal).asked
      simpa [eventChanges] using whole _
    · rw [if_neg stopped]
      obtain ⟨attempt, now, made, honest, asked, _, relays | ⟨failure, interrupt, _, relays⟩⟩ :=
        relay_cases policy event (mode.now.getD session.surroundings.clock) report session
      all_goals obtain rfl : attempt.event = event := made ▸ rfl
      · rw [relays]
        exact Relayed.cons honest asked (ih _ _)
      · rw [relays]
        refine .interrupted [attempt] failure _ ?_ interrupt ?_
        · exact (List.prefix_cons_inj attempt.event).mpr List.nil_prefix
        · simpa using asked

/-! ### Batches -/

/-- A batch to relay: different pending events of the store. -/
structure IsBatch (store : Store) (batch : List OutboxEvent) : Prop where
  inside : ∀ event ∈ batch, event ∈ store.events
  pending : ∀ event ∈ batch, event.isPending = true
  ids : (batch.map OutboxEvent.id).Nodup

/-- Every event of a batch is pending and failed less often than the cap allows. -/
theorem of_mem_pendingIn {store : Store} {size : Nat} {cap : Int} {event : OutboxEvent}
    (member : event ∈ pendingIn size cap store) :
    event ∈ store.events ∧ event.isPending = true ∧ event.retryCount < cap := by
  have selected := List.mem_mergeSort.mp (List.mem_of_mem_take member)
  obtain ⟨inside, eligible⟩ := List.mem_filter.mp selected
  exact ⟨inside, of_decide_eq_true eligible⟩

/-- **A batch that may hold all pending events** holds all those below the cap. -/
theorem mem_pendingIn_iff {store : Store} {size : Nat} {cap : Int} {event : OutboxEvent}
    (large : pendingCountIn store ≤ size) : event ∈ pendingIn size cap store ↔
      event ∈ store.events ∧ event.isPending = true ∧ event.retryCount < cap := by
  refine ⟨of_mem_pendingIn, fun ⟨inside, eligible⟩ => ?_⟩
  have few : (store.events.filter fun event => event.isPending ∧ event.retryCount < cap).length
      ≤ size := by
    refine Nat.le_trans (List.Sublist.length_le ?_) large
    refine List.monotone_filter_right store.events fun event both => ?_
    exact (of_decide_eq_true both).1
  rw [pendingIn, List.take_of_length_le (by rwa [List.length_mergeSort])]
  exact List.mem_mergeSort.mpr (List.mem_filter.mpr ⟨inside, decide_eq_true eligible⟩)

/-- **If every pending event is below the cap**, only the size of the batch limits it. -/
theorem length_pendingIn {store : Store} {size : Nat} {cap : Int}
    (below : ∀ event ∈ store.events, event.isPending = true → event.retryCount < cap) :
    (pendingIn size cap store).length = min size (pendingCountIn store) := by
  have same : (store.events.filter fun event => event.isPending ∧ event.retryCount < cap)
      = store.events.filter OutboxEvent.isPending := by
    refine List.filter_congr fun event member => ?_
    by_cases pending : event.isPending = true
    · simp [pending, below event member pending]
    · simp [pending]
  rw [pendingIn, List.length_take, List.length_mergeSort, same, pendingCountIn]

theorem isBatch_pendingIn {store : Store} (valid : store.Valid) (size : Nat) (cap : Int) :
    IsBatch store (pendingIn size cap store) := by
  refine ⟨fun event member => (of_mem_pendingIn member).1,
    fun event member => (of_mem_pendingIn member).2.1, ?_⟩
  refine List.Nodup.sublist ((List.take_sublist _ _).map OutboxEvent.id) ?_
  rw [((List.mergeSort_perm _ _).map OutboxEvent.id).nodup_iff]
  exact valid.eventIds.sublist (List.filter_sublist.map OutboxEvent.id)

theorem IsBatch.of_first {store : Store} {batch first : List OutboxEvent} (whole : IsBatch store batch)
    (some : first <+: batch) : IsBatch store first :=
  ⟨fun event member => whole.inside event (some.subset member),
    fun event member => whole.pending event (some.subset member),
    whole.ids.sublist (some.sublist.map OutboxEvent.id)⟩

/-- The events of a store after some attempts. -/
def attemptedAll (policy : Policy) (attempts : List Attempt) (events : List OutboxEvent) :
    List OutboxEvent :=
  Store.updated OutboxEvent.id (attempts.map (Attempt.outcome policy)) events

section Attempts

variable {store : Store} {policy : Policy} {attempts : List Attempt}

theorem map_id_outcome :
    (attempts.map (Attempt.outcome policy)).map OutboxEvent.id
      = (attempts.map Attempt.event).map OutboxEvent.id := by
  rw [List.map_map, List.map_map]
  exact List.map_congr_left fun attempt _ => Attempt.outcome_id policy attempt

variable (valid : store.Valid) (batch : IsBatch store (attempts.map Attempt.event))

include valid batch

/-- **Every attempt leaves a trace that is sent.** -/
theorem alteredColumns_outcome {change : OutboxEvent}
    (member : change ∈ attempts.map (Attempt.outcome policy)) :
    store.alteredColumns (.event change) ≠ [] := by
  obtain ⟨attempt, made, rfl⟩ := List.mem_map.mp member
  have inside := batch.inside _ (List.mem_map_of_mem made)
  have pending := batch.pending _ (List.mem_map_of_mem made)
  refine Store.alteredColumns_event_ne_nil valid.eventIds inside (Attempt.outcome_id policy attempt) ?_
  unfold Attempt.outcome
  cases attempt.failure with
  | none =>
    refine .inl ⟨?_, rfl⟩
    rw [(OutboxEvent.isPending_iff.mp pending).1]
    rfl
  | some failure => exact .inr (by simp only [failed]; omega)

/-- **No attempt touches a key**, and none makes an event pending. -/
theorem keepsKey_outcome {change : OutboxEvent}
    (member : change ∈ attempts.map (Attempt.outcome policy)) : store.KeepsKey change := by
  obtain ⟨attempt, made, rfl⟩ := List.mem_map.mp member
  have chosen : attempt.event ∈ attempts.map Attempt.event := List.mem_map_of_mem made
  intro event inside same
  obtain rfl : event = attempt.event := Store.eq_of_id_eq valid.eventIds inside
    (batch.inside _ chosen) (same.trans (Attempt.outcome_id policy attempt))
  have pending := batch.pending _ chosen
  exact ⟨(Attempt.attempted pending).key_eq, fun _ => pending⟩

/-- What replaces an event is the outcome of the attempt at it. -/
theorem eq_outcome_of_find? {event change : OutboxEvent} (member : event ∈ store.events)
    (found : (attempts.map (Attempt.outcome policy)).find? (fun other => other.id = event.id)
      = some change) :
    ∃ attempt ∈ attempts, attempt.event = event ∧ attempt.outcome policy = change := by
  obtain ⟨attempt, made, rfl⟩ := List.mem_map.mp (List.mem_of_find?_eq_some found)
  have same : attempt.event.id = event.id := by simpa using List.find?_some found
  exact ⟨attempt, made, Store.eq_of_id_eq valid.eventIds
    (batch.inside _ (List.mem_map_of_mem made)) member same, rfl⟩

/-- **After some attempts each event is untouched or attempted.** -/
theorem attemptedAll_eq_map :
    ∃ change : OutboxEvent → OutboxEvent, attemptedAll policy attempts store.events
        = store.events.map change
      ∧ (∀ event ∈ store.events, Attempted event (change event))
      ∧ (∀ attempt ∈ attempts, change attempt.event = attempt.outcome policy)
      ∧ ∀ event ∈ store.events, event ∉ attempts.map Attempt.event → change event = event := by
  refine ⟨_, rfl, fun event member => ?_, fun attempt made => ?_, fun event member other => ?_⟩
  · cases found : (attempts.map (Attempt.outcome policy)).find? fun other => other.id = event.id with
    | none => exact .untouched
    | some change =>
      obtain ⟨attempt, made, rfl, rfl⟩ := eq_outcome_of_find? valid batch member found
      exact Attempt.attempted (batch.pending _ (List.mem_map_of_mem made))
  · have ids : ((attempts.map (Attempt.outcome policy)).map OutboxEvent.id).Nodup := by
      rw [map_id_outcome]
      exact batch.ids
    have found := Store.find?_of_nodup ids (List.mem_map_of_mem made)
    rw [Attempt.outcome_id] at found
    rw [found]
    rfl
  · cases found : (attempts.map (Attempt.outcome policy)).find? fun other => other.id = event.id with
    | none => rfl
    | some change =>
      obtain ⟨attempt, made, rfl, _⟩ := eq_outcome_of_find? valid batch member found
      exact absurd (List.mem_map_of_mem made) other

end Attempts

/-! ### Drains -/

/-- **The report of a drain tells** how large its batch was, which attempts were granted and which failed, and
whether it was cancelled before the end of the batch. -/
structure DrainReport.Tells (report : DrainReport) (batch : List OutboxEvent) (attempts : List Attempt) :
    Prop where
  selected : report.selected = batch.length
  processed : report.processed
    = (attempts.filter fun attempt => attempt.failure.isNone).map fun attempt => attempt.event.id
  failed : report.failed
    = (attempts.filter fun attempt => attempt.failure.isSome).map fun attempt => attempt.event.id
  cancelled : report.cancelled = true ↔ attempts.length < batch.length

/-- Attempts add their events to a report, by what came of them. -/
theorem foldl_add (policy : Policy) (attempts : List Attempt) (report : DrainReport) :
    let later := attempts.foldl (DrainReport.add policy) report
    later.selected = report.selected ∧ later.cancelled = report.cancelled
      ∧ later.processed = report.processed
        ++ (attempts.filter fun attempt => attempt.failure.isNone).map (fun attempt => attempt.event.id)
      ∧ later.failed = report.failed
        ++ (attempts.filter fun attempt => attempt.failure.isSome).map fun attempt => attempt.event.id := by
  induction attempts generalizing report with
  | nil => simp
  | cons attempt rest ih =>
    obtain ⟨selected, cancelled, processed, failed⟩ := ih (report.add policy attempt)
    rw [List.foldl_cons]
    refine ⟨selected.trans ?_, cancelled.trans ?_, processed.trans ?_, failed.trans ?_⟩
    all_goals cases failure : attempt.failure <;> simp [DrainReport.add, failure]

theorem DrainReport.Tells.mem_iff {report : DrainReport} {batch : List OutboxEvent}
    {attempts : List Attempt} (tells : report.Tells batch attempts) {id : Uuid} :
    id ∈ report.processed ++ report.failed ↔ ∃ attempt ∈ attempts, attempt.event.id = id := by
  rw [tells.processed, tells.failed]
  simp only [List.mem_append, List.mem_map, List.mem_filter]
  constructor
  · rintro (⟨attempt, ⟨made, _⟩, same⟩ | ⟨attempt, ⟨made, _⟩, same⟩)
    · exact ⟨attempt, made, same⟩
    · exact ⟨attempt, made, same⟩
  · rintro ⟨attempt, made, same⟩
    cases failure : attempt.failure with
    | none => exact .inl ⟨attempt, ⟨made, by simp [failure]⟩, same⟩
    | some failed => exact .inr ⟨attempt, ⟨made, by simp [failure]⟩, same⟩

variable {policy : Policy} {mode : DrainMode}

/-- **What was staged by some attempts** goes out with a flush. -/
theorem flush_attempts_ok {attempts : List Attempt} {session after : Session}
    (ran : Transaction.flush session = .ok () after) (valid : session.store.Valid)
    (batch : IsBatch session.store (attempts.map Attempt.event))
    (staged : session.staged = eventChanges (attempts.map (Attempt.outcome policy))) :
    after.Settled ∧ after.store = { session.store with
      events := attemptedAll policy attempts session.store.events } := by
  refine Transaction.flush_eventChanges_ok staged ?_
    (fun change member => alteredColumns_outcome valid batch member) valid ran
  rw [map_id_outcome]
  exact batch.ids

/-- A batch that was relayed, to its end or not, left its attempts staged. -/
theorem Relayed.of_ok {batch : List OutboxEvent} {later : DrainReport} {session after : Session}
    (relayed : Relayed policy batch { selected := batch.length } session (.ok later after)) :
    ∃ attempts : List Attempt, ∃ now, attempts.map Attempt.event <+: batch ∧ later.Tells batch attempts
      ∧ (∀ attempt ∈ attempts, attempt.IsHonest)
      ∧ session.surroundings.Asked (attempts.flatMap Attempt.calls) now
      ∧ after = { session with
        surroundings := now
        staged := session.staged ++ eventChanges (attempts.map (Attempt.outcome policy)) } := by
  cases relayed with
  | finished attempts now all honest asked =>
    obtain ⟨selected, cancelled, processed, failed⟩ := foldl_add policy attempts
      { selected := batch.length }
    have length : attempts.length = batch.length := by rw [← all, List.length_map]
    refine ⟨attempts, now, all ▸ List.prefix_rfl, ⟨selected, processed, failed, ?_⟩, honest, asked, rfl⟩
    rw [cancelled, length]
    simp
  | cancelled attempts now some fewer honest asked =>
    obtain ⟨selected, _, processed, failed⟩ := foldl_add policy attempts { selected := batch.length }
    exact ⟨attempts, now, some, ⟨selected, processed, failed, iff_of_true rfl fewer⟩, honest, asked,
      rfl⟩

/-- **A drain of a batch returned after these attempts**, on any store: they are the first of the batch, the
report tells them, and what became of them was sent. -/
structure Returned (policy : Policy) (batch : List OutboxEvent) (session after : Session)
    (report : DrainReport) (attempts : List Attempt) : Prop where
  ready : after.Ready
  first : attempts.map Attempt.event <+: batch
  tells : report.Tells batch attempts
  honest : ∀ attempt ∈ attempts, attempt.IsHonest
  asked : session.surroundings.Asked (attempts.flatMap Attempt.calls) after.surroundings
  sent : ∃ staging final : Session, staging.store = session.store
    ∧ staging.staged = eventChanges (attempts.map (Attempt.outcome policy))
    ∧ Transaction.flush staging = .ok () final ∧ after.store = final.store

/-- **A drain of a batch returned after these attempts**: they are the first of the batch, the report tells
them, and nothing changed in the store but the events that were attempted. -/
structure Drained (policy : Policy) (batch : List OutboxEvent) (session after : Session)
    (report : DrainReport) (attempts : List Attempt) : Prop where
  settled : after.Settled
  first : attempts.map Attempt.event <+: batch
  tells : report.Tells batch attempts
  asked : session.surroundings.Asked (attempts.flatMap Attempt.calls) after.surroundings
  store : after.store = { session.store with
    events := attemptedAll policy attempts session.store.events }

namespace Returned

variable {batch : List OutboxEvent} {session after : Session} {report : DrainReport}
  {attempts : List Attempt} (returned : Returned policy batch session after report attempts)

include returned

/-- **After a drain every event was there before or is the outcome of an attempt**, whatever the store. -/
theorem mem_events {event : OutboxEvent} (member : event ∈ after.store.events) :
    event ∈ session.store.events ∨ ∃ attempt ∈ attempts, attempt.outcome policy = event := by
  obtain ⟨staging, final, store, staged, flushes, same⟩ := returned.sent
  rw [same] at member
  rw [← store]
  exact (Transaction.mem_of_flush_eventChanges staged flushes member).imp_right List.mem_map.mp

/-- **An idle drain changes nothing.** -/
theorem store_eq_of_isIdle (idle : report.isIdle = true) : after.store = session.store := by
  obtain ⟨staging, final, store, staged, flushes, same⟩ := returned.sent
  have none : batch = [] := by
    rw [← List.length_eq_zero_iff, ← returned.tells.selected]
    exact beq_iff_eq.mp idle
  have unmade : attempts = [] := List.map_eq_nil_iff.mp (List.prefix_nil.mp (none ▸ returned.first))
  rw [unmade] at staged
  rw [Transaction.flush_of_ready ⟨staged, (Transaction.flush_eq_ok.mp flushes).1⟩] at flushes
  cases flushes
  rw [same, store]

/-- **On a store that keeps its rules** each attempt changes its own event and nothing else. -/
theorem drained (valid : session.store.Valid) (whole : IsBatch session.store batch) :
    Drained policy batch session after report attempts := by
  obtain ⟨staging, final, store, staged, flushes, same⟩ := returned.sent
  obtain ⟨settled, changed⟩ := flush_attempts_ok flushes (store ▸ valid)
    (store ▸ whole.of_first returned.first) staged
  exact ⟨returned.ready.settled (same ▸ settled.valid), returned.first, returned.tells, returned.asked,
    by rw [same, changed, store]⟩

end Returned

namespace Drained

variable {batch : List OutboxEvent} {session after : Session} {report : DrainReport}
  {attempts : List Attempt} (drained : Drained policy batch session after report attempts)

include drained

/-- **A drain that was not cancelled attempted its whole batch.** -/
theorem complete (uncancelled : report.cancelled = false) : attempts.map Attempt.event = batch := by
  refine drained.first.eq_of_length_le (Nat.le_of_not_lt fun fewer => ?_)
  rw [List.length_map] at fewer
  rw [drained.tells.cancelled.mpr fewer] at uncancelled
  cases uncancelled

variable (valid : session.store.Valid) (whole : IsBatch session.store batch)

include valid whole

/-- **After a drain each event is untouched or attempted.** -/
theorem exists_change :
    ∃ change : OutboxEvent → OutboxEvent, after.store.events = session.store.events.map change
      ∧ (∀ event ∈ session.store.events, Attempted event (change event))
      ∧ (∀ attempt ∈ attempts, change attempt.event = attempt.outcome policy)
      ∧ ∀ event ∈ session.store.events, event ∉ attempts.map Attempt.event → change event = event := by
  obtain ⟨change, changed, each⟩ :=
    @attemptedAll_eq_map _ policy _ valid (whole.of_first drained.first)
  refine ⟨change, ?_, each⟩
  rw [drained.store]
  exact changed

/-- **No event is lost**, and none is added. -/
theorem map_id : after.store.events.map OutboxEvent.id = session.store.events.map OutboxEvent.id := by
  obtain ⟨change, events, each, _⟩ := drained.exists_change valid whole
  rw [events, List.map_map]
  exact List.map_congr_left fun event member => (each event member).id_eq

/-- **Every event is attempted, as the report says, or stays as it is.** -/
theorem attempted_or_kept {event : OutboxEvent} (member : event ∈ session.store.events) :
    event.id ∈ report.processed ++ report.failed ∨ event ∈ after.store.events := by
  obtain ⟨change, events, _, _, untouched⟩ := drained.exists_change valid whole
  by_cases chosen : event ∈ attempts.map Attempt.event
  · obtain ⟨attempt, made, rfl⟩ := List.mem_map.mp chosen
    exact .inl (drained.tells.mem_iff.mpr ⟨attempt, made, rfl⟩)
  · rw [events]
    exact .inr (List.mem_map.mpr ⟨event, member, untouched event member chosen⟩)

/-- **An event that is pending after a drain** was there before as it is now, or it failed and is below the
cap still. -/
theorem of_pending {event : OutboxEvent} (member : event ∈ after.store.events)
    (pending : event.isPending = true) :
    event ∈ session.store.events ∨ event.retryCount < policy.maxRetry := by
  obtain ⟨change, events, _, outcomes, untouched⟩ := drained.exists_change valid whole
  rw [events] at member
  obtain ⟨before, was, rfl⟩ := List.mem_map.mp member
  by_cases chosen : before ∈ attempts.map Attempt.event
  · obtain ⟨attempt, made, rfl⟩ := List.mem_map.mp chosen
    rw [outcomes attempt made] at pending ⊢
    exact .inr (Attempt.retryCount_of_pending pending).2
  · rw [untouched before was chosen]
    exact .inl was

end Drained

/-- What became of the events of a batch goes out at the end. -/
theorem drainBatch_returned {batch : List OutboxEvent} {session after : Session} {report : DrainReport}
    (ready : session.Ready) (ran : drainBatch policy mode batch session = .ok report after) :
    ∃ attempts, Returned policy batch session after report attempts := by
  unfold drainBatch at ran
  by_cases idle : batch.isEmpty = true
  · rw [if_pos idle] at ran
    cases ran
    obtain rfl : batch = [] := List.isEmpty_iff.mp idle
    exact ⟨[], ⟨ready.staged, ready.sound⟩, List.nil_prefix, ⟨rfl, rfl, rfl, by simp⟩,
      List.forall_mem_nil _, (session.surroundings.calm_journal _).asked,
      session, session, rfl, ready.staged, Transaction.flush_of_ready ready, rfl⟩
  · rw [if_neg idle] at ran
    obtain ⟨relayedReport, relayedSession, relays, ran⟩ := bind_eq_ok.mp ran
    obtain ⟨_, flushed, flushes, ran⟩ := bind_eq_ok.mp ran
    cases ran
    have quiet : relayedSession.surroundings.Quiet flushed.surroundings :=
      Transaction.keeps_flush.of_ok flushes
    obtain ⟨attempts, now, some, tells, honest, asked, rfl⟩ :=
      (relays ▸ relayAll_relayed policy mode batch { selected := batch.length } session).of_ok
    have readyAfter := (Transaction.ready_of_flush flushes).1
    refine ⟨attempts, ⟨readyAfter.staged, readyAfter.sound⟩, some, tells, honest,
      (asked.trans_calm quiet.calm).trans_calm (flushed.surroundings.calm_journal _),
      _, flushed, ?_, ?_, flushes, rfl⟩
    · rfl
    · rw [ready.staged, List.nil_append]

/-- A drain that fails made some attempts nevertheless. -/
theorem drainBatch_error {batch : List OutboxEvent} {session after : Session} {failure : Failure}
    (ran : drainBatch policy mode batch session = .error failure after) :
    ∃ attempts : List Attempt, attempts.map Attempt.event <+: batch
      ∧ session.surroundings.Asked (attempts.flatMap Attempt.calls) after.surroundings := by
  unfold drainBatch at ran
  by_cases idle : batch.isEmpty = true
  · rw [if_pos idle] at ran
    cases ran
  · rw [if_neg idle, bind_apply] at ran
    have relayed := relayAll_relayed policy mode batch { selected := batch.length } session
    cases relays : relayAll policy mode batch { selected := batch.length } session with
    | error stopped middle =>
      rw [relays] at ran relayed
      cases ran
      cases relayed with
      | interrupted attempts failure after some interrupt asked => exact ⟨attempts, some, asked⟩
    | ok later middle =>
      rw [relays] at ran relayed
      obtain ⟨attempts, now, some, _, _, asked, rfl⟩ := relayed.of_ok
      refine ⟨attempts, some, asked.trans_calm ?_⟩
      have rest : Keeps Session.Calm (do
          Transaction.flush
          Act.note (.drained later.selected later.processed.length later.failed.length
            later.abandoned.length)
          return later : Transaction DrainReport) :=
        Keeps.bind Transaction.keeps_flush.calm fun _ =>
          Keeps.bind (Transaction.keeps_act (Act.keeps_note _)) fun _ => Keeps.pure later
      exact rest.of_error ran

/-- **A drain that returns** attempted the first events of its batch. -/
theorem drain_returned {session after : Session} {report : DrainReport} (ready : session.Ready)
    (ran : drain policy mode session = .ok report after) :
    ∃ attempts, Returned policy (pendingIn policy.batchSize policy.maxRetry session.store) session after
      report attempts := by
  obtain ⟨batch, asked, reads, ran⟩ := bind_eq_ok.mp ran
  have quiet : session.surroundings.Quiet asked.surroundings := (Transaction.keeps_read _).of_ok reads
  obtain ⟨readyAsked, store, rfl⟩ := Transaction.ready_of_read reads ready
  obtain ⟨attempts, returned⟩ := drainBatch_returned readyAsked ran
  refine ⟨attempts, returned.ready, returned.first, returned.tells, returned.honest,
    quiet.calm.asked.trans returned.asked, ?_⟩
  rw [← store]
  exact returned.sent

/-- **A drain that returns** attempted the first events of its batch, and nothing else changed. -/
theorem drain_ok {session after : Session} {report : DrainReport} (settled : session.Settled)
    (ran : drain policy mode session = .ok report after) :
    ∃ attempts, Drained policy (pendingIn policy.batchSize policy.maxRetry session.store) session after
      report attempts := by
  obtain ⟨attempts, returned⟩ := drain_returned settled.ready ran
  exact ⟨attempts, returned.drained settled.valid (isBatch_pendingIn settled.valid _ _)⟩

/-- **A drain that fails** may have attempted the first events of its batch all the same. -/
theorem drain_error {session after : Session} {failure : Failure} (ready : session.Ready)
    (ran : drain policy mode session = .error failure after) :
    ∃ attempts : List Attempt,
      attempts.map Attempt.event <+: pendingIn policy.batchSize policy.maxRetry session.store
        ∧ session.surroundings.Asked (attempts.flatMap Attempt.calls) after.surroundings := by
  have read := Transaction.keeps_read (pendingIn policy.batchSize policy.maxRetry) session
  rw [drain, pending, bind_apply] at ran
  cases reads : Transaction.read (pendingIn policy.batchSize policy.maxRetry) session with
  | error stopped asked =>
    rw [reads] at ran read
    cases ran
    exact ⟨[], List.nil_prefix, (Surroundings.Quiet.calm read).asked⟩
  | ok batch asked =>
    rw [reads] at ran read
    obtain ⟨_, _, rfl⟩ := Transaction.ready_of_read reads ready
    obtain ⟨attempts, some, calls⟩ := drainBatch_error ran
    exact ⟨attempts, some, (Surroundings.Quiet.calm read).asked.trans calls⟩

/-- **No drain takes back an identifier.** -/
theorem keeps_drain : Keeps Session.Ascends (drain policy mode) := by
  have relays : ∀ batch report, Keeps Session.Ascends (relayAll policy mode batch report) := by
    intro batch report session
    have relayed := relayAll_relayed policy mode batch report session
    generalize relayAll policy mode batch report session = result at relayed ⊢
    cases relayed with
    | finished attempts now all honest asked => exact asked.issued
    | cancelled attempts now some fewer honest asked => exact asked.issued
    | interrupted attempts failure after some interrupt asked => exact asked.issued
  have notes : ∀ notice, Keeps Session.Ascends (Transaction.act (Act.note notice)) := fun notice =>
    Keeps.ascends (Transaction.keeps_act (Act.keeps_note notice))
  refine Keeps.bind (Transaction.keeps_read _).calm.ascends fun batch => ?_
  refine Keeps.ite (Keeps.bind (notes _) fun _ => Keeps.pure _) ?_
  exact Keeps.bind (relays _ _) fun _ => Keeps.bind Transaction.keeps_flush.calm.ascends fun _ =>
    Keeps.bind (notes _) fun _ => Keeps.pure _

end Outbox

end Roster
