/-
**What relaying a batch leaves behind.**

The job drains one batch in a transaction of its own. Whatever the drain asked the groupware for stays
asked for; what became of the events is in the committed store, all of it or nothing.

* `relayEvents_apply` — the job is one transaction and at most one notice.
* `batchOf` — the events that a run takes; `Attempts` — what a run attempts.
* `relayEvents_error`, `relayEvents_ok` — what a run that failed and one that returned leave behind.
* `relayEvents_attempts` — **what the job does, whichever way it ends**.
-/

import Roster.Job.Work
import Roster.Proofs.Outbox.Drain
import Roster.Proofs.Session.Transact

namespace Roster.Job

open EStateM (Result)
open Outbox

/-- The transaction of the job: a drain, committed unless there was nothing to relay. -/
def relaying (policy : Policy) : Transaction (DrainReport × Ending) :=
  drain policy {} >>= fun report => pure (report, if report.isIdle then .discard else .keep)

/-- What is noted about the events that a drain gave up. -/
def attention (abandoned : List Uuid) : List Notice :=
  if abandoned.isEmpty then [] else [.needAttention abandoned]

/-- **The job is one transaction and at most one notice.** -/
theorem relayEvents_apply (settings : Settings) (world : World) :
    relayEvents settings world
      = match Application.transact (relaying settings.outbox.policy) world with
        | .ok report after => .ok report.summary { after with surroundings := { after.surroundings with
            journal := after.surroundings.journal ++ attention report.abandoned } }
        | .error failure after => .error failure after := by
  show (Application.transact (relaying settings.outbox.policy) >>= _) world = _
  rw [bind_apply]
  cases Application.transact (relaying settings.outbox.policy) world with
  | error failure after => rfl
  | ok report after =>
    unfold attention
    cases empty : report.abandoned.isEmpty with
    | true =>
      simp only [empty, Bool.not_true, Bool.false_eq_true, if_false, if_true, List.append_nil]
      rfl
    | false =>
      simp only [empty, Bool.not_false, Bool.false_eq_true, if_false, if_true]
      rfl

/-- The events that a run takes, in the order in which they are relayed. -/
def batchOf (settings : Settings) (store : Store) : List OutboxEvent :=
  pendingIn settings.outbox.policy.batchSize settings.outbox.policy.maxRetry store

/-- **What a run attempts**, whichever way it ends: the first events of its batch, and the groupware is asked
for nothing but what they ask for. -/
structure Attempts (settings : Settings) (world : World) (attempts : List Attempt) : Prop where
  first : attempts.map Attempt.event <+: batchOf settings world.store
  asked : world.surroundings.Asked (attempts.flatMap Attempt.calls)
    (endOf (relayEvents settings world)).surroundings

variable {settings : Settings} {world after : World}

/-- A session opened on the committed store has nothing to send. -/
theorem ready_session (world : World) : world.session.Ready := ⟨rfl, rfl⟩

theorem relaying_returned {policy : Policy} {report : DrainReport} {ending : Ending} {session : Session}
    (ran : relaying policy world.session = .ok (report, ending) session) :
    drain policy {} world.session = .ok report session
      ∧ (ending = .discard → report.isIdle = true)
      ∧ ∃ attempts, Returned policy (pendingIn policy.batchSize policy.maxRetry world.store) world.session
        session report attempts := by
  obtain ⟨_, _, drains, ends⟩ := bind_eq_ok.mp ran
  cases ends
  refine ⟨drains, fun discarded => ?_, drain_returned (ready_session world) drains⟩
  by_contra busy
  rw [if_neg busy] at discarded
  cases discarded

/-- **A run that fails leaves the store as it was**, whatever it asked for before. -/
theorem relayEvents_error {failure : Failure} (ran : relayEvents settings world = .error failure after) :
    after.store = world.store ∧ ∃ attempts, Attempts settings world attempts := by
  have ends : endOf (relayEvents settings world) = after := by rw [ran]; rfl
  rw [relayEvents_apply] at ran
  cases transacts : Application.transact (relaying settings.outbox.policy) world with
  | ok report final =>
    rw [transacts] at ran
    cases ran
  | error stopped final =>
    rw [transacts] at ran
    cases ran
    obtain ⟨same, ⟨session, breaks, surroundings⟩ | ⟨report, session, last, drains, commits,
      surroundings⟩⟩ := Application.transact_error transacts
    · obtain breaks | ⟨_, _, _, ⟨⟩⟩ := bind_eq_error.mp breaks
      obtain ⟨attempts, first, asked⟩ := drain_error (ready_session world) breaks
      rw [← surroundings] at asked
      exact ⟨same, attempts, first, ends ▸ asked⟩
    · obtain ⟨_, _, attempts, returned⟩ := relaying_returned drains
      have quiet : session.surroundings.Quiet last.surroundings :=
        Transaction.keeps_commit.of_error commits
      rw [← surroundings] at quiet
      exact ⟨same, attempts, returned.first, ends ▸ returned.asked.trans_calm quiet.calm⟩

/-- **A run that returns commits the outcome of its drain.** -/
theorem relayEvents_ok {result : Value} (ran : relayEvents settings world = .ok result after) :
    ∃ report session attempts, drain settings.outbox.policy {} world.session = .ok report session
      ∧ result = report.summary ∧ after.store = session.store ∧ Attempts settings world attempts
      ∧ Returned settings.outbox.policy (batchOf settings world.store) world.session session report
        attempts := by
  have ends : endOf (relayEvents settings world) = after := by rw [ran]; rfl
  rw [relayEvents_apply] at ran
  cases transacts : Application.transact (relaying settings.outbox.policy) world with
  | error stopped final =>
    rw [transacts] at ran
    cases ran
  | ok report final =>
    rw [transacts] at ran
    cases ran
    obtain ⟨session, ⟨drains, rfl⟩ | ⟨last, drains, commits, rfl⟩⟩ := Application.transact_ok transacts
    · obtain ⟨drains, idle, attempts, returned⟩ := relaying_returned drains
      refine ⟨report, session, attempts, drains, rfl, ?_, ⟨returned.first, ?_⟩, returned⟩
      · exact (returned.store_eq_of_isIdle (idle rfl)).symm
      · rw [ends]
        exact returned.asked.trans_calm (Surroundings.calm_journal _ _)
    · obtain ⟨drains, _, attempts, returned⟩ := relaying_returned drains
      have quiet : session.surroundings.Quiet last.surroundings :=
        Transaction.keeps_commit.of_ok commits
      obtain ⟨flushed, flushes, same⟩ := Transaction.commit_ok commits
      rw [Transaction.flush_of_ready returned.ready] at flushes
      cases flushes
      refine ⟨report, session, attempts, drains, rfl, same, ⟨returned.first, ?_⟩, returned⟩
      rw [ends]
      exact (returned.asked.trans_calm quiet.calm).trans_calm (Surroundings.calm_journal _ _)

/-- **What the job does, whichever way it ends**: it attempts the first events of its batch, and what
became of them is committed, or the store is as it was. -/
theorem relayEvents_attempts (settings : Settings) {world : World} (valid : world.store.Valid) :
    ∃ attempts : List Attempt,
      attempts.map Attempt.event <+: pendingIn settings.outbox.policy.batchSize
          settings.outbox.policy.maxRetry world.store
        ∧ world.surroundings.Asked (attempts.flatMap Attempt.calls)
          (endOf (relayEvents settings world)).surroundings
        ∧ (endOf (relayEvents settings world)).store.Valid
        ∧ ((endOf (relayEvents settings world)).store = world.store
          ∨ (endOf (relayEvents settings world)).store = { world.store with
              events := attemptedAll settings.outbox.policy attempts world.store.events }) := by
  cases ran : relayEvents settings world with
  | error failure after =>
    obtain ⟨same, attempts, first, asked⟩ := relayEvents_error ran
    rw [ran] at asked
    exact ⟨attempts, first, asked, same ▸ valid, .inl same⟩
  | ok result after =>
    obtain ⟨report, session, attempts, _, _, same, ⟨first, asked⟩, returned⟩ := relayEvents_ok ran
    rw [ran] at asked
    have drained := returned.drained valid (isBatch_pendingIn valid _ _)
    exact ⟨attempts, first, asked, same ▸ drained.settled.valid, .inr (same.trans drained.store)⟩

/-- **The job takes back no identifier.** -/
theorem ascends_relayEvents (settings : Settings) (world : World) :
    world.surroundings.Ascends (endOf (relayEvents settings world)).surroundings := by
  have relays : Keeps Session.Ascends (relaying settings.outbox.policy) :=
    Keeps.bind keeps_drain fun _ => Keeps.pure _
  have transacts := Application.keeps_transact relays Transaction.keeps_commit.calm.ascends world
  rw [relayEvents_apply]
  cases ran : Application.transact (relaying settings.outbox.policy) world with
  | error failure after =>
    rw [ran] at transacts
    exact transacts
  | ok report after =>
    rw [ran] at transacts
    exact transacts

end Roster.Job
