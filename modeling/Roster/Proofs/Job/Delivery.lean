/-
**Relaying is all or nothing, and at least once.**

A run of the job asks the groupware for one change of access after another and commits what became of
the events once, at its end. The run can break at any request, at the look-up of its batch, when the
outcomes are sent, and at the commit; what the groupware was asked for by then stays asked for.

* `granted_of_isDelivered` — an attempt that delivered an event was granted.
* `relaying_is_all_or_nothing` — **a run that fails leaves the outbox as it was**, so whatever was relayed
  in vain is relayed again; **a run that returns commits the outcome of its drain**; and nothing is
  committed as delivered unless the groupware granted its request.
-/

import Roster.Proofs.Job.Relay

namespace Roster.Job

open EStateM (Result)
open Outbox

/-- **A delivered event is an attempt that was granted**: it asked for one change of the access of its user
to its team. -/
theorem granted_of_isDelivered {policy : Policy} {attempt : Attempt} (honest : attempt.IsHonest)
    (delivers : (attempt.outcome policy).IsDelivered) :
    (∃ access, attempt.calls = [(⟨access, attempt.event.team, attempt.event.user⟩, true)])
      ∧ attempt.outcome policy = delivered attempt.event attempt.moment := by
  cases failure : attempt.failure with
  | some failed =>
    have error := delivers.2
    rw [Attempt.outcome, failure] at error
    cases error
  | none =>
    have asked := honest failure
    refine ⟨?_, by rw [Attempt.outcome, failure]⟩
    unfold Attempt.calls at asked ⊢
    rw [failure] at asked ⊢
    cases kind : attempt.event.kind with
    | add => exact ⟨_, rfl⟩
    | remove => exact ⟨_, rfl⟩
    | other label =>
      rw [kind] at asked
      exact (asked rfl).elim

/-- **Relaying is all or nothing, and at least once.** A run attempts the first events of its batch. If it fails,
the store is as it was, and whatever it attempted is pending and in the batch again. If it returns, what is
committed is the outcome of its drain, as the report tells it, also if the drain was cancelled. Either way an
event that is delivered afterwards was delivered before, or its request was granted in this run. -/
theorem relaying_is_all_or_nothing (settings : Settings) (world : World) :
    ∃ attempts, Attempts settings world attempts
      ∧ (∀ failure after, relayEvents settings world = .error failure after →
        after.store = world.store ∧ ∀ attempt ∈ attempts, attempt.event ∈ after.store.events
          ∧ attempt.event.isPending = true ∧ attempt.event ∈ batchOf settings after.store)
      ∧ (∀ result after, relayEvents settings world = .ok result after →
        ∃ report session, drain settings.outbox.policy {} world.session = .ok report session
          ∧ report.Tells (batchOf settings world.store) attempts ∧ result = report.summary
          ∧ after.store = session.store
          ∧ (world.store.Valid → after.store = { world.store with
            events := attemptedAll settings.outbox.policy attempts world.store.events }))
      ∧ ∀ event ∈ (endOf (relayEvents settings world)).store.events, event.IsDelivered →
        event ∈ world.store.events ∨ ∃ attempt ∈ attempts,
          (∃ access, attempt.calls = [(⟨access, attempt.event.team, attempt.event.user⟩, true)])
            ∧ event = delivered attempt.event attempt.moment := by
  cases ran : relayEvents settings world with
  | error failure after =>
    obtain ⟨same, attempts, made⟩ := relayEvents_error ran
    refine ⟨attempts, made, fun other final again => ?_, fun _ _ again => ?_, fun event member _ => .inl ?_⟩
    · cases again
      refine ⟨same, fun attempt inside => ?_⟩
      rw [same]
      have taken := made.first.subset (List.mem_map_of_mem inside)
      obtain ⟨known, pending, _⟩ := of_mem_pendingIn taken
      exact ⟨known, pending, taken⟩
    · cases again
    · rw [← same]
      exact member
  | ok result after =>
    obtain ⟨report, session, attempts, drains, summary, same, made, returned⟩ := relayEvents_ok ran
    refine ⟨attempts, made, fun _ _ again => ?_, fun other final again => ?_, fun event member delivers => ?_⟩
    · cases again
    · cases again
      refine ⟨report, session, drains, returned.tells, summary, same, fun valid => ?_⟩
      rw [same]
      exact (returned.drained valid (isBatch_pendingIn valid _ _)).store
    · have inside : event ∈ session.store.events := same ▸ member
      refine (returned.mem_events inside).imp_right fun ⟨attempt, tried, outcome⟩ => ?_
      subst outcome
      exact ⟨attempt, tried, granted_of_isDelivered (returned.honest attempt tried) delivers⟩

/-- An event waits for the groupware, which grants every request; the next commit is lost. -/
def doomed : World where
  surroundings := {
    clock := default
    groupware := fun _ _ => {}
    outage := some { stops := .commit, message := "lost", passes := 0 } }
  store := { events := [{ (default : OutboxEvent) with kind := .add }] }

/-- The run that cannot commit. -/
def lostRun : Result Failure World Value := relayEvents { database := default } doomed

/-- The world of the next run. -/
def recovered : World :=
  { endOf lostRun with surroundings := (endOf lostRun).surroundings.meanwhile { clock := default } }

/-- What was granted in the run that was lost is pending still, and is asked for again by the next run. -/
theorem lost_run_relayed_again :
    (∃ failure after, lostRun = .error failure after)
      ∧ (endOf lostRun).surroundings.requests.map (·.2) = [true]
      ∧ (endOf lostRun).store = doomed.store
      ∧ ∃ result after, relayEvents { database := default } recovered = .ok result after
        ∧ after.surroundings.requests.map (·.2) = [true, true]
        ∧ after.store.events.map (·.processedAt) = [some default] := by
  have breaks : ∃ failure after, lostRun = .error failure after := by decide +kernel
  refine ⟨breaks, by decide +kernel, ?_, by decide +kernel⟩
  obtain ⟨failure, after, ran⟩ := breaks
  obtain ⟨_, _, fails, _⟩ := relaying_is_all_or_nothing { database := default } doomed
  rw [ran]
  exact (fails failure after ran).1

end Roster.Job
