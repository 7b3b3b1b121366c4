/-
**Drains clear the outbox.**

A failing event stays among the oldest and is selected again before the younger ones. Every attempt at it
counts all the same, and after the last one allowed it is abandoned: what is left to be done, the failures
that the pending events still have before the cap, goes down with every drain that is not idle, whatever the
groupware answers.

* `workload` — the work that is left; `Drained.workload_lt` says that **it goes down**.
* `Visit` — one drain, and perhaps a commit after it; `Visit.run_of_regular` says what it leaves behind.
* `drains_clear_outbox` — **after as many drains as there is work left, nothing is pending**.
-/

import Roster.Proofs.Outbox.Undisturbed
import Mathlib.Algebra.Order.BigOperators.Group.List
import Mathlib.Algebra.Order.Ring.Int

namespace Roster

namespace Outbox

variable {policy : Policy} {mode : DrainMode} {session after : Session}

/-! ### The work that is left -/

/-- Every pending event has failed less often than the cap allows. -/
def BelowCap (cap : Int) (store : Store) : Prop :=
  ∀ event ∈ store.events, event.isPending = true → event.retryCount < cap

/-- **The work that is left**: how often the pending events may still fail before the cap. -/
def workload (cap : Int) (store : Store) : Int :=
  ((store.events.filter OutboxEvent.isPending).map fun event => cap - event.retryCount).sum

/-- How often an event may still fail before the cap: never, if it is not pending. -/
def failuresLeft (cap : Int) (event : OutboxEvent) : Int :=
  if event.isPending then cap - event.retryCount else 0

theorem workload_eq_sum (cap : Int) (store : Store) :
    workload cap store = (store.events.map (failuresLeft cap)).sum := by
  unfold workload
  induction store.events with
  | nil => rfl
  | cons event rest ih =>
    rw [List.filter_cons, List.map_cons, List.sum_cons, ← ih, failuresLeft]
    split
    · rw [List.map_cons, List.sum_cons]
    · rw [Int.zero_add]

section Workload

variable {cap : Int} {store : Store}

/-- Every pending event is work. -/
theorem pendingCountIn_le_workload (below : BelowCap cap store) :
    (pendingCountIn store : Int) ≤ workload cap store := by
  have each : ∀ left ∈ (store.events.filter OutboxEvent.isPending).map
      fun event => cap - event.retryCount, 1 ≤ left := by
    intro left member
    obtain ⟨event, inside, rfl⟩ := List.mem_map.mp member
    obtain ⟨inside, pending⟩ := List.mem_filter.mp inside
    have := below event inside pending
    omega
  have sum := List.card_nsmul_le_sum _ 1 each
  simpa [pendingCountIn, workload] using sum

theorem workload_of_none_pending (cap : Int) (none : pendingCountIn store = 0) :
    workload cap store = 0 := by
  rw [workload, List.eq_nil_of_length_eq_zero none]
  rfl

theorem not_pending_of_count (none : pendingCountIn store = 0) {event : OutboxEvent}
    (member : event ∈ store.events) : event.isPending = false := by
  by_contra pending
  rw [Bool.not_eq_false] at pending
  have inside : event ∈ store.events.filter OutboxEvent.isPending :=
    List.mem_filter.mpr ⟨member, pending⟩
  rw [List.eq_nil_of_length_eq_zero none] at inside
  cases inside

/-- Events end processed or abandoned. -/
theorem ended_of_not_pending {event : OutboxEvent} (ceased : event.isPending = false) :
    event.processedAt.isSome = true ∨ event.abandonedAt.isSome = true := by
  rw [OutboxEvent.isPending, Bool.and_eq_false_iff] at ceased
  simpa using ceased

/-- **An attempt is work that is done.** -/
theorem failuresLeft_outcome_lt {attempt : Attempt} (pending : attempt.event.isPending = true)
    (below : attempt.event.retryCount < policy.maxRetry) :
    failuresLeft policy.maxRetry (attempt.outcome policy)
      < failuresLeft policy.maxRetry attempt.event := by
  rw [failuresLeft, failuresLeft, if_pos pending]
  split
  · rename_i still
    rw [(Attempt.retryCount_of_pending still).1]
    omega
  · omega

end Workload

namespace Drained

variable {batch : List OutboxEvent} {report : DrainReport} {attempts : List Attempt}
  (drained : Drained policy batch session after report attempts) (valid : session.store.Valid)
  (whole : IsBatch session.store batch)

include drained valid whole

/-- **A drain keeps pending events below its cap.** -/
theorem belowCap (below : BelowCap policy.maxRetry session.store) :
    BelowCap policy.maxRetry after.store := by
  intro event member pending
  rcases drained.of_pending valid whole member pending with before | failed
  · exact below event before pending
  · exact failed

/-- **The work goes down with every drain that attempts anything.** -/
theorem workload_lt (below : BelowCap policy.maxRetry session.store) (some : attempts ≠ []) :
    workload policy.maxRetry after.store < workload policy.maxRetry session.store := by
  obtain ⟨change, events, _, outcomes, untouched⟩ := drained.exists_change valid whole
  have inside : ∀ attempt ∈ attempts, attempt.event ∈ batch := fun attempt made =>
    drained.first.subset (List.mem_map_of_mem made)
  have less : ∀ attempt ∈ attempts, failuresLeft policy.maxRetry (change attempt.event)
      < failuresLeft policy.maxRetry attempt.event := by
    intro attempt made
    have chosen := inside attempt made
    have pending := whole.pending _ chosen
    rw [outcomes attempt made]
    exact failuresLeft_outcome_lt pending (below _ (whole.inside _ chosen) pending)
  rw [workload_eq_sum, workload_eq_sum, events, List.map_map]
  -- No event has more failures left than before, and one that was attempted has fewer.
  refine List.sum_lt_sum _ _ (fun event member => ?_) ?_
  · by_cases chosen : event ∈ attempts.map Attempt.event
    · obtain ⟨attempt, made, rfl⟩ := List.mem_map.mp chosen
      exact (less attempt made).le
    · rw [Function.comp_apply, untouched event member chosen]
  · obtain ⟨attempt, made⟩ := List.exists_mem_of_ne_nil attempts some
    exact ⟨attempt.event, whole.inside _ (inside attempt made), less attempt made⟩

end Drained

/-! ### Visits -/

/-- A visit to the outbox: one drain some time after what was before, and a commit after it if one is made. -/
structure Visit where
  now : Surroundings
  policy : Policy
  mode : DrainMode
  commits : Bool := false

namespace Visit

/-- The visit takes at least one event, under the cap, and nobody disturbs it. -/
structure Regular (cap : Int) (visit : Visit) : Prop where
  capped : visit.policy.maxRetry = cap
  takes : 1 ≤ visit.policy.batchSize
  undisturbed : visit.now.Undisturbed visit.mode.heedsCancel

/-- What a visit does. -/
def run (visit : Visit) : Transaction DrainReport := do
  modify fun session => { session with surroundings := session.surroundings.meanwhile visit.now }
  let report ← drain visit.policy visit.mode
  if visit.commits then Transaction.commit
  return report

/-- A session some time later, when a visit begins. -/
def resumed (visit : Visit) (session : Session) : Session :=
  { session with surroundings := session.surroundings.meanwhile visit.now }

theorem settled_resumed (visit : Visit) (settled : session.Settled) : (visit.resumed session).Settled :=
  ⟨settled.staged, settled.sound, settled.valid⟩

/-- A visit is its drain: where nothing is left to send, the commit adds nothing to it. -/
theorem run_of_drain {visit : Visit} {report : DrainReport}
    (ran : drain visit.policy visit.mode (visit.resumed session) = .ok report after)
    (settled : after.Settled) (up : after.surroundings.IsUp) : visit.run session = .ok report after := by
  refine (bind_of_ok (modify_apply _ session)).trans ((bind_of_ok ran).trans ?_)
  cases visit.commits with
  | false => rfl
  | true => exact bind_of_ok (Transaction.commit_of_flush (Transaction.flush_of_settled settled) up)

/-- **What a regular visit leaves behind.** -/
structure Leaves (cap : Int) (session : Session) (report : DrainReport) (after : Session) : Prop where
  settled : after.Settled
  below : BelowCap cap after.store
  ids : after.store.events.map OutboxEvent.id = session.store.events.map OutboxEvent.id
  uncancelled : report.cancelled = false
  idle : report.isIdle = true ↔ pendingCountIn session.store = 0
  rests : report.isIdle = true → after.store = session.store
  works : report.isIdle = false → workload cap after.store < workload cap session.store
  waits : ∀ event ∈ session.store.events,
    event.id ∈ report.processed ++ report.failed ∨ event ∈ after.store.events

variable {cap : Int}

/-- **A regular visit returns** and does some of the work, if there is any. -/
theorem run_of_regular {visit : Visit} (regular : visit.Regular cap) (settled : session.Settled)
    (below : BelowCap cap session.store) :
    ∃ report after, visit.run session = .ok report after ∧ Leaves cap session report after := by
  obtain rfl := regular.capped
  have settledHere := visit.settled_resumed settled
  have undisturbed : (visit.resumed session).surroundings.Undisturbed visit.mode.heedsCancel :=
    ⟨regular.undisturbed.up, regular.undisturbed.uninterrupted, regular.undisturbed.unstopped⟩
  obtain ⟨report, after, ran, uncancelled⟩ :=
    @drain_of_undisturbed visit.policy visit.mode _ settledHere undisturbed
  obtain ⟨attempts, drained⟩ := drain_ok settledHere ran
  have whole := isBatch_pendingIn settled.valid visit.policy.batchSize visit.policy.maxRetry
  have complete := drained.complete uncancelled
  have selected : report.selected = min visit.policy.batchSize (pendingCountIn session.store) :=
    drained.tells.selected.trans (length_pendingIn below)
  have takes := regular.takes
  have idle : report.isIdle = true ↔ pendingCountIn session.store = 0 := by
    rw [DrainReport.isIdle, beq_iff_eq, selected]
    omega
  have length : attempts.length = report.selected := by
    rw [drained.tells.selected, ← complete, List.length_map]
  have runs : visit.run session = .ok report after :=
    run_of_drain ran drained.settled (drained.asked.up undisturbed.up)
  refine ⟨report, after, runs, drained.settled, drained.belowCap settled.valid whole below,
    drained.map_id settled.valid whole, uncancelled, idle, fun rests => ?_, fun works => ?_,
    fun event member => drained.attempted_or_kept settled.valid whole member⟩
  · have none : attempts = [] := by
      rw [← List.length_eq_zero_iff, length]
      exact beq_iff_eq.mp rests
    have store := drained.store
    rw [none, attemptedAll, List.map_nil, Store.updated_nil] at store
    exact store
  · refine drained.workload_lt settled.valid whole below fun none => ?_
    rw [none] at length
    rw [DrainReport.isIdle, ← length] at works
    cases works

end Visit

/-- Visits in a row, with what they report. -/
def visits (list : List Visit) : Transaction (List DrainReport) := list.mapM Visit.run

/-- **The outbox is cleared**: nothing is pending, no event is lost, and every event that was pending was
attempted, as some report says. -/
structure Cleared (before after : Store) (reports : List DrainReport) : Prop where
  ids : after.events.map OutboxEvent.id = before.events.map OutboxEvent.id
  count : pendingCountIn after = 0
  ended : ∀ event ∈ after.events, event.processedAt.isSome = true ∨ event.abandonedAt.isSome = true
  attempted : ∀ event ∈ before.events, event.isPending = true →
    ∃ report ∈ reports, event.id ∈ report.processed ++ report.failed

variable {cap : Int}

/-- **As many visits as there is work left clear the outbox.** -/
theorem visits_of_regular {list : List Visit} (regular : ∀ visit ∈ list, visit.Regular cap)
    (settled : session.Settled) (below : BelowCap cap session.store)
    (enough : workload cap session.store ≤ list.length) :
    ∃ reports after, visits list session = .ok reports after ∧ after.Settled
      ∧ Cleared session.store after.store reports := by
  unfold visits
  -- The work is what the induction spends: a visit that does none was idle, and then none is left.
  induction list generalizing session with
  | nil =>
    have none : pendingCountIn session.store = 0 := by
      have := pendingCountIn_le_workload below
      simp only [List.length_nil] at enough
      omega
    refine ⟨[], session, rfl, settled, rfl, none, fun event member => ?_,
      fun event member pending => ?_⟩
    · exact ended_of_not_pending (not_pending_of_count none member)
    · rw [not_pending_of_count none member] at pending
      cases pending
  | cons visit rest ih =>
    obtain ⟨report, middle, ran, leaves⟩ :=
      Visit.run_of_regular (regular visit List.mem_cons_self) settled below
    have less : workload cap middle.store ≤ rest.length := by
      rw [List.length_cons] at enough
      cases idle : report.isIdle with
      | false =>
        have := leaves.works idle
        omega
      | true =>
        rw [leaves.rests idle, workload_of_none_pending cap (leaves.idle.mp idle)]
        exact Int.natCast_nonneg _
    obtain ⟨reports, after, more, settledAfter, cleared⟩ :=
      ih (fun other member => regular other (List.mem_cons_of_mem _ member)) leaves.settled leaves.below
        less
    refine ⟨report :: reports, after, ?_, settledAfter, cleared.ids.trans leaves.ids, cleared.count,
      cleared.ended, fun event member pending => ?_⟩
    · rw [List.mapM_cons, bind_of_ok ran, bind_of_ok more]
      rfl
    · rcases leaves.waits event member with attempted | waits
      · exact ⟨report, List.mem_cons_self, attempted⟩
      · obtain ⟨later, inside, attempted⟩ := cleared.attempted event waits pending
        exact ⟨later, List.mem_cons_of_mem _ inside, attempted⟩

/-- **Drains clear the outbox**, whatever the groupware answers. While every pending event is below the cap, a
drain under that cap which nobody disturbs returns; it is idle exactly if nothing is pending, and otherwise
less work is left after it. So no more drains than there is work at first leave nothing pending: every event
is processed or abandoned, every event that was pending has been attempted, however often older ones failed
before it, and from then on every drain is idle. -/
theorem drains_clear_outbox {cap : Int} {session : Session} (settled : session.Settled)
    (below : BelowCap cap session.store) :
    (∀ visit : Visit, visit.Regular cap → ∃ report after, visit.run session = .ok report after
      ∧ report.cancelled = false
      ∧ (report.isIdle = true ↔ pendingCountIn session.store = 0)
      ∧ (report.isIdle = false → workload cap after.store < workload cap session.store)
      ∧ after.Settled ∧ BelowCap cap after.store)
    ∧ ∀ list : List Visit, (∀ visit ∈ list, visit.Regular cap) →
      workload cap session.store ≤ list.length →
      ∃ reports after, visits list session = .ok reports after
        ∧ Cleared session.store after.store reports
        ∧ ∀ visit : Visit, visit.Regular cap →
          ∃ report final, visit.run after = .ok report final ∧ report.isIdle = true := by
  refine ⟨fun visit regular => ?_, fun list regular enough => ?_⟩
  · obtain ⟨report, after, ran, leaves⟩ := Visit.run_of_regular regular settled below
    exact ⟨report, after, ran, leaves.uncancelled, leaves.idle, leaves.works, leaves.settled,
      leaves.below⟩
  · obtain ⟨reports, after, ran, settledAfter, cleared⟩ :=
      visits_of_regular regular settled below enough
    refine ⟨reports, after, ran, cleared, fun visit again => ?_⟩
    have belowAfter : BelowCap cap after.store := fun event member pending => by
      rw [not_pending_of_count cleared.count member] at pending
      cases pending
    obtain ⟨report, final, ranAgain, leaves⟩ := Visit.run_of_regular again settledAfter belowAfter
    exact ⟨report, final, ranAgain, leaves.idle.mpr cleared.count⟩

/-- One drain of a batch of one event, under a cap of two, while the groupware refuses a user. -/
def refusedVisit (user : Uuid) : Visit where
  now := { clock := default, groupware := fun _ request =>
    if request.user = user then .refusal else {} }
  policy := { batchSize := 1, maxRetry := 2 }
  mode := {}

theorem regular_refusedVisit (user : Uuid) : (refusedVisit user).Regular 2 where
  capped := rfl
  takes := Nat.le_refl 1
  undisturbed := by
    refine ⟨rfl, fun earlier request failure refused => ?_, fun _ => ⟨rfl, fun earlier request => ?_⟩⟩
    · dsimp only [refusedVisit] at refused
      split at refused
      · cases refused
        rfl
      · cases refused
    · dsimp only [refusedVisit]
      split <;> rfl

/-- An event waits for one user, and another one, a minute younger, for a second user. -/
def twoWaiting : Session where
  surroundings := default
  store := { events :=
    [Order.event { kind := .add, team := .numbered 5 1, user := .numbered 1 1 } (.numbered 14 1)
      default,
      Order.event { kind := .add, team := .numbered 5 1, user := .numbered 1 2 } (.numbered 14 2)
      ⟨60000000, ⟨0⟩, by decide⟩] }

/-- The older event always fails, one event is taken at a time, and yet the younger one has its turn. -/
theorem twoWaiting_cleared :
    ∃ reports after,
      visits (List.replicate 4 (refusedVisit (.numbered 1 1))) twoWaiting = .ok reports after
        ∧ pendingCountIn after.store = 0
        ∧ ∃ report ∈ reports, .numbered 14 2 ∈ report.processed ++ report.failed := by
  have start : twoWaiting.store.Valid ∧ workload 2 twoWaiting.store ≤ 4
      ∧ ∀ event ∈ twoWaiting.store.events, event.isPending = true ∧ event.retryCount < 2 := by
    decide +kernel
  obtain ⟨valid, enough, waiting⟩ := start
  obtain ⟨reports, after, ran, cleared, _⟩ :=
    (drains_clear_outbox ⟨rfl, rfl, valid⟩ fun event member _ => (waiting event member).2).2
      (List.replicate 4 (refusedVisit (.numbered 1 1)))
      (fun visit member => List.eq_of_mem_replicate member ▸ regular_refusedVisit _) enough
  exact ⟨reports, after, ran, cleared.count,
    cleared.attempted _ (List.mem_cons_of_mem _ List.mem_cons_self) rfl⟩

end Outbox

end Roster
