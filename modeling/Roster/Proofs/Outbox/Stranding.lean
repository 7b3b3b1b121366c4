/-
**Which events a drain leaves behind.**

A drain selects the pending events that failed less often than its cap, and it abandons an event only after
an attempt. An event that is pending after a failure has failed less often than the cap of that drain: with
one cap, or with caps that only grow, every pending event is selected. A cap that is lowered leaves the
events behind that have failed as often as the new cap allows: nothing attempts them, nothing abandons them,
and they go on being counted and keeping their keys.

* `Within` — how often pending events have failed, against the caps of earlier drains; `Scene.Within.run`
  says that **every run keeps it**.
* `enqueue_of_taken` — a pending event absorbs the orders of its key.
* `attempted_iff_below_cap` — what a drain that takes all pending events attempts.
* `left_behind_iff_cap_lowered` — **which events a drain leaves behind**, and what becomes of them.
-/

import Roster.Proofs.Outbox.Scene

namespace Roster.Outbox

open EStateM (Result)

/-! ### How often pending events have failed -/

/-- Pending events never failed, or less often than one of the caps allows. -/
def Within (caps : List Int) (events : List OutboxEvent) : Prop :=
  ∀ event ∈ events, event.isPending = true →
    event.retryCount ≤ 0 ∨ ∃ cap ∈ caps, event.retryCount < cap

section Within

variable {caps more : List Int} {events eventsAfter : List OutboxEvent}

theorem within_nil : Within caps [] := fun _ member => absurd member List.not_mem_nil

theorem Within.mono (within : Within caps events) (fewer : caps ⊆ more) : Within more events := by
  intro event member pending
  rcases within event member pending with never | ⟨cap, was, below⟩
  · exact .inl never
  · exact .inr ⟨cap, fewer was, below⟩

/-- **An order adds no failure.** -/
theorem Within.ordered {order : Order} {moment : Instant} {issued issuedAfter : Nat}
    {result : Option OutboxEvent} (within : Within caps events)
    (became : Enqueued order moment issued events result issuedAfter eventsAfter) :
    Within caps eventsAfter := by
  have settles : Within caps (events.map (order.settle moment)) := by
    intro event member pending
    obtain ⟨before, was, rfl⟩ := List.mem_map.mp member
    obtain ⟨pendingBefore, kept⟩ := Order.isPending_of_settle pending
    rw [Order.settle_of_not_reverses kept]
    exact within before was pendingBefore
  cases became with
  | duplicate taken => exact within
  | lost taken => exact settles
  | placed absent =>
    intro event member pending
    rcases List.mem_append.mp member with old | new
    · exact settles event old pending
    · rw [List.mem_singleton.mp new]
      exact .inl (Int.le_refl 0)

/-- **After a failure an event is pending only below the cap of the drain.** -/
theorem Within.drained {policy : Policy} {batch : List OutboxEvent} {session after : Session}
    {report : DrainReport} {attempts : List Attempt} (within : Within caps session.store.events)
    (valid : session.store.Valid) (whole : IsBatch session.store batch)
    (drained : Drained policy batch session after report attempts) :
    Within (caps ++ [policy.maxRetry]) after.store.events := by
  intro event member pending
  rcases drained.of_pending valid whole member pending with before | failed
  · exact within.mono (List.subset_append_left _ _) event before pending
  · exact .inr ⟨policy.maxRetry, List.mem_append_right _ List.mem_cons_self, failed⟩

end Within

/-! ### Runs -/

/-- The cap of a move that drains. -/
def Move.cap? : Move → Option Int
  | .use _ (.drain policy _) => some policy.maxRetry
  | _ => none

/-- The caps of the drains among some moves. -/
def capsOf (moves : List Move) : List Int := moves.filterMap Move.cap?

namespace Scene

variable {start : Nat} {scene next : Scene} {caps : List Int}

/-- In both stores of a scene pending events have failed less often than one of the caps allows. -/
structure Within (caps : List Int) (scene : Scene) : Prop where
  committed : Outbox.Within caps scene.store.events
  here : Outbox.Within caps scene.session.store.events

/-- An empty outbox is within no caps at all. -/
theorem within_opened {now : Surroundings} {store : Store} (empty : store.events = []) :
    (Scene.opened now store).Within [] := by
  constructor
  · show Outbox.Within [] store.events
    rw [empty]
    exact within_nil
  · show Outbox.Within [] store.events
    rw [empty]
    exact within_nil

/-- **Every move keeps pending events within the caps so far.** -/
theorem Within.step {move : Move} (within : scene.Within caps) (steady : scene.Steady start)
    (step : Step scene move next) (fresh : Uuid.FreshBetween 14 start next.issued) :
    next.Within (caps ++ move.cap?.toList) := by
  have more : caps ⊆ caps ++ move.cap?.toList := List.subset_append_left _ _
  cases step with
  | ordered ran =>
    obtain ⟨moment, _, became⟩ := (steady.made fresh ran).became
    have here := within.here.ordered became
    exact ⟨within.committed.mono more, here.mono more⟩
  | @drained now policy mode report session ran =>
    obtain ⟨attempts, drained⟩ := steady.drained ran
    have whole := isBatch_pendingIn steady.settled.valid policy.batchSize policy.maxRetry
    have here : Outbox.Within caps (scene.resumed now).store.events := within.here
    exact ⟨within.committed.mono more, here.drained steady.settled.valid whole drained⟩
  | @committed now session ran =>
    have here : Outbox.Within caps session.store.events := by
      rw [steady.committed_store ran]
      exact within.here
    exact ⟨here.mono more, here.mono more⟩
  | gaveUp ascends => exact ⟨within.committed.mono more, within.committed.mono more⟩

/-- **Every run keeps pending events within its caps.** -/
theorem Within.run (within : scene.Within caps) (steady : scene.Steady start) {moves : List Move}
    (fresh : Uuid.FreshBetween 14 start (scene.run moves).issued) :
    (scene.run moves).Within (caps ++ capsOf moves) := by
  induction moves using List.reverseRecOn with
  | nil =>
    show scene.Within (caps ++ [])
    rw [List.append_nil]
    exact within
  | append_singleton moves move ih =>
    have split : capsOf (moves ++ [move]) = capsOf moves ++ move.cap?.toList := by
      unfold capsOf
      rw [List.filterMap_append]
      cases cap : move.cap? <;> simp [cap]
    rw [run_concat] at fresh ⊢
    have step := step_after (scene.run moves) move
    have freshBefore := fresh.mono step.ascends
    rw [split, ← List.append_assoc]
    exact (ih freshBefore).step (steady.run freshBefore).1 step fresh

end Scene

/-! ### What is left behind -/

/-- **A pending event absorbs every order of its key.** -/
theorem enqueue_of_taken {order : Order} {session : Session} (settled : session.Settled)
    (up : session.surroundings.IsUp) (plain : order.isRace = false) {event : OutboxEvent}
    (member : event ∈ session.store.events) (pending : event.isPending = true)
    (same : order.storedKey = event.key) :
    ∃ next, enqueue order session = .ok none next ∧ next.store = session.store := by
  have taken : hasPendingIn order.storedKey session.store = true :=
    hasPendingIn_iff.mpr ⟨event, member, same.symm, pending⟩
  rw [enqueue_of_not_race plain, bind_of_ok (Transaction.read_of_settled settled up), taken]
  exact ⟨_, rfl, rfl⟩

/-- **A drain that takes all pending events and is not cancelled attempts those below its cap**, and no
other. -/
theorem attempted_iff_below_cap {policy : Policy} {session after : Session} {report : DrainReport}
    {attempts : List Attempt} (valid : session.store.Valid)
    (drained : Drained policy (pendingIn policy.batchSize policy.maxRetry session.store) session after
      report attempts)
    (uncancelled : report.cancelled = false) (large : pendingCountIn session.store ≤ policy.batchSize)
    {event : OutboxEvent} (member : event ∈ session.store.events) (pending : event.isPending = true) :
    event.id ∈ report.processed ++ report.failed ↔ event.retryCount < policy.maxRetry := by
  have complete := drained.complete uncancelled
  rw [drained.tells.mem_iff]
  constructor
  · rintro ⟨attempt, made, same⟩
    have chosen := complete ▸ List.mem_map_of_mem made
    obtain ⟨inside, _, below⟩ := of_mem_pendingIn chosen
    rwa [Store.eq_of_id_eq valid.eventIds inside member same] at below
  · intro below
    have chosen := (mem_pendingIn_iff large).mpr ⟨member, pending, below⟩
    rw [← complete] at chosen
    obtain ⟨attempt, made, rfl⟩ := List.mem_map.mp chosen
    exact ⟨attempt, made, rfl⟩

/-- **A drain leaves a pending event behind exactly if the cap was lowered** to what the event has failed or
below. After any moves from an empty outbox, a drain that takes all pending events and is not cancelled
attempts those that failed less often than its cap, so all of them if no earlier cap was larger. Any other
was left by a drain with a larger cap; it stays as it is, pending and counted, and absorbs every order of
its key. -/
theorem left_behind_iff_cap_lowered {now : Surroundings} {store : Store} {moves : List Move}
    (valid : store.Valid) (empty : store.events = [])
    (fresh : Uuid.FreshBetween 14 now.issued.events ((Scene.opened now store).run moves).issued) :
    let scene := (Scene.opened now store).run moves
    ∀ later policy mode report after, drain policy mode (scene.resumed later) = .ok report after →
      report.cancelled = false → pendingCountIn scene.session.store ≤ policy.batchSize →
      1 ≤ policy.maxRetry →
      ((∀ cap ∈ capsOf moves, cap ≤ policy.maxRetry) → ∀ event ∈ scene.session.store.events,
        event.isPending = true → event.id ∈ report.processed ++ report.failed)
      ∧ ∀ event ∈ scene.session.store.events, event.isPending = true →
        (event.id ∈ report.processed ++ report.failed ↔ event.retryCount < policy.maxRetry)
        ∧ (policy.maxRetry ≤ event.retryCount →
          (∃ cap ∈ capsOf moves, event.retryCount < cap)
          ∧ event ∈ after.store.events ∧ 0 < pendingCountIn after.store
          ∧ ∀ (quiet : Surroundings) (order : Order), quiet.IsUp → order.isRace = false →
            order.storedKey = event.key → ∃ next,
              enqueue order { after with surroundings := quiet } = .ok none next
                ∧ next.store = after.store) := by
  intro scene later policy mode report after ran uncancelled large positive
  have steady : scene.Steady now.issued.events := ((Scene.steady_opened valid empty).run fresh).1
  have within : Within (capsOf moves) scene.session.store.events :=
    ((Scene.within_opened empty).run (Scene.steady_opened valid empty) fresh).here
  obtain ⟨attempts, drained⟩ := steady.drained ran
  have whole := isBatch_pendingIn steady.settled.valid policy.batchSize policy.maxRetry
  have attempted : ∀ event ∈ scene.session.store.events, event.isPending = true →
      (event.id ∈ report.processed ++ report.failed ↔ event.retryCount < policy.maxRetry) :=
    fun event member pending => @attempted_iff_below_cap policy (scene.resumed later) _ _ _
      steady.settled.valid drained uncancelled large event member pending
  refine ⟨fun unlowered event member pending => (attempted event member pending).mpr ?_,
    fun event member pending => ⟨attempted event member pending, fun reached => ?_⟩⟩
  · rcases within event member pending with never | ⟨cap, was, below⟩
    · omega
    · have bound := unlowered cap was
      omega
  · have lowered : ∃ cap ∈ capsOf moves, event.retryCount < cap := by
      rcases within event member pending with never | lowered
      · omega
      · exact lowered
    have stays : event ∈ after.store.events := by
      rcases drained.attempted_or_kept steady.settled.valid whole member with done | kept
      · have below := (attempted event member pending).mp done
        omega
      · exact kept
    refine ⟨lowered, stays, ?_, fun quiet order up plain same => ?_⟩
    · exact List.length_pos_of_mem (List.mem_filter.mpr ⟨stays, pending⟩)
    · have settled : { after with surroundings := quiet }.Settled :=
        ⟨drained.settled.staged, drained.settled.sound, drained.settled.valid⟩
      exact enqueue_of_taken settled up plain stays pending same

/-- A user is to be added to a team, and that fails twice under a cap of three. -/
def failedTwice (team user : Uuid) : List Move :=
  [.use default (.order { kind := .add, team, user }), .use .refusing (.drain { maxRetry := 3 } {}),
    .use .refusing (.drain { maxRetry := 3 } {})]

/-- With a cap of two the event is left behind for good. -/
theorem lowered_cap_strands :
    let scene := (Scene.opened default {}).run (failedTwice (.numbered 5 1) (.numbered 1 1))
    ∃ report after,
      drain { batchSize := 1, maxRetry := 2 } {} (scene.resumed default) = .ok report after
        ∧ ∃ event ∈ scene.session.store.events, event.isPending = true
          ∧ event.id ∉ report.processed ++ report.failed ∧ event ∈ after.store.events
          ∧ ∃ cap ∈ capsOf (failedTwice (.numbered 5 1) (.numbered 1 1)), event.retryCount < cap := by
  intro scene
  have drains : ∃ report after,
      drain { batchSize := 1, maxRetry := 2 } {} (scene.resumed default) = .ok report after
        ∧ scene.issued ≤ 1 ∧ report.cancelled = false ∧ pendingCountIn scene.session.store ≤ 1
        ∧ ∃ event ∈ scene.session.store.events, event.isPending = true ∧ 2 ≤ event.retryCount := by
    decide +kernel
  obtain ⟨report, after, ran, issued, uncancelled, large, event, member, pending, reached⟩ := drains
  have left := (left_behind_iff_cap_lowered (by decide) rfl
    (Uuid.freshBetween_of_le (Nat.le_trans issued (by decide))) default
    { batchSize := 1, maxRetry := 2 } {} report after ran uncancelled large (by decide)).2
  obtain ⟨attempted, stays⟩ := left event member pending
  obtain ⟨lowered, stays, _⟩ := stays reached
  exact ⟨report, after, ran, event, member, pending,
    fun done => absurd (attempted.mp done) (Int.not_lt.mpr reached), stays, lowered⟩

end Roster.Outbox
