/-
**The outbox in use.**

Orders and drains alternate in any way, in one transaction after another, while the clock moves, the
signal to stop comes and goes, the groupware answers as it likes and statements are stopped by
outages. What fails gives its transaction up; a transaction may also be given up without a failure.

* `Scene` — a committed store and an open transaction, with the orders that each of them has seen.
* `Scene.after` — one move: an order, a drain, a commit, or giving the transaction up; `Step` says
  what it can do.
* `Evolves` — **no event disappears, and what has ended stays as it is**.
* `Scene.Steady` — the invariant of every run, and `Scene.Remembers` — what later scenes keep;
  `Scene.Steady.run` says that **every run keeps them**.
* `Scene.Steady.drains` — **a drain attempts pending events only**, and none that had ended before.
-/

import Roster.Proofs.Outbox.Drain
import Roster.Proofs.Outbox.Enqueue
import Mathlib.Data.List.Induction

namespace Roster

/-- Surroundings in which the groupware refuses every request. -/
def Surroundings.refusing : Surroundings where
  clock := default
  groupware _ _ := .refusal

namespace Outbox

open EStateM (Result)

/-! ### Moves -/

/-- A use of the outbox inside a transaction. -/
inductive Use where
  | order (order : Order)
  | drain (policy : Policy) (mode : DrainMode)

/-- One move. Each comes some time after the one before it. -/
inductive Move where
  | use (now : Surroundings) (use : Use)
  | commit (now : Surroundings)
  | giveUp

/-- A committed store and the transaction open on it. -/
structure Scene where
  store : Store
  session : Session
  /-- The orders that returned and were committed, the oldest first. -/
  orders : List Order := []
  /-- The orders that returned in the open transaction. -/
  ordersHere : List Order := []
  /-- How many transactions were given up. -/
  givenUp : Nat := 0

namespace Scene

/-- The first transaction on a store. -/
def opened (now : Surroundings) (store : Store) : Scene :=
  { store, session := { surroundings := now, store } }

/-- The transaction is given up, and the next one begins. -/
def abandon (scene : Scene) (now : Surroundings) : Scene :=
  { scene with
    session := { surroundings := now, store := scene.store }
    ordersHere := []
    givenUp := scene.givenUp + 1 }

/-- The session some time later. -/
def resumed (scene : Scene) (now : Surroundings) : Session :=
  { scene.session with surroundings := scene.session.surroundings.meanwhile now }

/-- The scene after an order, by what came of it. -/
def ordered (scene : Scene) (order : Order) : Result Failure Session (Option OutboxEvent) → Scene
  | .ok _ session => { scene with session, ordersHere := scene.ordersHere ++ [order] }
  | .error _ session => scene.abandon session.surroundings

/-- The scene after a drain, by what came of it. -/
def drained (scene : Scene) : Result Failure Session DrainReport → Scene
  | .ok _ session => { scene with session }
  | .error _ session => scene.abandon session.surroundings

/-- The scene after a commit, by what came of it. -/
def committed (scene : Scene) : Result Failure Session Unit → Scene
  | .ok _ session => { scene with
      store := session.store
      session := { surroundings := session.surroundings, store := session.store }
      orders := scene.orders ++ scene.ordersHere
      ordersHere := [] }
  | .error _ session => scene.abandon session.surroundings

/-- **What one move does.** -/
def after (scene : Scene) : Move → Scene
  | .use now (.order order) => scene.ordered order (enqueue order (scene.resumed now))
  | .use now (.drain policy mode) => scene.drained (drain policy mode (scene.resumed now))
  | .commit now => scene.committed (Transaction.commit (scene.resumed now))
  | .giveUp => scene.abandon scene.session.surroundings

/-- The scene after some moves. -/
def run (scene : Scene) (moves : List Move) : Scene := moves.foldl after scene

/-- How many identifiers of events have been issued. -/
def issued (scene : Scene) : Nat := scene.session.surroundings.issued.events

end Scene

/-- **A move does one of four things**: it makes an order, drains, commits, or gives up. -/
inductive Step (scene : Scene) : Move → Scene → Prop where
  | ordered {now : Surroundings} {order : Order} {result : Option OutboxEvent} {session : Session}
      (ran : enqueue order (scene.resumed now) = .ok result session) :
      Step scene (.use now (.order order)) (scene.ordered order (.ok result session))
  | drained {now : Surroundings} {policy : Policy} {mode : DrainMode} {report : DrainReport}
      {session : Session} (ran : drain policy mode (scene.resumed now) = .ok report session) :
      Step scene (.use now (.drain policy mode)) (scene.drained (.ok report session))
  | committed {now : Surroundings} {session : Session}
      (ran : Transaction.commit (scene.resumed now) = .ok () session) :
      Step scene (.commit now) (scene.committed (.ok () session))
  | gaveUp {move : Move} {now : Surroundings} (ascends : scene.issued ≤ now.issued.events) :
      Step scene move (scene.abandon now)

theorem step_after (scene : Scene) (move : Move) : Step scene move (scene.after move) := by
  match move with
  | .use now (.order order) =>
    have kept := (keeps_enqueue order).ascends (scene.resumed now)
    show Step scene _ (scene.ordered order (enqueue order (scene.resumed now)))
    generalize ran : enqueue order (scene.resumed now) = result at kept ⊢
    cases result with
    | ok result session => exact .ordered ran
    | error failure session => exact .gaveUp kept.events
  | .use now (.drain policy mode) =>
    have kept := @keeps_drain policy mode (scene.resumed now)
    show Step scene _ (scene.drained (drain policy mode (scene.resumed now)))
    generalize ran : drain policy mode (scene.resumed now) = result at kept ⊢
    cases result with
    | ok report session => exact .drained ran
    | error failure session => exact .gaveUp kept.events
  | .commit now =>
    have kept := Transaction.keeps_commit.calm.ascends (scene.resumed now)
    show Step scene _ (scene.committed (Transaction.commit (scene.resumed now)))
    generalize ran : Transaction.commit (scene.resumed now) = result at kept ⊢
    cases result with
    | ok _ session => exact .committed ran
    | error failure session => exact .gaveUp kept.events
  | .giveUp => exact .gaveUp (Nat.le_refl _)

theorem Step.ascends {scene next : Scene} {move : Move} (step : Step scene move next) :
    scene.issued ≤ next.issued := by
  cases step with
  | ordered ran => exact ((keeps_enqueue _).ascends.of_ok ran).events
  | drained ran => exact (keeps_drain.of_ok ran).events
  | committed ran => exact (Transaction.keeps_commit.calm.ascends.of_ok ran).events
  | gaveUp ascends => exact ascends

/-! ### Evolution -/

/-- **Events evolve**: none disappears, none comes up but at the end, and what has ended stays as it is. -/
structure Evolves (before after : List OutboxEvent) : Prop where
  ids : before.map OutboxEvent.id <+: after.map OutboxEvent.id
  ended : ∀ event ∈ before, event.isPending = false → event ∈ after

namespace Evolves

variable {before middle after events : List OutboxEvent} {change : OutboxEvent → OutboxEvent}

theorem refl (events : List OutboxEvent) : Evolves events events :=
  ⟨List.prefix_rfl, fun _ member _ => member⟩

theorem trans (first : Evolves before middle) (second : Evolves middle after) :
    Evolves before after where
  ids := first.ids.trans second.ids
  ended event member ceased := second.ended event (first.ended event member ceased) ceased

theorem append (evolves : Evolves before after) (more : List OutboxEvent) :
    Evolves before (after ++ more) where
  ids := by
    rw [List.map_append]
    exact evolves.ids.trans (List.prefix_append _ _)
  ended event member ceased := List.mem_append_left _ (evolves.ended event member ceased)

/-- A change that keeps identifiers and every event that has ended. -/
theorem map (same : ∀ event ∈ events, (change event).id = event.id)
    (kept : ∀ event ∈ events, event.isPending = false → change event = event) :
    Evolves events (events.map change) where
  ids := by
    have ids : (events.map change).map OutboxEvent.id = events.map OutboxEvent.id := by
      rw [List.map_map]
      exact List.map_congr_left same
    exact ids ▸ List.prefix_rfl
  ended event member ceased := List.mem_map.mpr ⟨event, member, kept event member ceased⟩

/-- A drain only evolves its events. -/
theorem of_attempted (each : ∀ event ∈ events, Attempted event (change event)) :
    Evolves events (events.map change) :=
  .map (fun event member => (each event member).id_eq)
    fun event member => (each event member).eq_of_not_pending

end Evolves

/-- An order only evolves the events. -/
theorem Enqueued.evolves {order : Order} {moment : Instant} {issued issuedAfter : Nat}
    {events eventsAfter : List OutboxEvent} {result : Option OutboxEvent}
    (became : Enqueued order moment issued events result issuedAfter eventsAfter) :
    Evolves events eventsAfter := by
  have settles : Evolves events (events.map (order.settle moment)) :=
    .map (fun _ _ => Order.settle_id) fun _ _ => Order.settle_of_not_pending
  cases became with
  | duplicate taken => exact .refl events
  | placed absent => exact settles.append _
  | lost taken => exact settles

/-! ### The invariant -/

/-- **A scene is steady**: both stores keep their rules and number their events, and what the transaction
sees has evolved from what was committed. -/
structure Scene.Steady (start : Nat) (scene : Scene) : Prop where
  ascends : start ≤ scene.issued
  valid : scene.store.Valid
  settled : scene.session.Settled
  numbered : Numbered start scene.issued scene.store.events
  numberedHere : Numbered start scene.issued scene.session.store.events
  evolved : Evolves scene.store.events scene.session.store.events

/-- **A later scene remembers an earlier one**: what was committed has evolved for good, and what a
transaction saw until it is given up. -/
structure Scene.Remembers (scene later : Scene) : Prop where
  committed : Evolves scene.store.events later.store.events
  givenUp : scene.givenUp ≤ later.givenUp
  seen : later.givenUp = scene.givenUp → Evolves scene.session.store.events later.session.store.events

namespace Scene

variable {start : Nat} {scene next later earlier : Scene}

theorem Remembers.refl (scene : Scene) : scene.Remembers scene :=
  ⟨.refl _, Nat.le_refl _, fun _ => .refl _⟩

theorem Remembers.trans (first : scene.Remembers next) (second : next.Remembers later) :
    scene.Remembers later where
  committed := first.committed.trans second.committed
  givenUp := Nat.le_trans first.givenUp second.givenUp
  seen same := by
    have still : next.givenUp = scene.givenUp :=
      Nat.le_antisymm (same ▸ second.givenUp) first.givenUp
    exact (first.seen still).trans (second.seen (same.trans still.symm))

theorem remembers_abandon (now : Surroundings) : scene.Remembers (scene.abandon now) where
  committed := .refl _
  givenUp := Nat.le_succ _
  seen same := absurd same (Nat.succ_ne_self _)

theorem remembers_of_seen {session : Session} {ordersHere : List Order}
    (seen : Evolves scene.session.store.events session.store.events) :
    scene.Remembers { scene with session, ordersHere } where
  committed := .refl _
  givenUp := Nat.le_refl _
  seen _ := seen

theorem steady_opened {now : Surroundings} {store : Store} (valid : store.Valid)
    (empty : store.events = []) : (opened now store).Steady now.issued.events where
  ascends := Nat.le_refl _
  valid := valid
  settled := ⟨rfl, rfl, valid⟩
  numbered := by rw [opened, empty]; exact numbered_nil
  numberedHere := by rw [opened, empty]; exact numbered_nil
  evolved := .refl _

namespace Steady

variable (steady : scene.Steady start)

include steady

theorem abandon {now : Surroundings} (ascends : scene.issued ≤ now.issued.events) :
    (scene.abandon now).Steady start where
  ascends := Nat.le_trans steady.ascends ascends
  valid := steady.valid
  settled := ⟨rfl, rfl, steady.valid⟩
  numbered := steady.numbered.mono ascends
  numberedHere := steady.numbered.mono ascends
  evolved := .refl _

theorem settled_resumed (now : Surroundings) : (scene.resumed now).Settled :=
  ⟨steady.settled.staged, steady.settled.sound, steady.settled.valid⟩

/-- What an order made in the open transaction of a scene. -/
theorem made {order : Order} {now : Surroundings} {session : Session} {result : Option OutboxEvent}
    (fresh : Uuid.FreshBetween 14 start session.surroundings.issued.events)
    (ran : enqueue order (scene.resumed now) = .ok result session) :
    Made order result (scene.resumed now) session :=
  enqueue_ok (steady.settled_resumed now)
    (fun issues => steady.numberedHere.not_taken steady.ascends (fresh.mono issues)) ran

/-- **An order keeps the invariant.** -/
theorem after_order {order : Order} {now : Surroundings} {session : Session}
    {result : Option OutboxEvent}
    (fresh : Uuid.FreshBetween 14 start session.surroundings.issued.events)
    (ran : enqueue order (scene.resumed now) = .ok result session) :
    Scene.Steady start (scene.ordered order (.ok result session))
      ∧ scene.Remembers (scene.ordered order (.ok result session)) := by
  obtain ⟨settled, ⟨moment, _, became⟩, _, _⟩ := steady.made fresh ran
  have became : Enqueued order moment scene.issued scene.session.store.events result
      session.surroundings.issued.events session.store.events := became
  exact ⟨⟨Nat.le_trans steady.ascends became.ascends, steady.valid, settled,
    steady.numbered.mono became.ascends, became.numbered steady.numberedHere steady.ascends,
    steady.evolved.trans became.evolves⟩, remembers_of_seen became.evolves⟩

/-- What a drain in the open transaction of a scene left behind. -/
theorem drained {policy : Policy} {mode : DrainMode} {now : Surroundings} {session : Session}
    {report : DrainReport} (ran : drain policy mode (scene.resumed now) = .ok report session) :
    ∃ attempts, Drained policy (pendingIn policy.batchSize policy.maxRetry scene.session.store)
      (scene.resumed now) session report attempts :=
  drain_ok (steady.settled_resumed now) ran

/-- **A drain keeps the invariant.** -/
theorem after_drain {policy : Policy} {mode : DrainMode} {now : Surroundings} {session : Session}
    {report : DrainReport} (ran : drain policy mode (scene.resumed now) = .ok report session) :
    Scene.Steady start (scene.drained (.ok report session))
      ∧ scene.Remembers (scene.drained (.ok report session)) := by
  obtain ⟨attempts, drained⟩ := steady.drained ran
  obtain ⟨change, events, attempted, _⟩ := drained.exists_change steady.settled.valid
    (isBatch_pendingIn steady.settled.valid policy.batchSize policy.maxRetry)
  have events : session.store.events = scene.session.store.events.map change := events
  have ascends : scene.issued ≤ session.surroundings.issued.events := drained.asked.issued.events
  have evolves : Evolves scene.session.store.events session.store.events := by
    rw [events]
    exact .of_attempted attempted
  refine ⟨⟨Nat.le_trans steady.ascends ascends, steady.valid, drained.settled,
    steady.numbered.mono ascends, ?_, steady.evolved.trans evolves⟩, remembers_of_seen evolves⟩
  show Numbered start session.surroundings.issued.events session.store.events
  rw [events]
  exact (steady.numberedHere.mono ascends).map fun event member => (attempted event member).id_eq

/-- A commit makes what the transaction sees the committed store. -/
theorem committed_store {now : Surroundings} {session : Session}
    (ran : Transaction.commit (scene.resumed now) = .ok () session) :
    session.store = scene.session.store := by
  obtain ⟨flushed, flushes, store⟩ := Transaction.commit_ok ran
  rw [Transaction.flush_of_settled (steady.settled_resumed now)] at flushes
  cases flushes
  exact store

/-- **A commit keeps the invariant.** -/
theorem after_commit {now : Surroundings} {session : Session}
    (ran : Transaction.commit (scene.resumed now) = .ok () session) :
    Scene.Steady start (scene.committed (.ok () session))
      ∧ scene.Remembers (scene.committed (.ok () session)) := by
  have store := steady.committed_store ran
  have ascends : scene.issued ≤ session.surroundings.issued.events :=
    (Transaction.keeps_commit.calm.of_ok ran).issued.events
  unfold committed
  dsimp only
  rw [store]
  exact ⟨⟨Nat.le_trans steady.ascends ascends, steady.settled.valid, ⟨rfl, rfl, steady.settled.valid⟩,
    steady.numberedHere.mono ascends, steady.numberedHere.mono ascends, .refl _⟩,
    ⟨steady.evolved, Nat.le_refl _, fun _ => .refl _⟩⟩

/-- **Every move keeps the invariant**, and what is remembered. -/
theorem step {move : Move} (step : Step scene move next)
    (fresh : Uuid.FreshBetween 14 start next.issued) : next.Steady start ∧ scene.Remembers next := by
  cases step with
  | ordered ran => exact steady.after_order fresh ran
  | drained ran => exact steady.after_drain ran
  | committed ran => exact steady.after_commit ran
  | gaveUp ascends => exact ⟨steady.abandon ascends, remembers_abandon _⟩

end Steady

/-! ### Runs -/

theorem run_concat (scene : Scene) (moves : List Move) (move : Move) :
    scene.run (moves ++ [move]) = (scene.run moves).after move := List.foldl_concat ..

/-- **Every run keeps the invariant**, and its scenes remember those before them. -/
theorem Steady.run (steady : scene.Steady start) {moves : List Move}
    (fresh : Uuid.FreshBetween 14 start (scene.run moves).issued) :
    (scene.run moves).Steady start
      ∧ ∀ earlier, earlier <+: moves → (scene.run earlier).Remembers (scene.run moves) := by
  induction moves using List.reverseRecOn with
  | nil =>
    refine ⟨steady, fun earlier before => ?_⟩
    rw [List.prefix_nil.mp before]
    exact .refl scene
  | append_singleton moves move ih =>
    rw [run_concat] at fresh ⊢
    have step := step_after (scene.run moves) move
    obtain ⟨steadyBefore, remembered⟩ := ih (fresh.mono step.ascends)
    obtain ⟨steadyAfter, remembers⟩ := steadyBefore.step step fresh
    refine ⟨steadyAfter, fun earlier before => ?_⟩
    rcases List.prefix_concat_iff.mp before with rfl | before
    · rw [run_concat]
      exact .refl _
    · exact (remembered earlier before).trans remembers

/-! ### What a drain asks for -/

/-- The event was seen at an earlier scene, for good or in the transaction that is still open. -/
def Shows (earlier scene : Scene) (event : OutboxEvent) : Prop :=
  event ∈ earlier.store.events ∨ event ∈ earlier.session.store.events ∧ earlier.givenUp = scene.givenUp

/-- **What had ended at an earlier scene is seen as it was.** -/
theorem Steady.mem_of_ended (steady : scene.Steady start) (remembers : earlier.Remembers scene)
    {event : OutboxEvent} (shows : earlier.Shows scene event) (ended : event.isPending = false) :
    event ∈ scene.session.store.events := by
  rcases shows with committed | ⟨seen, still⟩
  · exact steady.evolved.ended event (remembers.committed.ended event committed ended) ended
  · exact (remembers.seen still.symm).ended event seen ended

/-- **A drain asks for nothing but what pending events ask for**, one attempt for each of the first events of
its batch, and for nothing that an event asks for which had ended before; its report tells the attempts. -/
theorem Steady.drains (steady : scene.Steady start) (now : Surroundings) (policy : Policy)
    (mode : DrainMode) :
    let batch := pendingIn policy.batchSize policy.maxRetry scene.session.store
    ∃ attempts : List Attempt, attempts.map Attempt.event <+: batch
      ∧ (endOf (drain policy mode (scene.resumed now))).surroundings.requests
          = scene.session.surroundings.requests ++ attempts.flatMap Attempt.calls
      ∧ (∀ report session, drain policy mode (scene.resumed now) = .ok report session →
          report.Tells batch attempts)
      ∧ ∀ attempt ∈ attempts, attempt.event ∈ scene.session.store.events
        ∧ attempt.event.isPending = true
        ∧ ∀ earlier : Scene, earlier.Remembers scene → ∀ event, earlier.Shows scene event →
          event.isPending = false → event.id ≠ attempt.event.id := by
  intro batch
  have settled := steady.settled_resumed now
  have attempted : ∃ attempts : List Attempt, attempts.map Attempt.event <+: batch
      ∧ (scene.resumed now).surroundings.Asked (attempts.flatMap Attempt.calls)
        (endOf (drain policy mode (scene.resumed now))).surroundings
      ∧ ∀ report session, drain policy mode (scene.resumed now) = .ok report session →
        report.Tells batch attempts := by
    cases ran : drain policy mode (scene.resumed now) with
    | ok report session =>
      obtain ⟨attempts, drained⟩ := drain_ok settled ran
      refine ⟨attempts, drained.first, drained.asked, fun _ _ same => ?_⟩
      cases same
      exact drained.tells
    | error failure session =>
      obtain ⟨attempts, first, asked⟩ := drain_error settled.ready ran
      refine ⟨attempts, first, asked, fun _ _ same => ?_⟩
      cases same
  obtain ⟨attempts, first, asked, tells⟩ := attempted
  have whole := (isBatch_pendingIn steady.settled.valid policy.batchSize policy.maxRetry).of_first first
  refine ⟨attempts, first, asked.requests, tells, fun attempt made => ?_⟩
  have inside := whole.inside _ (List.mem_map_of_mem made)
  have pending := whole.pending _ (List.mem_map_of_mem made)
  refine ⟨inside, pending, fun earlier remembers event shows ended same => ?_⟩
  have here := steady.mem_of_ended remembers shows ended
  rw [Store.eq_of_id_eq steady.settled.valid.eventIds here inside same, pending] at ended
  cases ended

end Scene

end Outbox

end Roster
