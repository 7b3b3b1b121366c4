/-
**The last requested change is the one relayed.**

The orders for a team and a user follow one another, whether they were committed or belong to the open
transaction, and the line of their events follows the orders.

* `lastAsked` — what the last of some orders asks for; `LastRelayed` — a line that ends in it.
* `Scene.Sound` — the invariant: both stores follow their orders; `Scene.Sound.step` says that
  **every move keeps it**.
* `last_request_relayed` — what holds after any moves from an empty outbox.
-/

import Roster.Proofs.Outbox.Scene

namespace Roster.Outbox

/-- The move makes no order but for an event that can be relayed, under its default key. -/
def Move.IsPlain : Move → Prop
  | .use _ (.order order) => order.kind ∈ EventKind.all ∧ order.IsDefault
  | _ => True

/-! ### What was asked for last -/

/-- What the last of some orders for a team and a user asks for. -/
def lastAsked (orders : List Order) (team user : Uuid) : Option EventKind :=
  (orders.filter fun order => order.team = team ∧ order.user = user).getLast?.map Order.kind

theorem lastAsked_append (orders : List Order) (order : Order) :
    lastAsked (orders ++ [order]) = wantedAfter order (lastAsked orders) := by
  funext team user
  unfold lastAsked wantedAfter
  rw [List.filter_append]
  by_cases pair : order.team = team ∧ order.user = user
  · simp [pair]
  · simp [pair]

/-- **A line of events ends in what was asked for last**: at most one event is pending, one that is asks
for it, and if none is, the last event asked for it and was delivered or given up. -/
structure LastRelayed (asked : EventKind) (line : List OutboxEvent) : Prop where
  single : (line.filter OutboxEvent.isPending).length ≤ 1
  pending : ∀ event ∈ line, event.isPending = true → event.kind = asked
  settled : (∀ event ∈ line, event.isPending = false) →
    ∃ event, line.getLast? = some event ∧ event.kind = asked
      ∧ (event.IsDelivered ∨ event.IsAbandoned) ∧ ¬ event.IsSuperseded

theorem Follows.lastRelayed {wanted : Uuid → Uuid → Option EventKind} {events : List OutboxEvent}
    (follows : Follows wanted events) {team user : Uuid} {asked : EventKind}
    (last : wanted team user = some asked) : LastRelayed asked (line team user events) := by
  refine ⟨follows.length_pending_le_one team user, fun event member pending => ?_, fun settled => ?_⟩
  · obtain ⟨inside, rfl, rfl⟩ := mem_line.mp member
    rw [follows.wanted_of_pending inside pending] at last
    exact Option.some.inj last
  · rw [← follows.latest, Option.map_eq_some_iff] at last
    obtain ⟨event, last, kind⟩ := last
    have alive := follows.alive team user event last
    refine ⟨event, last, kind, ?_, fun superseded => superseded.not_alive alive⟩
    rcases alive with pending | ended
    · rw [settled event (List.mem_of_getLast? last)] at pending
      cases pending
    · exact ended

/-! ### The invariant -/

/-- **Both stores of a scene follow the orders that they have seen.** -/
structure Scene.Sound (start : Nat) (scene : Scene) : Prop extends scene.Steady start where
  follows : Follows (lastAsked scene.orders) scene.store.events
  followsHere : Follows (lastAsked (scene.orders ++ scene.ordersHere)) scene.session.store.events

namespace Scene

variable {start : Nat} {scene : Scene}

theorem sound_opened {now : Surroundings} {store : Store} (valid : store.Valid)
    (empty : store.events = []) : (opened now store).Sound now.issued.events where
  toSteady := steady_opened valid empty
  follows := by rw [opened, empty]; exact Follows.empty
  followsHere := by rw [opened, empty]; exact Follows.empty

namespace Sound

variable (sound : scene.Sound start)

include sound

/-- **An order keeps the invariant.** -/
theorem after_order {order : Order} {now : Surroundings} {session : Session}
    {result : Option OutboxEvent} (known : order.kind ∈ EventKind.all) (default : order.IsDefault)
    (fresh : Uuid.FreshBetween 14 start session.surroundings.issued.events)
    (ran : enqueue order (scene.resumed now) = .ok result session) :
    Scene.Sound start (scene.ordered order (.ok result session)) := by
  obtain ⟨moment, _, became⟩ := (sound.made fresh ran).became
  refine ⟨(sound.toSteady.after_order fresh ran).1, sound.follows, ?_⟩
  show Follows (lastAsked (scene.orders ++ (scene.ordersHere ++ [order]))) _
  rw [← List.append_assoc, lastAsked_append]
  exact became.follows sound.followsHere known default

/-- **A drain keeps the invariant.** -/
theorem after_drain {policy : Policy} {mode : DrainMode} {now : Surroundings} {session : Session}
    {report : DrainReport} (ran : drain policy mode (scene.resumed now) = .ok report session) :
    Scene.Sound start (scene.drained (.ok report session)) := by
  obtain ⟨attempts, drained⟩ := sound.drained ran
  obtain ⟨change, events, attempted, _⟩ := drained.exists_change sound.settled.valid
    (isBatch_pendingIn sound.settled.valid policy.batchSize policy.maxRetry)
  refine ⟨(sound.toSteady.after_drain ran).1, sound.follows, ?_⟩
  show Follows _ session.store.events
  rw [events]
  exact sound.followsHere.attempted attempted

/-- **A commit keeps the invariant.** -/
theorem after_commit {now : Surroundings} {session : Session}
    (ran : Transaction.commit (scene.resumed now) = .ok () session) :
    Scene.Sound start (scene.committed (.ok () session)) := by
  have follows : Follows (lastAsked (scene.orders ++ scene.ordersHere)) session.store.events := by
    rw [sound.committed_store ran]
    exact sound.followsHere
  refine ⟨(sound.toSteady.after_commit ran).1, follows, ?_⟩
  show Follows (lastAsked ((scene.orders ++ scene.ordersHere) ++ [])) session.store.events
  rw [List.append_nil]
  exact follows

/-- **Every move keeps the invariant.** -/
theorem step {move : Move} {next : Scene} (step : Step scene move next) (plain : move.IsPlain)
    (fresh : Uuid.FreshBetween 14 start next.issued) : next.Sound start := by
  cases step with
  | ordered ran => exact sound.after_order plain.1 plain.2 fresh ran
  | drained ran => exact sound.after_drain ran
  | committed ran => exact sound.after_commit ran
  | gaveUp ascends =>
    refine ⟨sound.toSteady.abandon ascends, sound.follows, ?_⟩
    show Follows (lastAsked (scene.orders ++ [])) scene.store.events
    rw [List.append_nil]
    exact sound.follows

end Sound

/-- **Every run keeps the invariant.** -/
theorem Sound.run (sound : scene.Sound start) {moves : List Move}
    (plain : ∀ move ∈ moves, move.IsPlain)
    (fresh : Uuid.FreshBetween 14 start (scene.run moves).issued) : (scene.run moves).Sound start := by
  induction moves using List.reverseRecOn with
  | nil => exact sound
  | append_singleton moves move ih =>
    rw [run_concat] at fresh ⊢
    have step := step_after (scene.run moves) move
    have before := ih (fun earlier member => plain earlier (List.mem_append_left _ member))
      (fresh.mono step.ascends)
    exact before.step step (plain move (List.mem_append_right _ List.mem_cons_self)) fresh

end Scene

/-! ### What is relayed -/

/-- The event was superseded at an earlier scene, for good or in the transaction that is still open. -/
def Scene.WasSuperseded (earlier scene : Scene) (event : OutboxEvent) : Prop :=
  event.IsSuperseded ∧ (event ∈ earlier.store.events
    ∨ event ∈ earlier.session.store.events ∧ earlier.givenUp = scene.givenUp)

/-- **The last requested change is the one relayed.** After any moves from an empty outbox the line of every team
and user ends in what was asked for last, both for good and in the open transaction. A drain then asks for
what the first events of its batch ask for, one attempt each: they are pending, and none of them is or ever was
superseded. -/
theorem last_request_relayed {now : Surroundings} {store : Store} {moves : List Move}
    (valid : store.Valid) (empty : store.events = []) (plain : ∀ move ∈ moves, move.IsPlain)
    (fresh : Uuid.FreshBetween 14 now.issued.events ((Scene.opened now store).run moves).issued) :
    let scene := (Scene.opened now store).run moves
    (∀ team user asked, lastAsked scene.orders team user = some asked →
        LastRelayed asked (line team user scene.store.events))
      ∧ (∀ team user asked, lastAsked (scene.orders ++ scene.ordersHere) team user = some asked →
        LastRelayed asked (line team user scene.session.store.events))
      ∧ ∀ later policy mode, ∃ attempts : List Attempt,
        attempts.map Attempt.event <+: pendingIn policy.batchSize policy.maxRetry scene.session.store
          ∧ (endOf (drain policy mode (scene.resumed later))).surroundings.requests
            = scene.session.surroundings.requests ++ attempts.flatMap Attempt.calls
          ∧ ∀ attempt ∈ attempts, attempt.event ∈ scene.session.store.events
            ∧ attempt.event.isPending = true
            ∧ ¬ attempt.event.IsSuperseded
            ∧ ∀ earlier, earlier <+: moves → ∀ event,
              ((Scene.opened now store).run earlier).WasSuperseded scene event →
                event.id ≠ attempt.event.id := by
  have sound := (Scene.sound_opened valid empty).run plain fresh
  have remembered := ((Scene.steady_opened valid empty).run fresh).2
  refine ⟨fun team user asked last => sound.follows.lastRelayed last,
    fun team user asked last => sound.followsHere.lastRelayed last, fun later policy mode => ?_⟩
  obtain ⟨attempts, first, requests, _, each⟩ := sound.drains later policy mode
  refine ⟨attempts, first, requests, fun attempt made => ?_⟩
  obtain ⟨inside, pending, others⟩ := each attempt made
  refine ⟨inside, pending, fun superseded => superseded.not_alive (.inl pending), ?_⟩
  rintro earlier before event ⟨superseded, was⟩
  refine others _ (remembered earlier before) event was ?_
  by_contra still
  exact superseded.not_alive (.inl (Bool.not_eq_false _ ▸ still))

/-- A user is to be added to a team, and that is taken back before it is relayed. -/
def takenBack (team user : Uuid) : List Move :=
  [.use default (.order { kind := .add, team, user }),
    .use default (.order { kind := .remove, team, user }), .commit default]

theorem isPlain_takenBack {team user : Uuid} : ∀ move ∈ takenBack team user, move.IsPlain := by
  intro move member
  simp only [takenBack, List.mem_cons, List.not_mem_nil, or_false] at member
  rcases member with rfl | rfl | rfl
  · exact ⟨mem_all_iff.mpr (.inl rfl), rfl⟩
  · exact ⟨mem_all_iff.mpr (.inr rfl), rfl⟩
  · trivial

/-- What was taken back ends in its removal. -/
theorem takenBack_relays_removal :
    LastRelayed .remove (line (.numbered 5 1) (.numbered 1 1)
      ((Scene.opened default {}).run (takenBack (.numbered 5 1) (.numbered 1 1))).store.events) :=
  (last_request_relayed (by decide) rfl isPlain_takenBack
    (Uuid.freshBetween_of_le (by decide +kernel))).1 _ _ _ (by decide +kernel)

end Roster.Outbox
