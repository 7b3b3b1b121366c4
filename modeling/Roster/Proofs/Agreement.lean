/-
**Who is in a derived team has its access.**

Passes, runs over all derived teams, jobs that relay events and edits of everything that is not derived
follow each other in any order. Between them the clock, the signal to stop, outages and the groupware
change as they like, and each of them may fail.

* `lastGranted` — the access that was granted to the requests for a team and a user last.
* `Step` — what may happen next; `Store.Edited` — what an edit leaves alone.
* `Agrees` — the invariant; `Step.preserves` says that **every step keeps it**.
* `membership_and_access_agree` — what holds after any steps from an empty outbox.
-/

import Mathlib.Logic.Relation
import Roster.Proofs.Job.Relay
import Roster.Proofs.Reconcile.Established

namespace Roster

open Outbox

/-! ### What was granted last -/

/-- The change of access that relays an event of the kind. -/
def EventKind.access? : EventKind → Option Access
  | .add => some .granted
  | .remove => some .revoked
  | .other _ => none

theorem EventKind.exists_access {kind : EventKind} (known : kind ∈ EventKind.all) :
    ∃ access, kind.access? = some access := by
  rcases mem_all_iff.mp known with rfl | rfl
  · exact ⟨_, rfl⟩
  · exact ⟨_, rfl⟩

/-- The requests for a team and a user that were granted. -/
def grantedFor (team user : Uuid) (requests : List (Request × Bool)) : List Request :=
  (requests.filter fun call => call.2 ∧ call.1.team = team ∧ call.1.user = user).map Prod.fst

/-- What the request for a team and a user asked for that was granted last. -/
def lastGranted (team user : Uuid) (requests : List (Request × Bool)) : Option Access :=
  (grantedFor team user requests).getLast?.map Request.access

section Granted

variable {team user : Uuid} {requests calls : List (Request × Bool)} {access : Access}

theorem grantedFor_append :
    grantedFor team user (requests ++ calls)
      = grantedFor team user requests ++ grantedFor team user calls := by
  rw [grantedFor, List.filter_append, List.map_append]
  rfl

theorem mem_grantedFor {request : Request} :
    request ∈ grantedFor team user requests
      ↔ (request, true) ∈ requests ∧ request.team = team ∧ request.user = user := by
  simp [grantedFor]

theorem lastGranted_append_of_nil (none : grantedFor team user calls = []) :
    lastGranted team user (requests ++ calls) = lastGranted team user requests := by
  rw [lastGranted, grantedFor_append, none, List.append_nil]
  rfl

/-- **Requests for one change of access** leave it granted last, if one of them is granted. -/
theorem lastGranted_append_of_forall (some : grantedFor team user calls ≠ [])
    (one : ∀ request ∈ grantedFor team user calls, request.access = access) :
    lastGranted team user (requests ++ calls) = Option.some access := by
  have last := List.getLast?_eq_some_getLast some
  rw [lastGranted, grantedFor_append, List.getLast?_append, last, Option.some_or, Option.map_some,
    one _ (List.getLast_mem some)]

end Granted

/-- What an attempt was granted is what its event asks for. -/
theorem Outbox.Attempt.mem_calls {attempt : Attempt} {request : Request}
    (made : (request, true) ∈ attempt.calls) :
    attempt.failure = none ∧ request.team = attempt.event.team ∧ request.user = attempt.event.user
      ∧ some request.access = attempt.event.kind.access? := by
  unfold Attempt.calls at made
  cases kind : attempt.event.kind with
  | other label =>
    rw [kind] at made
    cases made
  | add =>
    rw [kind, List.mem_singleton, Prod.mk.injEq] at made
    obtain ⟨rfl, granted⟩ := made
    exact ⟨Option.isNone_iff_eq_none.mp granted.symm, rfl, rfl, rfl⟩
  | remove =>
    rw [kind, List.mem_singleton, Prod.mk.injEq] at made
    obtain ⟨rfl, granted⟩ := made
    exact ⟨Option.isNone_iff_eq_none.mp granted.symm, rfl, rfl, rfl⟩

theorem Outbox.Attempt.failure_of_delivered {policy : Policy} {attempt : Attempt}
    (unprocessed : attempt.event.processedAt = none)
    (delivered : (attempt.outcome policy).IsDelivered) : attempt.failure = none := by
  unfold Attempt.outcome at delivered
  cases failure : attempt.failure with
  | none => rfl
  | some failed =>
    rw [failure] at delivered
    have processed : attempt.event.processedAt.isSome = true := delivered.1
    rw [unprocessed] at processed
    cases processed

theorem Outbox.Attempt.calls_of_delivered {attempt : Attempt} {access : Access}
    (delivered : attempt.failure = none) (asks : attempt.event.kind.access? = some access) :
    (⟨access, attempt.event.team, attempt.event.user⟩, true) ∈ attempt.calls := by
  unfold Attempt.calls
  cases kind : attempt.event.kind with
  | other label =>
    rw [kind] at asks
    cases asks
  | add =>
    rw [kind] at asks
    cases asks
    rw [delivered]
    exact List.mem_cons_self
  | remove =>
    rw [kind] at asks
    cases asks
    rw [delivered]
    exact List.mem_cons_self

/-- **A delivered event at the end of its line was granted**, and nothing else was for its team and user
since. -/
def Honoured (requests : List (Request × Bool)) (events : List OutboxEvent) : Prop :=
  ∀ team user, ∀ last ∈ (line team user events).getLast?, last.IsDelivered →
    lastGranted team user requests = last.kind.access?

namespace Honoured

variable {store : Store} {policy : Policy} {attempts : List Attempt} {requests : List (Request × Bool)}
  {wanted : Uuid → Uuid → Option EventKind} (valid : store.Valid) (follows : Follows wanted store.events)
  (batch : IsBatch store (attempts.map Attempt.event))

include follows batch

/-- Attempts are granted what pending events at the end of their lines ask for. -/
theorem of_granted {team user : Uuid} {request : Request}
    (granted : request ∈ grantedFor team user (attempts.flatMap Attempt.calls)) :
    ∃ last ∈ (line team user store.events).getLast?, last.isPending = true
      ∧ some request.access = last.kind.access? := by
  obtain ⟨made, rfl, rfl⟩ := mem_grantedFor.mp granted
  obtain ⟨attempt, inside, made⟩ := List.mem_flatMap.mp made
  obtain ⟨_, team, user, asks⟩ := Attempt.mem_calls made
  have pending := batch.pending _ (List.mem_map_of_mem inside)
  refine ⟨attempt.event, ?_, pending, asks⟩
  rw [team, user]
  exact follows.getLast?_of_pending (batch.inside _ (List.mem_map_of_mem inside)) pending

theorem grantedFor_eq_nil {team user : Uuid} {last : OutboxEvent}
    (ends : last ∈ (line team user store.events).getLast?) (settled : last.isPending = false) :
    grantedFor team user (attempts.flatMap Attempt.calls) = [] := by
  refine List.eq_nil_iff_forall_not_mem.mpr fun request granted => ?_
  obtain ⟨other, same, pending, _⟩ := of_granted follows batch granted
  rw [Option.mem_unique same ends, settled] at pending
  cases pending

variable (honoured : Honoured requests store.events)

include honoured

/-- Requests of a drain that was given up take nothing back. -/
theorem given_up : Honoured (requests ++ attempts.flatMap Attempt.calls) store.events := by
  intro team user last ends delivered
  have settled : last.isPending = false := by
    by_contra pending
    rw [Bool.not_eq_false, OutboxEvent.isPending_iff] at pending
    rw [OutboxEvent.IsDelivered, pending.1] at delivered
    cases delivered.1
  rw [lastGranted_append_of_nil (grantedFor_eq_nil follows batch ends settled)]
  exact honoured team user last ends delivered

include valid

/-- **What a drain delivers was granted.** -/
theorem drained : Honoured (requests ++ attempts.flatMap Attempt.calls)
    (attemptedAll policy attempts store.events) := by
  obtain ⟨change, changed, attempted, outcome, untouched⟩ :=
    @attemptedAll_eq_map _ policy _ valid batch
  intro team user last ends delivered
  rw [changed] at ends
  obtain ⟨before, was, rfl, became⟩ := Attempted.exists_last attempted ends
  obtain ⟨inside, rfl, rfl⟩ := mem_line.mp (List.mem_of_getLast? was)
  rw [became.kind_eq]
  cases pending : before.isPending with
  | false =>
    rw [became.eq_of_not_pending pending] at delivered
    exact given_up follows batch honoured _ _ before was delivered
  | true =>
    have unprocessed := (OutboxEvent.isPending_iff.mp pending).1
    obtain ⟨access, asks⟩ := EventKind.exists_access (follows.keyed before inside).1
    have made : before ∈ attempts.map Attempt.event := by
      by_contra other
      rw [untouched before inside other, OutboxEvent.IsDelivered, unprocessed] at delivered
      cases delivered.1
    obtain ⟨attempt, tried, rfl⟩ := List.mem_map.mp made
    rw [outcome attempt tried] at delivered
    have granted : (⟨access, attempt.event.team, attempt.event.user⟩ : Request)
        ∈ grantedFor attempt.event.team attempt.event.user (attempts.flatMap Attempt.calls) :=
      mem_grantedFor.mpr ⟨List.mem_flatMap.mpr ⟨attempt, tried,
        Attempt.calls_of_delivered (Attempt.failure_of_delivered unprocessed delivered) asks⟩, rfl, rfl⟩
    rw [asks]
    refine lastGranted_append_of_forall (List.ne_nil_of_mem granted) fun request member => ?_
    obtain ⟨last, ends, _, asked⟩ := of_granted follows batch member
    rw [Option.mem_unique ends was, asks] at asked
    exact Option.some.inj asked

end Honoured

/-! ### What passes do to lines and stays -/

/-- The line of a team and a user ends in what goes with being in the team. -/
def Store.Suits (store : Store) (team user : Uuid) : Prop :=
  ∀ last ∈ (line team user store.events).getLast?, (last.kind = .add ↔ store.HasStay team user)

namespace Reconcile

variable {kind : TeamKind} {mode : Mode} {team : Team} {before after : Store} {result : PassResult}

/-- **A pass ends a line in a pending event that suits the team**, or it leaves the line and who is in the
team alone. -/
theorem Established.line_cases {wanted : Uuid → Uuid → Option EventKind}
    (established : Established kind mode team before result after) (follows : Follows wanted after.events)
    (other user : Uuid) :
    (∃ last ∈ (line other user after.events).getLast?, last.isPending = true
        ∧ (last.kind = .add ↔ after.HasStay other user))
      ∨ line other user after.events = line other user before.events
        ∧ (after.HasStay other user ↔ before.HasStay other user) := by
  have waiting : ∀ {kind}, IsWaiting kind other user after.events →
      ∃ last ∈ (line other user after.events).getLast?, last.isPending = true ∧ last.kind = kind := by
    rintro kind ⟨event, inside, rfl, rfl, rfl, pending⟩
    exact ⟨event, follows.getLast?_of_pending inside pending, pending, rfl⟩
  by_cases same : other = team.id
  · subst same
    by_cases added : user ∈ result.added
    · obtain ⟨last, ends, pending, grants⟩ := waiting (established.grants user added).1
      have stays := (established.stays user).mpr ((established.added user).mp added).1
      exact .inl ⟨last, ends, pending, iff_of_true grants stays⟩
    · by_cases removed : user ∈ result.removed
      · obtain ⟨last, ends, pending, revokes⟩ := waiting (established.revokes user removed).1
        have gone := fun stays => ((established.removed user).mp removed).2
          ((established.stays user).mp stays)
        exact .inl ⟨last, ends, pending, iff_of_false (by rw [revokes]; exact nofun) gone⟩
      · refine .inr ⟨established.others _ _ fun changed => ?_, ?_⟩
        · exact (List.mem_append.mp changed.2).elim added removed
        · rw [established.added] at added
          rw [established.removed] at removed
          rw [established.stays]
          tauto
  · obtain ⟨joined, members, _, fields⟩ := established.members
    exact .inr ⟨established.others _ _ fun changed => same changed.1,
      hasStay_elsewhere members same fun stay inside => (fields stay inside).1⟩

end Reconcile

/-! ### The invariant -/

/-- How many identifiers of events have been issued. -/
def World.issued (world : World) : Nat := world.surroundings.issued.events

/-- **Lines, stays and granted requests go together** in the committed store. -/
structure Agrees (start : Nat) (world : World) : Prop where
  ascends : start ≤ world.issued
  valid : world.store.Valid
  numbered : Numbered start world.issued world.store.events
  follows : ∃ wanted, Follows wanted world.store.events
  suits : ∀ team ∈ world.store.teams, team.isSystem = true → ∀ user, world.store.Suits team.id user
  honoured : Honoured world.surroundings.requests world.store.events

/-- **What happened in between keeps the invariant**, if the identifiers issued since the start are
fresh. -/
structure Preserves (start : Nat) (before after : World) : Prop where
  ascends : before.issued ≤ after.issued
  agrees : Uuid.FreshBetween 14 start after.issued → Agrees start before → Agrees start after

instance (start : Nat) : IsPreorder World (Preserves start) where
  refl _ := ⟨Nat.le_refl _, fun _ agrees => agrees⟩
  trans _ _ _ first second := ⟨Nat.le_trans first.ascends second.ascends, fun fresh agrees =>
    second.agrees fresh (first.agrees (fresh.mono second.ascends) agrees)⟩

namespace Agrees

variable {start : Nat} {before after : World}

theorem of_empty {world : World} (valid : world.store.Valid) (empty : world.store.events = []) :
    Agrees world.issued world where
  ascends := Nat.le_refl _
  valid := valid
  numbered := by
    rw [empty]
    exact numbered_nil
  follows := by
    rw [empty]
    exact ⟨_, Follows.empty⟩
  suits team _ _ user last ends := by
    rw [empty] at ends
    cases ends
  honoured team user last ends := by
    rw [empty] at ends
    cases ends

variable (agrees : Agrees start before)

include agrees

/-- The surroundings may change while the store stays, if what was granted still is. -/
theorem of_store_eq (ascends : before.issued ≤ after.issued) (store : after.store = before.store)
    (honoured : Honoured after.surroundings.requests before.store.events) : Agrees start after := by
  refine ⟨Nat.le_trans agrees.ascends ascends, ?_, ?_, ?_, ?_, ?_⟩
  · exact store ▸ agrees.valid
  · exact store ▸ agrees.numbered.mono ascends
  · exact store ▸ agrees.follows
  · exact store ▸ agrees.suits
  · exact store ▸ honoured

/-- **A pass that was committed keeps the invariant.** -/
theorem of_reconciled {kind : TeamKind} {mode : Reconcile.Mode} {team : Team}
    {result : Reconcile.PassResult} (system : kind ≠ .none) (calm : before.Calm after)
    (reconciled : Reconcile.Reconciled kind mode team before result after) : Agrees start after := by
  obtain ⟨wanted, follows⟩ := agrees.follows
  have established := Reconcile.established_of_reconciled agrees.valid follows.keyed system reconciled
  have followsAfter := reconciled.events.follows (Reconcile.plain_orders _) follows
  have cases := established.line_cases followsAfter
  have requests : after.surroundings.requests = before.surroundings.requests := calm.requests
  refine ⟨Nat.le_trans agrees.ascends calm.issued.events, reconciled.valid,
    reconciled.events.numbered agrees.numbered agrees.ascends, ⟨_, followsAfter⟩,
    fun derived member isSystem user => ?_, fun other user last ends delivered => ?_⟩
  · obtain ⟨moment, _, teams⟩ := reconciled.teams
    rw [teams] at member
    obtain ⟨was, inside, sameId, sameKind⟩ :=
      Store.exists_retimed_iff.mp ⟨derived, member, rfl, rfl⟩
    have wasSystem : was.isSystem = true := by
      rw [Team.isSystem, sameKind]
      exact isSystem
    rw [← sameId]
    rcases cases was.id user with ⟨last, ends, _, suits⟩ | ⟨sameLine, sameStay⟩
    · intro other otherEnds
      rw [Option.mem_unique otherEnds ends]
      exact suits
    · unfold Store.Suits
      rw [sameLine, sameStay]
      exact agrees.suits was inside wasSystem user
  · rcases cases other user with ⟨pendingLast, pendingEnds, pending, _⟩ | ⟨sameLine, _⟩
    · rw [Option.mem_unique ends pendingEnds, OutboxEvent.IsDelivered,
        (OutboxEvent.isPending_iff.mp pending).1] at delivered
      cases delivered.1
    · rw [requests]
      rw [sameLine] at ends
      exact agrees.honoured other user last ends delivered

/-- **A drain that was committed keeps the invariant.** -/
theorem of_drained {policy : Policy} {attempts : List Attempt} (ascends : before.issued ≤ after.issued)
    (requests : after.surroundings.requests
      = before.surroundings.requests ++ attempts.flatMap Attempt.calls)
    (batch : IsBatch before.store (attempts.map Attempt.event)) (valid : after.store.Valid)
    (store : after.store = { before.store with
      events := attemptedAll policy attempts before.store.events }) : Agrees start after := by
  obtain ⟨wanted, follows⟩ := agrees.follows
  obtain ⟨change, changed, attempted, _⟩ :=
    @attemptedAll_eq_map _ policy _ agrees.valid batch
  have events : after.store.events = before.store.events.map change := by
    rw [store]
    exact changed
  refine ⟨Nat.le_trans agrees.ascends ascends, valid, ?_, ⟨wanted, ?_⟩,
    fun team member isSystem user last ends => ?_, ?_⟩
  · rw [events]
    exact (agrees.numbered.mono ascends).map fun event member => (attempted event member).id_eq
  · rw [events]
    exact follows.attempted attempted
  · rw [events] at ends
    obtain ⟨was, wasLast, _, became⟩ := Attempted.exists_last attempted ends
    rw [store] at member ⊢
    rw [became.kind_eq]
    exact agrees.suits team member isSystem user was wasLast
  · rw [requests, store]
    exact agrees.honoured.drained agrees.valid follows batch

end Agrees

/-! ### Steps -/

theorem Preserves.of_calm {start : Nat} {before after : World} (calm : before.Calm after)
    (store : after.store = before.store) : Preserves start before after := by
  have requests : after.surroundings.requests = before.surroundings.requests := calm.requests
  refine ⟨calm.issued.events, fun _ agrees => agrees.of_store_eq calm.issued.events store ?_⟩
  rw [requests]
  exact agrees.honoured

/-- **A pass keeps the invariant**, whichever way it ends. -/
theorem preserves_pass (start : Nat) (kind : TeamKind) (mode : Reconcile.Mode) :
    Keeps (Preserves start) (Reconcile.pass kind none mode) := by
  intro world
  have calm := Reconcile.keeps_pass kind mode world
  cases ran : Reconcile.pass kind none mode world with
  | error failure after =>
    rw [ran] at calm
    exact .of_calm calm (Reconcile.pass_error ran)
  | ok result after =>
    rw [ran] at calm
    refine ⟨calm.issued.events, fun fresh agrees => ?_⟩
    have free := agrees.numbered.free agrees.ascends fresh
    rcases Reconcile.pass_ok agrees.valid free ran (Nat.le_refl _) with ⟨same, _⟩ | ⟨team, reconciled⟩
    · exact (Preserves.of_calm calm same).agrees fresh agrees
    · have system : kind ≠ .none := by
        rintro rfl
        cases ran
      exact agrees.of_reconciled system calm reconciled

theorem Application.preserves_act {α : Type} (start : Nat) {action : Act α}
    (kept : Keeps Surroundings.Calm action) : Keeps (Preserves start) (Application.act action) := by
  intro world
  have calm := kept world.surroundings
  unfold Application.act
  cases ran : action world.surroundings with
  | ok result now =>
    rw [ran] at calm
    exact .of_calm calm rfl
  | error failure now =>
    rw [ran] at calm
    exact .of_calm calm rfl

/-- **Runs over derived teams keep the invariant**, as far as they get. -/
theorem preserves_passes (start : Nat) (mode : Reconcile.Mode) (kinds : List TeamKind) :
    Keeps (Preserves start) (Reconcile.passes mode kinds) := by
  induction kinds with
  | nil => exact Keeps.pure _
  | cons kind rest ih =>
    refine Keeps.bind (Application.preserves_act start Act.keeps_isCancelled) fun cancelled => ?_
    refine Keeps.ite (Keeps.bind (Application.preserves_act start (Act.keeps_note _)) fun _ =>
      Keeps.pure _) ?_
    exact Keeps.bind (preserves_pass start kind mode) fun _ => Keeps.bind ih fun _ => Keeps.pure _

theorem preserves_all (start : Nat) (mode : Reconcile.Mode) :
    Keeps (Preserves start) (Reconcile.all mode) :=
  Keeps.bind (Application.preserves_act start (Act.keeps_note _)) fun _ =>
    Keeps.bind (preserves_passes start mode _) fun _ =>
      Keeps.bind (Application.preserves_act start (Act.keeps_note _)) fun _ => Keeps.pure _

/-- **Relaying events keeps the invariant.** -/
theorem preserves_relayEvents (start : Nat) (settings : Settings) :
    Keeps (Preserves start) (Job.relayEvents settings) := by
  intro world
  have ascends := (Job.ascends_relayEvents settings world).events
  refine ⟨ascends, fun _ agrees => ?_⟩
  obtain ⟨wanted, follows⟩ := agrees.follows
  obtain ⟨attempts, some, asked, valid, outcome⟩ := Job.relayEvents_attempts settings agrees.valid
  have batch := (isBatch_pendingIn agrees.valid _ _).of_first some
  rcases outcome with same | drained
  · refine agrees.of_store_eq ascends same ?_
    rw [asked.requests]
    exact agrees.honoured.given_up follows batch
  · exact agrees.of_drained ascends asked.requests batch valid drained

/-- **An edit of what is not derived**: the derived teams, who is in them and the events stay, and the
store keeps its rules. -/
structure Store.Edited (before after : Store) : Prop where
  valid : after.Valid
  teams : after.teams.filter Team.isSystem = before.teams.filter Team.isSystem
  stays : ∀ team ∈ before.teams, team.isSystem = true → ∀ user,
    (after.HasStay team.id user ↔ before.HasStay team.id user)
  events : after.events = before.events

/-- **What may happen next**, some time later and whichever way it ends: a pass over the teams of a kind,
a run over all derived teams, a job that relays events, or an edit. -/
inductive World.Step (world : World) : World → Prop where
  | pass (now : Surroundings) (kind : TeamKind) (mode : Reconcile.Mode) :
      Step world (endOf (Reconcile.pass kind none mode (world.resumed now)))
  | all (now : Surroundings) (mode : Reconcile.Mode) :
      Step world (endOf (Reconcile.all mode (world.resumed now)))
  | relay (now : Surroundings) (settings : Settings) :
      Step world (endOf (Job.relayEvents settings (world.resumed now)))
  | edit (now : Surroundings) {store : Store} (edited : world.store.Edited store) :
      Step world { world.resumed now with store }

/-- **An edit keeps the invariant.** -/
theorem Agrees.of_edited {start : Nat} {before : World} (agrees : Agrees start before) {store : Store}
    (edited : before.store.Edited store) (now : Surroundings) :
    Agrees start { before.resumed now with store } := by
  refine ⟨agrees.ascends, edited.valid, edited.events ▸ agrees.numbered, edited.events ▸ agrees.follows,
    fun team member isSystem user => ?_, edited.events ▸ agrees.honoured⟩
  have inside : team ∈ before.store.teams.filter Team.isSystem := by
    rw [← edited.teams]
    exact List.mem_filter.mpr ⟨member, isSystem⟩
  obtain ⟨known, _⟩ := List.mem_filter.mp inside
  show store.Suits team.id user
  unfold Store.Suits
  rw [edited.events, edited.stays team known isSystem]
  exact agrees.suits team known isSystem user

/-- **Every step keeps the invariant.** -/
theorem World.Step.preserves {before after : World} (step : before.Step after) (start : Nat) :
    Preserves start before after := by
  have later : ∀ now, Preserves start before (before.resumed now) := fun now =>
    ⟨Nat.le_refl _, fun _ agrees => agrees.of_store_eq (Nat.le_refl _) rfl agrees.honoured⟩
  cases step with
  | pass now kind mode => exact trans_of _ (later now) (preserves_pass start kind mode _)
  | all now mode => exact trans_of _ (later now) (preserves_all start mode _)
  | relay now settings => exact trans_of _ (later now) (preserves_relayEvents start settings _)
  | edit now edited => exact ⟨Nat.le_refl _, fun _ agrees => agrees.of_edited edited now⟩

/-- **Every run keeps the invariant.** -/
theorem preserves_run {first last : World} (run : Relation.ReflTransGen World.Step first last)
    (start : Nat) : Preserves start first last := by
  induction run with
  | refl => exact refl_of _ first
  | tail earlier step ih => exact trans_of _ ih (step.preserves start)

/-! ### Membership and access -/

/-- **Being in a team and having its access go together**, for a team and a user: at most one event is
pending, one that is grants the access if the user is in the team and revokes it if not, and if none is
and the last event was not given up, the same was granted last. -/
structure Agreed (world : World) (team user : Uuid) : Prop where
  single : ((line team user world.store.events).filter OutboxEvent.isPending).length ≤ 1
  pending : ∀ event ∈ line team user world.store.events, event.isPending = true →
    event.kind ∈ EventKind.all ∧ (event.kind = .add ↔ world.store.HasStay team user)
  relayed : (∀ event ∈ line team user world.store.events, event.isPending = false) →
    ∀ last ∈ (line team user world.store.events).getLast?, ¬ last.IsAbandoned →
      ∃ access, lastGranted team user world.surroundings.requests = some access
        ∧ (access = .granted ↔ world.store.HasStay team user)

theorem EventKind.access?_eq_granted_iff {kind : EventKind} :
    kind.access? = some .granted ↔ kind = .add := by
  cases kind <;> simp [access?]

theorem Agrees.agreed {start : Nat} {world : World} (agrees : Agrees start world) {team : Team}
    (member : team ∈ world.store.teams) (isSystem : team.isSystem = true) (user : Uuid) :
    Agreed world team.id user := by
  obtain ⟨wanted, follows⟩ := agrees.follows
  have suits := agrees.suits team member isSystem user
  refine ⟨follows.length_pending_le_one _ _, fun event inLine pending => ?_,
    fun settled last ends kept => ?_⟩
  · obtain ⟨inside, sameTeam, sameUser⟩ := mem_line.mp inLine
    have ends := follows.getLast?_of_pending inside pending
    rw [sameTeam, sameUser] at ends
    exact ⟨(follows.keyed event inside).1, suits event ends⟩
  · have inLine := List.mem_of_getLast? ends
    have delivered : last.IsDelivered := by
      rcases follows.alive _ _ last ends with pending | delivered | abandoned
      · rw [settled last inLine] at pending
        cases pending
      · exact delivered
      · exact absurd abandoned kept
    obtain ⟨access, asks⟩ := EventKind.exists_access (follows.keyed last (mem_line.mp inLine).1).1
    refine ⟨access, (agrees.honoured _ _ last ends delivered).trans asks, ?_⟩
    rw [← suits last ends, ← EventKind.access?_eq_granted_iff, asks, Option.some_inj]

/-- **Membership and external access agree**, whatever happened since the outbox was empty. -/
theorem membership_and_access_agree {start world : World} (valid : start.store.Valid)
    (empty : start.store.events = []) (run : Relation.ReflTransGen World.Step start world)
    (fresh : Uuid.FreshBetween 14 start.issued world.issued) {team : Team}
    (member : team ∈ world.store.teams) (system : team.isSystem = true) (user : Uuid) :
    Agreed world team.id user :=
  ((preserves_run run start.issued).agrees fresh (.of_empty valid empty)).agreed member system user

/-- An approved volunteer who is in no team yet. -/
def newcomer : World where
  surroundings := default
  store := {
    profiles := [{ (default : Profile) with isApproved := true }]
    teams := [{ (default : Team) with kind := .volunteers }] }

/-- A pass over the volunteers, and what it changed is relayed. -/
def broughtUpToDate (world : World) : World :=
  endOf (Job.relayEvents { database := default }
    ((endOf (Reconcile.pass .volunteers none default (world.resumed { clock := default }))).resumed
      { clock := default }))

/-- The newcomer was admitted, and is suspended then. -/
def suspended : World where
  surroundings := (broughtUpToDate newcomer).surroundings.meanwhile { clock := default }
  store := { (broughtUpToDate newcomer).store with
    profiles := [{ (default : Profile) with isApproved := true, isSuspended := true }] }

theorem run_broughtUpToDate (world : World) :
    Relation.ReflTransGen World.Step world (broughtUpToDate world) :=
  .tail (.single (.pass _ _ _)) (.relay _ _)

theorem run_suspended : Relation.ReflTransGen World.Step newcomer suspended := by
  refine .tail (run_broughtUpToDate newcomer) (.edit { clock := default } ⟨?_, rfl, ?_, rfl⟩)
  · decide +kernel
  · exact fun _ _ _ _ => Iff.rfl

/-- Who is suspended has left the team, and the access that was granted before was revoked last. -/
theorem suspended_loses_access :
    Agreed (broughtUpToDate suspended) default default
      ∧ (broughtUpToDate suspended).surroundings.requests.map (fun call => (call.1.access, call.2))
        = [(.granted, true), (.revoked, true)] := by
  -- the whole scene is evaluated once, for all that is asked about it
  have outcome : { (default : Team) with kind := .volunteers } ∈ (broughtUpToDate suspended).store.teams
      ∧ (broughtUpToDate suspended).issued ≤ newcomer.issued + 2 ^ 128
      ∧ (broughtUpToDate suspended).surroundings.requests.map (fun call => (call.1.access, call.2))
        = [(.granted, true), (.revoked, true)] := by decide +kernel
  obtain ⟨member, few, requests⟩ := outcome
  refine ⟨?_, requests⟩
  exact @membership_and_access_agree newcomer _ (by decide +kernel) rfl
    (run_suspended.trans (run_broughtUpToDate _)) (Uuid.freshBetween_of_le few) _ member rfl default

end Roster
