/-
**The derived teams can be reconciled in any order.**

Each pass does what it had to do before the others were made, and leaves to the others what they have to do.
So all of them together leave behind what their tasks add up to, and the order of the tasks shows only in the
identifiers and in the order of the new rows.

* `inTurn`, `plan` — passes one after another, and what they have to do.
* `InTurn` — **what some of the passes leave behind and leave to do**; `InTurn.step` — one more pass;
  `inTurn_returns` — without an outage all of them are made.
* `GrewAlike`, `Alike` — two stores are the same up to the identifiers and the order of what was added;
  `Worked.alike` — **the same tasks leave the same behind in any order**.
* `AllReconciled` — the teams consist of those who were entitled, and there is nothing to do;
  `passes_commute_and_settle` — **the derived teams are reconciled in any order, and once**.
-/

import Roster.Proofs.Reconcile.Idle
import Roster.Proofs.Reconcile.Worked

namespace Roster.Reconcile

open EStateM (Result)

/-- Passes over the teams of some kinds, one after another. -/
def inTurn (mode : Mode) (kinds : List TeamKind) : Application Unit :=
  kinds.forM fun kind => do let _ ← pass kind none mode

/-- What passes over the teams of some kinds have to do. -/
def plan (now : Instant) (kinds : List TeamKind) (store : Store) : List Task :=
  kinds.flatMap fun kind => tasksOf kind now store

variable {kind other : TeamKind} {kinds done : List TeamKind} {mode : Mode} {now : Instant}
  {store : Store} {start between after : World} {result : PassResult}

theorem plan_concat :
    plan now (kinds ++ [kind]) store = plan now kinds store ++ tasksOf kind now store := by
  rw [plan, List.flatMap_append, List.flatMap_singleton]
  rfl

theorem length_plan_le (valid : store.Valid) (system : ∀ kind ∈ kinds, kind ≠ .none) :
    (plan now kinds store).length ≤ kinds.length * changeLimit store := by
  induction kinds with
  | nil => exact Nat.zero_le _
  | cons kind rest ih =>
    obtain ⟨own, others⟩ := List.forall_mem_cons.mp system
    have few := @length_tasksOf_le kind now store valid own
    rw [plan, List.flatMap_cons, List.length_append, List.length_cons, Nat.add_mul, Nat.one_mul,
      Nat.add_comm (_ * _)]
    exact Nat.add_le_add few (ih others)

theorem kind_of_mem_plan {task : Task} (member : task ∈ plan now kinds store) :
    task.team ∈ store.teams ∧ task.team.kind ∈ kinds := by
  obtain ⟨kind, listed, inside⟩ := List.mem_flatMap.mp member
  obtain ⟨team, rfl⟩ := team_of_mem_tasksOf inside
  exact ⟨team, listed⟩

/-- **The orders of passes over different teams do not meet.** -/
theorem apart_plan (valid : store.Valid) (once : kinds.Nodup) (system : ∀ kind ∈ kinds, kind ≠ .none) :
    ((plan now kinds store).map (Task.order mode)).Pairwise fun a b => ¬ b.IsAbout a.team a.user := by
  rw [List.pairwise_map, plan, List.pairwise_flatMap]
  refine ⟨fun kind listed => ?_, once.imp fun different one inside other member about => different ?_⟩
  · rcases @teamsOfIn_cases kind store valid (system kind listed) with missing | ⟨team, found⟩
    · rw [tasksOf_of_missing missing]
      exact .nil
    · have apart := @apart_changesIn _ (Eligibility.eligibleIn kind now store) valid mode team
      rw [tasksOf_of_found found, List.pairwise_map]
      exact List.pairwise_map.mp apart
  · obtain ⟨here, kind⟩ := team_of_mem_tasksOf inside
    obtain ⟨there, otherKind⟩ := team_of_mem_tasksOf member
    rw [← kind, ← otherKind, Store.eq_of_id_eq valid.teamIds here there about.1.symm]

/-! ### Passes one after another -/

/-- A pass does not change what any rule answers, whether it changed anything or not. -/
theorem eligibleIn_eq_of_pass (valid : between.store.Valid) (system : kind ≠ .none)
    (ran : pass kind none mode between = .ok result after) :
    Eligibility.eligibleIn other now after.store = Eligibility.eligibleIn other now between.store := by
  rcases pass_imposes valid Eligibility.onlyAsks_none ran with
    ⟨same, _⟩ | ⟨_, _, _, _, _, imposed⟩
  · rw [same]
  · exact imposed.eligibleIn_eq valid system

/-- A pass leaves to the others what they have to do, whether it changed anything or not. -/
theorem tasksOf_eq_of_pass (valid : between.store.Valid) (system : kind ≠ .none)
    (ran : pass kind none mode between = .ok result after) (different : other ≠ kind) :
    teamsOfIn other after.store = teamsOfIn other between.store
      ∧ tasksOf other now after.store = tasksOf other now between.store := by
  rcases pass_imposes valid Eligibility.onlyAsks_none ran with
    ⟨same, _⟩ | ⟨_, _, _, _, _, imposed⟩
  · rw [same]
    exact ⟨rfl, rfl⟩
  · exact ⟨imposed.teamsOfIn_eq valid different, imposed.tasksOf_eq valid system different⟩

/-- **Some of the passes were made** from a start on: their tasks were done, nothing is left to them, and the
other kinds have the teams and the tasks that they had. -/
structure InTurn (mode : Mode) (start : World) (done : List TeamKind) (between : World) : Prop where
  worked : Worked mode start (plan mode.now done start.store) between
  settled : ∀ kind ∈ done, tasksOf kind mode.now between.store = []
  unseen : ∀ kind ∉ done, teamsOfIn kind between.store = teamsOfIn kind start.store
    ∧ tasksOf kind mode.now between.store = tasksOf kind mode.now start.store
  eligible : ∀ kind, Eligibility.eligibleIn kind mode.now between.store
    = Eligibility.eligibleIn kind mode.now start.store

theorem inTurn_nil (valid : start.store.Valid) : InTurn mode start [] start where
  worked := worked_nil valid
  settled := List.forall_mem_nil _
  unseen _ _ := ⟨rfl, rfl⟩
  eligible _ := rfl

/-- **One more pass.** -/
theorem InTurn.step {last : Nat} (made : InTurn mode start done between) (valid : start.store.Valid)
    (system : kind ≠ .none) (new : kind ∉ done)
    (free : Uuid.FreeBetween 14 between.surroundings.issued.events last
      (between.store.events.map OutboxEvent.id))
    (ran : pass kind none mode between = .ok result after)
    (below : after.surroundings.issued.events ≤ last) : InTurn mode start (done ++ [kind]) after := by
  have validBetween := made.worked.valid
  obtain ⟨teams, tasks⟩ := made.unseen kind new
  refine ⟨?_, fun earlier listed => ?_, fun later unlisted => ?_, fun any => ?_⟩
  · rw [plan_concat]
    refine made.worked.step valid system tasks teams (fun task inside same => new ?_) free ran below
    exact same ▸ (kind_of_mem_plan inside).2
  · rcases List.mem_append.mp listed with old | own
    · have different : earlier ≠ kind := fun same => new (same ▸ old)
      rw [(tasksOf_eq_of_pass validBetween system ran different).2]
      exact made.settled earlier old
    · obtain rfl := List.mem_singleton.mp own
      exact tasksOf_eq_nil_of_pass validBetween system ran
  · obtain ⟨unmade, different⟩ := not_or.mp (mt List.mem_append.mpr unlisted)
    obtain ⟨sameTeams, sameTasks⟩ := @tasksOf_eq_of_pass kind later mode mode.now between after result
      validBetween system ran (mt List.mem_singleton.mpr different)
    obtain ⟨before, beforeTasks⟩ := made.unseen later unmade
    exact ⟨sameTeams.trans before, sameTasks.trans beforeTasks⟩
  · exact (eligibleIn_eq_of_pass validBetween system ran).trans (made.eligible any)

/-- **The teams of the passes that were made consist of those who were entitled at the start.** -/
theorem InTurn.stays {team : Team} (made : InTurn mode start done between) (valid : start.store.Valid)
    (member : team ∈ start.store.teams) (system : team.kind ≠ .none) (listed : team.kind ∈ done)
    (user : Uuid) :
    between.store.HasStay team.id user ↔ start.store.Entitled team.kind mode.now user := by
  have validBetween := made.worked.valid
  have kept : (marked mode (plan mode.now done start.store) team).kind = team.kind := by
    unfold marked
    split <;> rfl
  have inside : marked mode (plan mode.now done start.store) team ∈ between.store.teams := by
    rw [made.worked.teams]
    exact List.mem_map_of_mem member
  have found := teamsOfIn_eq validBetween inside (kept ▸ system)
  rw [kept] at found
  have stays := (tasksOf_eq_nil_iff validBetween system).mp (made.settled _ listed) _ found user
  rw [marked_id] at stays
  rw [stays, ← Eligibility.mem_eligibleIn_iff validBetween, made.eligible,
    Eligibility.mem_eligibleIn_iff valid]

/-- **Without an outage all passes are made**, in whatever order they are listed. -/
theorem inTurn_returns (valid : start.store.Valid) (up : start.surroundings.IsUp) (once : kinds.Nodup)
    (system : ∀ kind ∈ kinds, kind ≠ .none)
    (free : HasFree start.surroundings.issued start.store (plan mode.now kinds start.store).length) :
    ∃ after, inTurn mode kinds start = .ok () after ∧ InTurn mode start kinds after := by
  -- By induction over the passes: what the earlier ones left free suffices for those to come.
  refine forM_of_step (inTurn_nil valid) fun done kind rest between split earlier => ?_
  subst split
  have new : kind ∉ done := fun old => (List.nodup_append.mp once).2.2 _ old _ List.mem_cons_self rfl
  have derived := system kind (List.mem_append_right _ List.mem_cons_self)
  have room : (plan mode.now (done ++ kind :: rest) start.store).length
      = (plan mode.now done start.store).length + ((tasksOf kind mode.now start.store).length
        + (plan mode.now rest start.store).length) := by
    rw [plan, List.flatMap_append, List.flatMap_cons, List.length_append, List.length_append]
    rfl
  have left := (earlier.worked.free (room ▸ free)).mono (Nat.le_add_right _ _)
  rw [← (earlier.unseen kind new).2] at left
  obtain ⟨result, after, ran, below⟩ := pass_returns earlier.worked.valid (earlier.worked.calm.up up)
    derived left
  exact ⟨after, bind_eq_ok.mpr ⟨result, after, ran, rfl⟩,
    earlier.step valid derived new left.events ran below⟩

/-! ### The same in any order -/

/-- **Two tables grew alike**: the rows that were there before are the same in both and in the same order,
and those that were added are the same up to their identifiers and their order. -/
def GrewAlike {α : Type} (idOf : α → Uuid) (withoutId : α → α) (before one other : List α) : Prop :=
  ∃ kept new others, one = kept ++ new ∧ other = kept ++ others ∧ kept.map idOf = before.map idOf
    ∧ (new.map withoutId).Perm (others.map withoutId)

/-- **Two stores are alike** after changes to one store: the stays, the entries and the events are the same
up to the identifiers and the order of what was added, and everything else is the same, the times at which
the teams changed among it. -/
structure Alike (before one other : Store) : Prop where
  members : GrewAlike TeamMember.id TeamMember.withoutId before.members one.members other.members
  audit : GrewAlike AuditEntry.id AuditEntry.withoutId before.audit one.audit other.audit
  events : GrewAlike OutboxEvent.id OutboxEvent.withoutId before.events one.events other.events
  teams : one.teams = other.teams
  rest : one = { other with members := one.members, audit := one.audit, events := one.events }

theorem leftBy_perm {changes others : List Change} (perm : changes.Perm others) :
    leftBy mode changes = leftBy mode others :=
  funext fun _ => if_congr perm.mem_iff rfl rfl

theorem marked_perm {tasks others : List Task} (perm : tasks.Perm others) :
    marked mode tasks = marked mode others :=
  funext fun _ => if_congr (perm.map Task.team).mem_iff rfl rfl

/-- The orders of tasks are for what is relayed, with their default keys. -/
theorem plain_orders_tasks (tasks : List Task) : ∀ order ∈ tasks.map (Task.order mode),
    order.kind ∈ EventKind.all ∧ order.IsDefault := by
  intro order member
  obtain ⟨⟨team, change⟩, _, rfl⟩ := List.mem_map.mp member
  exact @plain_orders mode team [change] _ List.mem_cons_self

/-- **The same tasks leave the same behind in any order**, whatever identifiers are issued. -/
theorem Worked.alike {again later : World} {tasks others : List Task}
    (worked : Worked mode start tasks after) (reworked : Worked mode again others later)
    (same : again.store = start.store) (perm : tasks.Perm others)
    (keyed : ∀ event ∈ start.store.events, event.Keyed)
    (apart : (tasks.map (Task.order mode)).Pairwise fun a b => ¬ b.IsAbout a.team a.user) :
    Alike start.store after.store later.store := by
  have ended := @leftBy_perm mode _ _ (perm.map Task.change)
  have orders := perm.map (Task.order mode)
  have teams : after.store.teams = later.store.teams := by
    rw [worked.teams, reworked.teams, same, marked_perm perm]
  refine ⟨?_, ?_, ?_, teams, ?_⟩
  · obtain ⟨joined, members, names, _⟩ := worked.members
    obtain ⟨rejoined, remembers, renames, _⟩ := reworked.members
    refine ⟨_, joined, rejoined, members, ?_, map_id_leftBy _ _, ?_⟩
    · rw [remembers, same, ended]
    · rw [names, renames]
      exact perm.filterMap _
  · obtain ⟨entries, audit, names, _⟩ := worked.audit
    obtain ⟨reentries, reaudit, renames, _⟩ := reworked.audit
    refine ⟨_, entries, reentries, audit, by rw [reaudit, same], rfl, ?_⟩
    rw [names, renames, same]
    exact perm.map _
  · have enqueued := reworked.events
    rw [same] at enqueued
    obtain ⟨placed, events, names⟩ := worked.events.shape (plain_orders_tasks _) keyed apart
    obtain ⟨replaced, reevents, renames⟩ := enqueued.shape (plain_orders_tasks _) keyed
      (apart.perm orders fun about back => about ⟨back.1.symm, back.2.symm⟩)
    -- Which orders take effect follows from the events of the start alone.
    have took := @Outbox.effective_perm _ _ start.store.events orders
    refine ⟨_, placed, replaced, events, ?_, ?_, ?_⟩
    · rw [reevents]
      refine congrArg (· ++ _) (List.map_congr_left fun event _ => ?_)
      exact (Outbox.settledBy_perm took (apart.filter _)).symm
    · rw [List.map_map]
      exact List.map_congr_left fun event _ => Outbox.settledBy_id
    · rw [names, renames]
      exact took.map _
  · rw [worked.rest, reworked.rest, same, teams]

theorem system_of_perm (perm : kinds.Perm order) : kinds.Nodup ∧ ∀ kind ∈ kinds, kind ≠ .none := by
  refine ⟨perm.nodup_iff.mpr (by decide), fun kind listed => ?_⟩
  exact (by decide : ∀ kind ∈ order, kind ≠ .none) kind (perm.mem_iff.mp listed)

/-- **The derived teams are reconciled** for a time: each of them consists of those who were entitled before,
and there is nothing to do any more. -/
structure AllReconciled (now : Instant) (before after : Store) : Prop where
  stays : ∀ team ∈ before.teams, team.kind ≠ .none → ∀ user,
    after.HasStay team.id user ↔ before.Entitled team.kind now user
  idle : Idle now after

theorem mem_order_of_ne (system : kind ≠ .none) : kind ∈ order := by
  cases kind with
  | none => exact absurd rfl system
  | volunteers => decide
  | metaleads => decide
  | board => decide

theorem InTurn.allReconciled (made : InTurn mode start kinds after) (valid : start.store.Valid)
    (listed : kinds.Perm order) : AllReconciled mode.now start.store after.store where
  stays _ member system := made.stays valid member system
    (listed.mem_iff.mpr (mem_order_of_ne system))
  idle := idle_of_nothing made.worked.valid fun kind member =>
    ⟨(system_of_perm listed).2 kind (listed.mem_iff.mpr member),
      made.settled kind (listed.mem_iff.mpr member)⟩

/-- **The derived teams are reconciled in any order, and once.** From a store that keeps its rules and whose
events carry their default keys, the passes over the three derived teams return in every order; two orders,
also with other identifiers at hand, leave stores that are alike; and in both the teams are reconciled, with
nothing to do any more for the same time. -/
theorem passes_commute_and_settle {one two : Surroundings} {first second : List TeamKind} (mode : Mode)
    (valid : store.Valid) (keyed : ∀ event ∈ store.events, event.Keyed) (up : one.IsUp) (alsoUp : two.IsUp)
    (free : HasFree one.issued store (3 * changeLimit store))
    (alsoFree : HasFree two.issued store (3 * changeLimit store)) (listed : first.Perm order)
    (alsoListed : second.Perm order) :
    ∃ after other, inTurn mode first ⟨one, store⟩ = .ok () after
      ∧ inTurn mode second ⟨two, store⟩ = .ok () other
      ∧ Alike store after.store other.store
      ∧ AllReconciled mode.now store after.store ∧ AllReconciled mode.now store other.store := by
  have returns : ∀ (now : Surroundings) (kinds : List TeamKind), now.IsUp →
      HasFree now.issued store (3 * changeLimit store) → kinds.Perm order →
        ∃ after, inTurn mode kinds ⟨now, store⟩ = .ok () after ∧ InTurn mode ⟨now, store⟩ kinds after := by
    intro now kinds up free listed
    obtain ⟨once, system⟩ := system_of_perm listed
    have few := @length_plan_le kinds mode.now store valid system
    rw [listed.length_eq] at few
    exact @inTurn_returns kinds mode ⟨now, store⟩ valid up once system (free.mono few)
  obtain ⟨after, ran, made⟩ := returns one first up free listed
  obtain ⟨other, alsoRan, alsoMade⟩ := returns two second alsoUp alsoFree alsoListed
  obtain ⟨once, system⟩ := system_of_perm listed
  have samePlan := (listed.trans alsoListed.symm).flatMap_right fun kind => tasksOf kind mode.now store
  exact ⟨after, other, ran, alsoRan,
    made.worked.alike alsoMade.worked rfl samePlan keyed (apart_plan valid once system),
    made.allReconciled valid listed, alsoMade.allReconciled valid alsoListed⟩

/-- The newcomer of `turnover` leads an ordinary team, too, and is still to be removed from the volunteers
elsewhere. -/
def promotion : Store :=
  { turnover.store with
    enforcesReferences := true
    teams := { (default : Team) with id := .numbered 2 4, slug := "kitchen" } :: turnover.store.teams
    members := { (default : TeamMember) with
      id := .numbered 11 0, team := .numbered 2 4, user := .numbered 1 1, role := .metalead }
        :: turnover.store.members
    events := [({ kind := .remove, team := .numbered 2 1, user := .numbered 1 1 } : Outbox.Order).event
      (.numbered 14 0) default] }

/-- Surroundings in which so many stays, entries and events got their identifiers. -/
def afterIssuing (count : Nat) : Surroundings :=
  { (default : Surroundings) with issued := { (default : Issued) with
    entries := count, members := count, events := count } }

theorem hasFree_promotion {count : Nat} (few : count ≤ 50) :
    HasFree (afterIssuing count).issued promotion (3 * changeLimit promotion) := by
  have limit : 3 * changeLimit promotion = 15 := by decide
  have unused : ∀ number ≤ 65, 0 < number →
      .numbered 11 number ∉ promotion.members.map TeamMember.id
        ∧ .numbered 14 number ∉ promotion.events.map OutboxEvent.id := by decide +kernel
  have above : ∀ number, count < number → number ≤ count + 15 → number ≤ 65 ∧ 0 < number :=
    fun number after bound => ⟨by omega, by omega⟩
  rw [limit]
  refine ⟨⟨Uuid.freshBetween_of_le (by omega), fun number after bound => ?_⟩,
    ⟨Uuid.freshBetween_of_le (by omega), fun _ _ _ => List.not_mem_nil⟩,
    ⟨Uuid.freshBetween_of_le (by omega), fun number after bound => ?_⟩⟩
  · exact (unused number (above number after bound).1 (above number after bound).2).1
  · exact (unused number (above number after bound).1 (above number after bound).2).2

/-- There somebody joins the volunteers and the metaleads, and somebody leaves the volunteers, in whatever
order. -/
theorem promotion_in_any_order : (plan default order promotion).length = 3
    ∧ ∃ after other, inTurn default order ⟨afterIssuing 0, promotion⟩ = .ok () after
      ∧ inTurn default order.reverse ⟨afterIssuing 50, promotion⟩ = .ok () other
      ∧ Alike promotion after.store other.store ∧ AllReconciled default promotion after.store := by
  obtain ⟨after, other, ran, alsoRan, alike, reconciled, _⟩ := @passes_commute_and_settle
    promotion (afterIssuing 0) (afterIssuing 50) order order.reverse default (by decide +kernel)
    (by decide +kernel) rfl rfl (hasFree_promotion (Nat.zero_le 50))
    (hasFree_promotion (Nat.le_refl 50)) (List.Perm.refl order) (List.reverse_perm order)
  exact ⟨by decide +kernel, after, other, ran, alsoRan, alike, reconciled⟩

end Roster.Reconcile
