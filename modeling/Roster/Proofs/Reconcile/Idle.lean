/-
**Reconciling what is reconciled.**

Where a pass has nothing to do it leaves the store as it was, reports no change and asks for no commit,
also when it fails on the way. A run over the derived teams then does the same, whatever happens between its
passes and wherever it stops.

* `pass_returns` — without an outage a pass returns, whether or not there is a team of its kind.
* `Rests` — **a pass changes nothing**; `rests_of_nothing` — it has nothing to do.
* `Idle` — **there is nothing to do for a time**: every pass rests and every run leaves the store;
  `idle_of_nothing`.
-/

import Roster.Proofs.Reconcile.Atomicity
import Roster.Proofs.Reconcile.Tasks

namespace Roster.Reconcile

open EStateM (Result)

variable {kind : TeamKind} {kinds : List TeamKind} {mode : Mode} {team : Team} {now : Instant}
  {store : Store} {world after : World} {result : PassResult} {run : SyncRun}
  {happens : TeamKind → Surroundings → Surroundings}

/-! ### Passes that return -/

theorem length_tasksOf_le (valid : store.Valid) (system : kind ≠ .none) :
    (tasksOf kind now store).length ≤ changeLimit store := by
  rcases teamsOfIn_cases valid system with missing | ⟨team, found⟩
  · rw [tasksOf_of_missing missing]
    exact Nat.zero_le _
  · rw [tasksOf_of_found found, List.length_map]
    exact length_changesIn_le valid team.id now

/-- **Without an outage a pass over a derived team returns**, whether or not there is such a team, and it
issues at most one identifier of an event for each of its tasks. -/
theorem pass_returns (valid : world.store.Valid) (up : world.surroundings.IsUp) (system : kind ≠ .none)
    (free : HasFree world.surroundings.issued world.store (tasksOf kind mode.now world.store).length) :
    ∃ result after, pass kind none mode world = .ok result after
      ∧ after.surroundings.issued.events
        ≤ world.surroundings.issued.events + (tasksOf kind mode.now world.store).length := by
  obtain ⟨rule, builtIn⟩ := Eligibility.exists_builtIn system
  rcases teamsOfIn_cases valid system with missing | ⟨team, found⟩
  · have reads := @Transaction.readOne_of_settled _ (teamsOfIn kind) world.session none
      (World.settled_session valid) up missing
    have ran : body kind rule mode world.session = bodyOf kind rule mode none
        { world.session with opened := true } := by
      rw [body_eq, bind_of_ok reads]
    rw [pass_apply builtIn, Application.transact_of_discard ran]
    exact ⟨_, _, rfl, Nat.le_add_right _ _⟩
  · rw [tasksOf_of_found found, List.length_map] at free ⊢
    exact pass_of_isUp builtIn valid up found (enters_changesIn fun enforced =>
      ⟨List.mem_map_of_mem (mem_of_teamsOfIn found).1, fun user asked => known_of_entitled valid enforced
        ((Eligibility.mem_eligibleIn_iff valid).mp asked)⟩) free

/-! ### A pass with nothing to do -/

/-- **A pass rests**: it leaves the store as it was, whether it returns or fails; it reports no change and
never asks for a commit; and without an outage it returns. -/
structure Rests (kind : TeamKind) (mode : Mode) (world : World) : Prop where
  store : (endOf (pass kind none mode world)).store = world.store
  unchanged : ∀ result after, pass kind none mode world = .ok result after → result.changed = false
  uncommitted : ∀ rule named session, Eligibility.builtIn? kind = some rule →
    body kind rule mode world.session ≠ .ok (named, .keep) session
  returns : world.surroundings.IsUp → ∃ result after, pass kind none mode world = .ok result after

/-- A difference that makes no change is none. -/
theorem difference_of_nothing (valid : store.Valid) (found : teamsOfIn kind store = [team])
    (nothing : tasksOf kind now store = []) : (difference kind team.id (openStaysIn team.id store)
      (Eligibility.eligibleIn kind now store)).changed = false := by
  rw [tasksOf_of_found found] at nothing
  exact (changed_difference_eq_false_iff valid).mpr (List.map_eq_nil_iff.mp nothing)

/-- **A pass with nothing to do rests.** -/
theorem rests_of_nothing (valid : world.store.Valid) (system : kind ≠ .none)
    (nothing : tasksOf kind mode.now world.store = []) : Rests kind mode world := by
  have uncommitted : ∀ rule named session, Eligibility.builtIn? kind = some rule →
      body kind rule mode world.session ≠ .ok (named, .keep) session := by
    rintro rule ⟨result, name⟩ session builtIn ran
    rcases body_eq_ok builtIn (World.settled_session valid) ran with ⟨⟨⟩, _⟩ | ⟨_, team, carried⟩
    have unchanged := difference_of_nothing valid carried.found nothing
    have changed := carried.changed
    rw [carried.result_eq] at changed
    exact Bool.false_ne_true (unchanged.symm.trans changed)
  rcases pass_cases valid Eligibility.onlyAsks_none with
    ⟨store, unchanged⟩ | ⟨result, after, rule, team, eligible, _, builtIn, answers, imposed⟩
  · refine ⟨store, unchanged, uncommitted, fun up => ?_⟩
    obtain ⟨result, after, ran, _⟩ := pass_returns valid up system (by rw [nothing]; exact hasFree_zero)
    exact ⟨result, after, ran⟩
  · have unchanged := difference_of_nothing valid imposed.found nothing
    rw [← Eligibility.eq_eligibleIn_of_answers builtIn answers, ← imposed.result_eq,
      imposed.changed] at unchanged
    cases unchanged

/-! ### Runs with nothing to do -/

/-- There is nothing to do for some kinds at a time. -/
def Nothing (kinds : List TeamKind) (now : Instant) (store : Store) : Prop :=
  ∀ kind ∈ kinds, kind ≠ .none ∧ tasksOf kind now store = []

/-- **Passes with nothing to do leave the store and report no change**, whatever happens between them. -/
theorem passesAmid_of_nothing (valid : world.store.Valid) (nothing : Nothing kinds mode.now world.store) :
    (endOf (passesAmid mode happens kinds world)).store = world.store
      ∧ ∀ run after, passesAmid mode happens kinds world = .ok run after →
        ∀ result ∈ run.passes, result.changed = false := by
  induction kinds generalizing world with
  | nil =>
    refine ⟨rfl, fun run after ran => ?_⟩
    cases ran
    exact List.forall_mem_nil _
  | cons kind rest ih =>
    obtain ⟨⟨system, own⟩, others⟩ := List.forall_mem_cons.mp nothing
    cases signal : (world.amid (happens kind)).surroundings.cancelled with
    | true =>
      rw [passesAmid_of_cancelled signal]
      refine ⟨rfl, fun run after ran => ?_⟩
      cases ran
      exact List.forall_mem_nil _
    | false =>
      have rests := @rests_of_nothing kind mode (world.amid (happens kind)) valid system own
      rw [passesAmid_of_goes_on signal]
      cases ran : pass kind none mode (world.amid (happens kind)) with
      | error failure passed =>
        have same : passed.store = (world.amid (happens kind)).store := pass_error ran
        rw [bind_apply, ran]
        exact ⟨same, fun _ _ returns => by cases returns⟩
      | ok result passed =>
        have same : passed.store = world.store := by
          have kept := rests.store
          rwa [ran] at kept
        have unchanged := rests.unchanged result passed ran
        obtain ⟨store, reports⟩ := @ih passed (same ▸ valid) (same ▸ others)
        rw [bind_of_ok ran, bind_apply]
        cases later : passesAmid mode happens rest passed with
        | error failure final =>
          rw [later] at store
          exact ⟨store.trans same, fun _ _ returns => by cases returns⟩
        | ok run final =>
          rw [later] at store
          refine ⟨store.trans same, fun whole last returns => ?_⟩
          cases returns
          exact List.forall_mem_cons.mpr ⟨unchanged, reports run final later⟩

/-- Without an outage such passes return, one for each kind unless the signal to stop is raised. -/
theorem passes_of_nothing (valid : world.store.Valid) (up : world.surroundings.IsUp)
    (nothing : Nothing kinds mode.now world.store) : ∃ run after, passes mode kinds world = .ok run after
      ∧ (run.cancelled = false → run.passes.length = kinds.length) := by
  rw [passes_eq_passesAmid]
  induction kinds generalizing world with
  | nil => exact ⟨{}, world, rfl, fun _ => rfl⟩
  | cons kind rest ih =>
    obtain ⟨⟨system, own⟩, others⟩ := List.forall_mem_cons.mp nothing
    cases signal : (world.amid id).surroundings.cancelled with
    | true => exact ⟨_, _, passesAmid_of_cancelled signal, nofun⟩
    | false =>
      have rests := rests_of_nothing valid system own
      obtain ⟨result, passed, ran⟩ := rests.returns up
      have same := rests.store
      rw [ran] at same
      have same : passed.store = world.store := same
      have stays := ((keeps_pass kind mode).of_ok ran).up up
      obtain ⟨run, final, later, each⟩ := ih (same ▸ valid) stays (same ▸ others)
      refine ⟨{ run with passes := result :: run.passes }, final, ?_, fun uncancelled => ?_⟩
      · rw [passesAmid_of_goes_on signal]
        exact bind_eq_ok.mpr ⟨result, passed, ran, bind_eq_ok.mpr ⟨run, final, later, rfl⟩⟩
      · exact congrArg Nat.succ (each uncancelled)

/-- **There is nothing to do for a time**: whoever reconciles a derived team or all of them for that time
leaves the store as it is. Every pass rests. A run, whatever happens between its passes, leaves the store,
comes to each of its teams with the same store, and reports no change; without an outage it returns with all
teams unless the signal to stop was raised. -/
structure Idle (now : Instant) (store : Store) : Prop where
  passes : ∀ mode world, mode.now = now → world.store = store → ∀ kind ∈ order, Rests kind mode world
  runs : ∀ mode happens world, mode.now = now → world.store = store →
    (endOf (allAmid mode happens world)).store = store
      ∧ (∀ done kind run between,
        ComesTo mode happens order (world.noted (.syncStarted mode.now)) done kind run between →
          between.store = store)
      ∧ ∀ run after, allAmid mode happens world = .ok run after →
        ∀ result ∈ run.passes, result.changed = false
  returns : ∀ mode world, mode.now = now → world.store = store → world.surroundings.IsUp →
    ∃ run after, all mode world = .ok run after
      ∧ (run.cancelled = false → run.passes.length = order.length)

theorem idle_of_nothing (valid : store.Valid) (nothing : Nothing order now store) : Idle now store where
  passes mode world same kept kind listed := by
    subst same kept
    exact rests_of_nothing valid (nothing kind listed).1 (nothing kind listed).2
  runs mode happens world same kept := by
    subst same kept
    obtain ⟨store, reports⟩ := @passesAmid_of_nothing order mode (world.noted (.syncStarted mode.now))
      happens valid nothing
    refine ⟨?_, fun done kind run between comes => ?_, fun run after ran => ?_⟩
    · rw [store_allAmid]
      exact store
    · obtain ⟨rest, split⟩ := comes.position
      have earlier : Nothing done mode.now world.store := fun kind listed =>
        nothing kind (split ▸ List.mem_append_left _ listed)
      have kept := (@passesAmid_of_nothing done mode (world.noted (.syncStarted mode.now)) happens valid
        earlier).1
      rwa [comes.first] at kept
    · obtain ⟨final, passes⟩ := allAmid_eq_ok ran
      exact reports run final passes
  returns mode world same kept up := by
    subst same kept
    obtain ⟨run, after, ran, each⟩ := @passes_of_nothing order mode
      (world.noted (.syncStarted mode.now)) valid up nothing
    have returns : all mode world = .ok run (after.noted (.syncCompleted run.passes.length
        (run.passes.filter PassResult.changed).length run.cancelled)) := by
      rw [passes_eq_passesAmid] at ran
      rw [all_eq_allAmid, allAmid_apply, ran]
    exact ⟨run, _, returns, each⟩

end Roster.Reconcile
