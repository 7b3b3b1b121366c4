/-
**Jobs that run once.**

All names are looked up before the first job runs. If one of them belongs to no job, none runs, and nothing has
happened but that the pool was opened and closed. Else each name has its run, in the order of the names and as often
as it was given, whatever the jobs before it came to. Every run is counted.

* `Schedule.IsOrdinaryIn` — a job that reports or fails as long as the world is tame.
* `Worker.Turns`, `Turns.counters` — **jobs one after another**, each of them counted.
* `Worker.Untouched`, `Worker.Reported`, `Worker.RunsOnce` — what running jobs once comes to;
  `RunsOnce.exists_reported`, `RunsOnce.exists_untouched` — the two ways it can go.
* `Shift.runAll_turns`, `Shift.mapM_named` — jobs that behave are all run; names are looked up to the first unknown.
* `Shift.withPool_of_none` — the pool is closed whichever way the work ends.
* `Shift.onceWith`, `Shift.runOnce_eq` — jobs that run once, with any schedules;
  `Shift.onceWith_runsOnce` — **what they come to**.
-/

import Roster.Proofs.Schedule.Course
import Roster.Worker

namespace Roster

open EStateM (Result)

/-! ### Jobs that behave -/

/-- **A job that reports or fails** and never asks to stop at once, as long as the world is tame, as which it then
leaves it. -/
structure Schedule.IsOrdinaryIn (tame : World → Prop) (schedule : Schedule) : Prop where
  reports : ∀ now world report after, tame world → schedule.work now world = .ok report after → report.IsReport
  patient : ∀ now world failure after, tame world → schedule.work now world = .error failure after →
    failure.isInterrupt = false
  keeps : ∀ now world, tame world → tame (endOf (schedule.work now world))

/-- An ordinary job is one in any world. -/
theorem Schedule.IsOrdinary.isOrdinaryIn {schedule : Schedule} (ordinary : schedule.IsOrdinary) :
    schedule.IsOrdinaryIn fun _ => True where
  reports now world report after _ := ordinary.reports now world report after
  patient now world failure after _ := ordinary.patient now world failure after
  keeps _ _ _ := trivial

theorem Schedule.IsOrdinaryIn.not_breaksOff {tame : World → Prop} {schedule : Schedule}
    (ordinary : schedule.IsOrdinaryIn tame) {now : Instant} {before after : World} {failure : Failure}
    (behaves : tame before) : ¬ schedule.BreaksOff now before failure after := by
  rintro (⟨_, _, ran, interrupt⟩ | ⟨_, _, ran, unreadable⟩)
  · rw [ordinary.patient _ _ _ _ behaves ran] at interrupt
    cases interrupt
  · exact unreadable (ordinary.reports _ _ _ _ behaves ran)

/-- What is noted makes no difference to a property of the world. -/
def IgnoresNotes (tame : World → Prop) : Prop :=
  ∀ ⦃before after : World⦄, before.Noted after → tame before → tame after

namespace Rota

variable {rota : Rota} {name : String} {schedule : Schedule}

theorem find?_eq_none_iff : rota.find? name = none ↔ name ∉ rota.map Schedule.name := by
  unfold find?
  simp

theorem of_find? (found : rota.find? name = some schedule) : schedule ∈ rota ∧ schedule.name = name :=
  ⟨List.mem_of_find?_eq_some found, by simpa using List.find?_some found⟩

/-- The schedules of some names bear these names. -/
theorem map_name_of_find? {names : List String} {schedules : List Schedule}
    (found : names.map rota.find? = schedules.map some) : schedules.map Schedule.name = names := by
  induction names generalizing schedules with
  | nil =>
    obtain rfl := List.map_eq_nil_iff.mp found.symm
    rfl
  | cons name rest ih =>
    cases schedules with
    | nil => cases found
    | cons schedule later =>
      obtain ⟨here, others⟩ := List.cons.inj found
      rw [List.map_cons, ih others, (of_find? here).2]

end Rota

/-! ### Turns -/

/-- How many of some runs failed. -/
def failures (runs : List JobRun) : Nat := runs.countP fun run => run.status = .failed

section Failures

variable {run : JobRun} {runs : List JobRun}

theorem failures_cons_of_failed (failed : run.status = .failed) : failures (run :: runs) = failures runs + 1 :=
  List.countP_cons_of_pos (decide_eq_true failed)

theorem failures_cons_of_not_failed (passed : run.status ≠ .failed) : failures (run :: runs) = failures runs :=
  List.countP_cons_of_neg (mt of_decide_eq_true passed)

theorem failures_le_length (runs : List JobRun) : failures runs ≤ runs.length := List.countP_le_length

end Failures

namespace Worker

variable {worker final : Worker} {executions : List Execution}

/-- The worker after a run was counted. -/
def counted (run : JobRun) (worker : Worker) : Worker :=
  if run.status = .failed then { worker with failed := worker.failed + 1 }
  else { worker with succeeded := worker.succeeded + 1 }

/-- **Jobs ran one after another**, each in the world that the run before it left and at the time on its clock, and
each run was counted. -/
inductive Turns : Worker → List Execution → Worker → Prop where
  | nil {worker : Worker} : Turns worker [] worker
  | cons {worker final : Worker} {reached : Scheduler} {execution : Execution} {later : List Execution}
      (begins : worker.world.Noted execution.before)
      (isRun : execution.IsRun worker.world.surroundings.clock)
      (ends : execution.after.Noted reached.world)
      (rota : reached.rota = worker.rota.begin execution.schedule.name worker.world.surroundings.clock)
      (rest : Turns ({ worker with toScheduler := reached }.counted execution.run) later final) :
      Turns worker (execution :: later) final

theorem Turns.name (turns : Turns worker executions final) :
    ∀ execution ∈ executions, execution.run.name = execution.schedule.name := by
  induction turns with
  | nil => exact List.forall_mem_nil _
  | cons _ isRun _ _ _ ih => exact List.forall_mem_cons.mpr ⟨isRun.name, ih⟩

theorem counted_of_failed {run : JobRun} (failed : run.status = .failed) :
    worker.counted run = { worker with failed := worker.failed + 1 } := if_pos failed

theorem counted_of_not_failed {run : JobRun} (passed : run.status ≠ .failed) :
    worker.counted run = { worker with succeeded := worker.succeeded + 1 } := if_neg passed

theorem counted_toScheduler {run : JobRun} : (worker.counted run).toScheduler = worker.toScheduler := by
  unfold counted
  split <;> rfl

/-- **The counters tell how many runs failed and how many did not.** -/
theorem Turns.counters (turns : Turns worker executions final) :
    final.failed = worker.failed + failures (executions.map Execution.run)
      ∧ final.succeeded
        = worker.succeeded + (executions.length - failures (executions.map Execution.run)) := by
  induction turns with
  | nil => exact ⟨rfl, rfl⟩
  | @cons worker final reached execution later _ _ _ _ _ ih =>
    obtain ⟨failed, succeeded⟩ := ih
    have most := failures_le_length (later.map Execution.run)
    rw [List.length_map] at most
    rw [List.map_cons, List.length_cons, failed, succeeded]
    by_cases fails : execution.run.status = .failed
    · rw [counted_of_failed fails, failures_cons_of_failed fails]
      dsimp only
      omega
    · rw [counted_of_not_failed fails, failures_cons_of_not_failed fails]
      dsimp only
      omega

/-- The worker after the pool was opened. -/
def opened (worker : Worker) : Worker :=
  { worker with world.surroundings.pool.opened := worker.world.surroundings.pool.opened + 1 }

/-- The worker after the pool was closed. -/
def released (worker : Worker) : Worker :=
  { worker with world.surroundings.pool.closed := worker.world.surroundings.pool.closed + 1 }

theorem pool_released (worker : Worker) : worker.released.world.surroundings.pool
    = { worker.world.surroundings.pool with closed := worker.world.surroundings.pool.closed + 1 } := rfl

/-- **The jobs are known and the pool is open**; else nothing happened but that notes were taken. -/
structure Enrolled (jobs : Rota) (worker enrolled : Worker) : Prop where
  rota : enrolled.rota = jobs
  noted : worker.opened.world.Noted enrolled.world
  rest : enrolled = { worker with toScheduler := enrolled.toScheduler }

/-- **Nothing happened** but that the jobs became known, that the pool was opened and closed and that notes were
taken: no job ran, and the store and the counters are as they were. -/
def Untouched (jobs : Rota) (worker after : Worker) : Prop :=
  ∃ notices, after = { worker with
    rota := jobs
    world := { worker.world with surroundings := { worker.world.surroundings with
      journal := worker.world.surroundings.journal ++ notices
      pool := { worker.world.surroundings.pool with
        opened := worker.world.surroundings.pool.opened + 1
        closed := worker.world.surroundings.pool.closed + 1 } } } }

theorem Enrolled.untouched {jobs : Rota} {worker enrolled : Worker} (known : worker.Enrolled jobs enrolled) :
    worker.Untouched jobs enrolled.released := by
  obtain ⟨notices, noted⟩ := known.noted
  refine ⟨notices, ?_⟩
  rw [known.rest, released, ← known.rota, noted]
  rfl

/-- **Each name had its run**, in the order of the names and as often as it was given, whatever came of the runs
before it and whether or not the job is switched on. Every run is counted, and at last the pool was closed. -/
structure Reported (jobs : Rota) (names : List String) (worker : Worker) (executions : List Execution)
    (after : Worker) : Prop where
  each : executions.map (fun execution => some execution.schedule) = names.map jobs.find?
  named : (executions.map Execution.run).map JobRun.name = names
  turns : ∃ enrolled reached, worker.Enrolled jobs enrolled ∧ enrolled.Turns executions reached
    ∧ after = reached.released
  failed : after.failed = worker.failed + failures (executions.map Execution.run)
  succeeded : after.succeeded
    = worker.succeeded + (executions.length - failures (executions.map Execution.run))

/-- **What running jobs once comes to.** It fails exactly if one of the names belongs to no job, with such a name and
before anything happened; else every name is reported. -/
structure RunsOnce (jobs : Rota) (names : List String) (worker : Worker)
    (result : Result Failure Worker (List JobRun)) : Prop where
  fails : (∃ failure after, result = .error failure after) ↔ ∃ name ∈ names, name ∉ jobs.map Schedule.name
  refused : ∀ failure after, result = .error failure after →
    (∃ name ∈ names, name ∉ jobs.map Schedule.name ∧ failure = .unknownJob name) ∧ worker.Untouched jobs after
  reported : ∀ runs after, result = .ok runs after →
    ∃ executions, runs = executions.map Execution.run ∧ worker.Reported jobs names executions after

namespace RunsOnce

variable {jobs : Rota} {names : List String} {worker enrolled : Worker} {result : Result Failure Worker (List JobRun)}

/-- Where all names belong to jobs, each of them has its run. -/
theorem exists_reported (once : worker.RunsOnce jobs names result)
    (known : ∀ name ∈ names, name ∈ jobs.map Schedule.name) :
    ∃ executions after, result = .ok (executions.map Execution.run) after
      ∧ worker.Reported jobs names executions after := by
  cases result with
  | error failure after =>
    obtain ⟨name, asked, unknown⟩ := once.fails.mp ⟨failure, after, rfl⟩
    exact absurd (known name asked) unknown
  | ok runs after =>
    obtain ⟨executions, rfl, reported⟩ := once.reported runs after rfl
    exact ⟨executions, after, rfl, reported⟩

/-- Where a name belongs to no job, nothing happens. -/
theorem exists_untouched (once : worker.RunsOnce jobs names result) {name : String} (asked : name ∈ names)
    (unknown : name ∉ jobs.map Schedule.name) :
    ∃ culprit after, culprit ∈ names ∧ culprit ∉ jobs.map Schedule.name
      ∧ result = .error (.unknownJob culprit) after ∧ worker.Untouched jobs after := by
  obtain ⟨failure, after, rfl⟩ := once.fails.mpr ⟨name, asked, unknown⟩
  obtain ⟨⟨culprit, named, absent, rfl⟩, untouched⟩ := once.refused failure after rfl
  exact ⟨culprit, after, named, absent, rfl, untouched⟩

theorem of_unknown {name : String} (asked : name ∈ names) (unknown : name ∉ jobs.map Schedule.name)
    (known : worker.Enrolled jobs enrolled) :
    worker.RunsOnce jobs names (.error (.unknownJob name) enrolled.released) where
  fails := iff_of_true ⟨_, _, rfl⟩ ⟨name, asked, unknown⟩
  refused := by
    rintro _ _ ⟨⟩
    exact ⟨⟨name, asked, unknown, rfl⟩, known.untouched⟩
  reported := by
    rintro _ _ ⟨⟩

theorem of_turns {reached : Worker} {executions : List Execution}
    (all : names.map jobs.find? = (executions.map Execution.schedule).map some)
    (known : worker.Enrolled jobs enrolled) (turns : enrolled.Turns executions reached) :
    worker.RunsOnce jobs names (.ok (executions.map Execution.run) reached.released) where
  fails := by
    refine iff_of_false (by rintro ⟨_, _, ⟨⟩⟩) ?_
    rintro ⟨name, asked, unknown⟩
    have absent : none ∈ names.map jobs.find? :=
      Rota.find?_eq_none_iff.mpr unknown ▸ List.mem_map_of_mem asked
    rw [all] at absent
    obtain ⟨_, _, ⟨⟩⟩ := List.mem_map.mp absent
  refused := by
    rintro _ _ ⟨⟩
  reported := by
    rintro _ _ ⟨⟩
    obtain ⟨failed, succeeded⟩ := turns.counters
    rw [known.rest] at failed succeeded
    refine ⟨executions, rfl, ?_, ?_, ⟨enrolled, reached, known, turns, rfl⟩, failed, succeeded⟩
    · rw [all, List.map_map]
      rfl
    · rw [← Rota.map_name_of_find? all, List.map_map, List.map_map]
      exact List.map_congr_left turns.name

end RunsOnce

end Worker

/-- Adds some schedules, and notes which of them are switched on. -/
def Rounds.enroll (jobs : Rota) : Rounds Unit := do
  jobs.forM add
  Act.note (.jobsAdded (← get).rota.enabledNames)

namespace Shift

variable {tame : World → Prop} {jobs : Rota} {worker enrolled : Worker}

theorem count_apply (run : JobRun) (worker : Worker) : count run worker = .ok ⟨⟩ (worker.counted run) := rfl

theorem runAll_cons (schedule : Schedule) (rest : List Schedule) (worker : Worker) :
    runAll (schedule :: rest) worker
      = match Rounds.runJob schedule worker.world.surroundings.clock worker.toScheduler with
        | .error failure reached => .error failure { worker with toScheduler := reached }
        | .ok run reached =>
          Rounds.prepend run (runAll rest ({ worker with toScheduler := reached }.counted run)) := by
  have reads : (liftM Act.readClock : Shift Instant) worker = .ok worker.world.surroundings.clock worker := rfl
  have lifted : (liftM (Rounds.runJob schedule worker.world.surroundings.clock) : Shift JobRun) worker
      = apply (Rounds.runJob schedule worker.world.surroundings.clock) worker := rfl
  rw [runAll, bind_of_ok reads, bind_apply, lifted, apply]
  cases Rounds.runJob schedule worker.world.surroundings.clock worker.toScheduler with
  | error failure reached => rfl
  | ok run reached =>
    dsimp only
    rw [bind_of_ok (count_apply run _), bind_apply]
    cases runAll rest ({ worker with toScheduler := reached }.counted run) <;> rfl

/-- **Jobs that behave are run one after another**, whatever each of them comes to. -/
theorem runAll_turns (overlooks : IgnoresNotes tame) {schedules : List Schedule}
    (ordinary : ∀ schedule ∈ schedules, schedule.IsOrdinaryIn tame) (behaves : tame worker.world) :
    ∃ executions reached, executions.map Execution.schedule = schedules ∧ worker.Turns executions reached
      ∧ tame reached.world ∧ runAll schedules worker = .ok (executions.map Execution.run) reached := by
  induction schedules generalizing worker with
  | nil => exact ⟨[], worker, rfl, .nil, behaves, rfl⟩
  | cons schedule rest ih =>
    obtain ⟨here, others⟩ := List.forall_mem_cons.mp ordinary
    rcases Rounds.runJob_cases schedule worker.world.surroundings.clock worker.toScheduler with
      ⟨execution, reached, rfl, isRun, begins, ends, rota, runs⟩ | ⟨before, _, _, begins, breaks, _⟩
    · have left := here.keeps worker.world.surroundings.clock execution.before (overlooks begins behaves)
      rw [isRun.work, endOf_inState] at left
      obtain ⟨executions, final, order, turns, still, runsAll⟩ :=
        @ih ({ worker with toScheduler := reached }.counted execution.run) others
          (by rw [Worker.counted_toScheduler]; exact overlooks ends left)
      refine ⟨execution :: executions, final, ?_, .cons begins isRun ends rota turns, still, ?_⟩
      · rw [List.map_cons, order]
      · rw [runAll_cons, runs]
        dsimp only
        rw [runsAll]
        rfl
    · exact absurd breaks (here.not_breaksOff (overlooks begins behaves))

/-! ### Names -/

theorem named_of_some {name : String} {schedule : Schedule} (found : worker.rota.find? name = some schedule) :
    (Rounds.named name : Shift Schedule) worker = .ok schedule worker := by
  show apply (Rounds.named name) worker = _
  unfold apply Rounds.named
  rw [bind_apply, get_apply]
  dsimp only
  rw [found]
  rfl

theorem named_of_none {name : String} (unknown : worker.rota.find? name = none) :
    (Rounds.named name : Shift Schedule) worker = .error (.unknownJob name) worker := by
  show apply (Rounds.named name) worker = _
  unfold apply Rounds.named
  rw [bind_apply, get_apply]
  dsimp only
  rw [unknown]
  rfl

/-- **Names are looked up**, up to the first that belongs to no job; nothing else happens. -/
theorem mapM_named (names : List String) (worker : Worker) :
    (∃ schedules, names.map worker.rota.find? = schedules.map some
        ∧ (names.mapM fun name => (Rounds.named name : Shift Schedule)) worker = .ok schedules worker)
      ∨ ∃ early name later, names = early ++ name :: later
        ∧ (∀ other ∈ early, worker.rota.find? other ≠ none) ∧ worker.rota.find? name = none
        ∧ (names.mapM fun name => (Rounds.named name : Shift Schedule)) worker
          = .error (.unknownJob name) worker := by
  induction names with
  | nil => exact .inl ⟨[], rfl, rfl⟩
  | cons name rest ih =>
    rw [List.mapM_cons, bind_apply]
    cases found : worker.rota.find? name with
    | none =>
      rw [named_of_none found]
      exact .inr ⟨[], name, rest, rfl, List.forall_mem_nil _, found, rfl⟩
    | some schedule =>
      rw [named_of_some found]
      dsimp only
      rw [bind_apply]
      rcases ih with ⟨schedules, all, runs⟩ | ⟨early, culprit, later, split, before, unknown, runs⟩
      · rw [runs]
        refine .inl ⟨schedule :: schedules, ?_, rfl⟩
        rw [List.map_cons, List.map_cons, found, all]
      · rw [runs]
        refine .inr ⟨name :: early, culprit, later, ?_, List.forall_mem_cons.mpr ⟨?_, before⟩, unknown, rfl⟩
        · rw [split, List.cons_append]
        · rw [found]
          exact Option.some_ne_none schedule

/-! ### Once -/

theorem openPool_of_none (opens : worker.world.surroundings.pool.refusal = none) :
    (Act.openPool : Shift Unit) worker = .ok () worker.opened := by
  show apply (Rounds.apply (Application.act Act.openPool)) worker = _
  unfold apply Rounds.apply Application.act Act.openPool
  rw [bind_apply, get_apply]
  dsimp only
  rw [opens]
  rfl

theorem openPool_of_some {failure : Failure} (refused : worker.world.surroundings.pool.refusal = some failure) :
    (Act.openPool : Shift Unit) worker = .error failure worker := by
  show apply (Rounds.apply (Application.act Act.openPool)) worker = _
  unfold apply Rounds.apply Application.act Act.openPool
  rw [bind_apply, get_apply]
  dsimp only
  rw [refused]
  rfl

/-- **The pool is closed whichever way the work ends.** -/
theorem withPool_of_none {α : Type} (work : Shift α) (opens : worker.world.surroundings.pool.refusal = none) :
    withPool (return ()) work worker = match work worker.opened with
      | .ok result after => .ok result after.released
      | .error failure after => .error failure after.released := by
  rw [withPool, bind_of_ok (openPool_of_none opens), tryFinally_apply]
  cases work worker.opened <;> rfl

/-- Nothing is done if the pool cannot be opened. -/
theorem withPool_of_some {α : Type} (work : Shift α) {failure : Failure}
    (refused : worker.world.surroundings.pool.refusal = some failure) :
    withPool (return ()) work worker = .error failure worker := by
  rw [withPool, bind_apply, openPool_of_some refused]

/-- Runs the jobs of some names once, with any schedules. -/
def onceWith (jobs : Rota) (names : List String) : Shift (List JobRun) :=
  withPool (return ()) do
    Rounds.enroll jobs
    runAll (← names.mapM fun name => (Rounds.named name : Shift Schedule))

/-- **Jobs are run once with the schedules that the settings make.** -/
theorem runOnce_eq {settings : Settings} (makes : settings.schedules = .ok jobs) :
    runOnce settings = onceWith jobs := by
  unfold runOnce Rounds.addAll
  rw [makes]
  rfl

/-- Jobs become known under distinct names. -/
theorem enroll_of_prefix (distinct : (jobs.map Schedule.name).Nodup)
    (first : worker.rota.map Schedule.name <+: jobs.map Schedule.name) :
    ∃ enrolled, (Rounds.enroll jobs : Shift Unit) worker.opened = .ok () enrolled
      ∧ worker.Enrolled jobs enrolled := by
  obtain ⟨registered, runs, rota, noted⟩ :=
    @Rounds.forM_add_of_prefix jobs worker.opened.toScheduler distinct first
  let notice : Notice := .jobsAdded registered.rota.enabledNames
  refine ⟨{ worker with world := registered.world.noting notice, rota := registered.rota }, ?_, rota,
    noted.trans (registered.world.noted_noting notice), rfl⟩
  show apply (Rounds.enroll jobs) worker.opened = _
  unfold apply Rounds.enroll
  rw [bind_of_ok runs]
  rfl

/-- **Jobs that behave are run once**, as long as the pool can be opened, and at last it is closed. -/
theorem onceWith_runsOnce (overlooks : IgnoresNotes tame) (distinct : (jobs.map Schedule.name).Nodup)
    (ordinary : ∀ schedule ∈ jobs, schedule.IsOrdinaryIn tame) (names : List String)
    (first : worker.rota.map Schedule.name <+: jobs.map Schedule.name)
    (opens : worker.world.surroundings.pool.refusal = none) (behaves : tame worker.opened.world) :
    worker.RunsOnce jobs names (onceWith jobs names worker)
      ∧ ∃ last : Worker, tame last.world ∧ endOf (onceWith jobs names worker) = last.released := by
  obtain ⟨enrolled, enrolls, known⟩ := enroll_of_prefix distinct first
  have behavesThen := overlooks known.noted behaves
  rw [onceWith, withPool_of_none _ opens, bind_of_ok enrolls]
  rcases mapM_named names enrolled with ⟨schedules, all, looks⟩ | ⟨early, name, later, split, _, unknown, looks⟩
  · rw [known.rota] at all
    have members : ∀ schedule ∈ schedules, schedule ∈ jobs := fun schedule member => by
      have found : some schedule ∈ names.map jobs.find? := all ▸ List.mem_map_of_mem member
      obtain ⟨name, _, finds⟩ := List.mem_map.mp found
      exact (Rota.of_find? finds).1
    obtain ⟨executions, reached, rfl, turns, still, ran⟩ :=
      runAll_turns overlooks (fun schedule member => ordinary schedule (members schedule member)) behavesThen
    rw [bind_of_ok looks, ran]
    exact ⟨.of_turns all known turns, reached, still, rfl⟩
  · rw [known.rota] at unknown
    rw [bind_apply, looks]
    exact ⟨.of_unknown (split ▸ List.mem_append_right _ List.mem_cons_self) (Rota.find?_eq_none_iff.mp unknown)
      known, enrolled, behavesThen, rfl⟩

end Shift

end Roster
