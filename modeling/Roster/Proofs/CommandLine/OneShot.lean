/-
**The program runs some jobs once.**

The jobs that the command line names are run with the schedules that the settings make. The exit code is one if a run
failed or a failure escaped, and else zero. The request to stop at once is no failure in this sense; among patient
groupware it does not come.

* `Rota.Behaves` — jobs that report or fail in a world, however they change it.
* `Settings.of_schedules` — the schedules that settings make.
* `Program.Fails`, `Program.fails_iff` — jobs that were run once failed.
* `Program.exits_oversee`, `Program.exits_run` — **what the exit code tells**.
* `one_shot_validates_then_reports` — **names are checked before the first job runs, and then all are reported**;
  `failing_job_is_run_again_and_unknown_name_stops_all` — both in one program.
-/

import Roster.CommandLine.Program
import Roster.Proofs.Job.Patience
import Roster.Proofs.Schedule.Interval

namespace Roster

open EStateM (Result)

/-- **Jobs behave in a world**: each of them reports or fails there and never asks to stop at once, and so does any of
them in the worlds that they leave. -/
def Rota.Behaves (jobs : Rota) (world : World) : Prop :=
  ∃ tame, IgnoresNotes tame ∧ tame world ∧ ∀ schedule ∈ jobs, schedule.IsOrdinaryIn tame

/-- Ordinary jobs behave in any world. -/
theorem Rota.Ordinary.behaves {jobs : Rota} (ordinary : jobs.Ordinary) (world : World) : jobs.Behaves world :=
  ⟨fun _ => True, fun _ _ _ => id, trivial, fun schedule member => (ordinary schedule member).isOrdinaryIn⟩

theorem World.ignoresNotes_amid (groupware : Groupware) (pool : Pool) : IgnoresNotes (World.Amid groupware pool) := by
  rintro before after ⟨notices, rfl⟩ amid
  exact ⟨amid.groupware, amid.pool⟩

/-! ### The schedules of the settings -/

namespace Settings

variable {settings : Settings} {rota : Rota}

theorem of_mapM_schedule {jobs : List Job} (makes : jobs.mapM settings.schedule = .ok rota) :
    rota.map Schedule.name = jobs.map Job.label
      ∧ ∀ schedule ∈ rota, ∃ job, schedule.work = Job.perform job settings := by
  induction jobs generalizing rota with
  | nil =>
    cases makes
    exact ⟨rfl, List.forall_mem_nil _⟩
  | cons job rest ih =>
    rw [List.mapM_cons] at makes
    cases fits : Span.ofSeconds (settings.seconds job) with
    | error error =>
      rw [schedule, fits] at makes
      cases makes
    | ok interval =>
      rw [schedule, fits] at makes
      cases made : rest.mapM settings.schedule with
      | error error =>
        rw [made] at makes
        cases makes
      | ok later =>
        rw [made] at makes
        cases makes
        obtain ⟨names, works⟩ := ih made
        exact ⟨congrArg _ names, List.forall_mem_cons.mpr ⟨⟨job, rfl⟩, works⟩⟩

/-- **The schedules that settings make** are those of the jobs, under their names. -/
theorem of_schedules (makes : settings.schedules = .ok rota) :
    rota.map Schedule.name = Job.all.map Job.label
      ∧ ∀ schedule ∈ rota, ∃ job, schedule.work = Job.perform job settings := of_mapM_schedule makes

theorem nodup_of_schedules (makes : settings.schedules = .ok rota) : (rota.map Schedule.name).Nodup := by
  rw [(of_schedules makes).1]
  decide

end Settings

/-! ### The exit code -/

/-- Nothing happened to a worker but that notes were taken. -/
def Worker.Noted (before after : Worker) : Prop :=
  before.world.Noted after.world ∧ after = { before with world := after.world }

namespace Worker.Noted

theorem refl (worker : Worker) : worker.Noted worker := ⟨.refl _, rfl⟩

theorem trans {before middle after : Worker} (first : before.Noted middle) (next : middle.Noted after) :
    before.Noted after :=
  ⟨first.1.trans next.1, next.2.trans (first.2 ▸ rfl)⟩

end Worker.Noted

/-- Notes are taken one after another, and nothing else happens. -/
theorem Shift.forM_note (notices : List Notice) (worker : Worker) :
    ∃ after, notices.forM (fun notice => (Act.note notice : Shift Unit)) worker = .ok () after
      ∧ worker.Noted after :=
  forM_of_step (motive := fun _ after => worker.Noted after) (.refl worker)
    fun _ notice _ reached _ noted => ⟨_, rfl, noted.trans ⟨reached.world.noted_noting notice, rfl⟩⟩

namespace Program

/-- Jobs that were run once failed: one of the runs did, or a failure escaped that is not the request to stop at
once. -/
def Fails : Result Failure Worker (List JobRun) → Prop
  | .ok runs _ => ∃ run ∈ runs, run.status = .failed
  | .error failure _ => failure.isInterrupt = false

instance (result : Result Failure Worker (List JobRun)) : Decidable (Fails result) := by
  unfold Fails
  cases result <;> infer_instance

/-- **Jobs that were run once failed** exactly if one of the names belongs to no job, or if one of the runs failed. -/
theorem fails_iff {jobs : Rota} {names : List String} {worker : Worker} {result : Result Failure Worker (List JobRun)}
    (once : worker.RunsOnce jobs names result) : Fails result ↔ (∃ name ∈ names, name ∉ jobs.map Schedule.name)
      ∨ ∃ runs after, result = .ok runs after ∧ ∃ run ∈ runs, run.status = .failed := by
  cases result with
  | ok runs after =>
    have known : ¬ ∃ name ∈ names, name ∉ jobs.map Schedule.name := by
      rw [← once.fails]
      rintro ⟨_, _, ⟨⟩⟩
    rw [or_iff_right known]
    exact ⟨fun failed => ⟨runs, after, rfl, failed⟩, by rintro ⟨_, _, ⟨⟩, failed⟩; exact failed⟩
  | error failure after =>
    obtain ⟨⟨_, _, _, rfl⟩, _⟩ := once.refused failure after rfl
    exact iff_of_true rfl (.inl (once.fails.mp ⟨_, after, rfl⟩))

/-- What the program does with its settings, whatever there is to be done. -/
def oversee (settings : Settings) (work : Shift Nat) : Shift Outcome := do
  noteStarting settings
  let journalLevel := some settings.logLevel
  match ← Shift.attempt work with
  | .ok exit =>
    Act.note (.programComplete settings.appName)
    return { exit, journalLevel }
  | .error failure =>
    if failure.isInterrupt then
      Act.note .programInterrupted
      Act.note (.programComplete settings.appName)
      return { exit := 0, journalLevel }
    Act.note (.programFailed failure.message)
    return { exit := failureCode, journalLevel }

theorem operate_eq (settings : Settings) (command : Command) (rounds : List Round) :
    operate settings command rounds = oversee settings (employ settings command rounds) := rfl

/-- **The program ends**, after its work was begun when notes were taken and nothing else had happened. Its exit code
tells whether the jobs failed. -/
def Exits (program : Shift Outcome) (once : Shift (List JobRun)) (worker : Worker) : Prop :=
  ∃ begun outcome after, worker.Noted begun ∧ program worker = .ok outcome after
    ∧ outcome.exit = if Fails (once begun) then 1 else 0

theorem codeOf_eq (runs : List JobRun) :
    codeOf runs = if ∃ run ∈ runs, run.status = .failed then 1 else 0 := by
  unfold codeOf
  refine if_congr ?_ rfl rfl
  rw [List.any_eq_true]
  exact exists_congr fun run => and_congr_right fun _ => beq_iff_eq

/-- **The exit code tells whether the jobs failed.** -/
theorem exits_oversee (settings : Settings) (once : Shift (List JobRun)) (worker : Worker) :
    Exits (oversee settings (once >>= fun runs => pure (codeOf runs))) once worker := by
  obtain ⟨begun, notes, noted⟩ : ∃ begun, noteStarting settings worker = .ok () begun ∧ worker.Noted begun :=
    ⟨_, rfl, .trans ⟨worker.world.noted_noting _, rfl⟩ ⟨World.noted_noting _ _, rfl⟩⟩
  have attempts : Shift.attempt (once >>= fun runs => pure (codeOf runs)) begun = match once begun with
      | .ok runs after => .ok (.ok (codeOf runs)) after
      | .error failure after => .ok (.error failure) after := by
    rw [Shift.attempt, bind_apply]
    cases once begun <;> rfl
  suffices ends : ∃ outcome after,
      oversee settings (once >>= fun runs => pure (codeOf runs)) worker = .ok outcome after
        ∧ outcome.exit = if Fails (once begun) then 1 else 0 by
    obtain ⟨outcome, after, ran, exit⟩ := ends
    exact ⟨begun, outcome, after, noted, ran, exit⟩
  unfold oversee
  rw [bind_of_ok notes]
  cases ran : once begun with
  | ok runs after =>
    rw [ran] at attempts
    rw [bind_of_ok attempts]
    exact ⟨_, _, rfl, codeOf_eq runs⟩
  | error failure after =>
    rw [ran] at attempts
    rw [bind_of_ok attempts]
    dsimp only
    cases interrupt : failure.isInterrupt with
    | true => exact ⟨_, _, rfl, (if_neg fun patient => by rw [Fails, interrupt] at patient; cases patient).symm⟩
    | false => exact ⟨_, _, rfl, (if_pos interrupt).symm⟩

/-- The program runs the jobs that its arguments name. -/
theorem exits_run {arguments : List String} {environment : Settings.Environment} {names : List String}
    {notices : List Notice} {settings : Settings} (asks : Arguments.read arguments = .ok (.once names))
    (accepts : Settings.accept environment = (notices, .ok settings)) (rounds : List Round) (worker : Worker) :
    Exits (run arguments environment rounds) (Shift.runOnce settings names) worker := by
  obtain ⟨told, notes, noted⟩ := Shift.forM_note notices worker
  obtain ⟨begun, outcome, after, notedThen, ran, exit⟩ := exits_oversee settings (Shift.runOnce settings names) told
  refine ⟨begun, outcome, after, noted.trans notedThen, ?_, exit⟩
  unfold run
  rw [asks]
  dsimp only
  rw [accepts]
  dsimp only
  rw [bind_of_ok notes, operate_eq]
  exact ran

end Program

/-! ### The whole -/

namespace Worker.Noted

variable {worker begun : Worker}

theorem rota (noted : worker.Noted begun) : begun.rota = worker.rota := by rw [noted.2]

theorem pool (noted : worker.Noted begun) :
    begun.world.surroundings.pool = worker.world.surroundings.pool := by
  obtain ⟨⟨notices, world⟩, _⟩ := noted
  rw [world]

theorem opened (noted : worker.Noted begun) : worker.opened.world.Noted begun.opened.world := by
  obtain ⟨⟨notices, world⟩, same⟩ := noted
  rw [same, world]
  exact ⟨notices, rfl⟩

end Worker.Noted

/-- **Jobs that run once are checked first and then all reported.** Settings make schedules for a worker, which has
none yet or those of an earlier run. If the pool cannot be opened, nothing happens. Else a run once fails exactly if a
name belongs to no job, and before anything happened; otherwise each name has its run, in the order of the names and
as often as it was given. So it is with the jobs of the settings among patient groupware, for which the pool is opened
and closed once, and with any jobs under their names that report or fail. The exit code is one if a run failed or a
failure escaped, and else zero. -/
theorem one_shot_validates_then_reports {settings : Settings} {rota : Rota} (makes : settings.schedules = .ok rota)
    (names : List String) {worker : Worker} (first : worker.rota.map Schedule.name <+: rota.map Schedule.name) :
    let pool := worker.world.surroundings.pool
    Shift.runOnce settings = Shift.onceWith rota
      ∧ (∀ failure, pool.refusal = some failure → Shift.runOnce settings names worker = .error failure worker)
      ∧ (pool.refusal = none → worker.world.surroundings.groupware.IsPatient → ∀ begun, worker.Noted begun →
        begun.RunsOnce rota names (Shift.runOnce settings names begun)
          ∧ (endOf (Shift.runOnce settings names begun)).world.surroundings.pool
            = { pool with opened := pool.opened + 1, closed := pool.closed + 1 })
      ∧ (pool.refusal = none → ∀ works, (rota.doing works).Behaves worker.opened.world → ∀ begun, worker.Noted begun →
        begun.RunsOnce (rota.doing works) names (Shift.onceWith (rota.doing works) names begun))
      ∧ (∀ arguments environment rounds notices, Arguments.read arguments = .ok (.once names) →
        Settings.accept environment = (notices, .ok settings) →
        Program.Exits (Program.run arguments environment rounds) (Shift.runOnce settings names) worker)
      ∧ ∀ works, Program.Exits (Program.oversee settings (do
          return Program.codeOf (← Shift.onceWith (rota.doing works) names)))
        (Shift.onceWith (rota.doing works) names) worker := by
  intro pool
  have runs := Shift.runOnce_eq makes
  have distinct := Settings.nodup_of_schedules makes
  refine ⟨runs, ?_, ?_, ?_, ?_, ?_⟩
  · intro failure refused
    exact Shift.withPool_of_some _ refused
  · intro opens patient begun noted
    have members : ∀ schedule ∈ rota, schedule.IsOrdinaryIn (World.Amid worker.world.surroundings.groupware
        { pool with opened := pool.opened + 1 }) := fun schedule member => by
      obtain ⟨job, works⟩ := (Settings.of_schedules makes).2 schedule member
      exact Job.isOrdinaryIn patient works
    obtain ⟨once, last, amid, ends⟩ := Shift.onceWith_runsOnce (World.ignoresNotes_amid _ _) distinct members names
      (noted.rota ▸ first) (noted.pool ▸ opens) (World.ignoresNotes_amid _ _ noted.opened ⟨rfl, rfl⟩)
    rw [runs, ends]
    refine ⟨once, ?_⟩
    rw [Worker.pool_released, amid.pool]
  · intro opens works behaves begun noted
    obtain ⟨tame, overlooks, here, ordinary⟩ := behaves
    exact (Shift.onceWith_runsOnce overlooks (Rota.nodup_doing works distinct) ordinary names
      (by rw [noted.rota, Rota.map_name_doing]; exact first) (noted.pool ▸ opens) (overlooks noted.opened here)).1
  · exact fun arguments environment rounds notices asks accepts => Program.exits_run asks accepts rounds worker
  · exact fun works => Program.exits_oversee settings _ worker

/-- One job fails every time, and the others have nothing to report. -/
def oneFails (name : String) : Instant → Application Value := fun _ =>
  inState (if name = "process_outbox" then .error .severalRows else .ok .null)

theorem ordinary_doing_oneFails (rota : Rota) : (rota.doing oneFails).Ordinary := by
  intro schedule member
  obtain ⟨before, _, rfl⟩ := List.mem_map.mp member
  by_cases named : before.name = "process_outbox"
  · have work : oneFails before.name = fun _ => inState (.error .severalRows) := by
      unfold oneFails
      rw [if_pos named]
    exact .of_fails work rfl
  · have work : oneFails before.name = fun _ => inState (.ok .null) := by
      unfold oneFails
      rw [if_neg named]
    exact .of_returns work nofun

/-- Settings in which only the events are relayed. -/
def relayingOnly : Settings.Environment := [
  ("humans_database", "\x7b\"url\": \"postgresql://localhost/humans\"\x7d"),
  ("humans_team_sync", "\x7b\"enabled\": false\x7d"),
  ("humans_worker", "\x7b\"enabled_jobs\": [\"process_outbox\"]\x7d")]

/-- A worker that has not begun, with an empty store. -/
def beginner : Worker := .idle { surroundings := { clock := default }, store := {} }

/-- Schedules can be made of these settings. With a job that fails, a success comes between two failures. -/
theorem exists_relayingOnly : ∃ (notices : List Notice) (settings : Settings) (rota : Rota),
    Settings.accept relayingOnly = (notices, .ok settings) ∧ settings.runs .complianceCheck = false
      ∧ settings.schedules = .ok rota
      ∧ ∀ runs after, Shift.onceWith (rota.doing oneFails) ["process_outbox", "compliance_check", "process_outbox"]
        beginner = .ok runs after → runs.map JobRun.status = [.failed, .succeeded, .failed] := by
  have computed : (Settings.accept relayingOnly).2.toOption.any (fun settings =>
      !settings.runs .complianceCheck && settings.schedules.toOption.any fun (rota : Rota) =>
        match Shift.onceWith (rota.doing oneFails) ["process_outbox", "compliance_check", "process_outbox"]
          beginner with
        | .ok runs _ => decide (runs.map JobRun.status = [.failed, .succeeded, .failed])
        | .error _ _ => false) = true := by
    decide +kernel
  cases accepts : Settings.accept relayingOnly with
  | mk notices accepted =>
    rw [accepts] at computed
    cases accepted with
    | error stop => cases computed
    | ok settings =>
      obtain ⟨off, computed⟩ := Bool.and_eq_true_iff.mp computed
      cases makes : settings.schedules with
      | error error =>
        rw [makes] at computed
        cases computed
      | ok rota =>
        rw [makes] at computed
        refine ⟨notices, settings, rota, rfl, by simpa using off, makes, fun runs after ran => ?_⟩
        simp only [Except.toOption, Option.any_some, ran] at computed
        exact of_decide_eq_true computed

/-- A job that is switched off has its run between two failures of the job named twice; a name that belongs to no job
keeps the job named before it from running. -/
theorem failing_job_is_run_again_and_unknown_name_stops_all :
    ∃ (notices : List Notice) (settings : Settings) (rota : Rota),
      Settings.accept relayingOnly = (notices, .ok settings) ∧ settings.runs .complianceCheck = false
      ∧ settings.schedules = .ok rota
      ∧ (∃ runs after, Shift.onceWith (rota.doing oneFails) ["process_outbox", "compliance_check", "process_outbox"]
          beginner = .ok runs after
        ∧ runs.map JobRun.name = ["process_outbox", "compliance_check", "process_outbox"]
        ∧ runs.map JobRun.status = [.failed, .succeeded, .failed] ∧ after.failed = 2 ∧ after.succeeded = 1)
      ∧ (∃ failure after, Shift.runOnce settings ["process_outbox", "clean_up"] beginner = .error failure after
        ∧ beginner.Untouched rota after)
      ∧ ∃ outcome after, Program.run ["--once", "process_outbox", "clean_up"] relayingOnly [] beginner
          = .ok outcome after
        ∧ outcome.exit = 1 := by
  obtain ⟨notices, settings, rota, accepts, off, makes, statuses⟩ := exists_relayingOnly
  have labels := (Settings.of_schedules makes).1
  have first : beginner.rota.map Schedule.name <+: rota.map Schedule.name := List.nil_prefix
  have patient : beginner.world.surroundings.groupware.IsPatient := fun _ _ => nofun
  obtain ⟨_, _, _, once, _, _⟩ := one_shot_validates_then_reports makes
    ["process_outbox", "compliance_check", "process_outbox"] first
  obtain ⟨_, _, real, _, program, _⟩ := one_shot_validates_then_reports makes
    ["process_outbox", "clean_up"] first
  have stranger : "clean_up" ∉ rota.map Schedule.name := by
    rw [labels]
    decide
  refine ⟨notices, settings, rota, accepts, off, makes, ?_, ?_, ?_⟩
  · have here := once rfl oneFails ((ordinary_doing_oneFails rota).behaves _) beginner (.refl _)
    obtain ⟨executions, after, ran, reported⟩ := here.exists_reported (by
      rw [Rota.map_name_doing, labels]
      decide)
    have ended := statuses _ after ran
    have failed : failures (executions.map Execution.run) = 2 := by
      have counted := congrArg (List.countP fun status => status = .failed) ended
      rwa [List.countP_map] at counted
    have length : executions.length = 3 := by simpa using congrArg List.length ended
    refine ⟨_, after, ran, reported.named, ended, ?_, ?_⟩
    · rw [reported.failed, failed]
      rfl
    · rw [reported.succeeded, failed, length]
      rfl
  · obtain ⟨_, after, _, _, ran, untouched⟩ :=
      (real rfl patient beginner (.refl _)).1.exists_untouched (by decide) stranger
    exact ⟨_, after, ran, untouched⟩
  · obtain ⟨begun, outcome, after, noted, ran, exit⟩ :=
      program ["--once", "process_outbox", "clean_up"] relayingOnly [] notices (by decide) accepts
    have fails := (Program.fails_iff (real rfl patient begun noted).1).mpr (.inl ⟨"clean_up", by decide, stranger⟩)
    exact ⟨outcome, after, ran, exit.trans (if_pos fails)⟩

end Roster
