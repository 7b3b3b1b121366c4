/-
**A course of ticks.**

Jobs are ticked at one time after another, and the times need not ascend. Between two ticks anything may happen
to the world, and the signal to stop may be raised there or by a job. A tick keeps the time of each run it
makes, and the next one of the same job waits until the interval has passed since then.

* `Beat`, `Rounds.beat` — a tick to come, with what happens before it.
* `Tick.RunsDue` — **a tick ran exactly the jobs that were due**, up to the signal to stop.
* `Course` — ticks one after another; `Course.isChain` — runs of one job are its interval apart.
* `TickedAll`, `mapM_beat_ticked` — ticks all return, or one of them comes to a job whose next time cannot be
  told.
* `ticks_run_due_jobs` — **ticks run the jobs that are due and nothing else**;
  `failing_job_keeps_nobody_from_running` — jobs that fail and give up, under a clock that is turned back.
-/

import Roster.Proofs.Schedule.Tick
import Mathlib.Data.List.Nodup

namespace Roster

open EStateM (Result)

/-! ### Schedules under distinct names -/

namespace Rota

theorem add_append {schedule : Schedule} {rota : Rota} (fresh : schedule.name ∉ rota.map Schedule.name)
    (later : Rota) : Rota.add schedule (rota ++ later) = rota ++ later.add schedule := by
  induction rota with
  | nil => rfl
  | cons other rest ih =>
    rw [List.map_cons, List.mem_cons, not_or] at fresh
    rw [List.cons_append, add, if_neg (Ne.symm fresh.1), ih fresh.2, List.cons_append]

@[simp] theorem map_name_begun (names : List String) (now : Instant) (rota : Rota) :
    (rota.begun names now).map Schedule.name = rota.map Schedule.name := by
  unfold begun
  rw [List.map_map]
  refine List.map_congr_left fun schedule _ => ?_
  rw [Function.comp_apply]
  split <;> rfl

/-- Every enabled job's next time can be told. -/
def Told (rota : Rota) : Prop := ∀ schedule ∈ rota, schedule.enabled = true → schedule.IsTold

/-- Every job is ordinary. -/
def Ordinary (rota : Rota) : Prop := ∀ schedule ∈ rota, schedule.IsOrdinary

theorem mem_begun {names : List String} {now : Instant} {rota : Rota} {schedule : Schedule} :
    schedule ∈ rota.begun names now ↔ ∃ before ∈ rota,
      (if before.name ∈ names then { before with lastRun := some now } else before) = schedule :=
  List.mem_map

/-- Runs change nothing of a job but when it ran last. -/
theorem Ordinary.begun {rota : Rota} (ordinary : rota.Ordinary) (names : List String) (now : Instant) :
    (rota.begun names now).Ordinary := by
  intro schedule member
  obtain ⟨before, was, rfl⟩ := mem_begun.mp member
  split
  · exact ⟨(ordinary before was).reports, (ordinary before was).patient⟩
  · exact ordinary before was

end Rota

namespace Rounds

/-- **Schedules under distinct names are kept in the order in which they were added.** They take the places of the
schedules that are there under the first of their names. -/
theorem forM_add_of_prefix {schedules : List Schedule} {scheduler : Scheduler}
    (distinct : (schedules.map Schedule.name).Nodup)
    (first : scheduler.rota.map Schedule.name <+: schedules.map Schedule.name) :
    ∃ registered, schedules.forM add scheduler = .ok ⟨⟩ registered
      ∧ registered.rota = schedules ∧ scheduler.world.Noted registered.world := by
  have added : ∃ registered, schedules.forM add scheduler = .ok ⟨⟩ registered
      ∧ scheduler.world.Noted registered.world ∧ ∃ old, registered.rota = schedules ++ old
        ∧ (schedules ++ old).map Schedule.name <+: schedules.map Schedule.name := by
    refine forM_of_step (motive := fun added (reached : Scheduler) => scheduler.world.Noted reached.world
      ∧ ∃ old, reached.rota = added ++ old
        ∧ (added ++ old).map Schedule.name <+: schedules.map Schedule.name)
      ⟨.refl _, scheduler.rota, rfl, first⟩ ?_
    rintro added schedule rest reached rfl ⟨noted, old, rota, names⟩
    have fresh : schedule.name ∉ added.map Schedule.name := by
      rw [List.map_append, List.map_cons] at distinct
      exact fun member => (List.nodup_append.mp distinct).2.2 _ member _ List.mem_cons_self rfl
    refine ⟨_, rfl, noted.trans (reached.world.noted_noting _), ?_⟩
    show ∃ old, reached.rota.add schedule = _ ∧ _
    rw [rota, Rota.add_append fresh]
    -- The schedule goes to the end, or it takes the place of the one of its name, which comes first there.
    cases old with
    | nil =>
      refine ⟨[], (List.append_nil _).symm, ?_⟩
      rw [List.append_nil, List.map_append, List.map_append]
      exact (List.prefix_append_right_inj _).mpr (List.cons_prefix_cons.mpr ⟨rfl, List.nil_prefix⟩)
    | cons other others =>
      rw [List.map_append, List.map_append, List.prefix_append_right_inj] at names
      obtain ⟨same, names⟩ := List.cons_prefix_cons.mp names
      refine ⟨others, ?_, ?_⟩
      · rw [Rota.add, if_pos same, List.append_cons]
      · rw [List.append_assoc, List.map_append, List.singleton_append, List.map_append]
        exact (List.prefix_append_right_inj _).mpr (List.cons_prefix_cons.mpr ⟨rfl, names⟩)
  obtain ⟨registered, runs, noted, old, rota, names⟩ := added
  have short := names.length_le
  rw [List.length_map, List.length_map, List.length_append] at short
  obtain rfl : old = [] := List.length_eq_zero_iff.mp (by omega)
  exact ⟨registered, runs, by rw [rota, List.append_nil], noted⟩

theorem forM_add_of_nodup {schedules : List Schedule} (distinct : (schedules.map Schedule.name).Nodup)
    (world : World) : ∃ registered, schedules.forM add { world } = .ok ⟨⟩ registered
      ∧ registered.rota = schedules ∧ world.Noted registered.world :=
  forM_add_of_prefix distinct List.nil_prefix

end Rounds

/-! ### Ticks one after another -/

/-- A tick to come: when it is, and what happens to the world before. -/
structure Beat where
  now : Instant
  meanwhile : World → World

/-- A tick that returned: when it was, what it began with, the runs it made and what it left. -/
structure Tick where
  now : Instant
  start : Scheduler
  executions : List Execution
  finish : Scheduler

namespace Rounds

/-- What happens in the meantime, and then a tick. -/
def beat (beat : Beat) : Rounds (List JobRun) := do
  modify fun scheduler => { scheduler with world := beat.meanwhile scheduler.world }
  tick beat.now

end Rounds

namespace Tick

/-- What a tick reports. -/
def reports (tick : Tick) : List JobRun := tick.executions.map Execution.run

/-- **A tick ran exactly the jobs that were due**, in their order and each before the signal to stop; it left out
some of them only because the signal was raised when the next one was reached, and else all next times could be
told. The runs are the last ones of their jobs, and all other jobs keep theirs. -/
structure RunsDue (tick : Tick) : Prop where
  ran : Ran tick.now tick.start tick.executions tick.finish
  order : tick.executions.map Execution.schedule <+: dueAmong tick.now tick.start.rota
  complete : tick.executions.map Execution.schedule = dueAmong tick.now tick.start.rota
    ∨ tick.finish.world.surroundings.cancelled = true
  told : tick.start.rota.Told ∨ tick.finish.world.surroundings.cancelled = true
  rota : tick.finish.rota = tick.start.rota.begun (namesOf tick.executions) tick.now

end Tick

/-- **Ticks one after another**: each begins with what the one before it left and what happened since. -/
inductive Course : Scheduler → List Beat → List Tick → Scheduler → Prop where
  | nil {scheduler : Scheduler} : Course scheduler [] [] scheduler
  | cons {scheduler final : Scheduler} {beat : Beat} {later : List Beat} {tick : Tick} {ticks : List Tick}
      (now : tick.now = beat.now)
      (start : tick.start = { scheduler with world := beat.meanwhile scheduler.world })
      (due : tick.RunsDue) (rest : Course tick.finish later ticks final) :
      Course scheduler (beat :: later) (tick :: ticks) final

/-- The times of the ticks that ran a job of some name. -/
def timesOf (name : String) (ticks : List Tick) : List Instant :=
  (ticks.filter fun tick => name ∈ namesOf tick.executions).map Tick.now

theorem timesOf_cons (name : String) (tick : Tick) (ticks : List Tick) :
    timesOf name (tick :: ticks)
      = if name ∈ namesOf tick.executions then tick.now :: timesOf name ticks else timesOf name ticks := by
  by_cases ran : name ∈ namesOf tick.executions
  · simp [timesOf, ran]
  · simp [timesOf, ran]

section Course

variable {scheduler final : Scheduler} {beats : List Beat} {ticks : List Tick}

theorem Course.runsDue (course : Course scheduler beats ticks final) {tick : Tick} (member : tick ∈ ticks) :
    tick.RunsDue := by
  induction course with
  | nil => cases member
  | cons _ _ due _ ih =>
    rcases List.mem_cons.mp member with rfl | later
    · exact due
    · exact ih later

/-- A job that a tick ran was due. -/
theorem Tick.RunsDue.isDueAt {tick : Tick} (due : tick.RunsDue)
    (distinct : (tick.start.rota.map Schedule.name).Nodup) {schedule : Schedule}
    (member : schedule ∈ tick.start.rota) (ran : schedule.name ∈ namesOf tick.executions) :
    schedule.IsDueAt tick.now := by
  obtain ⟨execution, made, same⟩ := List.mem_map.mp ran
  have chosen := List.mem_filter.mp (due.order.subset (List.mem_map_of_mem made))
  have equal : execution.schedule = schedule :=
    List.inj_on_of_nodup_map distinct chosen.1 member same
  rw [← equal]
  exact (of_decide_eq_true chosen.2).2

/-- A job that was due has run at that time from then on if the tick ran all such jobs. -/
theorem Tick.RunsDue.mem_finish {tick : Tick} (due : tick.RunsDue)
    (complete : tick.executions.map Execution.schedule = dueAmong tick.now tick.start.rota)
    {schedule : Schedule} (member : schedule ∈ tick.start.rota) (enabled : schedule.enabled = true)
    (isDue : schedule.IsDueAt tick.now) : { schedule with lastRun := some tick.now } ∈ tick.finish.rota := by
  have chosen : schedule ∈ tick.executions.map Execution.schedule := by
    rw [complete]
    exact List.mem_filter.mpr ⟨member, decide_eq_true ⟨enabled, isDue⟩⟩
  obtain ⟨execution, made, same⟩ := List.mem_map.mp chosen
  have ran : schedule.name ∈ namesOf tick.executions :=
    List.mem_map.mpr ⟨execution, made, congrArg Schedule.name same⟩
  rw [due.rota]
  exact Rota.mem_begun.mpr ⟨schedule, member, if_pos ran⟩

/-- **Runs of one job are its interval apart**, also from the run that was its last before the first tick. -/
theorem Course.isChain (course : Course scheduler beats ticks final)
    (distinct : (scheduler.rota.map Schedule.name).Nodup) {schedule : Schedule}
    (member : schedule ∈ scheduler.rota) :
    List.IsChain (fun earlier later : Instant => earlier.micros + schedule.interval.micros ≤ later.micros)
      (schedule.lastRun.toList ++ timesOf schedule.name ticks) := by
  induction course generalizing schedule with
  | nil => cases schedule.lastRun <;> simp [timesOf]
  | @cons scheduler final beat later tick ticks now start due rest ih =>
    have rota : tick.start.rota = scheduler.rota := by rw [start]
    have distinctAfter : (tick.finish.rota.map Schedule.name).Nodup := by
      rw [due.rota, Rota.map_name_begun, rota]
      exact distinct
    have inside : schedule ∈ tick.start.rota := rota ▸ member
    have goesOn := @ih distinctAfter
    rw [due.rota] at goesOn
    by_cases ran : schedule.name ∈ namesOf tick.executions
    · have isDue := due.isDueAt (rota ▸ distinct) inside ran
      have after := goesOn (Rota.mem_begun.mpr ⟨schedule, inside, if_pos ran⟩)
      rw [timesOf_cons, if_pos ran]
      cases last : schedule.lastRun with
      | none => exact after
      | some instant => exact List.isChain_cons_cons.mpr ⟨isDue instant last, after⟩
    · have after := goesOn (Rota.mem_begun.mpr ⟨schedule, inside, if_neg ran⟩)
      rwa [timesOf_cons, if_neg ran]

/-- A schedule is an earlier one whose job may have run at a tick since. -/
theorem Course.exists_before (course : Course scheduler beats ticks final) {schedule : Schedule}
    (member : schedule ∈ final.rota) : ∃ before ∈ scheduler.rota, schedule = before
      ∨ ∃ beat ∈ beats, schedule = { before with lastRun := some beat.now } := by
  induction course with
  | nil => exact ⟨schedule, member, .inl rfl⟩
  | @cons scheduler final beat later tick ticks now start due _ ih =>
    obtain ⟨between, inside, since⟩ := ih member
    rw [due.rota] at inside
    obtain ⟨before, was, rfl⟩ := Rota.mem_begun.mp inside
    rw [start] at was
    refine ⟨before, was, ?_⟩
    rcases since with rfl | ⟨other, further, rfl⟩
    · split
      · exact .inr ⟨beat, List.mem_cons_self, by rw [now]⟩
      · exact .inl rfl
    · refine .inr ⟨other, List.mem_cons_of_mem _ further, ?_⟩
      split <;> rfl

/-- The next times can be told after ticks from which on they can be told. -/
theorem Course.told (course : Course scheduler beats ticks final) (told : scheduler.rota.Told)
    (each : ∀ schedule ∈ scheduler.rota, schedule.enabled = true → ∀ beat ∈ beats,
      ∃ next, beat.now.plus schedule.interval = .ok next) : final.rota.Told := by
  intro schedule member enabled
  obtain ⟨before, was, rfl | ⟨beat, further, rfl⟩⟩ := course.exists_before member
  · exact told _ was enabled
  · rintro _ ⟨⟩
    exact each before was enabled beat further

end Course

namespace Rounds

theorem beat_apply (next : Beat) (scheduler : Scheduler) :
    beat next scheduler
      = runDue next.now scheduler.rota { scheduler with world := next.meanwhile scheduler.world } := rfl

theorem mapM_beat_of_ok {next : Beat} {later : List Beat} {scheduler reached : Scheduler}
    {reports : List JobRun} (ran : beat next scheduler = .ok reports reached) :
    (next :: later).mapM beat scheduler = prepend reports (later.mapM beat reached) := by
  rw [List.mapM_cons, bind_of_ok ran, bind_apply]
  cases later.mapM beat reached <;> rfl

theorem mapM_beat_of_error {next : Beat} {later : List Beat} {scheduler final : Scheduler}
    {failure : Failure} (ran : beat next scheduler = .error failure final) :
    (next :: later).mapM beat scheduler = .error failure final := by
  rw [List.mapM_cons, bind_apply, ran]

/-- **A tick that returns ran the jobs that were due.** -/
theorem Ticked.exists_tick {now : Instant} {start finish : Scheduler} {rota : Rota}
    {reports : List JobRun} (ticked : Ticked now rota start (.ok reports finish))
    (same : start.rota = rota) :
    ∃ tick : Tick, tick.now = now ∧ tick.start = start ∧ tick.finish = finish ∧ tick.reports = reports
      ∧ tick.RunsDue := by
  subst same
  cases ticked with
  | finished executions _ ran all told =>
    exact ⟨⟨now, start, executions, finish⟩, rfl, rfl, rfl, rfl, ran, all ▸ List.prefix_rfl, .inl all,
      .inl told, ran.rota_eq⟩
  | stopped executions _ ran some signalled =>
    exact ⟨⟨now, start, executions, finish⟩, rfl, rfl, rfl, rfl, ran, some, .inr signalled,
      .inr signalled, ran.rota_eq⟩

/-- **What ticks come to**: they all return, or one of them breaks off at a job whose next time cannot be told,
and its runs are not reported. -/
inductive TickedAll (scheduler : Scheduler) (beats : List Beat) :
    Result Failure Scheduler (List (List JobRun)) → Prop where
  | returned (ticks : List Tick) (final : Scheduler) (course : Course scheduler beats ticks final) :
      TickedAll scheduler beats (.ok (ticks.map Tick.reports) final)
  | broken (early later : List Beat) (next : Beat) (ticks : List Tick) (reached final : Scheduler)
      (split : beats = early ++ next :: later) (course : Course scheduler early ticks reached)
      (runs : early.mapM beat scheduler = .ok (ticks.map Tick.reports) reached)
      (breaks : Ticked next.now reached.rota { reached with world := next.meanwhile reached.world }
        (.error (.time .outOfRange) final)) :
      TickedAll scheduler beats (.error (.time .outOfRange) final)

/-- One more tick before the others. -/
theorem TickedAll.cons {next : Beat} {later : List Beat} {scheduler : Scheduler} {tick : Tick}
    (now : tick.now = next.now)
    (start : tick.start = { scheduler with world := next.meanwhile scheduler.world }) (due : tick.RunsDue)
    (ran : beat next scheduler = .ok tick.reports tick.finish)
    {result : Result Failure Scheduler (List (List JobRun))} (all : TickedAll tick.finish later result) :
    TickedAll scheduler (next :: later) (prepend tick.reports result) := by
  cases all with
  | returned ticks final course => exact .returned (tick :: ticks) final (.cons now start due course)
  | broken early rest culprit ticks reached final split course runs breaks =>
    refine .broken (next :: early) rest culprit (tick :: ticks) reached final ?_
      (.cons now start due course) ?_ breaks
    · rw [split, List.cons_append]
    · rw [mapM_beat_of_ok ran, runs]
      rfl

/-- **Ticks all return, or one of them comes to a job whose next time cannot be told.** -/
theorem mapM_beat_ticked (beats : List Beat) {scheduler : Scheduler} (ordinary : scheduler.rota.Ordinary) :
    TickedAll scheduler beats (beats.mapM beat scheduler) := by
  induction beats generalizing scheduler with
  | nil => exact .returned [] scheduler .nil
  | cons next later ih =>
    have ticked := runDue_ticked next.now ordinary { scheduler with world := next.meanwhile scheduler.world }
    rw [← beat_apply] at ticked
    cases ran : beat next scheduler with
    | error failure final =>
      rw [ran] at ticked
      have untold : failure = .time .outOfRange := by cases ticked; rfl
      subst untold
      rw [mapM_beat_of_error ran]
      exact .broken [] later next [] scheduler final rfl .nil rfl ticked
    | ok reports finish =>
      rw [ran] at ticked
      obtain ⟨tick, now, start, rfl, rfl, due⟩ := Ticked.exists_tick ticked rfl
      have ordinaryAfter : tick.finish.rota.Ordinary := by
        rw [due.rota, start]
        exact ordinary.begun _ _
      rw [mapM_beat_of_ok ran]
      exact .cons now start due ran (ih ordinaryAfter)

/-- **As long as the next times can be told, ticks return.** -/
theorem mapM_beat_of_told (beats : List Beat) {scheduler : Scheduler} (ordinary : scheduler.rota.Ordinary)
    (told : ∀ early next later reports reached, beats = early ++ next :: later →
      early.mapM beat scheduler = .ok reports reached → reached.rota.Told) :
    ∃ ticks final, Course scheduler beats ticks final
      ∧ beats.mapM beat scheduler = .ok (ticks.map Tick.reports) final := by
  have all := mapM_beat_ticked beats ordinary
  cases ran : beats.mapM beat scheduler with
  | ok reports final =>
    rw [ran] at all
    cases all with
    | returned ticks _ course => exact ⟨ticks, final, course, rfl⟩
  | error failure final =>
    rw [ran] at all
    cases all with
    | broken early later next ticks reached _ split _ runs breaks =>
      have tellable := told early next later _ reached split runs
      cases breaks with
      | untold _ _ before behind culprit here _ _ enabled untold _ =>
        refine absurd (tellable culprit ?_ enabled) untold
        rw [here]
        exact List.mem_append_right _ List.mem_cons_self

/-- **The next times can be told after some ticks** if they could be told before, and if they can be told from
the times of the ticks on. -/
theorem told_of_mapM_beat {beats : List Beat} {scheduler reached : Scheduler} {reports : List (List JobRun)}
    (ordinary : scheduler.rota.Ordinary) (told : scheduler.rota.Told)
    (each : ∀ schedule ∈ scheduler.rota, schedule.enabled = true → ∀ beat ∈ beats,
      ∃ next, beat.now.plus schedule.interval = .ok next)
    (ran : beats.mapM beat scheduler = .ok reports reached) : reached.rota.Told := by
  have all := mapM_beat_ticked beats ordinary
  rw [ran] at all
  cases all with
  | returned ticks _ course => exact course.told told each

/-- **Ticks run the jobs that are due and nothing else.** Schedules under distinct names, with jobs that report or
fail, are ticked at any times, and anything may happen to the world in between. As long as the next time of each
enabled job can be told, every tick returns: it ran exactly the jobs that were enabled and due, in the order in
which they were added, up to the signal to stop; each run is reported once, as what its job came to, and is the
last one of its job from then on. Runs of one job are its interval apart. -/
theorem ticks_run_due_jobs {schedules : List Schedule} (distinct : (schedules.map Schedule.name).Nodup)
    (ordinary : ∀ schedule ∈ schedules, schedule.IsOrdinary) (world : World) :
    ∃ registered, schedules.forM add { world } = .ok ⟨⟩ registered ∧ registered.rota = schedules
      ∧ ∀ beats : List Beat,
        (∀ early next later reports reached, beats = early ++ next :: later →
          early.mapM beat registered = .ok reports reached → reached.rota.Told) →
        ∃ ticks final, beats.mapM beat registered = .ok (ticks.map Tick.reports) final
          ∧ Course registered beats ticks final ∧ (∀ tick ∈ ticks, tick.RunsDue)
          ∧ ∀ schedule ∈ schedules, List.IsChain
            (fun earlier later => earlier.micros + schedule.interval.micros ≤ later.micros)
            (schedule.lastRun.toList ++ timesOf schedule.name ticks) := by
  obtain ⟨registered, registers, rfl, _⟩ := forM_add_of_nodup distinct world
  refine ⟨registered, registers, rfl, fun beats told => ?_⟩
  obtain ⟨ticks, final, course, runs⟩ := mapM_beat_of_told beats ordinary told
  exact ⟨ticks, final, runs, course, fun tick member => course.runsDue member,
    fun schedule member => course.isChain distinct member⟩

/-- Some minute of the first hour. -/
def atMinute (minute : Fin 60) : Instant :=
  ⟨(minute.val * (60 * Span.second) : Nat), ⟨0⟩, by
    have inside : minute.val * (60 * Span.second) < 60 * (60 * Span.second) :=
      Nat.mul_lt_mul_of_pos_right minute.isLt (by decide)
    have short : 60 * (60 * Span.second) < Instant.limit := by decide
    dsimp only
    omega⟩

/-- A job that fails every time, one that gives up every time, and one that is switched off and whose next time
is beyond the calendar. -/
def troubled : Rota := [
  { name := "process_outbox", work := fun _ => inState (.error .severalRows),
    interval := ⟨120 * Span.second⟩ },
  { name := "system_team_sync", work := fun _ => inState (.ok (.table [("cancelled", .bool true)])),
    interval := ⟨60 * Span.second⟩ },
  { name := "compliance_check", work := fun _ => inState (.ok .null), interval := ⟨Instant.limit⟩,
    enabled := false, lastRun := some (atMinute 1) }]

/-- The clock is turned back once, and in the end the signal to stop is raised. -/
def unsteady : List Beat := [⟨atMinute 10, id⟩, ⟨atMinute 5, id⟩, ⟨atMinute 11, id⟩, ⟨atMinute 12, id⟩,
  ⟨atMinute 20, fun world =>
    { world with surroundings := { world.surroundings with cancelled := true } }⟩]

/-- The failing job keeps the other one from nothing; both rest when the clock is turned back. -/
theorem failing_job_keeps_nobody_from_running :
    (troubled.map Schedule.name).Nodup ∧ (∀ schedule ∈ troubled, schedule.IsOrdinary)
      ∧ ∃ (registered : Scheduler) (ticks : List Tick) (final : Scheduler),
        troubled.forM add { world := default } = .ok ⟨⟩ registered
        ∧ unsteady.mapM beat registered = .ok (ticks.map Tick.reports) final
        ∧ (∀ tick ∈ ticks, tick.RunsDue)
        ∧ ticks.map (fun tick => tick.reports.map fun run => (run.name, run.status))
          = [[("process_outbox", .failed), ("system_team_sync", .cancelled)], [],
            [("system_team_sync", .cancelled)],
            [("process_outbox", .failed), ("system_team_sync", .cancelled)], []] := by
  have distinct : (troubled.map Schedule.name).Nodup := by decide
  have ordinary : ∀ schedule ∈ troubled, schedule.IsOrdinary := by
    unfold troubled
    simp only [List.forall_mem_cons]
    exact ⟨.of_fails rfl rfl, .of_returns rfl fun _ => ⟨_, rfl⟩, .of_returns rfl nofun,
      List.forall_mem_nil _⟩
  obtain ⟨registered, registers, rota, later⟩ := ticks_run_due_jobs distinct ordinary default
  have told : ∀ early next later reports reached, unsteady = early ++ next :: later →
      early.mapM beat registered = .ok reports reached → reached.rota.Told := by
    intro early next later reports reached split ran
    have first : troubled.Told := by
      unfold Rota.Told
      decide
    have each : ∀ schedule ∈ troubled, schedule.enabled = true → ∀ beat ∈ unsteady,
        ∃ next, beat.now.plus schedule.interval = .ok next := by
      simp only [Instant.exists_plus_iff]
      decide
    refine told_of_mapM_beat (rota ▸ ordinary) (rota ▸ first) ?_ ran
    exact fun schedule member enabled beat earlier =>
      each schedule (rota ▸ member) enabled beat (split ▸ List.mem_append_left _ earlier)
  obtain ⟨ticks, final, runs, _, due, _⟩ := later unsteady told
  refine ⟨distinct, ordinary, registered, ticks, final, registers, runs, due, ?_⟩
  obtain rfl : registered = endOf (troubled.forM add { world := default }) := by rw [registers]; rfl
  have computed : ∃ reports final, unsteady.mapM beat (endOf (troubled.forM add { world := default }))
      = .ok reports final ∧ reports.map (List.map fun run => (run.name, run.status))
        = [[("process_outbox", .failed), ("system_team_sync", .cancelled)], [],
            [("system_team_sync", .cancelled)],
            [("process_outbox", .failed), ("system_team_sync", .cancelled)], []] := by
    decide +kernel
  obtain ⟨reports, reached, same, shown⟩ := computed
  rw [runs] at same
  cases same
  rw [← shown, List.map_map]
  rfl

end Rounds

end Roster
