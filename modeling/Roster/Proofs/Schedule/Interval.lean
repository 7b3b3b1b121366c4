/-
**Which intervals a scheduler can keep.**

The next time of a job is told from its last run and its interval, in front of all jobs that follow it. So one
interval that leads out of the calendar breaks the tick: what ran is not reported, and what follows does not run.
Accepted settings have intervals of at least one second, and no interval is too long for them.

* `Settings.Fits`, `mapM_schedule_cases` — the schedules can be made exactly if each interval is a span.
* `Rota.doing` — schedules with other jobs under the same names.
* `Rota.IsSteady` — **no tick before the year 9000 breaks off**, whatever the jobs come to.
* `isSteady_timetable_iff` — schedules are steady exactly if the interval of no enabled job leads from there out
  of the calendar.
* `intervals_decide_whether_ticks_return` — **what accepted settings make of the scheduler**;
  `thirty_thousand_years_break_ticks` — an accepted interval that breaks every second tick.
-/

import Roster.Proofs.Schedule.Course
import Roster.Proofs.Settings.Bounds

namespace Roster

open EStateM (Result)

/-! ### Making the schedules -/

namespace Settings

variable {settings : Settings}

/-- The interval of a job is a span: it has at most nine digits of days. -/
def Fits (settings : Settings) (job : Job) : Prop :=
  (settings.seconds job).fdiv Span.secondsADay ≤ Span.maxDays

instance (settings : Settings) (job : Job) : Decidable (settings.Fits job) := by
  unfold Fits
  infer_instance

/-- The schedule of a job if its interval is a span. -/
def timed (settings : Settings) (job : Job) : Schedule where
  name := job.label
  work := job.perform settings
  interval := ⟨settings.seconds job * Span.second⟩
  enabled := settings.runs job

/-- The schedules of all jobs if their intervals are spans. -/
def timetable (settings : Settings) : Rota := Job.all.map settings.timed

theorem schedule_of_fits {job : Job} (positive : 0 ≤ settings.seconds job) (fits : settings.Fits job) :
    settings.schedule job = .ok (settings.timed job) := by
  unfold schedule
  rw [Span.ofSeconds_of_short positive fits]
  rfl

theorem schedule_of_not_fits {job : Job} (long : ¬ settings.Fits job) :
    settings.schedule job = .error (.tooManyDays ((settings.seconds job).fdiv Span.secondsADay)) := by
  unfold schedule
  rw [Span.ofSeconds_of_long (Int.not_le.mp long)]
  rfl

/-- Schedules are made one by one, up to the first interval that is no span. -/
theorem mapM_schedule_cases (positive : ∀ job, 0 ≤ settings.seconds job) (jobs : List Job) :
    (jobs.mapM settings.schedule = .ok (jobs.map settings.timed) ∧ ∀ job ∈ jobs, settings.Fits job)
      ∨ ∃ early job later, jobs = early ++ job :: later ∧ (∀ other ∈ early, settings.Fits other)
        ∧ ¬ settings.Fits job ∧ jobs.mapM settings.schedule
          = .error (.tooManyDays ((settings.seconds job).fdiv Span.secondsADay)) := by
  induction jobs with
  | nil => exact .inl ⟨rfl, List.forall_mem_nil _⟩
  | cons first rest ih =>
    rw [List.mapM_cons]
    by_cases fits : settings.Fits first
    · rw [schedule_of_fits (positive first) fits]
      rcases ih with ⟨made, each⟩ | ⟨early, job, later, split, before, long, fails⟩
      · rw [made]
        exact .inl ⟨rfl, List.forall_mem_cons.mpr ⟨fits, each⟩⟩
      · rw [fails]
        refine .inr ⟨first :: early, job, later, ?_, List.forall_mem_cons.mpr ⟨fits, before⟩, long, rfl⟩
        rw [split, List.cons_append]
    · rw [schedule_of_not_fits fits]
      exact .inr ⟨[], first, rest, rfl, List.forall_mem_nil _, fits, rfl⟩

/-- The intervals of accepted settings are at least one second long. -/
theorem IsAccepted.one_le_seconds (accepted : settings.IsAccepted) (job : Job) : 1 ≤ settings.seconds job := by
  obtain ⟨outbox, teamSync⟩ := accepted.inBounds
  cases job with
  | processOutbox => exact outbox.intervalSeconds
  | systemTeamSync => exact Int.le_trans (by decide) teamSync.intervalSeconds
  | complianceCheck => exact Int.le_trans (by decide) teamSync.complianceSeconds

theorem nodup_timetable : (settings.timetable.map Schedule.name).Nodup := by
  have names : settings.timetable.map Schedule.name = Job.all.map Job.label := by
    rw [timetable, List.map_map]
    rfl
  rw [names]
  decide

end Settings

/-! ### Ticks before the year 9000 -/

/-- The microseconds from the year 1 to the year 9000. -/
def Instant.year9000 : Nat := Calendar.dayNumber 9000 1 1 * Span.day

/-- The seconds that the calendar has from the year 9000 on. -/
def Span.spareSeconds : Int := (Calendar.dayCount - Calendar.dayNumber 9000 1 1) * secondsADay

/-- The clock shows a time before the year 9000. -/
def Instant.IsEarly (instant : Instant) : Prop :=
  instant.micros + instant.offset.micros < Instant.year9000

/-- The last microsecond before the year 9000. -/
def Instant.eve : Instant := ⟨Instant.year9000 - 1, ⟨0⟩, by decide⟩

/-- From an early time on, an interval can be told if it is no longer than the calendar has left then. -/
theorem Instant.IsEarly.exists_plus {instant : Instant} (early : instant.IsEarly) {seconds : Int}
    (positive : 0 ≤ seconds) (short : seconds ≤ Span.spareSeconds) :
    ∃ next, instant.plus ⟨seconds * Span.second⟩ = .ok next := by
  have inRange := instant.inRange.1
  have upTo : Instant.year9000 + Span.spareSeconds * Span.second = Instant.limit := by decide
  have further : 0 ≤ seconds * Span.second := Int.mul_nonneg positive (by decide)
  have within : seconds * Span.second ≤ Span.spareSeconds * Span.second :=
    Int.mul_le_mul_of_nonneg_right short (by decide)
  unfold IsEarly at early
  refine Instant.exists_plus_iff.mpr ⟨?_, ?_⟩
  · dsimp only
    omega
  · dsimp only
    omega

/-- From the last moment before the year 9000 on, only such an interval can be told. -/
theorem Instant.seconds_le_of_plus_eve {seconds : Int}
    (told : ∃ next, Instant.eve.plus ⟨seconds * Span.second⟩ = .ok next) : seconds ≤ Span.spareSeconds := by
  have below := (Instant.exists_plus_iff.mp told).2
  have upTo : Instant.year9000 + Span.spareSeconds * Span.second = Instant.limit := by decide
  have moment : Instant.eve.micros = Instant.year9000 - 1 := rfl
  have clock : Instant.eve.offset.micros = 0 := rfl
  by_contra long
  have more : (Span.spareSeconds + 1) * Span.second ≤ seconds * Span.second :=
    Int.mul_le_mul_of_nonneg_right (by omega) (by decide)
  have second : (1 : Int) ≤ Span.second := by decide
  rw [Int.add_mul, Int.one_mul] at more
  dsimp only at below
  omega

namespace Rota

/-- The schedules with other jobs under the same names. -/
def doing (works : String → Instant → Application Value) (rota : Rota) : Rota :=
  rota.map fun schedule => { schedule with work := works schedule.name }

theorem map_name_doing (works : String → Instant → Application Value) (rota : Rota) :
    (rota.doing works).map Schedule.name = rota.map Schedule.name := by
  unfold doing
  rw [List.map_map]
  rfl

theorem nodup_doing {rota : Rota} (works : String → Instant → Application Value)
    (distinct : (rota.map Schedule.name).Nodup) : ((rota.doing works).map Schedule.name).Nodup := by
  rw [map_name_doing]
  exact distinct

/-- **No tick before the year 9000 breaks off**, whatever the jobs come to: ticks at any such times return and
run exactly the jobs that are due. -/
def IsSteady (rota : Rota) : Prop :=
  ∀ works, (rota.doing works).Ordinary → ∀ world beats, (∀ beat ∈ beats, Instant.IsEarly beat.now) →
    ∃ registered ticks final, (rota.doing works).forM Rounds.add { world } = .ok ⟨⟩ registered
      ∧ beats.mapM Rounds.beat registered = .ok (ticks.map Tick.reports) final
      ∧ Course registered beats ticks final

/-- **Schedules are steady** if all next times can be told from now on and from every early time on. -/
theorem isSteady_of_told {rota : Rota} (distinct : (rota.map Schedule.name).Nodup) (first : rota.Told)
    (each : ∀ schedule ∈ rota, schedule.enabled = true → ∀ instant : Instant, instant.IsEarly →
      ∃ next, instant.plus schedule.interval = .ok next) : rota.IsSteady := by
  intro works ordinary world beats early
  have firstToo : (rota.doing works).Told := by
    rintro _ member
    obtain ⟨schedule, was, rfl⟩ := List.mem_map.mp member
    exact first schedule was
  have eachToo : ∀ schedule ∈ rota.doing works, schedule.enabled = true → ∀ instant : Instant,
      instant.IsEarly → ∃ next, instant.plus schedule.interval = .ok next := by
    rintro _ member
    obtain ⟨schedule, was, rfl⟩ := List.mem_map.mp member
    exact each schedule was
  obtain ⟨registered, registers, same, _⟩ := Rounds.forM_add_of_nodup (nodup_doing works distinct) world
  rw [← same] at ordinary firstToo eachToo
  obtain ⟨ticks, final, course, runs⟩ := Rounds.mapM_beat_of_told beats ordinary
    fun before next later reports reached split ran =>
      Rounds.told_of_mapM_beat ordinary firstToo (fun schedule member enabled beat earlier =>
        eachToo schedule member enabled beat.now
          (early beat (split ▸ List.mem_append_left _ earlier))) ran
  exact ⟨registered, ticks, final, registers, runs, course⟩

/-- The jobs do nothing. -/
def IsIdle (rota : Rota) : Prop := ∀ schedule ∈ rota, schedule.work = fun _ => inState (.ok .null)

theorem IsIdle.ordinary {rota : Rota} (idle : rota.IsIdle) : rota.Ordinary := fun schedule member =>
  .of_returns (idle schedule member) nofun

theorem IsIdle.begun {rota : Rota} (idle : rota.IsIdle) (names : List String) (now : Instant) :
    (rota.begun names now).IsIdle := by
  intro schedule member
  obtain ⟨before, was, rfl⟩ := mem_begun.mp member
  split
  · exact idle before was
  · exact idle before was

end Rota

/-- A tick of jobs that do nothing leaves the signal to stop as it is. -/
theorem Tick.RunsDue.cancelled_eq {tick : Tick} (due : tick.RunsDue) (idle : tick.start.rota.IsIdle) :
    tick.finish.world.surroundings.cancelled = tick.start.world.surroundings.cancelled := by
  refine due.ran.cancelled_eq fun execution made => ?_
  have chosen := List.mem_filter.mp (due.order.subset (List.mem_map_of_mem made))
  have ran := congrArg endOf (due.ran.isRun made).work
  rw [idle _ chosen.1, endOf_inState, endOf_inState] at ran
  rw [ran]

/-- A tick of jobs that do nothing runs all that are due, and can tell all next times, if the signal to stop
was not raised before. -/
theorem Tick.RunsDue.of_isIdle {tick : Tick} (due : tick.RunsDue) (idle : tick.start.rota.IsIdle)
    (unsignalled : tick.start.world.surroundings.cancelled = false) :
    tick.start.rota.Told ∧ tick.executions.map Execution.schedule = dueAmong tick.now tick.start.rota
      ∧ tick.finish.world.surroundings.cancelled = false ∧ tick.finish.rota.IsIdle := by
  have still := (due.cancelled_eq idle).trans unsignalled
  have never : ¬ tick.finish.world.surroundings.cancelled = true := by rw [still]; exact Bool.false_ne_true
  refine ⟨due.told.resolve_right never, due.complete.resolve_right never, still, ?_⟩
  rw [due.rota]
  exact idle.begun _ _

/-- **From the last moment before the year 9000 on, steady schedules can tell all next times** if no job ran
before. -/
theorem Rota.IsSteady.exists_plus {rota : Rota} (steady : rota.IsSteady)
    (distinct : (rota.map Schedule.name).Nodup) (never : ∀ schedule ∈ rota, schedule.lastRun = none)
    {schedule : Schedule} (member : schedule ∈ rota) (enabled : schedule.enabled = true) :
    ∃ next, Instant.eve.plus schedule.interval = .ok next := by
  let works : String → Instant → Application Value := fun _ _ => inState (.ok .null)
  have idle : (rota.doing works).IsIdle := by
    rintro _ member
    obtain ⟨schedule, _, rfl⟩ := List.mem_map.mp member
    rfl
  have early : Instant.eve.IsEarly := by
    unfold Instant.IsEarly
    decide
  obtain ⟨registered, ticks, final, registers, runs, course⟩ :=
    steady works idle.ordinary default [⟨Instant.eve, id⟩, ⟨Instant.eve, id⟩] (by simpa using early)
  obtain ⟨_, registersToo, same, noted⟩ := Rounds.forM_add_of_nodup (nodup_doing works distinct) default
  rw [registers] at registersToo
  cases registersToo
  cases course with
  | @cons _ _ _ _ first _ now start due rest =>
    cases rest with
    | @cons _ _ _ _ second _ _ startAgain dueAgain _ =>
      have rotaFirst : first.start.rota = rota.doing works := by rw [start, ← same]
      have unsignalled : first.start.world.surroundings.cancelled = false := by rw [start]; exact noted.cancelled
      obtain ⟨_, ran, still, idleAfter⟩ := due.of_isIdle (rotaFirst ▸ idle) unsignalled
      have rotaSecond : second.start.rota = first.finish.rota := by rw [startAgain]
      obtain ⟨told, _⟩ := dueAgain.of_isIdle (rotaSecond ▸ idleAfter) (by rw [startAgain]; exact still)
      have inside : { schedule with work := works schedule.name } ∈ first.start.rota :=
        rotaFirst ▸ List.mem_map_of_mem member
      have isDue : { schedule with work := works schedule.name }.IsDueAt first.now := by
        intro last was
        rw [show _ = none from never schedule member] at was
        cases was
      have after := due.mem_finish ran inside enabled isDue
      rw [← rotaSecond] at after
      have tellable := told _ after enabled first.now rfl
      rwa [now] at tellable

/-! ### The schedules of accepted settings -/

namespace Settings

variable {settings : Settings}

/-- **The schedules of settings are steady exactly if no enabled job has too long an interval.** -/
theorem isSteady_timetable_iff (positive : ∀ job, 0 ≤ settings.seconds job) :
    settings.timetable.IsSteady
      ↔ ∀ job, settings.runs job = true → settings.seconds job ≤ Span.spareSeconds := by
  constructor
  · intro steady job runs
    have never : ∀ schedule ∈ settings.timetable, schedule.lastRun = none := by
      rintro _ member
      obtain ⟨_, _, rfl⟩ := List.mem_map.mp member
      rfl
    have member : settings.timed job ∈ settings.timetable := List.mem_map_of_mem (by cases job <;> decide)
    exact Instant.seconds_le_of_plus_eve (steady.exists_plus nodup_timetable never member runs)
  · intro short
    refine Rota.isSteady_of_told nodup_timetable ?_ ?_
    · rintro _ member _ _ ran
      obtain ⟨_, _, rfl⟩ := List.mem_map.mp member
      cases ran
    · rintro _ member runs instant early
      obtain ⟨job, _, rfl⟩ := List.mem_map.mp member
      exact early.exists_plus (positive job) (short job runs)

/-- **Intervals decide whether ticks return.** The intervals of accepted settings are at least one second long. The
schedules can be made exactly if each of them is a span, and else the first that is none is told. Whatever the
jobs come to, ticks of these schedules at any times all return, or one of them breaks off at an enabled job whose
next time leaves the calendar. Before the year 9000 none breaks off exactly if the interval of each enabled job is
no longer than the calendar goes on from there. -/
theorem intervals_decide_whether_ticks_return (accepted : settings.IsAccepted) :
    (∀ job, 1 ≤ settings.seconds job)
      ∧ ((∃ rota, settings.schedules = .ok rota) ↔ ∀ job, settings.Fits job)
      ∧ (∀ error, settings.schedules = .error error → ∃ early job later, Job.all = early ++ job :: later
        ∧ (∀ other ∈ early, settings.Fits other) ∧ ¬ settings.Fits job
        ∧ error = .tooManyDays ((settings.seconds job).fdiv Span.secondsADay))
      ∧ ∀ rota : Rota, settings.schedules = .ok rota → rota = settings.timetable
        ∧ (∀ works, (rota.doing works).Ordinary → ∀ world, ∃ registered,
          (rota.doing works).forM Rounds.add { world } = .ok ⟨⟩ registered
            ∧ ∀ beats, Rounds.TickedAll registered beats (beats.mapM Rounds.beat registered))
        ∧ (rota.IsSteady
          ↔ ∀ job, settings.runs job = true → settings.seconds job ≤ Span.spareSeconds) := by
  have atLeast := accepted.one_le_seconds
  have positive : ∀ job, 0 ≤ settings.seconds job := fun job => Int.le_trans (by decide) (atLeast job)
  refine ⟨atLeast, ?_⟩
  rcases mapM_schedule_cases positive Job.all with ⟨makes, fits⟩ | ⟨early, job, later, split, before, long, fails⟩
  · have made : settings.schedules = .ok settings.timetable := makes
    refine ⟨iff_of_true ⟨_, made⟩ fun job => fits job (by cases job <;> decide), ?_, ?_⟩
    · intro error fails
      rw [made] at fails
      cases fails
    · intro rota same
      rw [made] at same
      cases same
      refine ⟨rfl, fun works ordinary world => ?_, isSteady_timetable_iff positive⟩
      obtain ⟨registered, registers, same, _⟩ :=
        Rounds.forM_add_of_nodup (Rota.nodup_doing works nodup_timetable) world
      rw [← same] at ordinary
      exact ⟨registered, registers, fun beats => Rounds.mapM_beat_ticked beats ordinary⟩
  · refine ⟨iff_of_false ?_ fun fits => long (fits job), ?_, ?_⟩
    · rintro ⟨rota, made⟩
      rw [schedules, fails] at made
      cases made
    · intro error same
      rw [schedules, fails] at same
      cases same
      exact ⟨early, job, later, split, before, long, rfl⟩
    · intro rota made
      rw [schedules, fails] at made
      cases made

/-- What is given: the address of a database, and an interval of more than thirty thousand years. -/
def farApart : List (String × Value) := [
  ("database", .table [("url", .text "postgresql://localhost/humans")]),
  ("outbox", .table [("drain_interval_seconds", .int 1000000000000)])]

/-- The interval is accepted and is a span, but ticks with it break off. -/
theorem thirty_thousand_years_break_ticks :
    ∃ settings : Settings, load [] farApart = .ok settings ∧ settings.IsAccepted
      ∧ settings.seconds .processOutbox = 1000000000000
      ∧ settings.schedules = .ok settings.timetable ∧ ¬ settings.timetable.IsSteady := by
  have computed : (load [] farApart).toOption.any (fun settings => settings.refusal? = none
      ∧ settings.seconds .processOutbox = 1000000000000 ∧ settings.runs .processOutbox = true
      ∧ Job.all.all fun job => settings.Fits job) = true := by
    decide +kernel
  cases loaded : load [] farApart with
  | error error =>
    rw [loaded] at computed
    cases computed
  | ok settings =>
    rw [loaded] at computed
    obtain ⟨unrefused, seconds, runs, fits⟩ := of_decide_eq_true computed
    have accepted : settings.IsAccepted := ⟨⟨[], farApart, loaded⟩, unrefused⟩
    obtain ⟨_, ⟨_, made⟩, _, steady⟩ := intervals_decide_whether_ticks_return accepted
    obtain ⟨rota, makes⟩ := made fun job =>
      of_decide_eq_true (List.all_eq_true.mp fits job (by cases job <;> decide))
    obtain ⟨rfl, _, steadyIff⟩ := steady rota makes
    refine ⟨settings, rfl, accepted, seconds, makes, fun steady => ?_⟩
    have short := steadyIff.mp steady .processOutbox runs
    rw [seconds] at short
    exact absurd short (by decide)

end Settings

end Roster
