/-
**What a tick does.**

A tick goes through the schedules in the order in which they were added, and runs those that are switched on
and due, each in the world that the run before it left. What a job comes to is reported and keeps no later
job from running; a tick ends early with the signal to stop, and it fails at a job whose next time cannot be
told.

* `Schedule.IsDueAt`, `Schedule.IsTold` — a job's next time has come, and can be told at all.
* `RunStatus.ofOutcome` — how a run ended, by what its job came to.
* `Schedule.IsOrdinary` — a job that reports or fails, and never asks to stop at once; `Schedule.BreaksOff` — how
  another one breaks off.
* `Execution`, `Ran` — one run of a job, and runs one after another; `runJob_cases` — a job is run and reported,
  or it breaks off.
* `runDue_ticked` — **what a tick does, whichever way it ends**.
-/

import Roster.Proofs.Run
import Roster.Proofs.Time
import Roster.Schedule

namespace Roster

open EStateM (Result)

/-! ### When a job is due -/

namespace Schedule

/-- A job is due at a time if it never ran, or if its interval has passed since its last run. -/
def IsDueAt (schedule : Schedule) (now : Instant) : Prop :=
  ∀ last ∈ schedule.lastRun, last.micros + schedule.interval.micros ≤ now.micros

instance (schedule : Schedule) (now : Instant) : Decidable (schedule.IsDueAt now) := by
  unfold IsDueAt
  infer_instance

/-- The next time of a job can be told: it stays within the calendar. -/
def IsTold (schedule : Schedule) : Prop :=
  ∀ last ∈ schedule.lastRun, ∃ next, last.plus schedule.interval = .ok next

instance (schedule : Schedule) : Decidable schedule.IsTold :=
  decidable_of_iff (∀ last ∈ schedule.lastRun,
      0 ≤ last.micros + schedule.interval.micros + last.offset.micros
        ∧ last.micros + schedule.interval.micros + last.offset.micros < Instant.limit)
    (forall₂_congr fun _ _ => Instant.exists_plus_iff.symm)

variable {schedule : Schedule} {now : Instant}

theorem isDue_of_isTold (told : schedule.IsTold) :
    schedule.isDue now = .ok (decide (schedule.IsDueAt now)) := by
  cases ran : schedule.lastRun with
  | none =>
    have due : schedule.IsDueAt now := fun last member => by rw [ran] at member; cases member
    rw [isDue, ran]
    simp [due]
  | some last =>
    obtain ⟨next, moved⟩ := told last ran
    have same : schedule.IsDueAt now ↔ next ≤ now := by
      rw [IsDueAt, ran, Instant.le_iff, Instant.micros_of_ofMicros moved]
      simp
    rw [isDue, ran]
    dsimp only
    rw [moved]
    exact congrArg Except.ok (decide_eq_decide.mpr same.symm)

theorem isDue_of_not_isTold (untold : ¬ schedule.IsTold) :
    schedule.isDue now = .error .outOfRange := by
  cases ran : schedule.lastRun with
  | none => exact absurd (fun last member => by rw [ran] at member; cases member) untold
  | some last =>
    rw [isDue, ran]
    dsimp only
    cases moved : last.plus schedule.interval with
    | ok next =>
      refine absurd (fun other member => ?_) untold
      rw [ran] at member
      cases member
      exact ⟨next, moved⟩
    | error error => rw [(Instant.ofMicros_eq_error_iff.mp moved).2]; rfl

end Schedule

/-- The jobs among some schedules that are switched on and due, in their order. -/
def dueAmong (now : Instant) (schedules : List Schedule) : List Schedule :=
  schedules.filter fun schedule => schedule.enabled ∧ schedule.IsDueAt now

section DueAmong

variable {now : Instant} {schedule : Schedule} {rest : List Schedule}

theorem dueAmong_cons_of_due (enabled : schedule.enabled = true) (due : schedule.IsDueAt now) :
    dueAmong now (schedule :: rest) = schedule :: dueAmong now rest :=
  List.filter_cons_of_pos (decide_eq_true ⟨enabled, due⟩)

theorem dueAmong_cons_of_not (rests : ¬ (schedule.enabled = true ∧ schedule.IsDueAt now)) :
    dueAmong now (schedule :: rest) = dueAmong now rest :=
  List.filter_cons_of_neg (by simpa using rests)

end DueAmong

/-! ### What a job comes to -/

/-- The report says that its run was cancelled. -/
def Value.saysCancelled (report : Value) : Bool := (report.field? "cancelled").any Value.isTrue

/-- A report is a table of fields, or it is empty. -/
def Value.IsReport (value : Value) : Prop := value.isTrue = true → ∃ fields, value = .table fields

/-- **How a run ended**: it failed if its job did, it was cancelled if the report says so, and else it
succeeded. -/
def RunStatus.ofOutcome : Except Failure Value → RunStatus
  | .error _ => .failed
  | .ok report => if report.saysCancelled then .cancelled else .succeeded

theorem RunStatus.ofResult_of_isReport {report : Value} (isReport : report.IsReport) :
    RunStatus.ofResult report = .ok (.ofOutcome (.ok report)) := by
  cases report with
  | table fields =>
    simp only [RunStatus.ofResult, RunStatus.ofOutcome, Value.saysCancelled, Value.field?]
    split <;> simp [*]
  | null => rfl
  | _ =>
    unfold RunStatus.ofResult
    dsimp only
    split
    · obtain ⟨_, ⟨⟩⟩ := isReport ‹_›
    · rfl

theorem RunStatus.ofResult_of_not_isReport {report : Value} (unreadable : ¬ report.IsReport) :
    RunStatus.ofResult report = .error (.noFields report) := by
  cases report with
  | table fields => exact absurd (fun _ => ⟨fields, rfl⟩) unreadable
  | null => exact absurd nofun unreadable
  | _ =>
    unfold RunStatus.ofResult
    dsimp only
    split
    · rfl
    · exact absurd (fun holds => absurd holds ‹_›) unreadable

/-- **A job that reports or fails**, and never asks to stop at once. -/
structure Schedule.IsOrdinary (schedule : Schedule) : Prop where
  reports : ∀ now world report after, schedule.work now world = .ok report after → report.IsReport
  patient : ∀ now world failure after, schedule.work now world = .error failure after →
    failure.isInterrupt = false

/-- **A job breaks off**: it asks to stop at once, or what it returns is no report. -/
inductive Schedule.BreaksOff (schedule : Schedule) (now : Instant) (before : World) :
    Failure → World → Prop where
  | interrupted (failure : Failure) (after : World) (ran : schedule.work now before = .error failure after)
      (interrupt : failure.isInterrupt = true) : BreaksOff schedule now before failure after
  | unreported (report : Value) (after : World) (ran : schedule.work now before = .ok report after)
      (unreadable : ¬ report.IsReport) : BreaksOff schedule now before (.noFields report) after

/-- An ordinary job does not break off. -/
theorem Schedule.IsOrdinary.not_breaksOff {schedule : Schedule} (ordinary : schedule.IsOrdinary) {now : Instant}
    {before after : World} {failure : Failure} : ¬ schedule.BreaksOff now before failure after := by
  rintro (⟨_, _, ran, interrupt⟩ | ⟨_, _, ran, unreadable⟩)
  · rw [ordinary.patient _ _ _ _ ran] at interrupt
    cases interrupt
  · exact unreadable (ordinary.reports _ _ _ _ ran)

/-! ### Runs -/

/-- The result of an action that came to an outcome in a state. -/
def inState {ε σ α : Type} (outcome : Except ε α) (state : σ) : Result ε σ α :=
  match outcome with
  | .ok a => .ok a state
  | .error e => .error e state

@[simp] theorem endOf_inState {ε σ α : Type} (outcome : Except ε α) (state : σ) :
    endOf (inState outcome state) = state := by
  cases outcome <;> rfl

/-- A job that reports the same every time is ordinary. -/
theorem Schedule.IsOrdinary.of_returns {schedule : Schedule} {report : Value}
    (work : schedule.work = fun _ => inState (.ok report)) (isReport : report.IsReport) :
    schedule.IsOrdinary where
  reports now world report after ran := by
    rw [work] at ran
    cases ran
    exact isReport
  patient now world failure after ran := by
    rw [work] at ran
    cases ran

/-- A job that fails every time, and not with the request to stop at once, is ordinary. -/
theorem Schedule.IsOrdinary.of_fails {schedule : Schedule} {failure : Failure}
    (work : schedule.work = fun _ => inState (.error failure)) (patient : failure.isInterrupt = false) :
    schedule.IsOrdinary where
  reports now world report after ran := by
    rw [work] at ran
    cases ran
  patient now world failure after ran := by
    rw [work] at ran
    cases ran
    exact patient

/-- One run of a job: the world in which it began, what the job came to, the world that it left, and how the
run is reported. -/
structure Execution where
  schedule : Schedule
  before : World
  outcome : Except Failure Value
  after : World
  run : JobRun

/-- **The run was one of its job at a time**, and it is reported as what the job came to. -/
structure Execution.IsRun (now : Instant) (execution : Execution) : Prop where
  work : execution.schedule.work now execution.before
    = inState execution.outcome execution.after
  name : execution.run.name = execution.schedule.name
  status : execution.run.status = .ofOutcome execution.outcome
  startedAt : execution.run.startedAt = execution.before.surroundings.clock
  finishedAt : execution.run.finishedAt = execution.after.surroundings.clock
  result : execution.run.result = execution.outcome.toOption.getD .null
  error : execution.run.error = match execution.outcome with
    | .ok _ => none
    | .error failure => some failure.message

/-- The world when something was noted in it. -/
def World.noting (notice : Notice) (world : World) : World :=
  { world with surroundings := { world.surroundings with
    journal := world.surroundings.journal ++ [notice] } }

/-- Nothing happened but that something was noted. -/
def World.Noted (before after : World) : Prop :=
  ∃ notices, after = { before with surroundings := { before.surroundings with
    journal := before.surroundings.journal ++ notices } }

theorem World.noted_noting (world : World) (notice : Notice) : world.Noted (world.noting notice) :=
  ⟨[notice], rfl⟩

theorem World.Noted.refl (world : World) : world.Noted world :=
  ⟨[], by rw [List.append_nil]⟩

theorem World.Noted.trans {before middle after : World} (first : before.Noted middle) (next : middle.Noted after) :
    before.Noted after := by
  obtain ⟨notices, rfl⟩ := first
  obtain ⟨later, rfl⟩ := next
  exact ⟨notices ++ later, by rw [List.append_assoc]⟩

theorem World.Noted.cancelled {before after : World} (noted : before.Noted after) :
    after.surroundings.cancelled = before.surroundings.cancelled := by
  obtain ⟨notices, rfl⟩ := noted
  rfl

/-- **Jobs ran one after another**, each before the signal to stop and in the world that the run before it left,
and the time is kept as that of their last runs. -/
inductive Ran (now : Instant) : Scheduler → List Execution → Scheduler → Prop where
  | nil {scheduler : Scheduler} : Ran now scheduler [] scheduler
  | cons {scheduler middle final : Scheduler} {execution : Execution} {later : List Execution}
      (unsignalled : scheduler.world.surroundings.cancelled = false)
      (begins : scheduler.world.Noted execution.before) (isRun : execution.IsRun now)
      (ends : execution.after.Noted middle.world)
      (rota : middle.rota = scheduler.rota.begin execution.schedule.name now)
      (rest : Ran now middle later final) : Ran now scheduler (execution :: later) final

/-- The names of the jobs that ran. -/
def namesOf (executions : List Execution) : List String :=
  executions.map fun execution => execution.schedule.name

/-- The rota after runs of some jobs at a time: theirs is the last run now, and every other job keeps its own. -/
def Rota.begun (names : List String) (now : Instant) (rota : Rota) : Rota :=
  rota.map fun schedule =>
    if schedule.name ∈ names then { schedule with lastRun := some now } else schedule

theorem Rota.begun_nil (now : Instant) (rota : Rota) : rota.begun [] now = rota := by
  simp [Rota.begun]

theorem Rota.begun_begin (name : String) (names : List String) (now : Instant) (rota : Rota) :
    Rota.begun names now (rota.begin name now) = rota.begun (name :: names) now := by
  unfold Rota.begun Rota.begin
  rw [List.map_map]
  refine List.map_congr_left fun schedule _ => ?_
  by_cases same : schedule.name = name
  · simp [same]
  · simp [same]

section Ran

variable {now : Instant} {scheduler final : Scheduler} {executions : List Execution}

theorem Ran.rota_eq (ran : Ran now scheduler executions final) :
    final.rota = scheduler.rota.begun (namesOf executions) now := by
  induction ran with
  | nil => exact (Rota.begun_nil _ _).symm
  | cons _ _ _ _ rota _ ih =>
    rw [ih, rota]
    exact Rota.begun_begin _ _ _ _

theorem Ran.isRun (ran : Ran now scheduler executions final) {execution : Execution}
    (member : execution ∈ executions) : execution.IsRun now := by
  induction ran with
  | nil => cases member
  | cons _ _ isRun _ _ _ ih =>
    rcases List.mem_cons.mp member with rfl | later
    · exact isRun
    · exact ih later

/-- The signal to stop stays as it is if no job changes it. -/
theorem Ran.cancelled_eq (ran : Ran now scheduler executions final)
    (calm : ∀ execution ∈ executions,
      execution.after.surroundings.cancelled = execution.before.surroundings.cancelled) :
    final.world.surroundings.cancelled = scheduler.world.surroundings.cancelled := by
  induction ran with
  | nil => rfl
  | cons _ begins _ ends _ _ ih =>
    obtain ⟨here, later⟩ := List.forall_mem_cons.mp calm
    rw [ih later, ends.cancelled, here, begins.cancelled]

end Ran

/-! ### Ticks -/

namespace Rounds

variable {now : Instant} {scheduler : Scheduler}

/-- A job is run in the world in which its start was noted, and what it came to is noted in the world that it
left. -/
theorem runJob_apply (schedule : Schedule) (now : Instant) (scheduler : Scheduler) :
    runJob schedule now scheduler
      = match schedule.work now (scheduler.world.noting (.jobStarting schedule.name)) with
        | .error failure after =>
          if failure.isInterrupt = true then
            .error failure ⟨after, scheduler.rota.begin schedule.name now⟩
          else .ok {
            name := schedule.name, status := .failed, startedAt := scheduler.world.surroundings.clock,
            finishedAt := after.surroundings.clock, error := some failure.message }
            ⟨after.noting (.jobFailed schedule.name failure.message),
              scheduler.rota.begin schedule.name now⟩
        | .ok report after =>
          match RunStatus.ofResult report with
          | .error failure => .error failure ⟨after, scheduler.rota.begin schedule.name now⟩
          | .ok status =>
            let run : JobRun := {
              name := schedule.name, status, startedAt := scheduler.world.surroundings.clock,
              finishedAt := after.surroundings.clock, result := report }
            .ok run ⟨after.noting (.jobFinished run.name run.status run.millis run.result),
              scheduler.rota.begin schedule.name now⟩ := by
  let before := scheduler.world.noting (.jobStarting schedule.name)
  let rota := scheduler.rota.begin schedule.name now
  have reads : (liftM Act.readClock : Rounds Instant) ⟨scheduler.world, rota⟩
      = .ok before.surroundings.clock ⟨scheduler.world, rota⟩ := rfl
  have notes : (liftM (Act.note (.jobStarting schedule.name)) : Rounds Unit) ⟨scheduler.world, rota⟩
      = .ok () ⟨before, rota⟩ := rfl
  rw [runJob, bind_of_ok (modify_apply _ _), bind_of_ok reads, bind_of_ok notes, bind_apply, attempt]
  dsimp only
  cases schedule.work now before with
  | error failure after =>
    dsimp only
    cases failure.isInterrupt <;> rfl
  | ok report after =>
    dsimp only
    cases RunStatus.ofResult report <;> rfl

/-- **A job is run and reported, or it breaks off.** -/
theorem runJob_cases (schedule : Schedule) (now : Instant) (scheduler : Scheduler) :
    (∃ (execution : Execution) (final : Scheduler), execution.schedule = schedule ∧ execution.IsRun now
      ∧ scheduler.world.Noted execution.before ∧ execution.after.Noted final.world
      ∧ final.rota = scheduler.rota.begin schedule.name now
      ∧ runJob schedule now scheduler = .ok execution.run final)
    ∨ ∃ before failure after, scheduler.world.Noted before ∧ schedule.BreaksOff now before failure after
      ∧ runJob schedule now scheduler = .error failure ⟨after, scheduler.rota.begin schedule.name now⟩ := by
  have begins := scheduler.world.noted_noting (.jobStarting schedule.name)
  rw [runJob_apply]
  dsimp only
  cases ran : schedule.work now (scheduler.world.noting (.jobStarting schedule.name)) with
  | error failure after =>
    dsimp only
    by_cases interrupt : failure.isInterrupt = true
    · rw [if_pos interrupt]
      exact .inr ⟨_, failure, after, begins, .interrupted failure after ran interrupt, rfl⟩
    · rw [if_neg interrupt]
      exact .inl ⟨⟨schedule, _, .error failure, after, _⟩, _, rfl, ⟨ran, rfl, rfl, rfl, rfl, rfl, rfl⟩, begins,
        after.noted_noting _, rfl, rfl⟩
  | ok report after =>
    dsimp only
    by_cases isReport : report.IsReport
    · rw [RunStatus.ofResult_of_isReport isReport]
      exact .inl ⟨⟨schedule, _, .ok report, after, _⟩, _, rfl, ⟨ran, rfl, rfl, rfl, rfl, rfl, rfl⟩, begins,
        after.noted_noting _, rfl, rfl⟩
    · rw [RunStatus.ofResult_of_not_isReport isReport]
      exact .inr ⟨_, .noFields report, after, begins, .unreported report after ran isReport, rfl⟩

/-- **An ordinary job is run and reported**, whatever it comes to. -/
theorem runJob_of_isOrdinary {schedule : Schedule} (ordinary : schedule.IsOrdinary) (now : Instant)
    (scheduler : Scheduler) :
    ∃ (execution : Execution) (final : Scheduler), execution.schedule = schedule ∧ execution.IsRun now
      ∧ scheduler.world.Noted execution.before ∧ execution.after.Noted final.world
      ∧ final.rota = scheduler.rota.begin schedule.name now
      ∧ runJob schedule now scheduler = .ok execution.run final := by
  rcases runJob_cases schedule now scheduler with reported | ⟨_, _, _, _, breaks, _⟩
  · exact reported
  · exact absurd breaks ordinary.not_breaksOff

/-- A list of results with one more before them. -/
def prepend {ε σ α : Type} (first : α) : Result ε σ (List α) → Result ε σ (List α)
  | .ok later final => .ok (first :: later) final
  | .error failure final => .error failure final

/-- The next of some schedules is looked at unless the signal to stop was raised; its job is run if it is
switched on and due. -/
theorem runDue_cons (now : Instant) (schedule : Schedule) (rest : List Schedule)
    (scheduler : Scheduler) :
    runDue now (schedule :: rest) scheduler =
      if scheduler.world.surroundings.cancelled = true then .ok [] scheduler
      else match (if schedule.enabled then schedule.isDue now else .ok false) with
        | .error error => .error (.time error) scheduler
        | .ok false => runDue now rest scheduler
        | .ok true => match runJob schedule now scheduler with
          | .error failure after => .error failure after
          | .ok run after => prepend run (runDue now rest after) := by
  have reads : (liftM Act.isCancelled : Rounds Bool) scheduler
      = .ok scheduler.world.surroundings.cancelled scheduler := rfl
  rw [runDue, bind_of_ok reads]
  by_cases signalled : scheduler.world.surroundings.cancelled = true
  · rw [if_pos signalled, if_pos signalled]
    rfl
  · rw [if_neg signalled, if_neg signalled]
    cases schedule.enabled with
    | false => rfl
    | true =>
      simp only [if_true]
      cases schedule.isDue now with
      | error error => rfl
      | ok due =>
        cases due with
        | false => rfl
        | true =>
          refine (bind_of_ok (x := (liftM (Act.inTime (.ok true)) : Rounds Bool)) (a := true) rfl).trans ?_
          simp only [if_true]
          rw [bind_apply]
          cases runJob schedule now scheduler with
          | error failure after => rfl
          | ok run after =>
            dsimp only
            rw [bind_apply]
            cases runDue now rest after <;> rfl

/-- **What a tick does, whichever way it ends**: it runs all jobs that are due, it is told to stop on the way, or
it comes to a job whose next time cannot be told. -/
inductive Ticked (now : Instant) (schedules : List Schedule) (scheduler : Scheduler) :
    Result Failure Scheduler (List JobRun) → Prop where
  | finished (executions : List Execution) (final : Scheduler)
      (ran : Ran now scheduler executions final)
      (all : executions.map Execution.schedule = dueAmong now schedules)
      (told : ∀ schedule ∈ schedules, schedule.enabled = true → schedule.IsTold) :
      Ticked now schedules scheduler (.ok (executions.map Execution.run) final)
  | stopped (executions : List Execution) (final : Scheduler)
      (ran : Ran now scheduler executions final)
      (some : executions.map Execution.schedule <+: dueAmong now schedules)
      (signalled : final.world.surroundings.cancelled = true) :
      Ticked now schedules scheduler (.ok (executions.map Execution.run) final)
  | untold (executions : List Execution) (final : Scheduler) (early later : List Schedule)
      (culprit : Schedule) (split : schedules = early ++ culprit :: later)
      (ran : Ran now scheduler executions final)
      (all : executions.map Execution.schedule = dueAmong now early)
      (enabled : culprit.enabled = true) (untold : ¬ culprit.IsTold)
      (unsignalled : final.world.surroundings.cancelled = false) :
      Ticked now schedules scheduler (.error (.time .outOfRange) final)

/-- A job that rests is passed over. -/
theorem Ticked.cons_of_resting {schedule : Schedule} {rest : List Schedule}
    {result : Result Failure Scheduler (List JobRun)}
    (told : schedule.enabled = true → schedule.IsTold)
    (rests : ¬ (schedule.enabled = true ∧ schedule.IsDueAt now))
    (later : Ticked now rest scheduler result) : Ticked now (schedule :: rest) scheduler result := by
  cases later with
  | finished executions final ran all each =>
    refine .finished executions final ran ?_ (List.forall_mem_cons.mpr ⟨told, each⟩)
    rw [all, dueAmong_cons_of_not rests]
  | stopped executions final ran some signalled =>
    refine .stopped executions final ran ?_ signalled
    rw [dueAmong_cons_of_not rests]
    exact some
  | untold executions final early later culprit split ran all enabled untold unsignalled =>
    refine .untold executions final (schedule :: early) later culprit ?_ ran ?_ enabled untold unsignalled
    · rw [split, List.cons_append]
    · rw [all, dueAmong_cons_of_not rests]

/-- A job that is due is run first. -/
theorem Ticked.cons_of_due {execution : Execution} {rest : List Schedule} {middle : Scheduler}
    (told : execution.schedule.IsTold) (enabled : execution.schedule.enabled = true)
    (due : execution.schedule.IsDueAt now)
    (runs : ∀ {executions final}, Ran now middle executions final →
      Ran now scheduler (execution :: executions) final)
    {result : Result Failure Scheduler (List JobRun)} (later : Ticked now rest middle result) :
    Ticked now (execution.schedule :: rest) scheduler (prepend execution.run result) := by
  cases later with
  | finished executions final ran all each =>
    refine .finished (execution :: executions) final (runs ran) ?_
      (List.forall_mem_cons.mpr ⟨fun _ => told, each⟩)
    rw [List.map_cons, all, dueAmong_cons_of_due enabled due]
  | stopped executions final ran some signalled =>
    refine .stopped (execution :: executions) final (runs ran) ?_ signalled
    rw [List.map_cons, dueAmong_cons_of_due enabled due]
    exact (List.prefix_cons_inj _).mpr some
  | untold executions final early later culprit split ran all active untold unsignalled =>
    refine .untold (execution :: executions) final (execution.schedule :: early) later culprit ?_
      (runs ran) ?_ active untold unsignalled
    · rw [split, List.cons_append]
    · rw [List.map_cons, all, dueAmong_cons_of_due enabled due]

/-- **A tick runs the jobs that are due, in their order.** -/
theorem runDue_ticked (now : Instant) {schedules : List Schedule}
    (ordinary : ∀ schedule ∈ schedules, schedule.IsOrdinary) (scheduler : Scheduler) :
    Ticked now schedules scheduler (runDue now schedules scheduler) := by
  induction schedules generalizing scheduler with
  | nil => exact .finished [] scheduler .nil rfl (List.forall_mem_nil _)
  | cons schedule rest ih =>
    obtain ⟨here, others⟩ := List.forall_mem_cons.mp ordinary
    rw [runDue_cons]
    by_cases signalled : scheduler.world.surroundings.cancelled = true
    · rw [if_pos signalled]
      exact .stopped [] scheduler .nil List.nil_prefix signalled
    rw [if_neg signalled]
    rw [Bool.not_eq_true] at signalled
    by_cases enabled : schedule.enabled = true
    · rw [if_pos enabled]
      by_cases told : schedule.IsTold
      · rw [Schedule.isDue_of_isTold told]
        by_cases due : schedule.IsDueAt now
        · obtain ⟨execution, middle, rfl, isRun, begins, ends, rota, runs⟩ :=
            runJob_of_isOrdinary here now scheduler
          rw [decide_eq_true due, runs]
          exact Ticked.cons_of_due told enabled due
            (fun later => .cons signalled begins isRun ends rota later) (ih others middle)
        · rw [decide_eq_false due]
          exact Ticked.cons_of_resting (fun _ => told) (fun both => due both.2) (ih others scheduler)
      · rw [Schedule.isDue_of_not_isTold told]
        exact .untold [] scheduler [] rest schedule rfl .nil rfl enabled told signalled
    · rw [if_neg enabled]
      exact Ticked.cons_of_resting (fun active => absurd active enabled)
        (fun both => enabled both.1) (ih others scheduler)

end Rounds

end Roster
