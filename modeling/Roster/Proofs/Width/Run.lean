/-
**Everything written fits its column.**

Orders, drains, reports, consents and passes follow each other, in transactions that may fail or be given up, in
surroundings that change from one to the next. Whatever stands in the store afterwards, its limited texts fit
their columns, and each of them is what the limit leaves of a text that was put together for that row.

* `Row.Fits` — the limited texts of a row fit; `Row.Fits.declared` — their limits are the declared widths.
* `Occasion`, `World.through` — what is done one after the other.
* `Traced` — where the limited texts of a row come from: they stood there at the start, or they are **what is left
  of the key, the failure, the name, the description, the browser or the content** of something done.
* `every_traced_run` — every occasion keeps this; `texts_fit` — **what a whole run leaves**.
-/

import Mathlib.Data.List.Induction
import Roster.Layout.Tables
import Roster.Proofs.Settings.Bounds
import Roster.Proofs.Width.Cut
import Roster.Proofs.Width.Writers

namespace Roster

open Outbox Reconcile Text

/-! ### Texts that fit -/

/-- **The limited texts of a row fit.** -/
def Row.Fits : Row → Prop
  | .event row => row.key.length ≤ 200 ∧ ∀ error ∈ row.lastError, 1 ≤ error.length ∧ error.length ≤ 4000
  | .entry row => row.actorName.length ≤ 200 ∧ row.description.length ≤ 4000
  | .consent row => row.userAgent.length ≤ 1024 ∧ row.contentHash.length = 64
  | _ => True

/-- The limited texts of a row, each with the name of its column. -/
def Row.limited : Row → List (String × String)
  | .event row => ("deduplication_key", row.key) :: row.lastError.toList.map fun error => ("last_error", error)
  | .entry row => [("actor_name", row.actorName), ("description", row.description)]
  | .consent row => [("user_agent", row.userAgent), ("content_hash", row.contentHash)]
  | _ => []

/-- The declared length of a column that holds a text. -/
def Table.width? (table : Table) (name : String) : Option Nat :=
  match (table.layout.columns.find? (·.name = name)).map Column.type with
  | some (.text width) => width
  | _ => none

/-- **The limits are the declared widths**: what fits is shown in a column that is as wide. -/
theorem Row.Fits.declared {row : Row} (fits : row.Fits) : ∀ limited ∈ row.limited,
    (limited.1, Value.text limited.2) ∈ row.columns
      ∧ ∃ width, row.table.width? limited.1 = some width ∧ limited.2.length ≤ width := by
  cases row with
  | event row =>
    rintro limited member
    rcases List.mem_cons.mp member with rfl | told
    · exact ⟨by simp [columns, OutboxEvent.columns], 200, rfl, fits.1⟩
    · obtain ⟨error, given, rfl⟩ := List.mem_map.mp told
      rw [Option.mem_toList] at given
      refine ⟨?_, 4000, rfl, (fits.2 error given).2⟩
      simp [columns, OutboxEvent.columns, Option.mem_def.mp given, Value.ofOption]
  | entry row =>
    rintro limited member
    rcases List.mem_pair.mp member with rfl | rfl
    · exact ⟨by simp [columns, AuditEntry.columns], 200, rfl, fits.1⟩
    · exact ⟨by simp [columns, AuditEntry.columns], 4000, rfl, fits.2⟩
  | consent row =>
    rintro limited member
    rcases List.mem_pair.mp member with rfl | rfl
    · exact ⟨by simp [columns, ConsentRecord.columns], 1024, rfl, fits.1⟩
    · exact ⟨by simp [columns, ConsentRecord.columns], 64, rfl, Nat.le_of_eq fits.2⟩
  | _ => exact List.forall_mem_nil _

/-! ### What is done -/

namespace Width

/-- What can be done in a transaction: an order, a drain, a report by somebody, a consent to a content, and a
write to another table. -/
inductive Call where
  | order (order : Order)
  | drain (policy : Policy) (mode : DrainMode)
  | report (report : Audit.Report) (acting : Acting)
  | consent (given : Consent.Given) (content : Digest.Content)
  | write (write : Write)

/-- What a call does. A failure is left to the caller, who may go on. -/
def Call.run : Call → Transaction Unit
  | .order asked => do let _ ← Transaction.attempt (enqueue asked)
  | .drain policy mode => do let _ ← Transaction.attempt (Outbox.drain policy mode)
  | .report told acting => do let _ ← Audit.append { told with actor := acting.actor }
  | .consent given content => do let _ ← Transaction.attempt (Consent.give (given.showing content))
  | .write staged => Transaction.stage staged

/-- What can be done with the committed store: some calls in a transaction, or a pass over the team of a kind. -/
inductive Task where
  | calls (calls : List Call) (ending : Ending)
  | pass (kind : TeamKind) (given : Option Eligibility) (mode : Mode)

/-- The world after a task, whichever way it ends. -/
def Task.run (world : World) : Task → World
  | .calls made ending => endOf (Application.transact (do made.forM Call.run; return ((), ending)) world)
  | .pass kind given mode => endOf (Reconcile.pass kind given mode world)

/-- Something is done, in surroundings that may have changed. -/
structure Occasion where
  now : Surroundings
  task : Task

/-- **The world after some occasions**, one after the other. -/
def through (world : World) (occasions : List Occasion) : World :=
  occasions.foldl (fun world occasion => occasion.task.run (world.resumed occasion.now)) world

/-- The settings admit the limit for the texts of failures. -/
def IsAdmittedPolicy (policy : Policy) : Prop :=
  ∃ fields outbox, Settings.Outbox.rules.check fields = .valid outbox ∧ policy.errorLength = outbox.errorLength

/-- A call is made as its callers do: the settings admit the limit of a drain, and a write is to a table without
limited texts. -/
def Call.IsAdmitted : Call → Prop
  | .drain policy _ => IsAdmittedPolicy policy
  | .write staged => staged.row.limited = []
  | _ => True

/-- The calls are made as their callers do, and the rule of a pass only asks. -/
def Task.IsAdmitted : Task → Prop
  | .calls made _ => ∀ call ∈ made, call.IsAdmitted
  | .pass _ given _ => ∀ rule ∈ given, rule.OnlyAsks

/-! ### Where texts come from -/

section Traced

variable (start : World) (occasions : List Occasion)

/-- A task was done in a world, with the surroundings that it met. -/
def Occurs (world : World) (task : Task) : Prop :=
  ∃ done now rest, occasions = done ++ ⟨now, task⟩ :: rest ∧ world = (through start done).resumed now

/-- A call was made in a world. -/
def Made (world : World) (call : Call) : Prop :=
  ∃ calls ending, Occurs start occasions world (.calls calls ending) ∧ call ∈ calls

/-- A pass met a team in a world. -/
def Passed (world : World) (mode : Mode) (team : Team) : Prop :=
  ∃ kind given, Occurs start occasions world (.pass kind given mode) ∧ team ∈ world.store.teams

/-- **The orders of a run**: those that were called for, and those of passes. -/
inductive Ordered : Order → Prop where
  | called {world : World} {order : Order} (made : Made start occasions world (.order order)) :
      Ordered order
  | passed {world : World} {mode : Mode} {team : Team} (passed : Passed start occasions world mode team)
      (change : Change) : Ordered (change.order mode team)

/-- **The reports of a run** with who acted: those that were called for; and those of passes, which tell who joined
or left a team under the name that is known of them. -/
inductive Reported : Audit.Report → Acting → Prop where
  | called {world : World} {report : Audit.Report} {acting : Acting}
      (made : Made start occasions world (.report report acting)) :
      Reported { report with actor := acting.actor } acting
  | joined {world : World} {mode : Mode} {team : Team} (passed : Passed start occasions world mode team)
      (user : Uuid) :
      Reported (report mode team user .teamMemberAdded
        (nameOf (namesIn [user] world.store) user ++ " added to ")) (.job mode.jobName)
  | left {world : World} {mode : Mode} {team : Team} (passed : Passed start occasions world mode team)
      (user : Uuid) :
      Reported (report mode team user .teamMemberRemoved
        (nameOf (namesIn [user] world.store) user ++ " removed from ")) (.job mode.jobName)

/-- Dispatching the event failed in a drain of the run, with the groupware of that time and under a limit. -/
def FailedIn (event : OutboxEvent) (limit : Int) (failure : Failure) : Prop :=
  ∃ world policy mode now, Made start occasions world (.drain policy mode) ∧ limit = policy.errorLength
    ∧ now.groupware = world.surroundings.groupware ∧ failureOf (dispatch event now) = some failure

/-- **The key of an event** stood there at the start, or it is what is left of the key of its order. -/
inductive KeyTraced (event : OutboxEvent) : Prop where
  | stood (before : OutboxEvent) (member : before ∈ start.store.events) (same : before.id = event.id)
      (key : event.key = before.key)
  | ordered (order : Order) (ordered : Ordered start occasions order) (kind : event.kind = order.kind)
      (about : order.IsAbout event.team event.user)
      (cut : IsCut 200 order.wholeKey event.key)

/-- **The error of an event** stood there at the start, it tells which order superseded the event, or it is what is
left of the failure of an attempt at the event. -/
inductive ErrorTraced (event : OutboxEvent) (error : String) : Prop where
  | stood (before : OutboxEvent) (member : before ∈ start.store.events) (same : before.id = event.id)
      (stood : before.lastError = some error)
  | superseded (order : Order) (ordered : Ordered start occasions order)
      (opposite : order.kind.opposite? = some event.kind) (about : order.IsAbout event.team event.user)
      (told : error = "Superseded by " ++ order.kind.label ++ " before delivery")
  | failed (limit : Int) (failure : Failure) (failed : FailedIn start occasions event limit failure)
      (cut : IsCut limit.toNat (wholeError failure) error)

/-- An entry stood there at the start, or its texts are what is left of a report. -/
inductive EntryTraced (entry : AuditEntry) : Prop where
  | stood (member : entry ∈ start.store.audit)
  | reported (report : Audit.Report) (acting : Acting) (reported : Reported start occasions report acting)
      (made : ∃ id clock, entry = report.entry id clock)
      (name : IsCut 200 acting.wholeName entry.actorName)
      (description : IsAbridged 4000 report.description entry.description)

/-- A consent stood there at the start, or its texts are what is left of what was given. -/
inductive ConsentTraced (record : ConsentRecord) : Prop where
  | stood (member : record ∈ start.store.consents)
  | given (world : World) (given : Consent.Given) (content : Digest.Content)
      (called : Made start occasions world (.consent given content))
      (made : ∃ id clock, record = (given.showing content).record id clock)
      (agent : IsCut 1024 given.userAgent record.userAgent)
      (hash : record.contentHash = Digest.ofContent content)

/-- **Where the limited texts of a row come from.** -/
def Traced : Row → Prop
  | .event row => KeyTraced start occasions row ∧ ∀ error ∈ row.lastError, ErrorTraced start occasions row error
  | .entry row => EntryTraced start occasions row
  | .consent row => ConsentTraced start occasions row
  | _ => True

end Traced

variable {start world : World} {occasions : List Occasion} {event after : OutboxEvent}

/-! ### What the run keeps -/

/-- At the start every text stands where it stood. -/
theorem every_traced_start (start : World) (occasions : List Occasion) :
    start.store.Every (Traced start occasions) := by
  intro table row member
  cases row with
  | event row =>
    cases table <;> simp [Store.rows] at member
    exact ⟨.stood row member rfl rfl, fun error given => .stood row member rfl given⟩
  | entry row =>
    cases table <;> simp [Store.rows] at member
    exact .stood member
  | consent row =>
    cases table <;> simp [Store.rows] at member
    exact .stood member
  | _ => trivial

/-- The key of an event is traced as long as the event asks for the same thing under the same key. -/
theorem KeyTraced.of_same (traced : KeyTraced start occasions event) (id : after.id = event.id)
    (kind : after.kind = event.kind) (team : after.team = event.team) (user : after.user = event.user)
    (key : after.key = event.key) : KeyTraced start occasions after := by
  cases traced with
  | stood before member same kept =>
    exact .stood before member (same.trans id.symm) (key.trans kept)
  | ordered order ordered asked about cut =>
    refine .ordered order ordered (kind.trans asked) ?_ (key ▸ cut)
    rw [team, user]
    exact about

/-- **The event of an order is traced**, whatever identifier and time it gets. -/
theorem traced_ordered {order : Order} (ordered : Ordered start occasions order) (id : Uuid)
    (moment : Instant) : Traced start occasions (.event (order.event id moment)) :=
  ⟨.ordered order ordered rfl ⟨rfl, rfl⟩ order.isCut_storedKey, fun _ given => by cases given⟩

/-- **An event that an order supersedes stays traced.** -/
theorem traced_superseded {order : Order} (ordered : Ordered start occasions order) {moment : Instant}
    (traced : Traced start occasions (.event event)) (reverses : order.reverses event = true) :
    Traced start occasions (.event (superseded event order.kind moment)) := by
  obtain ⟨opposite, team, user, _⟩ := of_decide_eq_true reverses
  refine ⟨traced.1.of_same rfl rfl rfl rfl rfl, ?_⟩
  rintro error ⟨⟩
  exact .superseded order ordered opposite ⟨team.symm, user.symm⟩ rfl

/-- **An event that a drain attempts stays traced**, with the failure of that attempt if there is one. -/
theorem traced_attempted {policy : Policy} {mode : DrainMode} {now : Surroundings} {moment : Instant}
    (made : Made start occasions world (.drain policy mode)) (room : 0 ≤ policy.errorLength)
    (traced : Traced start occasions (.event event))
    (same : now.groupware = world.surroundings.groupware) :
    Traced start occasions (.event ((attemptAt event moment now).outcome policy)) := by
  unfold Attempt.outcome
  cases outcome : (attemptAt event moment now).failure with
  | none => exact ⟨traced.1.of_same rfl rfl rfl rfl rfl, fun _ given => by cases given⟩
  | some failure =>
    refine ⟨traced.1.of_same rfl rfl rfl rfl rfl, ?_⟩
    rintro error ⟨⟩
    exact .failed policy.errorLength failure ⟨world, policy, mode, now, made, rfl, same, outcome⟩
      (isCut_errorText failure room)

/-- The settings admit limits from 100 to 4000 only. -/
theorem IsAdmittedPolicy.bounds {policy : Policy} (admitted : IsAdmittedPolicy policy) :
    100 ≤ policy.errorLength ∧ policy.errorLength ≤ 4000 := by
  obtain ⟨fields, outbox, checked, same⟩ := admitted
  rw [same]
  exact (Settings.Outbox.inBounds_of_check checked).errorLength

/-- A row without limited texts has nothing to trace. -/
theorem traced_of_limited {row : Row} (none : row.limited = []) : Traced start occasions row := by
  cases row with
  | event row => cases none
  | entry row => cases none
  | consent row => cases none
  | _ => trivial

/-- **Every call keeps the texts traced**, whichever way it ends. -/
theorem upholds_call {call : Call} (made : Made start occasions world call) (admitted : call.IsAdmitted) :
    Upholds world.surroundings.groupware (Traced start occasions) call.run fun _ => True := by
  cases call with
  | order order =>
    refine Upholds.bind (Upholds.attempt (upholds_enqueue ?_ ?_)) fun _ _ => Upholds.pure trivial
    · exact traced_ordered (.called made)
    · exact fun event moment traced => traced_superseded (.called made) traced
  | drain policy mode =>
    have room : 0 ≤ policy.errorLength := Int.le_trans (by decide) admitted.bounds.1
    refine Upholds.bind (Upholds.attempt (upholds_drain ?_)) fun _ _ => Upholds.pure trivial
    exact fun event moment now traced same => traced_attempted made room traced same
  | report report acting =>
    refine Upholds.bind (Audit.upholds_append fun id clock => ?_) fun _ _ => Upholds.pure trivial
    exact .reported _ acting (.called made) ⟨id, clock, rfl⟩ acting.isCut_name
      (Audit.isAbridged_clipDescription _)
  | consent given content =>
    refine Upholds.bind (Upholds.attempt (Consent.upholds_give fun id clock => ?_)) fun _ _ =>
      Upholds.pure trivial
    exact .given world given content made ⟨id, clock, rfl⟩ (isCut_clip _ _) rfl
  | write staged => exact Upholds.stage (traced_of_limited admitted)

/-- **What a pass writes for a change is traced.** -/
theorem suits_of_passed {mode : Mode} {team : Team} (passed : Passed start occasions world mode team)
    (change : Change) :
    change.Suits (Traced start occasions) mode team (namesIn [change.user] world.store) where
  entry id := by
    cases change with
    | join user =>
      exact .reported _ (.job mode.jobName) (.joined passed user) ⟨id, mode.now, rfl⟩
        (Acting.job mode.jobName).isCut_name (Audit.isAbridged_clipDescription _)
    | leave stay =>
      exact .reported _ (.job mode.jobName) (.left passed stay.user) ⟨id, mode.now, rfl⟩
        (Acting.job mode.jobName).isCut_name (Audit.isAbridged_clipDescription _)
  event := traced_ordered (.passed passed change)
  retired _ _ traced := traced_superseded (.passed passed change) traced

/-- **Every task keeps the texts traced** in the committed store, and the rules of the store. -/
theorem every_traced_run {task : Task} (occurs : Occurs start occasions world task)
    (admitted : task.IsAdmitted) (valid : world.store.Valid)
    (every : world.store.Every (Traced start occasions)) :
    (task.run world).store.Valid ∧ (task.run world).store.Every (Traced start occasions) := by
  cases task with
  | calls made ending =>
    have upholds : Upholds world.surroundings.groupware (Traced start occasions)
        (do made.forM Call.run; return ((), ending)) fun _ => True :=
      Upholds.bind (Upholds.forM fun call inside =>
        upholds_call ⟨made, ending, occurs, inside⟩ (admitted call inside)) fun _ _ => Upholds.pure trivial
    have final := upholds.transact (World.carries_iff.mpr ⟨rfl, valid, every⟩)
    exact ⟨final.valid, final.stored⟩
  | pass kind given mode =>
    exact every_of_pass valid admitted every (fun _ => trivial) (fun _ => trivial)
      fun team member change => suits_of_passed ⟨kind, given, occurs, member⟩ change

theorem through_concat (world : World) (done : List Occasion) (occasion : Occasion) :
    through world (done ++ [occasion])
      = occasion.task.run ((through world done).resumed occasion.now) :=
  List.foldl_concat _ _ _ _

/-- **The texts are traced after every part of a run**, by induction on the occasions that are done. -/
theorem every_traced_through (valid : start.store.Valid)
    (admitted : ∀ occasion ∈ occasions, occasion.task.IsAdmitted) {done rest : List Occasion}
    (split : occasions = done ++ rest) :
    (through start done).store.Valid ∧ (through start done).store.Every (Traced start occasions) := by
  induction done using List.reverseRecOn generalizing rest with
  | nil => exact ⟨valid, every_traced_start start occasions⟩
  | append_singleton done occasion ih =>
    have cut : occasions = done ++ occasion :: rest := by
      rw [split, List.append_assoc, List.singleton_append]
    obtain ⟨validBefore, everyBefore⟩ := ih cut
    have inside : occasion ∈ occasions := cut ▸ List.mem_append_right _ List.mem_cons_self
    rw [through_concat]
    exact every_traced_run ⟨done, occasion.now, rest, cut, rfl⟩ (admitted occasion inside) validBefore
      everyBefore

/-! ### What fits -/

section Fits

variable (fits : start.store.Every Row.Fits)
  (admitted : ∀ occasion ∈ occasions, occasion.task.IsAdmitted)

include admitted in
/-- The limit of a drain that was made is admitted. -/
theorem Made.bounds {policy : Policy} {mode : DrainMode}
    (made : Made start occasions world (.drain policy mode)) :
    100 ≤ policy.errorLength ∧ policy.errorLength ≤ 4000 := by
  obtain ⟨calls, ending, ⟨done, now, rest, split, _⟩, inside⟩ := made
  have occasion : (⟨now, .calls calls ending⟩ : Occasion) ∈ occasions :=
    split ▸ List.mem_append_right _ List.mem_cons_self
  exact IsAdmittedPolicy.bounds (admitted _ occasion _ inside)

include fits

theorem KeyTraced.length_le (traced : KeyTraced start occasions event) : event.key.length ≤ 200 := by
  cases traced with
  | stood before member _ key => exact key ▸ (fits.event member).1
  | ordered order _ _ _ cut => exact cut.length_le

include admitted

theorem ErrorTraced.length_bounds {error : String} (traced : ErrorTraced start occasions event error) :
    1 ≤ error.length ∧ error.length ≤ 4000 := by
  cases traced with
  | stood before member _ stood => exact (fits.event member).2 error stood
  | superseded order _ opposite _ told =>
    subst told
    cases kind : order.kind with
    | add => decide
    | remove => decide
    | other label =>
      rw [kind] at opposite
      cases opposite
  | failed limit failure failed cut =>
    obtain ⟨_, policy, mode, _, made, rfl, _⟩ := failed
    have bounds := made.bounds admitted
    refine ⟨cut.length_pos (by omega) (wholeError_ne_empty failure), ?_⟩
    exact Nat.le_trans cut.length_le (by omega)

/-- **Whatever is traced fits**, if everything fitted at the start. -/
theorem Traced.row_fits {row : Row} (traced : Traced start occasions row) : row.Fits := by
  cases row with
  | event row =>
    exact ⟨traced.1.length_le fits, fun error given => (traced.2 error given).length_bounds fits admitted⟩
  | entry row =>
    cases traced with
    | stood member => exact fits .audit _ (List.mem_map_of_mem member)
    | reported report acting _ _ name description => exact ⟨name.length_le, description.length_le⟩
  | consent row =>
    cases traced with
    | stood member => exact fits .consents _ (List.mem_map_of_mem member)
    | given _ given content _ _ agent hash =>
      exact ⟨agent.length_le, hash ▸ Digest.length_ofContent content⟩
  | _ => trivial

end Fits

/-- **Everything written fits its column.** After any orders, drains, reports, consents and passes, in transactions
that were committed, given up or failed, every row fits if every row did at the start; and its limited texts stood
there at the start, or each is what its limit leaves of the text that was put together for it. -/
theorem texts_fit (valid : start.store.Valid) (fits : start.store.Every Row.Fits)
    (admitted : ∀ occasion ∈ occasions, occasion.task.IsAdmitted) :
    (through start occasions).store.Every fun row => row.Fits ∧ Traced start occasions row := by
  obtain ⟨_, every⟩ := every_traced_through valid admitted (List.append_nil occasions).symm
  exact every.mono fun row traced => ⟨traced.row_fits fits admitted, traced⟩

/-- An order is made and drained, with a groupware that fails without a message. -/
def silentFailure : List Occasion :=
  [⟨{ clock := default, groupware := fun _ _ =>
      { failure := some (.reported (.ordinary { text := "TimeoutError" }) "") } },
    .calls [.order { (default : Order) with key := some "key" }, .drain {} {}] .keep⟩]

/-- The name of the failure is its text, and the run tells where that and the key come from. -/
theorem silentFailure_fits :
    (∃ event ∈ (through default silentFailure).store.events,
        event.key = "key" ∧ event.lastError = some "TimeoutError")
      ∧ (through default silentFailure).store.Every fun row =>
        row.Fits ∧ Traced default silentFailure row := by
  have admitted : IsAdmittedPolicy {} := ⟨[], {}, rfl, rfl⟩
  refine ⟨by decide +kernel, texts_fit (by decide +kernel) ?_ ?_⟩
  · intro table row member
    cases table <;> cases member
  · intro occasion inside
    obtain rfl := List.mem_singleton.mp inside
    rintro call (_ | ⟨_, _ | ⟨_, ⟨⟩⟩⟩)
    · trivial
    · exact admitted

end Width

end Roster
