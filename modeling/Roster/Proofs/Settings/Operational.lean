/-
**Whoever gets settings can rely on them.**

Settings that a request returns were accepted once, in the environment of that time or of an earlier one. So all their
numbers are between their bounds, the name under which the derived teams are changed is one that the audit log keeps
in full, every job that is listed is a known one, and no debugging goes on where it matters. The schedules are
switched on as the settings say: a listed job runs, and the job for the derived teams has a switch of its own, which
is never on unless the job is listed.

* `Text.IsTrimmed`, `Text.trimBoth_of_isTrimmed` — texts without blanks at their ends.
* `levelName_eq_valid_iff`, `jobNames_eq_valid_iff` — which values name a level and which list jobs.
* `IsActorName`, `actorName_eq_valid` — **names that an audit log keeps in full**.
* `IsOperational`, `IsAccepted.isOperational` — **what accepted settings are like**.
* `switches`, `IsAccepted.switches_eq` — which schedules are switched on.
* `returned_settings_are_operational` — all of this for whatever a request returns; `nightly_settings_hold` —
  settings in production, from sections that are given in different ways.
-/

import Mathlib.Data.List.DropRight
import Roster.Audit
import Roster.Proofs.Schedule.Interval
import Roster.Proofs.Settings.Requests
import Roster.Proofs.Width.Cut

namespace Roster

/-! ### Texts without blanks at their ends -/

namespace Text

variable {drops : Char → Bool} {text : String}

/-- A text has no characters of a set at its ends. -/
structure IsTrimmed (drops : Char → Bool) (text : String) : Prop where
  first : ∀ c, text.toList.head? = some c → drops c = false
  last : ∀ c, text.toList.getLast? = some c → drops c = false

theorem toList_trimBoth : (trimBoth drops text).toList = (text.toList.dropWhile drops).rdropWhile drops := by
  unfold trimBoth
  rw [String.toList_ofList]
  rfl

/-- What is left where something is dropped from the front does not begin with such a character. -/
theorem not_of_head?_dropWhile {characters : List Char} {c : Char}
    (first : (characters.dropWhile drops).head? = some c) : drops c = false := by
  have found := List.head?_dropWhile_not drops characters
  rw [first] at found
  simpa using found

theorem isTrimmed_trimBoth (drops : Char → Bool) (text : String) : IsTrimmed drops (trimBoth drops text) where
  first c first := by
    rw [toList_trimBoth] at first
    obtain ⟨rest, split⟩ := List.rdropWhile_prefix drops (text.toList.dropWhile drops)
    have still : (text.toList.dropWhile drops).head? = some c := by
      rw [← split, List.head?_append, first]
      rfl
    exact not_of_head?_dropWhile still
  last c last := by
    rw [toList_trimBoth, List.rdropWhile, List.getLast?_reverse] at last
    exact not_of_head?_dropWhile last

/-- **Nothing is dropped from a trimmed text.** -/
theorem trimBoth_of_isTrimmed (trimmed : IsTrimmed drops text) : trimBoth drops text = text := by
  have front : text.toList.dropWhile drops = text.toList := by
    cases shape : text.toList with
    | nil => rfl
    | cons c rest =>
      have stays : drops c = false := trimmed.first c (by rw [shape]; rfl)
      rw [List.dropWhile_cons, stays]
      rfl
  have back : text.toList.rdropWhile drops = text.toList := by
    refine List.rdropWhile_eq_self_iff.mpr fun inside => ?_
    rw [trimmed.last _ (List.getLast?_eq_some_getLast inside)]
    exact Bool.false_ne_true
  rw [← String.toList_inj, toList_trimBoth, front, back]

end Text

namespace Job

theorem ofName?_label (job : Job) : ofName? job.label = some job := by
  cases job <;> rfl

theorem label_of_ofName? {name : String} {job : Job} (found : ofName? name = some job) : job.label = name := by
  unfold ofName? at found
  have named := List.find?_some found
  exact of_decide_eq_true named

theorem label_injective : Function.Injective label := by
  intro job other same
  have found := ofName?_label other
  rw [← same, ofName?_label] at found
  exact Option.some.inj found

/-- Jobs are found by their names. -/
theorem filterMap_map_label {jobs : List Job} : (jobs.map label).filterMap ofName? = jobs := by
  have names : ofName? ∘ label = some := funext ofName?_label
  rw [List.filterMap_map, names, List.filterMap_some]

/-- Where all names are known, the jobs that are found have these names. -/
theorem map_label_filterMap {names : List String} (known : ∀ name ∈ names, (ofName? name).isSome = true) :
    (names.filterMap ofName?).map label = names := by
  induction names with
  | nil => rfl
  | cons name rest ih =>
    rw [List.forall_mem_cons] at known
    obtain ⟨job, found⟩ := Option.isSome_iff_exists.mp known.1
    rw [List.filterMap_cons_some found, List.map_cons, label_of_ofName? found, ih known.2]

end Job

namespace Settings

open Checked Check

/-! ### Levels and jobs by their names -/

theorem text_eq_valid_iff {value : Value} {result : String} :
    Check.text value = .valid result ↔ value = .text result := by
  cases value with
  | text text => exact ⟨fun same => congrArg _ (valid.inj same), by rintro ⟨⟩; rfl⟩
  | _ => exact ⟨nofun, nofun⟩

/-- **A value names a level exactly if it is its name in any case.** -/
theorem levelName_eq_valid_iff {value : Value} {level : Level} : levelName value = .valid level
    ↔ ∃ name : String, value = .text name ∧ String.ofList (name.toList.map capital) = level.name := by
  unfold levelName
  rw [andThen_eq_valid]
  simp only [text_eq_valid_iff]
  refine exists_congr fun name => and_congr_right fun _ => ?_
  generalize String.ofList (name.toList.map capital) = capitals
  constructor
  · intro found
    split at found
    · cases found
      have named := List.find?_some ‹_›
      exact (of_decide_eq_true named).symm
    · cases found
  · rintro rfl
    cases level <;> rfl

theorem items_text_eq_valid_iff {names : List String} (index : Nat) (values : List Value) :
    items Check.text index values = .valid names ↔ values = names.map .text := by
  induction values generalizing index names with
  | nil =>
    cases names with
    | nil => exact iff_of_true rfl rfl
    | cons name rest => exact iff_of_false nofun nofun
  | cons value values ih =>
    unfold items
    rw [both_eq_valid]
    constructor
    · rintro ⟨_, later, first, rest, rfl⟩
      obtain ⟨name, named, rfl⟩ := map_eq_valid.mp first
      rw [text_eq_valid_iff.mp (under_eq_valid.mp named), (ih _).mp rest]
      rfl
    · intro same
      cases names with
      | nil => cases same
      | cons name later =>
        obtain ⟨rfl, rest⟩ := List.cons.inj same
        exact ⟨_, later, map_eq_valid.mpr ⟨name, rfl, rfl⟩, (ih _).mpr rest, rfl⟩

theorem texts_eq_valid_iff {value : Value} {names : List String} :
    texts value = .valid names ↔ value = .texts names := by
  cases value with
  | list values =>
    show items Check.text 0 values = .valid names ↔ _
    rw [items_text_eq_valid_iff, Value.texts, Value.list.injEq]
  | _ => exact ⟨nofun, nofun⟩

theorem unknownNames_eq_nil_iff {names : List String} :
    unknownNames names = [] ↔ ∀ name ∈ names, (Job.ofName? name).isSome = true := by
  have none : unknownNames names = [] ↔ ∀ name, name ∉ unknownNames names := List.eq_nil_iff_forall_not_mem
  rw [none]
  unfold unknownNames
  simp only [List.mem_mergeSort, List.mem_eraseDups, List.mem_filter, not_and, Option.isNone_iff_eq_none,
    ← ne_eq, Option.ne_none_iff_isSome]

/-- **A value lists jobs exactly if it lists their names**: no name is passed over. -/
theorem jobNames_eq_valid_iff {value : Value} {jobs : List Job} :
    jobNames value = .valid jobs ↔ value = .texts (jobs.map Job.label) := by
  unfold jobNames
  rw [andThen_eq_valid]
  simp only [texts_eq_valid_iff]
  constructor
  · rintro ⟨names, rfl, found⟩
    split at found
    · rename_i known
      rw [← valid.inj found, Job.map_label_filterMap (unknownNames_eq_nil_iff.mp known)]
    · cases found
  · rintro rfl
    have known : unknownNames (jobs.map Job.label) = [] := by
      rw [unknownNames_eq_nil_iff, List.forall_mem_map]
      exact fun job _ => by rw [Job.ofName?_label]; rfl
    refine ⟨_, rfl, ?_⟩
    rw [known]
    exact congrArg valid Job.filterMap_map_label

/-! ### Names of actors -/

/-- **A name that an audit log keeps in full**: it is not empty, has no blanks at its ends, and is short enough. -/
structure IsActorName (name : String) : Prop where
  nonempty : name ≠ ""
  trimmed : Text.IsTrimmed Text.isBlank name
  short : name.length ≤ 200

/-- Such a name is recorded as it is. -/
theorem IsActorName.recorded {name : String} (fitting : IsActorName name) : (Actor.job name).name = name :=
  Text.clip_of_length_le fitting.short

/-- Such a name loses nothing where blanks are dropped. -/
theorem IsActorName.stripped {name : String} (fitting : IsActorName name) :
    Text.trimBoth Text.isBlank name = name :=
  Text.trimBoth_of_isTrimmed fitting.trimmed

theorem actorName_eq_valid {value : Value} {name : String} (accepted : actorName value = .valid name) :
    IsActorName name := by
  obtain ⟨text, _, checked⟩ := andThen_eq_valid.mp accepted
  dsimp only at checked
  split at checked
  · cases checked
  · rename_i filled
    split at checked
    · cases checked
    · rename_i short
      cases checked
      exact {
        nonempty := fun empty => filled (by rw [empty]; rfl)
        trimmed := Text.isTrimmed_trimBoth _ _
        short := Nat.not_lt.mp short }

/-- The usual name is such a name. -/
theorem isActorName_usual : IsActorName ({} : TeamSync).jobName where
  nonempty := by decide
  trimmed := {
    first := by
      have first : ({} : TeamSync).jobName.toList.head? = some 'S' := by decide
      rw [first]
      rintro _ ⟨⟩
      decide
    last := by
      have last : ({} : TeamSync).jobName.toList.getLast? = some 'b' := by decide
      rw [last]
      rintro _ ⟨⟩
      decide }
  short := by decide

theorem TeamSync.isActorName_of_check {fields : List (String × Value)} {teamSync : TeamSync}
    (checked : rules.check fields = .valid teamSync) : IsActorName teamSync.jobName := by
  obtain ⟨_, _, toName, _, rfl⟩ := both_eq_valid.mp checked
  obtain ⟨_, name, toInterval, nameChecked, rfl⟩ := both_eq_valid.mp toName
  obtain ⟨_, _, toEnabled, _, rfl⟩ := both_eq_valid.mp toInterval
  obtain ⟨_, _, rfl⟩ := map_eq_valid.mp toEnabled
  exact field_satisfies IsActorName (fun _ _ => actorName_eq_valid) isActorName_usual nameChecked

/-! ### The whole -/

/-- **Settings that can be worked with**: every number is between its bounds, the journal has a level, the name of
the job for the derived teams is recorded as it is, every listed job is known, the derived teams are kept up to date
only by a listed job, and no debugging goes on in production. -/
structure IsOperational (settings : Settings) : Prop where
  database : settings.database.InBounds
  outbox : settings.outbox.InBounds
  teamSync : settings.teamSync.InBounds
  worker : settings.worker.InBounds
  level : settings.logLevel.name ∈ ["DEBUG", "INFO", "WARNING", "ERROR", "CRITICAL"]
  jobName : IsActorName settings.teamSync.jobName
  stripped : Text.trimBoth Text.isBlank settings.teamSync.jobName = settings.teamSync.jobName
  recorded : (Actor.job settings.teamSync.jobName).name = settings.teamSync.jobName
  known : ∀ name ∈ settings.worker.jobNames, name ∈ ["process_outbox", "system_team_sync", "compliance_check"]
  listed : settings.teamSync.enabled = true → "system_team_sync" ∈ settings.worker.jobNames
  debugging : settings.deployment = .production → settings.debug = false

variable {settings : Settings}

theorem mem_jobNames_iff {job : Job} :
    job.label ∈ settings.worker.jobNames ↔ job ∈ settings.worker.enabledJobs :=
  List.mem_map_of_injective Job.label_injective

/-- Accepted settings keep the derived teams up to date only if the worker runs the job. -/
theorem refusal?_eq_none_iff : settings.refusal? = none
    ↔ (settings.teamSync.enabled = true → Job.systemTeamSync ∈ settings.worker.enabledJobs) := by
  unfold refusal?
  simp

/-- **Accepted settings can be worked with.** -/
theorem IsAccepted.isOperational (accepted : settings.IsAccepted) : settings.IsOperational := by
  obtain ⟨outbox, teamSync⟩ := accepted.inBounds
  obtain ⟨_, database⟩ := accepted.isChecked.database
  obtain ⟨_, worker⟩ := accepted.isChecked.worker
  obtain ⟨_, derived⟩ := accepted.isChecked.teamSync
  have jobName := TeamSync.isActorName_of_check derived
  refine {
    database := Database.inBounds_of_check database
    outbox
    teamSync
    worker := Worker.inBounds_of_check worker
    level := ?_
    jobName
    stripped := jobName.stripped
    recorded := jobName.recorded
    known := ?_
    listed := fun enabled => mem_jobNames_iff.mpr (refusal?_eq_none_iff.mp accepted.unrefused enabled)
    debugging := accepted.isChecked.debugging }
  · cases settings.logLevel <;> decide
  · intro name member
    obtain ⟨job, _, rfl⟩ := List.mem_map.mp member
    cases job <;> decide

/-! ### The schedules -/

/-- Which schedules are switched on. -/
def switches (rota : Rota) : List (String × Bool) := rota.map fun schedule => (schedule.name, schedule.enabled)

/-- The schedules of accepted settings are those that their intervals make, if there are any. -/
theorem IsAccepted.eq_timetable (accepted : settings.IsAccepted) {rota : Rota}
    (made : settings.schedules = .ok rota) : rota = settings.timetable := by
  have positive : ∀ job, 0 ≤ settings.seconds job := fun job =>
    Int.le_trans (by decide) (accepted.one_le_seconds job)
  unfold schedules at made
  rcases mapM_schedule_cases positive Job.all with ⟨makes, _⟩ | ⟨_, _, _, _, _, _, fails⟩
  · rw [makes] at made
    exact (Except.ok.inj made).symm
  · rw [fails] at made
    cases made

/-- A job without a switch of its own runs exactly if it is listed. -/
theorem runs_of_ne {job : Job} (plain : job ≠ .systemTeamSync) :
    settings.runs job = decide (job.label ∈ settings.worker.jobNames) := by
  have noSwitch : (job != .systemTeamSync) = true := bne_iff_ne.mpr plain
  unfold runs
  rw [noSwitch, Bool.true_or, Bool.and_true, List.contains_eq_mem]
  exact decide_eq_decide.mpr mem_jobNames_iff.symm

/-- **The job for the derived teams runs exactly if its switch is on**, since it is listed then. -/
theorem IsAccepted.runs_systemTeamSync (accepted : settings.IsAccepted) :
    settings.runs .systemTeamSync = settings.teamSync.enabled := by
  unfold runs
  rw [bne_self_eq_false, Bool.false_or]
  cases enabled : settings.teamSync.enabled with
  | false => exact Bool.and_false _
  | true =>
    rw [Bool.and_true, List.contains_iff_mem]
    exact refusal?_eq_none_iff.mp accepted.unrefused enabled

/-- **The schedules are switched on as the settings say.** -/
theorem IsAccepted.switches_eq (accepted : settings.IsAccepted) {rota : Rota}
    (made : settings.schedules = .ok rota) : switches rota
      = [("process_outbox", decide ("process_outbox" ∈ settings.worker.jobNames)),
        ("system_team_sync", settings.teamSync.enabled),
        ("compliance_check", decide ("compliance_check" ∈ settings.worker.jobNames))] := by
  have jobs : switches settings.timetable
      = [("process_outbox", settings.runs .processOutbox), ("system_team_sync", settings.runs .systemTeamSync),
        ("compliance_check", settings.runs .complianceCheck)] := rfl
  have outbox : settings.runs .processOutbox = decide ("process_outbox" ∈ settings.worker.jobNames) :=
    runs_of_ne nofun
  have compliance : settings.runs .complianceCheck = decide ("compliance_check" ∈ settings.worker.jobNames) :=
    runs_of_ne nofun
  rw [accepted.eq_timetable made, jobs, outbox, accepted.runs_systemTeamSync, compliance]

/-- **Whoever gets settings can rely on them.** After any requests in any environments, settings that a request
returns can be worked with. If schedules can be made of them, the job for the derived teams is on exactly if it is to
be, and the two others are on exactly if they are listed. No value counts as a level but the name of one in any case,
and none as jobs but a list of their names. -/
theorem returned_settings_are_operational (requests : List Request) (environment : Environment) (loaded : Loaded)
    (returned : ((Cache.afterAll requests).get environment).1.2 = .ok loaded) :
    let settings := loaded.settings
    settings.IsOperational
      ∧ (∀ rota, settings.schedules = .ok rota → switches rota
        = [("process_outbox", decide ("process_outbox" ∈ settings.worker.jobNames)),
          ("system_team_sync", settings.teamSync.enabled),
          ("compliance_check", decide ("compliance_check" ∈ settings.worker.jobNames))])
      ∧ (∀ value level, levelName value = .valid level
        ↔ ∃ name : String, value = .text name ∧ String.ofList (name.toList.map capital) = level.name)
      ∧ ∀ value jobs, jobNames value = .valid jobs ↔ value = .texts (jobs.map Job.label) := by
  intro settings
  have answered := Cache.get_answered environment (Cache.afterAll requests)
  have accepted : settings.IsAccepted := answered.isAccepted (Cache.isSound_afterAll requests) returned
  refine ⟨accepted.isOperational, fun rota made => accepted.switches_eq made, ?_, ?_⟩
  · exact fun _ _ => levelName_eq_valid_iff
  · exact fun _ _ => jobNames_eq_valid_iff

/-- Production, in which a level and a switch are written as words, the derived teams have a name with blanks around
it and are not kept up to date, one job is listed, and a number is a text. -/
def nightly : Environment := [
  ("humans_environment", "production"), ("humans_debug", "off"), ("humans_log_level", "warning"),
  ("humans_database", "\x7b\"url\": \"postgresql://localhost/humans\", \"pool_size\": \"7\"\x7d"),
  ("humans_team_sync", "\x7b\"enabled\": false, \"job_name\": \"  Nightly sync \"\x7d"),
  ("humans_worker", "\x7b\"enabled_jobs\": [\"compliance_check\"]\x7d")]

/-- The name loses its blanks, the number is read, and the listed job alone is switched on. -/
theorem nightly_settings_hold :
    ∃ loaded, ((Cache.afterAll [.get []]).get nightly).1.2 = .ok loaded
      ∧ loaded.settings.deployment = .production ∧ loaded.settings.database.poolSize = 7
      ∧ loaded.settings.logLevel = .warning ∧ loaded.settings.teamSync.jobName = "Nightly sync"
      ∧ loaded.settings.IsOperational
      ∧ ∃ rota, loaded.settings.schedules = .ok rota
        ∧ switches rota = [("process_outbox", false), ("system_team_sync", false), ("compliance_check", true)] := by
  have computed : (((Cache.afterAll [.get []]).get nightly).1.2).toOption.any (fun loaded =>
      loaded.settings.deployment = .production ∧ loaded.settings.database.poolSize = 7
        ∧ loaded.settings.logLevel = .warning ∧ loaded.settings.teamSync.jobName = "Nightly sync"
        ∧ loaded.settings.teamSync.enabled = false ∧ loaded.settings.worker.jobNames = ["compliance_check"]
        ∧ loaded.settings.schedules.toOption.isSome) = true := by
    decide +kernel
  cases returned : ((Cache.afterAll [.get []]).get nightly).1.2 with
  | error stop =>
    rw [returned] at computed
    cases computed
  | ok loaded =>
    rw [returned] at computed
    obtain ⟨deployment, poolSize, level, jobName, enabled, listed, made⟩ := of_decide_eq_true computed
    obtain ⟨operational, switched, _, _⟩ := returned_settings_are_operational [.get []] nightly loaded returned
    cases makes : loaded.settings.schedules with
    | error error =>
      rw [makes] at made
      cases made
    | ok rota =>
      refine ⟨loaded, rfl, deployment, poolSize, level, jobName, operational, rota, makes, ?_⟩
      rw [switched rota makes, enabled, listed]
      decide

end Settings

end Roster
