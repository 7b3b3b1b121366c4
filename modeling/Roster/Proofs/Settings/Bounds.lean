/-
**Loaded settings are within their bounds.**

A checked value has gone through the rule of its field, or it is the value that holds if nothing is said. So
whatever rules demand of single fields holds of every section that could be loaded, on its own or as a part of the
whole, and whichever way it was given.

* `Checked.map_eq_valid`, `Checked.both_eq_valid`, `Checked.andThen_eq_valid` — when checks put together give
  a value.
* `Check.integer_eq_valid`, `Check.number_eq_valid`, `Check.field_satisfies` — numbers between their bounds, and
  fields.
* `Database.InBounds`, `Outbox.InBounds`, `TeamSync.InBounds`, `Worker.InBounds` — the bounds of each section.
* `IsChecked`, `load_eq_ok` — **the sections of loaded settings were checked by their rules**.
* `IsAccepted`, `IsAccepted.inBounds` — settings that can be loaded and are not refused.
-/

import Roster.Settings.Loader

namespace Roster.Settings

variable {α β : Type}

/-- A chain returns only if both of its parts do. -/
theorem ok_of_bind {ε : Type} {first : Except ε α} {next : α → Except ε β} {result : β}
    (ran : (first >>= next) = .ok result) : ∃ value, first = .ok value ∧ next value = .ok result := by
  cases first with
  | ok value => exact ⟨value, rfl, ran⟩
  | error error => cases ran

/-- A chain fails exactly if one of its parts does. -/
theorem error_of_bind_iff {ε : Type} {first : Except ε α} {next : α → Except ε β} {error : ε} :
    (first >>= next) = .error error
      ↔ first = .error error ∨ ∃ value, first = .ok value ∧ next value = .error error := by
  cases first with
  | ok value =>
    constructor
    · exact fun failed => .inr ⟨value, rfl, failed⟩
    · rintro (⟨⟨⟩⟩ | ⟨_, ⟨⟩, failed⟩)
      exact failed
  | error other =>
    constructor
    · rintro ⟨⟩
      exact .inl rfl
    · rintro (⟨⟨⟩⟩ | ⟨_, ⟨⟩, _⟩)
      rfl

/-! ### Checks put together -/

namespace Checked

theorem map_eq_valid {change : α → β} {checked : Checked α} {result : β} :
    change <$> checked = .valid result ↔ ∃ value, checked = .valid value ∧ change value = result := by
  cases checked with
  | valid value => exact ⟨fun same => ⟨value, rfl, valid.inj same⟩, by rintro ⟨_, ⟨⟩, rfl⟩; rfl⟩
  | invalid problems => exact ⟨nofun, by rintro ⟨_, ⟨⟩, _⟩⟩

theorem both_eq_valid {change : Checked (α → β)} {checked : Checked α} {result : β} :
    change <*> checked = .valid result
      ↔ ∃ function value, change = .valid function ∧ checked = .valid value ∧ function value = result := by
  constructor
  · intro same
    cases change with
    | valid function =>
      cases checked with
      | valid value => exact ⟨function, value, rfl, rfl, valid.inj same⟩
      | invalid problems => cases same
    | invalid problems => cases checked <;> cases same
  · rintro ⟨_, _, rfl, rfl, rfl⟩
    rfl

theorem andThen_eq_valid {next : α → Checked β} {checked : Checked α} {result : β} :
    checked.andThen next = .valid result ↔ ∃ value, checked = .valid value ∧ next value = .valid result := by
  cases checked with
  | valid value => exact ⟨fun same => ⟨value, rfl, same⟩, by rintro ⟨_, ⟨⟩, same⟩; exact same⟩
  | invalid problems => exact ⟨nofun, by rintro ⟨_, ⟨⟩, _⟩⟩

theorem under_eq_valid {place : Place} {checked : Checked α} {result : α} :
    checked.under place = .valid result ↔ checked = .valid result := by
  cases checked with
  | valid value => exact Iff.rfl
  | invalid problems => exact ⟨nofun, nofun⟩

theorem toExcept_eq_ok {checked : Checked α} {result : α} :
    checked.toExcept = .ok result ↔ checked = .valid result := by
  cases checked with
  | valid value => exact ⟨fun same => congrArg valid (Except.ok.inj same), by rintro ⟨⟩; rfl⟩
  | invalid problems => exact ⟨nofun, nofun⟩

end Checked

/-! ### Rules -/

namespace Check

/-- An accepted whole number is between its bounds. -/
theorem integer_eq_valid {least number : Int} {greatest : Option Int} {value : Value}
    (accepted : integer least greatest value = .valid number) :
    least ≤ number ∧ ∀ most ∈ greatest, number ≤ most := by
  obtain ⟨read, _, checked⟩ := Checked.andThen_eq_valid.mp accepted
  by_cases small : read < least
  · rw [if_pos small] at checked
    cases checked
  rw [if_neg small] at checked
  cases greatest with
  | none =>
    cases checked
    exact ⟨Int.not_lt.mp small, nofun⟩
  | some most =>
    dsimp only at checked
    split at checked
    · cases checked
    · cases checked
      refine ⟨Int.not_lt.mp small, ?_⟩
      rintro _ ⟨⟩
      exact Int.not_lt.mp ‹_›

/-- A field has gone through its rule, or it has the value that holds if nothing is said. -/
theorem field_eq_valid {name : String} {check : Rule α} {usual : Option α} {result : α}
    {fields : List (String × Value)} (accepted : field name check usual fields = .valid result) :
    (∃ value, check value = .valid result) ∨ usual = some result := by
  unfold field at accepted
  cases found : Value.lookup name fields with
  | some value =>
    rw [found] at accepted
    exact .inl ⟨value, Checked.under_eq_valid.mp accepted⟩
  | none =>
    rw [found] at accepted
    cases usual with
    | some usual =>
      cases accepted
      exact .inr rfl
    | none => cases accepted

/-- **What a rule demands holds of a field** if it holds of the usual value. -/
theorem field_satisfies (Demanded : α → Prop) {name : String} {check : Rule α} {usual result : α}
    {fields : List (String × Value)} (demands : ∀ value result, check value = .valid result → Demanded result)
    (usually : Demanded usual) (accepted : field name check (some usual) fields = .valid result) :
    Demanded result := by
  rcases field_eq_valid accepted with ⟨value, checked⟩ | same
  · exact demands value result checked
  · rw [← Option.some.inj same]
    exact usually

/-- A whole number with a least value as a field is not below it if the usual one is not. -/
theorem field_from {name : String} {least usual number : Int} {fields : List (String × Value)}
    (usually : least ≤ usual)
    (accepted : field name (integer least none) (some usual) fields = .valid number) : least ≤ number :=
  field_satisfies (least ≤ ·) (fun _ _ checked => (integer_eq_valid checked).1) usually accepted

/-- A whole number with two bounds as a field is between them if the usual one is. -/
theorem field_between {name : String} {least most usual number : Int} {fields : List (String × Value)}
    (usually : least ≤ usual ∧ usual ≤ most)
    (accepted : field name (integer least (some most)) (some usual) fields = .valid number) :
    least ≤ number ∧ number ≤ most := by
  refine field_satisfies (fun number => least ≤ number ∧ number ≤ most) (fun _ _ checked => ?_) usually accepted
  obtain ⟨low, high⟩ := integer_eq_valid checked
  exact ⟨low, high most rfl⟩

/-- A number is above zero and not above its greatest value. -/
def IsUpTo (greatest : Nat) (number : Binary64) : Prop :=
  number.isAtMost greatest = true ∧ number.isAtMost 0 = false

theorem number_eq_valid {greatest : Nat} {result : Binary64} {value : Value}
    (accepted : number greatest value = .valid result) : IsUpTo greatest result := by
  obtain ⟨read, _, checked⟩ := Checked.andThen_eq_valid.mp accepted
  cases most : read.isAtMost greatest with
  | false =>
    rw [most] at checked
    cases checked
  | true =>
    cases least : read.isAtMost 0 with
    | true =>
      rw [most, least] at checked
      cases checked
    | false =>
      rw [most, least] at checked
      cases checked
      exact ⟨most, least⟩

end Check

/-! ### Sections -/

/-- The numbers of the database are between their bounds. -/
structure Database.InBounds (database : Database) : Prop where
  poolSize : 1 ≤ database.poolSize ∧ database.poolSize ≤ 100
  maxOverflow : 0 ≤ database.maxOverflow ∧ database.maxOverflow ≤ 100
  poolTimeout : 1 ≤ database.poolTimeout ∧ database.poolTimeout ≤ 300

/-- The numbers of the outbox are between their bounds. -/
structure Outbox.InBounds (outbox : Outbox) : Prop where
  batchSize : 1 ≤ outbox.batchSize ∧ outbox.batchSize ≤ 10000
  maxRetry : 1 ≤ outbox.maxRetry ∧ outbox.maxRetry ≤ 1000
  errorLength : 100 ≤ outbox.errorLength ∧ outbox.errorLength ≤ 4000
  intervalSeconds : 1 ≤ outbox.intervalSeconds

/-- The intervals of the derived teams are at least a minute long. -/
structure TeamSync.InBounds (teamSync : TeamSync) : Prop where
  intervalSeconds : 60 ≤ teamSync.intervalSeconds
  complianceSeconds : 60 ≤ teamSync.complianceSeconds

/-- The times of the worker are above zero, and at most an hour and ten minutes long. -/
structure Worker.InBounds (worker : Worker) : Prop where
  pollSeconds : Check.IsUpTo 3600 worker.pollSeconds
  stopSeconds : Check.IsUpTo 600 worker.stopSeconds

theorem Database.inBounds_of_check {fields : List (String × Value)} {database : Database}
    (checked : rules.check fields = .valid database) : database.InBounds := by
  obtain ⟨_, _, toTimeout, _, rfl⟩ := Checked.both_eq_valid.mp checked
  obtain ⟨_, timeout, toOverflow, timeoutChecked, rfl⟩ := Checked.both_eq_valid.mp toTimeout
  obtain ⟨_, overflow, toSize, overflowChecked, rfl⟩ := Checked.both_eq_valid.mp toOverflow
  obtain ⟨_, size, toUrl, sizeChecked, rfl⟩ := Checked.both_eq_valid.mp toSize
  obtain ⟨url, _, rfl⟩ := Checked.map_eq_valid.mp toUrl
  exact {
    poolSize := Check.field_between (by decide) sizeChecked
    maxOverflow := Check.field_between (by decide) overflowChecked
    poolTimeout := Check.field_between (by decide) timeoutChecked }

theorem Outbox.inBounds_of_check {fields : List (String × Value)} {outbox : Outbox}
    (checked : rules.check fields = .valid outbox) : outbox.InBounds := by
  obtain ⟨_, interval, toLength, intervalChecked, rfl⟩ := Checked.both_eq_valid.mp checked
  obtain ⟨_, length, toRetry, lengthChecked, rfl⟩ := Checked.both_eq_valid.mp toLength
  obtain ⟨_, retry, toSize, retryChecked, rfl⟩ := Checked.both_eq_valid.mp toRetry
  obtain ⟨size, sizeChecked, rfl⟩ := Checked.map_eq_valid.mp toSize
  exact {
    batchSize := Check.field_between (by decide) sizeChecked
    maxRetry := Check.field_between (by decide) retryChecked
    errorLength := Check.field_between (by decide) lengthChecked
    intervalSeconds := Check.field_from (by decide) intervalChecked }

theorem TeamSync.inBounds_of_check {fields : List (String × Value)} {teamSync : TeamSync}
    (checked : rules.check fields = .valid teamSync) : teamSync.InBounds := by
  obtain ⟨_, compliance, toName, complianceChecked, rfl⟩ := Checked.both_eq_valid.mp checked
  obtain ⟨_, name, toInterval, _, rfl⟩ := Checked.both_eq_valid.mp toName
  obtain ⟨_, interval, toEnabled, intervalChecked, rfl⟩ := Checked.both_eq_valid.mp toInterval
  obtain ⟨enabled, _, rfl⟩ := Checked.map_eq_valid.mp toEnabled
  have hourly : 60 ≤ ({} : TeamSync).intervalSeconds := by decide
  have daily : 60 ≤ ({} : TeamSync).complianceSeconds := by decide
  exact {
    intervalSeconds := Check.field_from hourly intervalChecked
    complianceSeconds := Check.field_from daily complianceChecked }

theorem Worker.inBounds_of_check {fields : List (String × Value)} {worker : Worker}
    (checked : rules.check fields = .valid worker) : worker.InBounds := by
  obtain ⟨_, _, toStop, _, rfl⟩ := Checked.both_eq_valid.mp checked
  obtain ⟨_, stop, toPoll, stopChecked, rfl⟩ := Checked.both_eq_valid.mp toStop
  obtain ⟨poll, pollChecked, rfl⟩ := Checked.map_eq_valid.mp toPoll
  exact {
    pollSeconds := Check.field_satisfies _ (fun _ _ => Check.number_eq_valid) ⟨by decide, by decide⟩ pollChecked
    stopSeconds := Check.field_satisfies _ (fun _ _ => Check.number_eq_valid) ⟨by decide, by decide⟩ stopChecked }

section Load

variable {rules : SectionRules α} {environment : Environment} {given fields : List (String × Value)}

/-- A section that was loaded was checked by its rules. -/
theorem SectionRules.load_eq_ok {result : α} (loaded : rules.load environment given = .ok result) :
    ∃ fields, rules.check fields = .valid result := by
  unfold SectionRules.load at loaded
  split at loaded
  · cases loaded
  · exact ⟨_, Checked.toExcept_eq_ok.mp loaded⟩

/-- A section of the whole that has no problems was checked by its rules. -/
theorem SectionRules.part_eq_valid {result : α} (loaded : rules.part environment fields = .ok (.valid result)) :
    ∃ fields, rules.check fields = .valid result := by
  unfold SectionRules.part at loaded
  split at loaded
  · cases alone : rules.load environment [] with
    | ok value =>
      rw [alone] at loaded
      cases loaded
      exact load_eq_ok alone
    | error error =>
      rw [alone] at loaded
      cases loaded
  · split at loaded
    · cases loaded
      exact load_eq_ok ‹_›
    · cases loaded
    · cases loaded
  · cases loaded

/-- The sections of settings were checked by their rules, and there is no debugging where it matters. -/
structure IsChecked (settings : Settings) : Prop where
  database : ∃ fields, Database.rules.check fields = .valid settings.database
  outbox : ∃ fields, Outbox.rules.check fields = .valid settings.outbox
  teamSync : ∃ fields, TeamSync.rules.check fields = .valid settings.teamSync
  worker : ∃ fields, Worker.rules.check fields = .valid settings.worker
  debugging : settings.deployment = .production → settings.debug = false

/-- Settings that are let through are as they were, and without debugging where it matters. -/
theorem requireNoDebug_eq_valid {read settings : Settings} (checked : requireNoDebug read = .valid settings) :
    settings = read ∧ (read.deployment = .production → read.debug = false) := by
  unfold requireNoDebug at checked
  split at checked
  · cases checked
  · rename_i sensible
    cases checked
    simpa using sensible

/-- **Every section of loaded settings was checked by its rules.** -/
theorem load_eq_ok {settings : Settings} (loaded : load environment given = .ok settings) :
    settings.IsChecked := by
  obtain ⟨_, _, loaded⟩ := ok_of_bind loaded
  obtain ⟨database, databaseLoaded, loaded⟩ := ok_of_bind loaded
  obtain ⟨outbox, outboxLoaded, loaded⟩ := ok_of_bind loaded
  obtain ⟨teamSync, teamSyncLoaded, loaded⟩ := ok_of_bind loaded
  obtain ⟨worker, workerLoaded, loaded⟩ := ok_of_bind loaded
  obtain ⟨read, checked, sensible⟩ := Checked.andThen_eq_valid.mp (Checked.toExcept_eq_ok.mp loaded)
  obtain ⟨unchanged, debugging⟩ := requireNoDebug_eq_valid sensible
  obtain ⟨_, _, toName, _, rfl⟩ := Checked.both_eq_valid.mp checked
  obtain ⟨_, _, toWorker, _, rfl⟩ := Checked.both_eq_valid.mp toName
  obtain ⟨_, _, toTeamSync, rfl, rfl⟩ := Checked.both_eq_valid.mp toWorker
  obtain ⟨_, _, toOutbox, rfl, rfl⟩ := Checked.both_eq_valid.mp toTeamSync
  obtain ⟨_, _, toDatabase, rfl, rfl⟩ := Checked.both_eq_valid.mp toOutbox
  obtain ⟨_, _, toLevel, rfl, rfl⟩ := Checked.both_eq_valid.mp toDatabase
  obtain ⟨_, _, toDebug, _, rfl⟩ := Checked.both_eq_valid.mp toLevel
  obtain ⟨_, _, toDeployment, _, rfl⟩ := Checked.both_eq_valid.mp toDebug
  obtain ⟨_, _, rfl⟩ := Checked.map_eq_valid.mp toDeployment
  rw [unchanged]
  exact {
    database := SectionRules.part_eq_valid databaseLoaded
    outbox := SectionRules.part_eq_valid outboxLoaded
    teamSync := SectionRules.part_eq_valid teamSyncLoaded
    worker := SectionRules.part_eq_valid workerLoaded
    debugging }

end Load

/-- **Settings that are accepted**: they can be loaded, and nothing is said against them. -/
structure IsAccepted (settings : Settings) : Prop where
  loaded : ∃ environment given, load environment given = .ok settings
  unrefused : settings.refusal? = none

theorem IsAccepted.isChecked {settings : Settings} (accepted : settings.IsAccepted) : settings.IsChecked := by
  obtain ⟨environment, given, loaded⟩ := accepted.loaded
  exact load_eq_ok loaded

/-- **Accepted settings are within their bounds.** -/
theorem IsAccepted.inBounds {settings : Settings} (accepted : settings.IsAccepted) :
    settings.outbox.InBounds ∧ settings.teamSync.InBounds := by
  obtain ⟨_, outbox⟩ := accepted.isChecked.outbox
  obtain ⟨_, teamSync⟩ := accepted.isChecked.teamSync
  exact ⟨Outbox.inBounds_of_check outbox, TeamSync.inBounds_of_check teamSync⟩

end Roster.Settings
