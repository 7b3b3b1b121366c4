/-
**Requests for settings.**

Settings are asked for again and again, in environments that change, and what is kept is dropped on request. A
request returns accepted settings, or it ends the program with one critical notice. There is one further way: at a
text that cannot be read the request fails, and so does the one that is to have no settings instead of an end.

* `Request`, `Cache.afterAll` — requests one after another.
* `IsUnusable` — the settings of an environment are wrong.
* `Cache.Answered`, `get_answered` — **what a request comes to**; `kept_isAccepted` — what is kept was accepted.
* `requests_end_or_fail_at_texts` — requests end the program exactly for wrong settings, and fail exactly at texts
  that cannot be read.
-/

import Roster.Proofs.Settings.Unreadable
import Roster.Settings.Cache

namespace Roster.Settings

/-- A request to the cache, in the environment at its time. -/
inductive Request where
  | get (environment : Environment)
  | get? (environment : Environment)
  | clear

/-- The settings of an environment are wrong: some values cannot be used, or they are refused. -/
def IsUnusable (environment : Environment) : Prop :=
  (∃ problems, load environment [] = .error (.invalid problems))
    ∨ ∃ settings refusal, load environment [] = .ok settings ∧ settings.refusal? = some refusal

/-- Wrong settings are none that cannot be read. -/
theorem IsUnusable.not_unreadable {environment : Environment} {field : String}
    (unusable : IsUnusable environment) : ¬ Unreadable environment field := by
  rw [← load_eq_unreadable_iff]
  intro fails
  rcases unusable with ⟨_, loads⟩ | ⟨_, _, loads, _⟩
  · rw [fails] at loads
    cases loads
  · rw [fails] at loads
    cases loads

namespace Cache

variable {cache : Cache} {environment : Environment}

/-- The cache after a request. -/
def after (cache : Cache) : Request → Cache
  | .get environment => (cache.get environment).2
  | .get? environment => (cache.get? environment).2
  | .clear => cache.clear.2

/-- The cache after requests one after another, of which the first finds it empty. -/
def afterAll (requests : List Request) : Cache := requests.foldl after {}

/-- **What a request for settings comes to**: those that are kept are returned, or else those of the environment if
they can be loaded and are not refused; the program ends with one critical notice if they are wrong; and the
request fails at a text that cannot be read. -/
inductive Answered (environment : Environment) (cache : Cache) :
    (List Notice × Except Stop Loaded) × Cache → Prop where
  | kept (loaded : Loaded) (kept : cache.kept = some loaded) :
      Answered environment cache (([], .ok loaded), cache)
  | loaded (notices : List Notice) (settings : Settings) (empty : cache.kept = none)
      (loads : load environment [] = .ok settings) (unrefused : settings.refusal? = none)
      (quiet : ∀ notice ∈ notices, notice.level ≠ .critical) :
      Answered environment cache
        ((notices, .ok ⟨cache.loads, settings⟩), ⟨some ⟨cache.loads, settings⟩, cache.loads + 1⟩)
  | ended (earlier : List Notice) (last : Notice) (empty : cache.kept = none)
      (unusable : IsUnusable environment) (quiet : ∀ notice ∈ earlier, notice.level ≠ .critical)
      (critical : last.level = .critical) :
      Answered environment cache ((earlier ++ [last], .error .exit), cache)
  | failed (notices : List Notice) (field : String) (empty : cache.kept = none)
      (unreadable : Unreadable environment field) (quiet : ∀ notice ∈ notices, notice.level ≠ .critical) :
      Answered environment cache ((notices, .error (.unreadable field)), cache)

/-- What is said about settings that can be loaded is not critical. -/
theorem quiet_of_load (settings : Settings) :
    ∀ notice ∈ Notice.settingsLoading :: settings.warnings ++ settings.cautions, notice.level ≠ .critical := by
  intro notice member
  rcases List.mem_append.mp member with member | member
  · rcases List.mem_cons.mp member with rfl | member
    · decide
    · unfold warnings at member
      split at member
      · rw [List.mem_singleton.mp member]
        decide
      · cases member
  · unfold cautions at member
    split at member
    · rw [List.mem_singleton.mp member]
      nofun
    · cases member

/-- **Every request is answered in one of these ways.** -/
theorem get_answered (environment : Environment) (cache : Cache) :
    cache.Answered environment (cache.get environment) := by
  cases kept : cache.kept with
  | some loaded =>
    unfold get
    rw [kept]
    exact .kept loaded kept
  | none =>
    unfold get accept
    rw [kept]
    cases loads : load environment [] with
    | error error =>
      cases error with
      | unreadable field =>
        refine .failed [.settingsLoading] field kept (load_eq_unreadable_iff.mp loads) ?_
        decide
      | invalid problems =>
        refine .ended [.settingsLoading] _ kept (.inl ⟨problems, loads⟩) ?_ rfl
        decide
    | ok settings =>
      have quiet := quiet_of_load settings
      dsimp only
      cases refused : settings.refusal? with
      | some refusal => exact .ended _ _ kept (.inr ⟨settings, refusal, loads, refused⟩) quiet rfl
      | none =>
        refine .loaded _ settings kept loads refused ?_
        intro notice member
        rcases List.mem_append.mp member with earlier | last
        · exact quiet notice earlier
        · rw [List.mem_singleton.mp last]
          nofun

/-- There are no settings where the program would end. -/
def withoutEnd : Except Stop Loaded → Except Stop (Option Loaded)
  | .ok loaded => .ok (some loaded)
  | .error .exit => .ok none
  | .error (.unreadable field) => .error (.unreadable field)

theorem withoutEnd_eq_some_iff {outcome : Except Stop Loaded} {loaded : Loaded} :
    withoutEnd outcome = .ok (some loaded) ↔ outcome = .ok loaded := by
  cases outcome with
  | ok other => simp [withoutEnd]
  | error stop => cases stop <;> simp [withoutEnd]

theorem withoutEnd_eq_none_iff {outcome : Except Stop Loaded} :
    withoutEnd outcome = .ok none ↔ outcome = .error .exit := by
  cases outcome with
  | ok other => simp [withoutEnd]
  | error stop => cases stop <;> simp [withoutEnd]

theorem withoutEnd_eq_error_iff {outcome : Except Stop Loaded} {stop : Stop} :
    withoutEnd outcome = .error stop
      ↔ ∃ field, stop = .unreadable field ∧ outcome = .error (.unreadable field) := by
  cases outcome with
  | ok other => simp [withoutEnd]
  | error stop => cases stop <;> simp [withoutEnd, eq_comm]

/-- The gentle request differs only where the program would end. -/
theorem get?_eq (environment : Environment) (cache : Cache) :
    cache.get? environment
      = (((cache.get environment).1.1, withoutEnd (cache.get environment).1.2),
        (cache.get environment).2) := by
  unfold get?
  rcases cache.get environment with ⟨⟨notices, outcome⟩, after⟩
  cases outcome with
  | ok loaded => rfl
  | error stop => cases stop <;> rfl

/-- The settings that are kept were accepted. -/
def IsSound (cache : Cache) : Prop := ∀ loaded ∈ cache.kept, loaded.settings.IsAccepted

theorem IsSound.get (sound : cache.IsSound) (environment : Environment) :
    (cache.get environment).2.IsSound := by
  have answered := get_answered environment cache
  generalize cache.get environment = answer at answered ⊢
  cases answered with
  | kept _ _ => exact sound
  | loaded notices settings _ loads unrefused _ =>
    rintro _ ⟨⟩
    exact ⟨⟨environment, [], loads⟩, unrefused⟩
  | ended _ _ _ _ _ _ => exact sound
  | failed _ _ _ _ _ => exact sound

/-- A request keeps a sound cache sound. -/
theorem IsSound.after (sound : cache.IsSound) (request : Request) : (cache.after request).IsSound := by
  cases request with
  | get environment => exact sound.get environment
  | get? environment =>
    show (cache.get? environment).2.IsSound
    rw [get?_eq]
    exact sound.get environment
  | clear =>
    intro _ member
    cases member

theorem IsSound.foldl (sound : cache.IsSound) (requests : List Request) :
    (requests.foldl Cache.after cache).IsSound := by
  induction requests generalizing cache with
  | nil => exact sound
  | cons request rest ih => exact ih (sound.after request)

/-- **What is kept after requests was accepted.** -/
theorem isSound_afterAll (requests : List Request) : (afterAll requests).IsSound := by
  refine IsSound.foldl ?_ requests
  intro _ member
  cases member

section Answered

variable {answer : (List Notice × Except Stop Loaded) × Cache} (answered : cache.Answered environment answer)

include answered

/-- Settings that are returned were accepted. -/
theorem Answered.isAccepted (sound : cache.IsSound) {loaded : Loaded} (returned : answer.1.2 = .ok loaded) :
    loaded.settings.IsAccepted := by
  cases answered with
  | kept _ kept =>
    cases returned
    exact sound _ kept
  | loaded _ _ _ loads unrefused _ =>
    cases returned
    exact ⟨⟨environment, [], loads⟩, unrefused⟩
  | ended _ _ _ _ _ _ => cases returned
  | failed _ _ _ _ _ => cases returned

/-- **The program ends exactly for wrong settings.** -/
theorem Answered.exit_iff : answer.1.2 = .error .exit ↔ cache.kept = none ∧ IsUnusable environment := by
  cases answered with
  | kept _ kept => simp [kept]
  | loaded _ _ empty loads unrefused _ =>
    refine iff_of_false nofun ?_
    rintro ⟨_, ⟨_, fails⟩ | ⟨_, _, same, refused⟩⟩
    · rw [loads] at fails
      cases fails
    · rw [loads] at same
      cases same
      rw [unrefused] at refused
      cases refused
  | ended _ _ empty unusable _ _ => exact iff_of_true rfl ⟨empty, unusable⟩
  | failed _ _ _ unreadable _ => exact iff_of_false nofun fun wrong => wrong.2.not_unreadable unreadable

/-- **A request fails exactly at a text that cannot be read.** -/
theorem Answered.unreadable_iff {field : String} :
    answer.1.2 = .error (.unreadable field) ↔ cache.kept = none ∧ Unreadable environment field := by
  cases answered with
  | kept _ kept => simp [kept]
  | loaded _ _ _ loads _ _ =>
    rw [← load_eq_unreadable_iff, loads]
    simp
  | ended _ _ _ unusable _ _ => exact iff_of_false nofun fun garbled => unusable.not_unreadable garbled.2
  | failed _ other empty unreadable _ =>
    rw [← load_eq_unreadable_iff, load_eq_unreadable_iff.mpr unreadable]
    simp [empty]

end Answered

/-- **Requests end the program exactly for wrong settings, and fail exactly at texts that cannot be read.** After
any requests in any environments, a request returns accepted settings, or it ends the program with one critical
notice, or it fails without one. It ends the program exactly if nothing is kept and the settings of the environment
are wrong, and it fails exactly if nothing is kept and a text cannot be read. The gentle request tells the same and
leaves the same cache; it has no settings exactly where the other ends the program, and fails where the other
fails. -/
theorem requests_end_or_fail_at_texts (requests : List Request) (environment : Environment) :
    let cache := afterAll requests
    let answer := cache.get environment
    let gentle := cache.get? environment
    cache.Answered environment answer
      ∧ (∀ loaded, answer.1.2 = .ok loaded → loaded.settings.IsAccepted)
      ∧ (answer.1.2 = .error .exit ↔ cache.kept = none ∧ IsUnusable environment)
      ∧ (∀ field, answer.1.2 = .error (.unreadable field)
        ↔ cache.kept = none ∧ Unreadable environment field)
      ∧ gentle.1.1 = answer.1.1 ∧ gentle.2 = answer.2
      ∧ (∀ loaded, gentle.1.2 = .ok (some loaded) ↔ answer.1.2 = .ok loaded)
      ∧ (gentle.1.2 = .ok none ↔ answer.1.2 = .error .exit)
      ∧ (∀ stop, gentle.1.2 = .error stop
        ↔ ∃ field, stop = .unreadable field ∧ answer.1.2 = .error (.unreadable field)) := by
  intro cache answer gentle
  have sound : cache.IsSound := isSound_afterAll requests
  have answered : cache.Answered environment answer := get_answered environment cache
  have same : gentle = ((answer.1.1, withoutEnd answer.1.2), answer.2) := get?_eq environment cache
  rw [same]
  refine ⟨answered, ?_, ?_, ?_, rfl, rfl, fun _ => withoutEnd_eq_some_iff, withoutEnd_eq_none_iff,
    fun _ => withoutEnd_eq_error_iff⟩
  · intro loaded returned
    exact answered.isAccepted sound returned
  · exact answered.exit_iff
  · exact fun _ => answered.unreadable_iff

/-- A list of jobs that is written without brackets is no wrong setting: it cannot be read. -/
example : (match (Cache.get [("humans_worker", "process_outbox")] {}).1 with
    | ([.settingsLoading], .error (.unreadable field)) => field == "worker"
    | _ => false) = true := by
  decide +kernel

end Cache

end Roster.Settings
