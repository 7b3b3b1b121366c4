/-
**The cache of the settings is a memo with one place.**

The first request since the last clear that finds settings which may be used decides: they are kept, and every later
request returns the very same ones, whatever the environment has become. A request that finds none keeps nothing, so
the next one looks at the environment anew. Settings that were returned before a clear and after it were loaded
apart.

* `Request.Finds` — the settings that a request finds in its own environment.
* `Cache.Stepped` — **what one request does**; `after_of_kept`, `AtLeast.after` — what it keeps.
* `sinceClear`, `BuiltBy` — the requests since the last clear, and the one that built what is kept.
* `isSome_kept_afterAll_iff`, `kept_afterAll_iff` — **what is kept after any requests**.
* `first_success_kept_until_clear` — what a request returns; `change_of_environment_goes_unseen` — requests in
  environments that change, and a clear.
-/

import Mathlib.Data.List.DropRight
import Roster.Proofs.Settings.Requests

namespace Roster.Settings

/-- The settings of an environment may be used: they can be loaded and are not refused. -/
def IsUsable (environment : Environment) (settings : Settings) : Prop :=
  load environment [] = .ok settings ∧ settings.refusal? = none

/-- An environment has no two settings. -/
theorem IsUsable.unique {environment : Environment} {settings other : Settings}
    (usable : IsUsable environment settings) (usableToo : IsUsable environment other) : settings = other :=
  Except.ok.inj (usable.1.symm.trans usableToo.1)

theorem IsUnusable.not_usable {environment : Environment} {settings : Settings}
    (unusable : IsUnusable environment) : ¬ IsUsable environment settings := by
  rintro ⟨loads, unrefused⟩
  rcases unusable with ⟨_, fails⟩ | ⟨_, _, same, refused⟩
  · rw [loads] at fails
    cases fails
  · rw [loads] at same
    cases same
    rw [unrefused] at refused
    cases refused

theorem Unreadable.not_usable {environment : Environment} {field : String} {settings : Settings}
    (unreadable : Unreadable environment field) : ¬ IsUsable environment settings := by
  rintro ⟨loads, _⟩
  rw [load_eq_unreadable_iff.mpr unreadable] at loads
  cases loads

namespace Request

/-- The request drops what is kept. -/
def isClear : Request → Bool
  | clear => true
  | _ => false

/-- **What a request finds**: the settings of its environment, if they may be used. -/
def Finds (settings : Settings) : Request → Prop
  | get environment => IsUsable environment settings
  | get? environment => IsUsable environment settings
  | clear => False

theorem Finds.unique {request : Request} {settings other : Settings} (finds : request.Finds settings)
    (findsToo : request.Finds other) : settings = other := by
  cases request with
  | get environment => exact IsUsable.unique finds findsToo
  | get? environment => exact IsUsable.unique finds findsToo
  | clear => cases finds

theorem Finds.ne_clear {request : Request} {settings : Settings} (finds : request.Finds settings) :
    request ≠ clear := by
  rintro rfl
  exact finds

theorem isClear_iff {request : Request} : request.isClear = true ↔ request = clear := by
  cases request <;> simp [isClear]

end Request

namespace Cache

variable {cache : Cache} {request : Request}

/-! ### One request -/

/-- The settings that a request returns, if it returns any. -/
def returned (cache : Cache) : Request → Option Loaded
  | .get environment => (cache.get environment).1.2.toOption
  | .get? environment => (cache.get? environment).1.2.toOption.join
  | .clear => none

theorem join_withoutEnd (outcome : Except Stop Loaded) :
    (withoutEnd outcome).toOption.join = outcome.toOption := by
  cases outcome with
  | ok loaded => rfl
  | error stop => cases stop <;> rfl

/-- The gentle request returns and keeps the same. -/
theorem returned_get? (cache : Cache) (environment : Environment) :
    cache.returned (.get? environment) = cache.returned (.get environment)
      ∧ cache.after (.get? environment) = cache.after (.get environment) := by
  unfold returned after
  dsimp only
  rw [get?_eq]
  exact ⟨join_withoutEnd _, rfl⟩

/-- **What one request does**: it returns what is kept; or it builds the settings that it finds, which are kept from
then on; or it finds none and keeps nothing; or it drops what is kept. -/
inductive Stepped (cache : Cache) (request : Request) : Prop where
  | kept (loaded : Loaded) (call : request ≠ .clear) (kept : cache.kept = some loaded)
      (returned : cache.returned request = some loaded) (after : cache.after request = cache)
  | built (settings : Settings) (empty : cache.kept = none) (finds : request.Finds settings)
      (returned : cache.returned request = some ⟨cache.loads, settings⟩)
      (after : cache.after request = ⟨some ⟨cache.loads, settings⟩, cache.loads + 1⟩)
  | failed (call : request ≠ .clear) (empty : cache.kept = none) (unfound : ∀ settings, ¬ request.Finds settings)
      (returned : cache.returned request = none) (after : cache.after request = cache)
  | cleared (clears : request = .clear) (returned : cache.returned request = none)
      (after : cache.after request = { cache with kept := none })

theorem stepped_get (cache : Cache) (environment : Environment) : cache.Stepped (.get environment) := by
  have answered := get_answered environment cache
  generalize same : cache.get environment = answer at answered
  have returned : cache.returned (.get environment) = answer.1.2.toOption := by rw [← same]; rfl
  have after : cache.after (.get environment) = answer.2 := by rw [← same]; rfl
  cases answered with
  | kept loaded kept => exact .kept loaded nofun kept returned after
  | loaded _ settings empty loads unrefused _ => exact .built settings empty ⟨loads, unrefused⟩ returned after
  | ended _ _ empty unusable _ _ =>
    exact .failed nofun empty (fun _ finds => unusable.not_usable finds) returned after
  | failed _ _ empty unreadable _ =>
    exact .failed nofun empty (fun _ finds => unreadable.not_usable finds) returned after

/-- **Every request does one of these.** -/
theorem stepped (cache : Cache) (request : Request) : cache.Stepped request := by
  cases request with
  | get environment => exact stepped_get cache environment
  | get? environment =>
    obtain ⟨sameReturned, sameAfter⟩ := returned_get? cache environment
    cases stepped_get cache environment with
    | kept loaded _ kept returned after =>
      exact .kept loaded nofun kept (sameReturned.trans returned) (sameAfter.trans after)
    | built settings empty finds returned after =>
      exact .built settings empty finds (sameReturned.trans returned) (sameAfter.trans after)
    | failed _ empty unfound returned after =>
      exact .failed nofun empty unfound (sameReturned.trans returned) (sameAfter.trans after)
    | cleared clears => cases clears
  | clear => exact .cleared rfl rfl rfl

/-- What a request returns is kept afterwards, and nothing else is. -/
theorem kept_after (call : request ≠ .clear) : (cache.after request).kept = cache.returned request := by
  cases cache.stepped request with
  | kept _ _ kept returned after => rw [returned, after, kept]
  | built _ _ _ returned after => rw [returned, after]
  | failed _ empty _ returned after => rw [returned, after, empty]
  | cleared clears => exact absurd clears call

/-- **Nothing but a clear changes what is kept.** -/
theorem after_of_kept {loaded : Loaded} (kept : cache.kept = some loaded) (call : request ≠ .clear) :
    cache.after request = cache := by
  cases cache.stepped request with
  | kept _ _ _ _ after => exact after
  | built _ empty =>
    rw [kept] at empty
    cases empty
  | failed _ _ _ _ after => exact after
  | cleared clears => exact absurd clears call

/-- **A request that returns nothing keeps nothing.** -/
theorem of_returned_none (call : request ≠ .clear) (nothing : cache.returned request = none) :
    cache.kept = none ∧ cache.after request = cache := by
  cases cache.stepped request with
  | kept _ _ _ returned =>
    rw [nothing] at returned
    cases returned
  | built _ _ _ returned =>
    rw [nothing] at returned
    cases returned
  | failed _ empty _ _ after => exact ⟨empty, after⟩
  | cleared clears => exact absurd clears call

/-- **Where nothing is kept, a request looks at its environment.** -/
theorem returned_of_empty (empty : cache.kept = none) {loaded : Loaded} :
    cache.returned request = some loaded ↔ request.Finds loaded.settings ∧ loaded.number = cache.loads := by
  cases cache.stepped request with
  | kept _ _ kept =>
    rw [empty] at kept
    cases kept
  | built settings _ finds returned =>
    rw [returned, Option.some.injEq]
    constructor
    · rintro rfl
      exact ⟨finds, rfl⟩
    · rintro ⟨findsToo, number⟩
      rw [finds.unique findsToo, ← number]
  | failed _ _ unfound returned =>
    rw [returned]
    exact iff_of_false nofun fun finds => unfound _ finds.1
  | cleared clears returned =>
    rw [returned]
    exact iff_of_false nofun fun finds => finds.1.ne_clear clears

/-! ### The numbers of the loads -/

/-- The loads of a cache have reached a number, and what is kept was loaded from it on. -/
def AtLeast (number : Nat) (cache : Cache) : Prop :=
  number ≤ cache.loads ∧ ∀ loaded, cache.kept = some loaded → number ≤ loaded.number

/-- What is kept was loaded before. -/
def IsNumbered (cache : Cache) : Prop := ∀ loaded, cache.kept = some loaded → loaded.number < cache.loads

theorem AtLeast.after {number : Nat} (reached : cache.AtLeast number) (request : Request) :
    (cache.after request).AtLeast number := by
  cases cache.stepped request with
  | kept _ _ _ _ after => rwa [after]
  | built settings _ _ _ after =>
    rw [after]
    refine ⟨Nat.le_succ_of_le reached.1, fun loaded kept => ?_⟩
    rw [← Option.some.inj kept]
    exact reached.1
  | failed _ _ _ _ after => rwa [after]
  | cleared _ _ after =>
    rw [after]
    exact ⟨reached.1, fun _ kept => nomatch kept⟩

theorem AtLeast.foldl {number : Nat} (reached : cache.AtLeast number) (requests : List Request) :
    (requests.foldl Cache.after cache).AtLeast number := by
  induction requests generalizing cache with
  | nil => exact reached
  | cons request rest ih => exact ih (reached.after request)

theorem IsNumbered.after (numbered : cache.IsNumbered) (request : Request) : (cache.after request).IsNumbered := by
  cases cache.stepped request with
  | kept _ _ _ _ after => rwa [after]
  | built settings _ _ _ after =>
    rw [after]
    intro loaded kept
    rw [← Option.some.inj kept]
    exact Nat.lt_succ_self _
  | failed _ _ _ _ after => rwa [after]
  | cleared _ _ after =>
    rw [after]
    exact fun _ kept => nomatch kept

theorem IsNumbered.foldl (numbered : cache.IsNumbered) (requests : List Request) :
    (requests.foldl Cache.after cache).IsNumbered := by
  induction requests generalizing cache with
  | nil => exact numbered
  | cons request rest ih => exact ih (numbered.after request)

/-- **What is kept stays until the next clear**, and so does the whole cache. -/
theorem foldl_after_of_kept {loaded : Loaded} (kept : cache.kept = some loaded) {later : List Request}
    (uncleared : .clear ∉ later) : later.foldl after cache = cache := by
  induction later with
  | nil => rfl
  | cons request rest ih =>
    rw [List.mem_cons, not_or] at uncleared
    rw [List.foldl_cons, after_of_kept kept (Ne.symm uncleared.1)]
    exact ih uncleared.2

/-- **After a clear everything is of a later load** than what was kept before. -/
theorem atLeast_of_cleared {loaded : Loaded} (numbered : cache.IsNumbered) (kept : cache.kept = some loaded)
    {later : List Request} (cleared : .clear ∈ later) :
    (later.foldl after cache).AtLeast (loaded.number + 1) := by
  induction later with
  | nil => cases cleared
  | cons request rest ih =>
    rw [List.foldl_cons]
    by_cases clears : request = .clear
    · subst clears
      have emptied : (cache.after .clear).AtLeast (loaded.number + 1) :=
        ⟨numbered loaded kept, fun _ keptToo => nomatch keptToo⟩
      exact emptied.foldl rest
    · rw [after_of_kept kept clears]
      exact ih ((List.mem_cons.mp cleared).resolve_left (Ne.symm clears))

/-! ### Requests one after another -/

theorem afterAll_append (earlier later : List Request) :
    afterAll (earlier ++ later) = later.foldl after (afterAll earlier) :=
  List.foldl_append

theorem afterAll_concat (history : List Request) (request : Request) :
    afterAll (history ++ [request]) = (afterAll history).after request :=
  afterAll_append history [request]

/-- The requests since the last clear, in their order. -/
def sinceClear (history : List Request) : List Request := history.rtakeWhile fun request => !request.isClear

theorem sinceClear_concat_of_call (history : List Request) (call : request ≠ .clear) :
    sinceClear (history ++ [request]) = sinceClear history ++ [request] := by
  refine List.rtakeWhile_concat_pos _ _ _ ?_
  rw [Bool.not_eq_true', Bool.eq_false_iff]
  exact fun clears => call (Request.isClear_iff.mp clears)

theorem sinceClear_concat_clear (history : List Request) : sinceClear (history ++ [.clear]) = [] :=
  List.rtakeWhile_concat_neg _ _ _ nofun

/-- **Something is kept exactly if one of the requests since the last clear finds something.** -/
theorem isSome_kept_afterAll_iff (history : List Request) : (afterAll history).kept.isSome = true
    ↔ ∃ request ∈ sinceClear history, ∃ settings, request.Finds settings := by
  induction history using List.reverseRecOn with
  | nil => exact iff_of_false nofun (by rintro ⟨_, ⟨⟩, _⟩)
  | append_singleton history request ih =>
    rw [afterAll_concat]
    by_cases clears : request = .clear
    · subst clears
      rw [sinceClear_concat_clear]
      exact iff_of_false nofun (by rintro ⟨_, ⟨⟩, _⟩)
    · rw [sinceClear_concat_of_call history clears]
      simp only [List.mem_append, List.mem_singleton, or_and_right, exists_or, exists_eq_left]
      rw [← ih]
      cases (afterAll history).stepped request with
      | kept loaded _ kept _ after => simp [after, kept]
      | built settings _ finds _ after =>
        rw [after]
        exact iff_of_true rfl (.inr ⟨settings, finds⟩)
      | failed _ empty unfound _ after => simp [after, empty, unfound]
      | cleared clearsToo => exact absurd clearsToo clears

/-- **The request that built what is kept**: the first one since the last clear that found something. It made the
load of this number. -/
structure BuiltBy (history earlier : List Request) (first : Request) (later : List Request)
    (loaded : Loaded) : Prop where
  split : history = earlier ++ first :: later
  uncleared : .clear ∉ later
  nothingBefore : ∀ request ∈ sinceClear earlier, ∀ settings, ¬ request.Finds settings
  finds : first.Finds loaded.settings
  number : loaded.number = (afterAll earlier).loads

section BuiltBy

variable {history earlier later : List Request} {first : Request} {loaded : Loaded}

/-- Nothing was kept before, and the request returned what it built. -/
theorem BuiltBy.returned_first (built : BuiltBy history earlier first later loaded) :
    (afterAll earlier).kept = none ∧ (afterAll earlier).returned first = some loaded := by
  have empty : (afterAll earlier).kept = none := by
    rw [← Option.not_isSome_iff_eq_none, isSome_kept_afterAll_iff]
    rintro ⟨request, inside, settings, finds⟩
    exact built.nothingBefore request inside settings finds
  exact ⟨empty, (returned_of_empty empty).mpr ⟨built.finds, built.number⟩⟩

/-- **What is kept after requests was built by one of them.** -/
theorem kept_afterAll_iff : (afterAll history).kept = some loaded
    ↔ ∃ earlier first later, BuiltBy history earlier first later loaded := by
  constructor
  · intro kept
    induction history using List.reverseRecOn with
    | nil => cases kept
    | append_singleton history request ih =>
      rw [afterAll_concat] at kept
      cases (afterAll history).stepped request with
      | kept _ call _ _ after =>
        rw [after] at kept
        obtain ⟨earlier, first, later, built⟩ := ih kept
        refine ⟨earlier, first, later ++ [request], ?_, ?_, built.nothingBefore, built.finds, built.number⟩
        · rw [built.split, List.append_assoc, List.cons_append]
        · rw [List.mem_append, List.mem_singleton, not_or]
          exact ⟨built.uncleared, Ne.symm call⟩
      | built settings empty finds _ after =>
        rw [after] at kept
        cases kept
        refine ⟨history, request, [], rfl, List.not_mem_nil, fun other inside found findsToo => ?_, finds, rfl⟩
        have isKept := (isSome_kept_afterAll_iff history).mpr ⟨other, inside, found, findsToo⟩
        rw [empty] at isKept
        cases isKept
      | failed _ empty _ _ after =>
        rw [after, empty] at kept
        cases kept
      | cleared _ _ after =>
        rw [after] at kept
        cases kept
  · rintro ⟨earlier, first, later, built⟩
    obtain ⟨_, returned⟩ := built.returned_first
    have kept : ((afterAll earlier).after first).kept = some loaded :=
      (kept_after built.finds.ne_clear).trans returned
    rw [built.split, afterAll_append, List.foldl_cons, foldl_after_of_kept kept built.uncleared]
    exact kept

end BuiltBy

/-- **The first success is kept until the next clear.** After any requests in any environments, a request returns
settings exactly if one since the last clear, itself included, finds settings that may be used. It returns those that
the first such request built and returned. A request that returns none keeps nothing, so the next one returns what it
finds in its own environment. Until the next clear the same settings are returned, and after it others, of a later
load. -/
theorem first_success_kept_until_clear (history : List Request) (request : Request) (call : request ≠ .clear) :
    let cache := afterAll history
    let calls := history ++ [request]
    ((cache.returned request).isSome = true
        ↔ ∃ other ∈ sinceClear calls, ∃ settings, other.Finds settings)
      ∧ (∀ loaded, cache.returned request = some loaded
        ↔ ∃ earlier first later, BuiltBy calls earlier first later loaded)
      ∧ (∀ loaded earlier first later, BuiltBy calls earlier first later loaded →
        (afterAll earlier).kept = none ∧ (afterAll earlier).returned first = some loaded)
      ∧ (cache.returned request = none → cache.after request = cache ∧ ∀ next loaded,
        (afterAll calls).returned next = some loaded ↔ next.Finds loaded.settings ∧ loaded.number = cache.loads)
      ∧ ∀ loaded, cache.returned request = some loaded → ∀ between again other, again ≠ .clear →
        (afterAll (calls ++ between)).returned again = some other →
          (.clear ∉ between → other = loaded) ∧ (.clear ∈ between → loaded.number < other.number) := by
  intro cache calls
  have now : afterAll calls = cache.after request := afterAll_concat history request
  have same : cache.returned request = (afterAll calls).kept := by
    rw [now, kept_after call]
  refine ⟨?_, fun loaded => ?_, fun loaded earlier first later built => built.returned_first, ?_, ?_⟩
  · rw [same]
    exact isSome_kept_afterAll_iff calls
  · rw [same]
    exact kept_afterAll_iff
  · intro nothing
    obtain ⟨empty, unchanged⟩ := of_returned_none call nothing
    refine ⟨unchanged, fun next loaded => ?_⟩
    rw [now, unchanged]
    exact returned_of_empty empty
  · intro loaded returned between again other callToo returnedToo
    rw [same] at returned
    rw [afterAll_append] at returnedToo
    constructor
    · intro uncleared
      rw [foldl_after_of_kept returned uncleared, ← kept_after callToo, after_of_kept returned callToo,
        returned] at returnedToo
      exact (Option.some.inj returnedToo).symm
    · intro cleared
      have start : ({} : Cache).IsNumbered := fun _ kept => nomatch kept
      have numbered : (afterAll calls).IsNumbered := start.foldl calls
      have later := (atLeast_of_cleared numbered returned cleared).after again
      exact later.2 other ((kept_after callToo).trans returnedToo)

/-- A request fails without a database. The next one finds one, which is returned although the environment has
another one by then and later has none. After a clear the other one is loaded. -/
theorem change_of_environment_goes_unseen :
    let here : Environment := [("humans_database", "\x7b\"url\": \"postgresql://localhost/humans\"\x7d")]
    let there : Environment := [("humans_database", "\x7b\"url\": \"postgresql://elsewhere/humans\"\x7d")]
    let history : List Request := [.get [], .get? here, .get there]
    let shown := fun loaded : Loaded => (loaded.number, loaded.settings.database.url)
    Request.get [] ≠ .clear
      ∧ ((afterAll history).returned (.get [])).map shown = some (0, "postgresql://localhost/humans")
      ∧ ((afterAll (history ++ [.get []] ++ [.clear])).returned (.get there)).map shown
        = some (1, "postgresql://elsewhere/humans")
      ∧ (∃ other ∈ sinceClear (history ++ [.get []]), ∃ settings, other.Finds settings)
      ∧ ∀ loaded other, (afterAll history).returned (.get []) = some loaded →
        (afterAll (history ++ [.get []] ++ [.clear])).returned (.get there) = some other →
          loaded.number < other.number := by
  intro here there history shown
  have call : Request.get [] ≠ .clear := nofun
  have before : ((afterAll history).returned (.get [])).map shown = some (0, "postgresql://localhost/humans") := by
    decide +kernel
  have found : ((afterAll history).returned (.get [])).isSome = true := by
    rw [← Option.isSome_map, before]
    rfl
  obtain ⟨returns, _, _, _, stays⟩ := first_success_kept_until_clear history (.get []) call
  refine ⟨call, before, by decide +kernel, returns.mp found, fun loaded other returned returnedToo => ?_⟩
  have again : Request.get there ≠ .clear := nofun
  exact (stays loaded returned [.clear] (.get there) other again returnedToo).2 (List.mem_singleton.mpr rfl)

end Cache

end Roster.Settings
