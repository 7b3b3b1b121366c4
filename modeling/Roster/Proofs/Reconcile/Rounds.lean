/-
**Runs of passes.**

Whoever reconciles teams calls a single pass, with the rule of its kind or with another one, or a run over
the derived teams; either may fail, be stopped in between, and be called again later. Before each pass the
surroundings may change as they like: time goes by, the database is lost and comes back.

* `Round` — what one call leaves committed, also in the middle of a run over the derived teams.
* `Imposes` — a pass with changes, whatever its kind and its rule; `Round.imposes` — **what a call commits
  are passes with changes**, one after another.
* `Called` — a call was made; `Rounds`, `Rounds.induct` — calls while time goes on, and what each pass with
  changes keeps.
* `emptied`, `rejoined` — somebody leaves a team and comes back.
-/

import Roster.Proofs.Reconcile.Atomicity
import Roster.Proofs.Reconcile.Imposed
import Mathlib.Logic.Relation

namespace Roster.Reconcile

open EStateM (Result)
open Relation (ReflTransGen)

/-- **What one call leaves committed**: a pass, whether it returns or fails, a run over the derived teams,
and such a run when it comes to one of them. -/
inductive Round (mode : Mode) (world : World) : World → Prop where
  | pass (happens : Surroundings → Surroundings) (kind : TeamKind) (given : Option Eligibility)
      (asks : ∀ rule ∈ given, rule.OnlyAsks) :
      Round mode world (endOf (pass kind given mode (world.amid happens)))
  | all (happens : TeamKind → Surroundings → Surroundings) :
      Round mode world (endOf (allAmid mode happens world))
  | amidAll {happens : TeamKind → Surroundings → Surroundings} {done : List TeamKind} {kind : TeamKind}
      {run : SyncRun} {between : World}
      (comes : ComesTo mode happens order (world.noted (.syncStarted mode.now)) done kind run between) :
      Round mode world between

/-- A pass with changes, whatever its kind and its rule. -/
def Imposes (mode : Mode) (before after : Store) : Prop :=
  ∃ kind team eligible result, Imposed kind mode team eligible before result after

variable {mode : Mode} {world after : World} {before later : Store}

theorem valid_of_imposes (valid : before.Valid) (passes : ReflTransGen (Imposes mode) before later) :
    later.Valid := by
  induction passes with
  | refl => exact valid
  | tail _ imposes _ =>
    obtain ⟨_, _, _, _, imposed⟩ := imposes
    exact imposed.valid

/-- **What each pass with changes keeps, all of them keep.** -/
theorem keeps_of_imposes {motive : Store → Prop} (valid : before.Valid)
    (passes : ReflTransGen (Imposes mode) before later) (holds : motive before)
    (imposes : ∀ before after, before.Valid → Imposes mode before after → motive before → motive after) :
    motive later := by
  induction passes with
  | refl => exact holds
  | tail earlier imposed ih => exact imposes _ _ (valid_of_imposes valid earlier) imposed ih

/-! ### What a call commits -/

/-- A pass commits its changes or nothing. -/
theorem imposes_pass {kind : TeamKind} {given : Option Eligibility} (valid : world.store.Valid)
    (asks : ∀ rule ∈ given, rule.OnlyAsks) :
    ReflTransGen (Imposes mode) world.store (endOf (pass kind given mode world)).store := by
  rcases pass_cases valid asks with ⟨same, _⟩ | ⟨result, after, _, team, eligible, ran, _, _, imposed⟩
  · rw [same]
  · rw [ran]
    exact .single ⟨kind, team, eligible, result, imposed⟩

/-- **Passes one after another commit their changes**, up to the first that fails. -/
theorem imposes_passesAmid {happens : TeamKind → Surroundings → Surroundings} (kinds : List TeamKind)
    (valid : world.store.Valid) :
    ReflTransGen (Imposes mode) world.store (endOf (passesAmid mode happens kinds world)).store := by
  induction kinds generalizing world with
  | nil => exact .refl
  | cons kind rest ih =>
    cases signal : (world.amid (happens kind)).surroundings.cancelled with
    | true =>
      rw [passesAmid_of_cancelled signal]
      exact .refl
    | false =>
      have first : ReflTransGen (Imposes mode) world.store
          (endOf (pass kind none mode (world.amid (happens kind)))).store :=
        @imposes_pass mode (world.amid (happens kind)) kind none valid Eligibility.onlyAsks_none
      rw [passesAmid_of_goes_on signal, bind_apply]
      cases ran : pass kind none mode (world.amid (happens kind)) with
      | error failure after =>
        rw [ran] at first
        exact first
      | ok result passed =>
        rw [ran] at first
        have others := @ih passed (valid_of_imposes valid first)
        show ReflTransGen (Imposes mode) world.store (endOf ((passesAmid mode happens rest >>= _)
          passed)).store
        rw [bind_apply]
        cases later : passesAmid mode happens rest passed with
        | error failure after =>
          rw [later] at others
          exact first.trans others
        | ok run after =>
          rw [later] at others
          exact first.trans others

/-- **What a call commits are passes with changes**, one after another. -/
theorem Round.imposes (valid : world.store.Valid) (round : Round mode world after) :
    ReflTransGen (Imposes mode) world.store after.store := by
  cases round with
  | pass happens kind given asks => exact @imposes_pass mode (world.amid happens) kind given valid asks
  | all happens =>
    rw [store_allAmid]
    exact @imposes_passesAmid mode (world.noted _) happens order valid
  | @amidAll happens done kind run between comes =>
    have ran : ReflTransGen (Imposes mode) world.store (endOf (passesAmid mode happens done
        (world.noted (.syncStarted mode.now)))).store :=
      @imposes_passesAmid mode (world.noted _) happens done valid
    rw [comes.first] at ran
    exact ran

/-- **A call was made**, for whatever time. -/
def Called (before after : World) : Prop := ∃ mode, Round mode before after

/-! ### Calls while time goes on -/

/-- **Calls one after another** from a world at a time, none of them for an earlier time than the one
before. -/
inductive Rounds (first : Instant) (start : World) : Instant → World → Prop where
  | begin : Rounds first start first start
  | next {now : Instant} {world after : World} {mode : Mode} (earlier : Rounds first start now world)
      (onward : now ≤ mode.now) (round : Round mode world after) : Rounds first start mode.now after

/-- **What passes with changes keep holds after every call**: a property of a time and a store. -/
theorem Rounds.induct {first now : Instant} {start world : World} (motive : Instant → Store → Prop)
    (valid : start.store.Valid) (begins : motive first start.store)
    (waits : ∀ now later store, now ≤ later → motive now store → motive later store)
    (imposes : ∀ mode before after, before.Valid → Imposes mode before after → motive mode.now before →
      motive mode.now after)
    (rounds : Rounds first start now world) : world.store.Valid ∧ motive now world.store := by
  induction rounds with
  | begin => exact ⟨valid, begins⟩
  | @next now world after mode earlier onward round ih =>
    obtain ⟨validNow, holds⟩ := ih
    have passes := round.imposes validNow
    exact ⟨valid_of_imposes validNow passes,
      keeps_of_imposes validNow passes (waits now mode.now world.store onward holds) (imposes mode)⟩

/-! ### Somebody leaves and comes back -/

theorem onlyAsks_some_pure (users : List Uuid) :
    ∀ rule ∈ (some fun _ => pure users : Option Eligibility), rule.OnlyAsks := by
  rintro _ ⟨⟩
  exact Eligibility.onlyAsks_pure users

/-- A moment after the first instant. -/
def nextMoment : Instant := ⟨1, ⟨0⟩, Instant.inRange_one⟩

/-- The newcomer and the volunteer once nobody is asked for among the volunteers. -/
def emptied : World := endOf (pass .volunteers (some fun _ => pure []) default turnover)

/-- The same a moment later, once the volunteer is asked for again. -/
def rejoined : World :=
  endOf (pass .volunteers (some fun _ => pure [.numbered 1 2]) { now := nextMoment } emptied)

theorem round_emptied : Round default turnover emptied := .pass id _ _ (onlyAsks_some_pure _)

theorem round_rejoined : Round { now := nextMoment } emptied rejoined :=
  .pass id _ _ (onlyAsks_some_pure _)

end Roster.Reconcile
