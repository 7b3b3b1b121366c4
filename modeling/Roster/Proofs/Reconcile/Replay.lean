/-
**The log replays the memberships.**

What the entries about a team and a user tell, one after another, is what happened to the stays: additions
and removals take turns, the first one tells whether the user was in the team before and the last one
whether they are in it afterwards, and every addition stands for one new row.

* `Replays` — **what is told replays what happened** to the stays of a user in a team; `Replays.append`,
  `Turn.replays` — one part after another, and one pass.
* `Logged` — a store with its log, for every user and team, and entries that stay.
* `log_replays_membership` — every call of the reconciliation, whether it returns or fails;
  `volunteer_removed_and_added` — somebody who left and came back.
-/

import Mathlib.Data.List.Chain
import Roster.Proofs.Reconcile.History

namespace Roster.Reconcile

open Relation (ReflTransGen)

/-- One of the stays is open. -/
def IsIn (stays : List TeamMember) : Prop := ∃ stay ∈ stays, stay.isOpen = true

/-- **What is told replays what happened to the stays of a user in a team.** -/
structure Replays (before : List TeamMember) (told : List AuditAction) (after : List TeamMember) : Prop where
  known : ∀ action ∈ told, action = .teamMemberAdded ∨ action = .teamMemberRemoved
  takeTurns : told.IsChain fun action next => action ≠ next
  first : ∀ action ∈ told.head?, action = .teamMemberAdded ↔ ¬ IsIn before
  last : ∀ action ∈ told.getLast?, action = .teamMemberAdded ↔ IsIn after
  silent : told = [] → after = before
  rows : TeamMember.Grows (told.count .teamMemberAdded) before after

namespace Replays

variable {before between after : List TeamMember} {told more : List AuditAction}

theorem refl (stays : List TeamMember) : Replays stays [] stays where
  known := List.forall_mem_nil _
  takeTurns := .nil
  first := nofun
  last := nofun
  silent _ := rfl
  rows := .refl stays

/-- **What is told in two parts replays what happened in both.** -/
theorem append (earlier : Replays before told between) (later : Replays between more after) :
    Replays before (told ++ more) after where
  known action inside := (List.mem_append.mp inside).elim (earlier.known action) (later.known action)
  takeTurns := by
    refine List.isChain_append.mpr ⟨earlier.takeTurns, later.takeTurns, ?_⟩
    rintro action ends _ begins rfl
    exact iff_not_self ((earlier.last action ends).symm.trans (later.first action begins))
  first action begins := by
    rcases told with _ | ⟨head, rest⟩
    · rw [← earlier.silent rfl]
      exact later.first action begins
    · exact earlier.first action begins
  last action ends := by
    rcases List.eq_nil_or_concat more with rfl | ⟨front, final, rfl⟩
    · rw [later.silent rfl]
      rw [List.append_nil] at ends
      exact earlier.last action ends
    · refine later.last action ?_
      rw [List.concat_eq_append, ← List.append_assoc, List.getLast?_concat] at ends
      rwa [List.concat_eq_append, List.getLast?_concat]
  silent nothing := by
    obtain ⟨noneTold, noneMore⟩ := List.append_eq_nil_iff.mp nothing
    rw [later.silent noneMore, earlier.silent noneTold]
  rows := by
    rw [List.count_append]
    exact earlier.rows.trans later.rows

/-- **Nothing is told exactly if no row changed.** -/
theorem eq_nil_iff (replays : Replays before told after) : told = [] ↔ after = before := by
  refine ⟨replays.silent, fun same => ?_⟩
  by_contra some
  have none : AuditAction.teamMemberAdded ∉ told := fun added => by
    have grown := replays.rows.length_eq
    have counted := List.count_pos_iff.mpr added
    rw [same] at grown
    omega
  -- Without an addition the user was in the team before, and is not afterwards.
  obtain ⟨head, begins⟩ := Option.isSome_iff_exists.mp (List.isSome_head?.mpr some)
  obtain ⟨final, ends⟩ := Option.isSome_iff_exists.mp (List.getLast?_isSome.mpr some)
  have inside : IsIn before := by
    by_contra outside
    exact none ((replays.first head begins).mpr outside ▸ List.mem_of_head? begins)
  rw [← same] at inside
  exact none ((replays.last final ends).mpr inside ▸ List.mem_of_getLast? ends)

end Replays

/-- **What a pass tells replays what it does.** -/
theorem Turn.replays {mode : Mode} {stays after : List TeamMember} {action : Option AuditAction}
    (turn : Turn mode stays action after) : Replays stays action.toList after := by
  cases turn with
  | rests => exact .refl stays
  | @joins stay outside joinedAt opened =>
    refine ⟨?_, .singleton _, ?_, ?_, nofun, .concat stays stay⟩
    · rintro _ (_ | ⟨_, ⟨⟩⟩)
      exact .inl rfl
    · rintro _ ⟨⟩
      refine iff_of_true rfl fun ⟨other, inside, opened⟩ => ?_
      rw [outside other inside] at opened
      cases opened
    · rintro _ ⟨⟩
      refine iff_of_true rfl ⟨stay, List.mem_append_right _ List.mem_cons_self, ?_⟩
      show stay.leftAt.isNone = true
      rw [opened]
      rfl
  | leaves inside =>
    have rows := TeamMember.Grows.of_map (@continues_ended mode) stays []
    rw [List.append_nil] at rows
    refine ⟨?_, .singleton _, ?_, ?_, nofun, rows⟩
    · rintro _ (_ | ⟨_, ⟨⟩⟩)
      exact .inr rfl
    · rintro _ ⟨⟩
      exact iff_of_false nofun (not_not_intro inside)
    · rintro _ ⟨⟩
      refine iff_of_false nofun ?_
      rintro ⟨other, member, opened⟩
      obtain ⟨stay, _, rfl⟩ := List.mem_map.mp member
      rw [isOpen_ended] at opened
      cases opened

/-! ### All calls -/

/-- **A store and its log went on together**: entries were only added, and for every user and team they
replay what happened to the stays. -/
def Logged (before : Store) (entries : List AuditEntry) (after : Store) : Prop :=
  after.audit = before.audit ++ entries ∧ ∀ team user,
    Replays (before.staysOf team user) (actionsOf team user entries) (after.staysOf team user)

theorem Logged.append {before between after : Store} {entries more : List AuditEntry}
    (earlier : Logged before entries between) (later : Logged between more after) :
    Logged before (entries ++ more) after := by
  refine ⟨?_, fun team user => ?_⟩
  · rw [later.1, earlier.1, List.append_assoc]
  · rw [actionsOf_append]
    exact (earlier.2 team user).append (later.2 team user)

theorem logged_refl (store : Store) : Logged store [] store :=
  ⟨(List.append_nil _).symm, fun _ _ => .refl _⟩

/-- A pass with changes is logged. -/
theorem logged_of_imposes {mode : Mode} {before after : Store} (valid : before.Valid)
    (imposes : Imposes mode before after) : ∃ entries, Logged before entries after := by
  obtain ⟨kind, team, eligible, result, imposed⟩ := imposes
  obtain ⟨entries, audit, turns⟩ := imposed.turn valid
  refine ⟨entries, audit, fun other user => ?_⟩
  obtain ⟨action, turn, told⟩ := turns other user
  rw [told]
  exact turn.replays

/-- **Calls one after another are logged.** -/
theorem logged_of_called {start last : World} (valid : start.store.Valid)
    (calls : ReflTransGen Called start last) :
    last.store.Valid ∧ ∃ entries, Logged start.store entries last.store := by
  induction calls with
  | refl => exact ⟨valid, [], logged_refl _⟩
  | tail earlier called ih =>
    obtain ⟨validNow, logged⟩ := ih
    obtain ⟨mode, round⟩ := called
    have passes := round.imposes validNow
    refine ⟨valid_of_imposes validNow passes, @keeps_of_imposes mode _ _
      (fun store => ∃ entries, Logged start.store entries store) validNow passes logged ?_⟩
    rintro before after validBefore imposes ⟨entries, logged⟩
    obtain ⟨more, further⟩ := logged_of_imposes validBefore imposes
    exact ⟨entries ++ more, logged.append further⟩

/-- **The log replays the memberships.** Whatever calls are made, whether they return or fail: entries that
were committed stay as they are, and for every user and every team, what the entries written on the way tell
replays what happened to the stays of the user in the team; they tell nothing exactly if none of these
changed. -/
theorem log_replays_membership {start world last : World} (valid : start.store.Valid)
    (reached : ReflTransGen Called start world) (onward : ReflTransGen Called world last) :
    ∃ entries more, world.store.audit = start.store.audit ++ entries
      ∧ last.store.audit = start.store.audit ++ (entries ++ more) ∧ ∀ team user,
        Replays (start.store.staysOf team user) (actionsOf team user (entries ++ more))
            (last.store.staysOf team user)
          ∧ (actionsOf team user (entries ++ more) = []
            ↔ last.store.staysOf team user = start.store.staysOf team user) := by
  obtain ⟨validNow, entries, earlier⟩ := logged_of_called valid reached
  obtain ⟨_, more, later⟩ := logged_of_called validNow onward
  have all := earlier.append later
  exact ⟨entries, more, earlier.1, all.1, fun team user => ⟨all.2 team user, (all.2 team user).eq_nil_iff⟩⟩

/-- The log tells of the volunteer that they were removed and added, and they have one new row. -/
theorem volunteer_removed_and_added :
    ReflTransGen Called turnover emptied ∧ ReflTransGen Called emptied rejoined
      ∧ actionsOf (.numbered 2 1) (.numbered 1 2) rejoined.store.audit
        = [.teamMemberRemoved, .teamMemberAdded]
      ∧ TeamMember.Grows 1 (turnover.store.staysOf (.numbered 2 1) (.numbered 1 2))
        (rejoined.store.staysOf (.numbered 2 1) (.numbered 1 2)) := by
  have reached : ReflTransGen Called turnover emptied := .single ⟨_, round_emptied⟩
  have onward : ReflTransGen Called emptied rejoined := .single ⟨_, round_rejoined⟩
  have told : actionsOf (.numbered 2 1) (.numbered 1 2) rejoined.store.audit
      = [.teamMemberRemoved, .teamMemberAdded] := by decide +kernel
  obtain ⟨entries, more, _, audit, replays⟩ :=
    log_replays_membership (by decide +kernel) reached onward
  have rows := (replays (.numbered 2 1) (.numbered 1 2)).1.rows
  rw [← List.nil_append (entries ++ more), ← show rejoined.store.audit = [] ++ (entries ++ more) from audit,
    told] at rows
  exact ⟨reached, onward, told, rows⟩

end Roster.Reconcile
