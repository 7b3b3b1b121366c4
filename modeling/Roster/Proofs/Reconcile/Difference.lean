/-
**The difference between a team and its rule.**

Who is asked for and not in the team joins, and who is in the team and not asked for leaves; each of both
lists names nobody twice, and nobody is on both.

* `Store.HasStay` — the user is in the team.
* `addedIn`, `removedIn`, `changesIn` — the difference, and the changes that it makes.
* `leaves_changesIn`, `enters_changesIn`, `apart_changesIn` — **the changes are possible and do not meet**.
-/

import Roster.Proofs.Reconcile.Progress

namespace Roster

/-- The user is in the team. -/
def Store.HasStay (store : Store) (team user : Uuid) : Prop :=
  ∃ stay ∈ store.members, stay.team = team ∧ stay.user = user ∧ stay.isOpen = true

namespace Reconcile

theorem mem_sorted {ids : List Uuid} {id : Uuid} : id ∈ sorted ids ↔ id ∈ ids :=
  (List.mergeSort_perm ids _).mem_iff

theorem nodup_sorted {ids : List Uuid} : (sorted ids).Nodup ↔ ids.Nodup :=
  (List.mergeSort_perm ids _).nodup_iff

/-- Who is asked for and not in the team. -/
def addedIn (team : Uuid) (eligible : List Uuid) (store : Store) : List Uuid :=
  sorted ((distinct eligible).filter fun user =>
    !((openStaysIn team store).map TeamMember.user).contains user)

/-- Who is in the team and not asked for. -/
def removedIn (team : Uuid) (eligible : List Uuid) (store : Store) : List Uuid :=
  sorted (((openStaysIn team store).map TeamMember.user).filter fun user => !eligible.contains user)

/-- The changes for who is added and removed, given the open stays. -/
def changesOf (stays : List TeamMember) (added removed : List Uuid) : List Change :=
  added.map .join ++ removed.filterMap fun user => (stays.find? (·.user = user)).map .leave

/-- The changes that a difference makes. -/
def changesIn (team : Uuid) (eligible : List Uuid) (store : Store) : List Change :=
  changesOf (openStaysIn team store) (addedIn team eligible store) (removedIn team eligible store)

section Facts

variable {store : Store} {team user : Uuid} {eligible : List Uuid}

theorem mem_openStaysIn_iff {stay : TeamMember} :
    stay ∈ openStaysIn team store ↔ stay ∈ store.members ∧ stay.team = team ∧ stay.isOpen = true := by
  rw [openStaysIn, List.mem_filter, decide_eq_true_eq]

theorem mem_map_user_openStaysIn_iff :
    user ∈ (openStaysIn team store).map TeamMember.user ↔ store.HasStay team user := by
  simp only [List.mem_map, mem_openStaysIn_iff, Store.HasStay]
  exact ⟨fun ⟨stay, ⟨inside, sameTeam, opened⟩, sameUser⟩ => ⟨stay, inside, sameTeam, sameUser, opened⟩,
    fun ⟨stay, inside, sameTeam, sameUser, opened⟩ => ⟨stay, ⟨inside, sameTeam, opened⟩, sameUser⟩⟩

/-- **Nobody is in a team twice.** -/
theorem nodup_openStaysIn (valid : store.Valid) (team : Uuid) :
    ((openStaysIn team store).map TeamMember.user).Nodup := by
  have split : openStaysIn team store
      = (store.members.filter TeamMember.isOpen).filter fun stay => stay.team = team := by
    rw [openStaysIn, List.filter_filter]
    exact List.filter_congr fun stay _ => by simp
  have pairs : ((openStaysIn team store).map fun stay => (stay.team, stay.user)).Nodup := by
    rw [split]
    exact valid.openStays.sublist (List.filter_sublist.map _)
  refine List.Nodup.of_map (fun user => (team, user)) ?_
  rw [List.map_map]
  refine (List.map_congr_left fun stay member => ?_) ▸ pairs
  rw [Function.comp_apply, (mem_openStaysIn_iff.mp member).2.1]

theorem mem_addedIn_iff :
    user ∈ addedIn team eligible store ↔ user ∈ eligible ∧ ¬ store.HasStay team user := by
  rw [addedIn, mem_sorted, List.mem_filter, mem_distinct, ← mem_map_user_openStaysIn_iff,
    Bool.not_eq_true', List.contains_eq_mem, decide_eq_false_iff_not]

theorem mem_removedIn_iff :
    user ∈ removedIn team eligible store ↔ store.HasStay team user ∧ user ∉ eligible := by
  rw [removedIn, mem_sorted, List.mem_filter, ← mem_map_user_openStaysIn_iff, Bool.not_eq_true',
    List.contains_eq_mem, decide_eq_false_iff_not]

theorem nodup_addedIn : (addedIn team eligible store).Nodup :=
  nodup_sorted.mpr ((nodup_distinct eligible).filter _)

theorem nodup_removedIn (valid : store.Valid) : (removedIn team eligible store).Nodup :=
  nodup_sorted.mpr ((nodup_openStaysIn valid team).filter _)

/-! ### The changes -/

theorem joins_changesOf (stays : List TeamMember) (added removed : List Uuid) :
    joins (changesOf stays added removed) = added := by
  have none : joins (removed.filterMap fun user => (stays.find? (·.user = user)).map .leave) = [] := by
    induction removed with
    | nil => rfl
    | cons first rest ih =>
      rw [List.filterMap_cons]
      cases stays.find? (·.user = first) with
      | none => exact ih
      | some stay => exact ih
  have all : joins (added.map .join) = added := by
    induction added with
    | nil => rfl
    | cons first rest ih => exact congrArg (first :: ·) ih
  rw [changesOf, joins, List.filterMap_append]
  exact (congrArg₂ _ all none).trans (List.append_nil _)

/-- The stay that ends for a removed user is found. -/
theorem find?_openStaysIn (valid : store.Valid) {stay : TeamMember}
    (member : stay ∈ openStaysIn team store) :
    (openStaysIn team store).find? (fun other => other.user = stay.user) = some stay :=
  Store.find?_of_nodup (nodup_openStaysIn valid team) member

theorem mem_leave_changesIn_iff (valid : store.Valid) {stay : TeamMember} :
    .leave stay ∈ changesIn team eligible store
      ↔ stay ∈ openStaysIn team store ∧ stay.user ∉ eligible := by
  rw [changesIn, changesOf, List.mem_append, or_iff_right (by simp), List.mem_filterMap]
  constructor
  · rintro ⟨user, removed, found⟩
    obtain ⟨other, seen, same⟩ := Option.map_eq_some_iff.mp found
    cases same
    have user : stay.user = user := by simpa using List.find?_some seen
    exact ⟨List.mem_of_find?_eq_some seen, user ▸ (mem_removedIn_iff.mp removed).2⟩
  · rintro ⟨member, unasked⟩
    refine ⟨stay.user, mem_removedIn_iff.mpr ⟨?_, unasked⟩, ?_⟩
    · exact mem_map_user_openStaysIn_iff.mp (List.mem_map_of_mem member)
    · rw [find?_openStaysIn valid member]
      rfl

/-- The stays that end for users who are in the team. -/
theorem map_user_leaves (valid : store.Valid) {removed : List Uuid}
    (inside : ∀ user ∈ removed, store.HasStay team user) :
    (removed.filterMap fun user =>
      ((openStaysIn team store).find? (·.user = user)).map Change.leave).map Change.user = removed := by
  induction removed with
  | nil => rfl
  | cons first rest ih =>
    obtain ⟨stay, member, same⟩ := List.mem_map.mp
      (mem_map_user_openStaysIn_iff.mpr (inside first List.mem_cons_self))
    rw [List.filterMap_cons, ← same, find?_openStaysIn valid member, Option.map_some, List.map_cons,
      ih fun user member => inside user (List.mem_cons_of_mem _ member)]
    rfl

/-- **The changes add those who are added, and then remove those who are removed**, also as seen by a
function that tells a change by its kind and its user. -/
theorem map_changesIn (valid : store.Valid) {α : Type} {seen : Change → α} (tell : EventKind → Uuid → α)
    (told : ∀ change, seen change = tell change.kind change.user) :
    (changesIn team eligible store).map seen
      = (addedIn team eligible store).map (tell .add)
        ++ (removedIn team eligible store).map (tell .remove) := by
  have left : ∀ removed : List Uuid, (removed.filterMap fun user =>
      ((openStaysIn team store).find? (·.user = user)).map Change.leave).map seen
        = ((removed.filterMap fun user => ((openStaysIn team store).find? (·.user = user)).map
          Change.leave).map Change.user).map (tell .remove) := by
    intro removed
    rw [List.map_map]
    refine List.map_congr_left fun change member => ?_
    obtain ⟨user, _, found⟩ := List.mem_filterMap.mp member
    obtain ⟨stay, _, rfl⟩ := Option.map_eq_some_iff.mp found
    exact told _
  rw [changesIn, changesOf, List.map_append, List.map_map, left,
    map_user_leaves valid fun user member => (mem_removedIn_iff.mp member).1]
  exact congrArg (· ++ _) (List.map_congr_left fun user _ => told _)

/-- The changes are about those who are added, and then about those who are removed. -/
theorem map_user_changesIn (valid : store.Valid) :
    (changesIn team eligible store).map Change.user
      = addedIn team eligible store ++ removedIn team eligible store := by
  rw [map_changesIn valid (fun _ user => user) fun _ => rfl, List.map_id', List.map_id']

/-- **The changes are about different users.** -/
theorem nodup_map_user_changesIn (valid : store.Valid) :
    ((changesIn team eligible store).map Change.user).Nodup := by
  rw [map_user_changesIn valid]
  refine List.nodup_append.mpr ⟨nodup_addedIn, nodup_removedIn valid, ?_⟩
  rintro user added other removed rfl
  exact (mem_addedIn_iff.mp added).2 (mem_removedIn_iff.mp removed).1

theorem leaves_changesIn (valid : store.Valid) : Leaves store (changesIn team eligible store) where
  once := (nodup_map_user_changesIn valid).of_map
  inside stay member := by
    obtain ⟨inside, _, opened⟩ := mem_openStaysIn_iff.mp ((mem_leave_changesIn_iff valid).mp member).1
    exact ⟨inside, opened⟩

theorem enters_changesIn {team : Team} (known : store.enforcesReferences = true →
      team.id ∈ store.teams.map Team.id ∧ ∀ user ∈ eligible, user ∈ store.users.map User.id) :
    Enters team store (changesIn team.id eligible store) := by
  unfold changesIn
  refine ⟨?_, fun user member stay inside opened sameTeam sameUser => ?_, fun enforced => ⟨?_, ?_⟩⟩
  · rw [joins_changesOf]
    exact nodup_addedIn
  · rw [joins_changesOf] at member
    exact (mem_addedIn_iff.mp member).2 ⟨stay, inside, sameTeam, sameUser, opened⟩
  · exact (known enforced).1
  · intro user member
    rw [joins_changesOf] at member
    exact (known enforced).2 user (mem_addedIn_iff.mp member).1

/-- The orders of the changes are about different users. -/
theorem apart_changesIn (valid : store.Valid) (mode : Mode) (team : Team) :
    ((changesIn team.id eligible store).map (Change.order mode team)).Pairwise
      fun a b => ¬ b.IsAbout a.team a.user := by
  have different := @nodup_map_user_changesIn _ team.id eligible valid
  rw [List.pairwise_map]
  exact (List.pairwise_map.mp different).imp fun apart about => apart about.2.symm

end Facts

end Reconcile

end Roster
