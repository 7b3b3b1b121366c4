/-
**Passes over different derived teams do not see each other.**

What a pass has to do follows from its team, from who is in it and from who is entitled to be. A pass over
another derived team changes none of this: the stays that it begins and ends are in its own team, nobody
leads an ordinary team by them, and what the other rules ask for it leaves alone.

* `Task`, `tasksOf` — what a pass over the team of a kind has to do.
* `Imposed.eligibleIn_eq` — a pass over a derived team does not change what any rule answers.
* `Imposed.tasksOf_eq` — **a pass leaves to other passes what they have to do**.
* `tasksOf_eq_nil_iff` — there is nothing to do exactly if the team consists of those who are entitled;
  `tasksOf_eq_nil_of_pass` — a pass leaves nothing to itself.
-/

import Roster.Proofs.Reconcile.Imposed

namespace Roster.Reconcile

/-- One change that has to be made in a team. -/
structure Task where
  team : Team
  change : Change

/-- **What a pass over the team of a kind has to do**, if there is such a team. -/
def tasksOf (kind : TeamKind) (now : Instant) (store : Store) : List Task :=
  (teamsOfIn kind store).flatMap fun team =>
    (changesIn team.id (Eligibility.eligibleIn kind now store) store).map (Task.mk team)

variable {kind other : TeamKind} {mode : Mode} {team : Team} {now : Instant} {eligible : List Uuid}
  {store before after : Store} {result : PassResult}

theorem tasksOf_of_found (found : teamsOfIn kind store = [team]) : tasksOf kind now store
    = (changesIn team.id (Eligibility.eligibleIn kind now store) store).map (Task.mk team) := by
  rw [tasksOf, found, List.flatMap_singleton]

theorem tasksOf_of_missing (missing : teamsOfIn kind store = []) : tasksOf kind now store = [] := by
  rw [tasksOf, missing, List.flatMap_nil]

/-- There is at most one team of a kind that has a rule. -/
theorem teamsOfIn_cases (valid : store.Valid) (system : kind ≠ .none) :
    teamsOfIn kind store = [] ∨ ∃ team, teamsOfIn kind store = [team] := by
  cases listed : teamsOfIn kind store with
  | nil => exact .inl rfl
  | cons team rest =>
    have inside : team ∈ teamsOfIn kind store := listed ▸ List.mem_cons_self
    obtain ⟨member, same⟩ := List.mem_filter.mp inside
    obtain rfl := of_decide_eq_true same
    exact .inr ⟨team, listed ▸ teamsOfIn_eq valid member system⟩

theorem team_of_mem_tasksOf {task : Task} (member : task ∈ tasksOf kind now store) :
    task.team ∈ store.teams ∧ task.team.kind = kind := by
  obtain ⟨team, found, made⟩ := List.mem_flatMap.mp member
  obtain ⟨change, _, rfl⟩ := List.mem_map.mp made
  obtain ⟨inside, same⟩ := List.mem_filter.mp found
  exact ⟨inside, of_decide_eq_true same⟩

/-- A stay that is to end is open. -/
theorem leave_of_mem_tasksOf {stay : TeamMember} (valid : store.Valid)
    (member : ⟨team, .leave stay⟩ ∈ tasksOf kind now store) :
    stay ∈ store.members ∧ stay.isOpen = true := by
  obtain ⟨one, _, made⟩ := List.mem_flatMap.mp member
  obtain ⟨_, listed, ⟨⟩⟩ := List.mem_map.mp made
  exact (leaves_changesIn valid).inside stay listed

/-- The changes of a difference follow from who is in the team. -/
theorem changesIn_congr {one : Uuid} (same : openStaysIn one after = openStaysIn one before) :
    changesIn one eligible after = changesIn one eligible before := by
  unfold changesIn addedIn removedIn
  rw [same]

theorem any_retimed {one some : Uuid} {moment : Instant} {teams : List Team} :
    (retimed one moment teams).any (fun team => team.id = some ∧ team.kind = kind)
      = teams.any fun team => team.id = some ∧ team.kind = kind := by
  have same := congrArg (List.any · id) (@map_retimed Bool
    (fun team => decide (team.id = some ∧ team.kind = kind)) teams one moment fun _ _ => rfl)
  rwa [List.any_map, List.any_map] at same

namespace Imposed

variable (imposed : Imposed kind mode team eligible before result after)

include imposed

theorem openStaysIn_eq {one : Uuid} (elsewhere : one ≠ team.id) :
    openStaysIn one after = openStaysIn one before := by
  have split : ∀ store : Store, openStaysIn one store
      = (store.members.filter fun stay => stay.team = one).filter TeamMember.isOpen := fun store => by
    rw [openStaysIn, List.filter_filter]
    exact List.filter_congr fun stay _ => by rw [Bool.and_comm, Bool.decide_and, Bool.decide_eq_true]
  rw [split, split, (imposed.spares elsewhere).members]

/-- The team of the pass only gets its time of change. -/
theorem found_after : teamsOfIn kind after = [{ team with updatedAt := changeTime mode team }] := by
  have found := imposed.found
  rw [teamsOfIn] at found
  rw [teamsOfIn, imposed.teams, filter_retimed fun _ _ => rfl, found, retimed, List.map_singleton,
    if_pos rfl]

/-- Teams of other kinds keep their rows. -/
theorem teamsOfIn_eq (valid : before.Valid) (different : other ≠ kind) :
    teamsOfIn other after = teamsOfIn other before := by
  obtain ⟨inside, ownKind⟩ := mem_of_teamsOfIn imposed.found
  rw [teamsOfIn, imposed.teams, filter_retimed fun _ _ => rfl]
  refine retimed_of_ne fun one listed same => different ?_
  obtain ⟨member, otherKind⟩ := List.mem_filter.mp listed
  rw [← of_decide_eq_true otherKind, Store.eq_of_id_eq valid.teamIds member inside same, ownKind]

/-- **A pass over a derived team does not change what any rule answers.** -/
theorem eligibleIn_eq (valid : before.Valid) (system : kind ≠ .none) :
    Eligibility.eligibleIn other now after = Eligibility.eligibleIn other now before := by
  have rest := imposed.rest
  cases other with
  | none => rfl
  | board =>
    rw [rest]
    rfl
  | volunteers =>
    rw [rest]
    rfl
  | metaleads =>
    obtain ⟨inside, ownKind⟩ := mem_of_teamsOfIn imposed.found
    obtain ⟨issued, members⟩ := imposed.members
    show Eligibility.metaleadsIn after = Eligibility.metaleadsIn before
    unfold Eligibility.metaleadsIn
    rw [members, imposed.teams]
    simp only [any_retimed]
    have nobody : (begun mode team issued result.added).filter (fun stay => stay.isOpen
        ∧ stay.role = .metalead ∧ before.teams.any fun one => one.id = stay.team ∧ one.kind = .none)
          = [] := by
      refine List.filter_eq_nil_iff.mpr fun stay joined leads => ?_
      have role := (of_decide_eq_true leads).2.1
      rw [(mem_begun_fields joined).2.1] at role
      cases role
    -- A stay that ends is in the team of the pass, which is no ordinary one.
    have blind : ∀ stay, (fun stay : TeamMember => decide (stay.isOpen ∧ stay.role = .metalead
        ∧ before.teams.any fun one => one.id = stay.team ∧ one.kind = .none))
          (endedIn mode team.id result.removed stay) = decide (stay.isOpen ∧ stay.role = .metalead
            ∧ before.teams.any fun one => one.id = stay.team ∧ one.kind = .none) := by
      intro stay
      beta_reduce
      by_cases own : stay.team = team.id
      · have foreign : before.teams.any (fun one => one.id = team.id ∧ one.kind = .none) = false := by
          refine List.any_eq_false.mpr fun one member both => system ?_
          obtain ⟨same, ordinary⟩ := of_decide_eq_true both
          rw [← ownKind, ← Store.eq_of_id_eq valid.teamIds member inside same, ordinary]
        rw [endedIn_team, own, foreign]
        simp
      · rw [endedIn_of_other own]
    have users : TeamMember.user ∘ endedIn mode team.id result.removed = TeamMember.user :=
      funext endedIn_user
    rw [List.filter_append, nobody, List.append_nil, filter_map_endedIn blind, List.map_map, users]

/-- **A pass over a derived team leaves to other passes what they have to do.** -/
theorem tasksOf_eq (valid : before.Valid) (system : kind ≠ .none) (different : other ≠ kind) :
    tasksOf other now after = tasksOf other now before := by
  obtain ⟨inside, ownKind⟩ := mem_of_teamsOfIn imposed.found
  unfold tasksOf
  rw [imposed.teamsOfIn_eq valid different, imposed.eligibleIn_eq valid system]
  refine List.flatMap_congr fun one listed => congrArg (List.map _) (changesIn_congr ?_)
  obtain ⟨member, otherKind⟩ := List.mem_filter.mp listed
  refine imposed.openStaysIn_eq fun same => different ?_
  rw [← of_decide_eq_true otherKind, Store.eq_of_id_eq valid.teamIds member inside same, ownKind]

end Imposed

/-- **There is nothing to do for a kind exactly if its team consists of those who are entitled.** -/
theorem tasksOf_eq_nil_iff (valid : store.Valid) (system : kind ≠ .none) : tasksOf kind now store = []
    ↔ ∀ team, teamsOfIn kind store = [team] →
      ∀ user, store.HasStay team.id user ↔ store.Entitled kind now user := by
  rcases teamsOfIn_cases valid system with missing | ⟨team, found⟩
  · refine iff_of_true (tasksOf_of_missing missing) fun team found => ?_
    cases missing.symm.trans found
  rw [tasksOf_of_found found, List.map_eq_nil_iff, ← @List.map_eq_nil_iff _ _ Change.user,
    map_user_changesIn valid, List.append_eq_nil_iff]
  simp only [List.eq_nil_iff_forall_not_mem, mem_addedIn_iff, mem_removedIn_iff,
    Eligibility.mem_eligibleIn_iff valid]
  constructor
  · rintro ⟨nobodyAdded, nobodyRemoved⟩ other same user
    obtain rfl : team = other := List.singleton_inj.mp (found.symm.trans same)
    refine ⟨fun stays => ?_, fun entitled => ?_⟩
    · exact not_not.mp fun foreign => nobodyRemoved user ⟨stays, foreign⟩
    · exact not_not.mp fun outside => nobodyAdded user ⟨entitled, outside⟩
  · intro settles
    refine ⟨fun user added => ?_, fun user removed => ?_⟩
    · exact added.2 ((settles team found user).mpr added.1)
    · exact removed.2 ((settles team found user).mp removed.1)

/-- **A pass that returns leaves nothing to itself.** -/
theorem tasksOf_eq_nil_of_pass {world final : World} (valid : world.store.Valid) (system : kind ≠ .none)
    (ran : pass kind none mode world = .ok result final) : tasksOf kind mode.now final.store = [] := by
  obtain ⟨rule, builtIn, ⟨same, unchanged, known⟩ | ⟨team, eligible, named, session, committed, carries,
    commits, same, _⟩⟩ := pass_eq_ok_of_asks valid Eligibility.onlyAsks_none ran
  · rw [same]
    rcases teamsOfIn_cases valid system with missing | ⟨team, found⟩
    · exact tasksOf_of_missing missing
    · obtain ⟨eligible, answers, rfl⟩ := known team found
      rw [changed_difference_eq_false_iff valid,
        Eligibility.eq_eligibleIn_of_answers builtIn answers] at unchanged
      rw [tasksOf_of_found found, unchanged, List.map_nil]
  · obtain rfl : eligible = Eligibility.eligibleIn kind mode.now world.store :=
      Eligibility.eq_eligibleIn_of_answers builtIn carries.answers
    have imposed := carries.imposed valid commits
    rw [same]
    refine (tasksOf_eq_nil_iff imposed.valid system).mpr fun one found user => ?_
    obtain rfl := List.singleton_inj.mp (imposed.found_after.symm.trans found)
    rw [← Eligibility.mem_eligibleIn_iff imposed.valid, imposed.eligibleIn_eq valid system]
    exact imposed.stays

end Roster.Reconcile
