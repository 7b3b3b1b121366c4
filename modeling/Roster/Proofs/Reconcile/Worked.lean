/-
**What passes over several derived teams add up to.**

After some passes the store can be told from the store before the first of them and the tasks that were done:
the stays that end do so in their places, the teams with a task have got their time of change, and the new
stays, the entries and the events stand behind the old ones, one for each task.

* `TeamMember.withoutId`, `AuditEntry.withoutId` — rows as they are told apart from generated identifiers.
* `Task.stay?`, `Task.entry`, `Task.order` — what a task adds.
* `Worked` — **what some tasks leave behind**; `Worked.step` — one more pass.
-/

import Roster.Proofs.Outbox.Apart
import Roster.Proofs.Reconcile.Tasks

namespace Roster

/-- A stay without its identifier. -/
def TeamMember.withoutId (stay : TeamMember) : TeamMember := { stay with id := default }

/-- An entry without its identifier. -/
def AuditEntry.withoutId (entry : AuditEntry) : AuditEntry := { entry with id := default }

namespace Reconcile

open EStateM (Result)

variable {kind : TeamKind} {mode : Mode} {team : Team} {start between after world : World}
  {tasks : List Task} {result : PassResult} {user : Uuid}

/-! ### What a task adds -/

/-- The stay that begins with a task, if one does. -/
def Task.stay? (mode : Mode) (task : Task) : Option TeamMember :=
  match task.change with
  | .join user => some (joining mode task.team user default)
  | .leave _ => none

/-- The entry of a task, with the name that a store knows. -/
def Task.entry (mode : Mode) (store : Store) (task : Task) : AuditEntry :=
  task.change.entry mode task.team (namesIn [task.change.user] store) default

/-- The order for the event of a task. -/
def Task.order (mode : Mode) (task : Task) : Outbox.Order := task.change.order mode task.team

/-- A team after some tasks: with a task in it, it got the time of the change. -/
def marked (mode : Mode) (tasks : List Task) (team : Team) : Team :=
  if team ∈ tasks.map Task.team then { team with updatedAt := changeTime mode team } else team

theorem marked_id (team : Team) : (marked mode tasks team).id = team.id := by
  unfold marked
  split <;> rfl

/-- The name of a user does not depend on whose names were looked up with it. -/
theorem nameOf_namesIn {users : List Uuid} {store : Store} (asked : user ∈ users) :
    nameOf (namesIn users store) user = nameOf (namesIn [user] store) user := by
  unfold nameOf namesIn
  rw [List.find?_map, List.find?_map, List.find?_filter, List.find?_filter]
  congr 4
  funext one
  by_cases same : one.id = user
  · simp [same, asked]
  · simp [same]

/-- The entry of a change depends on no other name than that of its user. -/
theorem Change.entry_congr {names others : List (Uuid × String)} {change : Change} {id : Uuid}
    (same : nameOf names change.user = nameOf others change.user) :
    change.entry mode team names id = change.entry mode team others id := by
  cases change with
  | join user =>
    exact congrArg (fun name => (report mode team user .teamMemberAdded (name ++ " added to ")).entry id
      mode.now) same
  | leave stay =>
    exact congrArg (fun name => (report mode team stay.user .teamMemberRemoved
      (name ++ " removed from ")).entry id mode.now) same

/-- The stays that changes begin, apart from their identifiers. -/
theorem map_withoutId_begun (issued : Nat) (changes : List Change) :
    (begun mode team issued (joins changes)).map TeamMember.withoutId
      = (changes.map (Task.mk team)).filterMap (Task.stay? mode) := by
  have told := @map_mapIdx_of_forall Uuid TeamMember TeamMember
    (fun index user => joining mode team user (.numbered 11 (issued + index + 1))) TeamMember.withoutId
    (fun user => joining mode team user default) (fun _ _ => rfl) (joins changes)
  refine Eq.trans told ?_
  rw [joins, List.map_filterMap, List.filterMap_map]
  refine congrArg (List.filterMap · changes) (funext fun change => ?_)
  cases change <;> rfl

/-- The entries of changes, apart from their identifiers. -/
theorem map_withoutId_entriesOf {names : List (Uuid × String)} {store : Store} {changes : List Change}
    (issued : Nat) (same : ∀ change ∈ changes,
      nameOf names change.user = nameOf (namesIn [change.user] store) change.user) :
    (entriesOf mode team names issued changes).map AuditEntry.withoutId
      = (changes.map (Task.mk team)).map (Task.entry mode store) := by
  have told := @map_mapIdx_of_forall Change AuditEntry AuditEntry
    (fun index change => change.entry mode team names (.numbered 10 (issued + index + 1)))
    AuditEntry.withoutId (fun change => change.entry mode team names default)
    (fun _ change => by cases change <;> rfl) changes
  refine Eq.trans told ?_
  rw [List.map_map]
  exact List.map_congr_left fun change inside => Change.entry_congr (same change inside)

/-- Stays that end later end in their places, and those that began since are not among them. -/
theorem map_leftBy_append {members joined : List TeamMember} {done more : List Change}
    (ids : ((members.map (leftBy mode done) ++ joined).map TeamMember.id).Nodup)
    (leaves : ∀ stay, .leave stay ∈ more → stay ∈ members ∧ stay.isOpen = true) :
    (members.map (leftBy mode done) ++ joined).map (leftBy mode more)
      = members.map (leftBy mode (done ++ more)) ++ joined := by
  rw [List.map_append, List.map_map]
  refine congrArg₂ _ (List.map_congr_left fun stay _ => ?_) ?_
  · rw [Function.comp_apply]
    by_cases early : .leave stay ∈ done
    · have ended : leftBy mode done stay = leaving mode stay := if_pos early
      rw [ended, leftBy, leftBy, if_pos (List.mem_append_left _ early), if_neg fun again => ?_]
      have opened := (leaves _ again).2
      cases opened
    · have kept : leftBy mode done stay = stay := if_neg early
      rw [kept]
      exact if_congr (List.mem_append.trans (or_iff_right early)).symm rfl rfl
  · refine (List.map_congr_left fun stay inside => if_neg fun ends => ?_).trans (List.map_id' _)
    rw [List.map_append, map_id_leftBy] at ids
    exact (List.nodup_append.mp ids).2.2 _ (List.mem_map_of_mem (leaves stay ends).1) _
      (List.mem_map_of_mem inside) rfl

/-! ### A pass without changes -/

/-- A body that wants nothing kept has issued no identifier. -/
theorem issued_of_discard {rule : Eligibility} {named : PassResult × Option String}
    {session reached : Session} (builtIn : Eligibility.builtIn? kind = some rule)
    (ran : body kind rule mode session = .ok (named, .discard) reached) :
    reached.surroundings.issued = session.surroundings.issued := by
  rw [body_eq] at ran
  obtain ⟨found, one, reads, ran⟩ := bind_eq_ok.mp ran
  have first : session.Quiet one := (Transaction.keeps_readOne _).of_ok reads
  cases found with
  | none =>
    have issued : one.surroundings.issued = session.surroundings.issued := Surroundings.Quiet.issued first
    cases ran
    exact issued
  | some team =>
    obtain ⟨stays, two, reads, ran⟩ := bind_eq_ok.mp ran
    obtain ⟨eligible, three, asks, ran⟩ := bind_eq_ok.mp ran
    have second : one.Quiet two := (Transaction.keeps_read _).of_ok reads
    have third : two.Quiet three := (Eligibility.keeps_builtIn builtIn mode.now).of_ok asks
    have issued : three.surroundings.issued = session.surroundings.issued := Surroundings.Quiet.issued
      (trans_of Session.Quiet (trans_of Session.Quiet first second) third)
    unfold conclude at ran
    split at ran
    · cases ran
      exact issued
    · obtain ⟨_, _, _, ⟨⟩⟩ := bind_eq_ok.mp ran

/-- **A pass without changes leaves the store as it was** and issues nothing. -/
theorem pass_unchanged (valid : world.store.Valid) (ran : pass kind none mode world = .ok result after)
    (unchanged : result.changed = false) :
    after.store = world.store ∧ after.surroundings.issued = world.surroundings.issued := by
  cases builtIn : Eligibility.builtIn? kind with
  | none =>
    unfold pass at ran
    rw [builtIn] at ran
    cases ran
  | some rule =>
    rw [pass_apply builtIn] at ran
    cases transacts : Application.transact (body kind rule mode) world with
    | error failure final =>
      rw [transacts] at ran
      cases ran
    | ok named final =>
      obtain ⟨result, name⟩ := named
      rw [transacts] at ran
      cases ran
      obtain ⟨session, ⟨ran, rfl⟩ | ⟨committed, ran, _, rfl⟩⟩ := Application.transact_ok transacts
      · exact ⟨rfl, issued_of_discard builtIn ran⟩
      · rcases body_eq_ok builtIn (World.settled_session valid) ran with ⟨⟨⟩, _⟩ | ⟨_, team, carried⟩
        rw [carried.changed] at unchanged
        cases unchanged

/-! ### A pass with changes -/

/-- **A pass with changes imposed those who are entitled.** -/
theorem Reconciled.imposed (valid : world.store.Valid)
    (reconciled : Reconciled kind mode team world result after)
    (ran : pass kind none mode world = .ok result after) :
    Imposed kind mode team (Eligibility.eligibleIn kind mode.now world.store) world.store result
      after.store := by
  rcases pass_imposes valid Eligibility.onlyAsks_none ran with
    ⟨_, unchanged⟩ | ⟨rule, other, eligible, builtIn, answers, imposed⟩
  · rw [reconciled.changed] at unchanged
    cases unchanged
  · obtain rfl : team = other := List.singleton_inj.mp (reconciled.found.symm.trans imposed.found)
    rwa [← Eligibility.eq_eligibleIn_of_answers builtIn answers]

/-! ### Some tasks -/

/-- **Some tasks were done** in passes from a start on, and nothing else. -/
structure Worked (mode : Mode) (start : World) (tasks : List Task) (after : World) : Prop where
  valid : after.store.Valid
  calm : start.Calm after
  members : ∃ joined,
    after.store.members = start.store.members.map (leftBy mode (tasks.map Task.change)) ++ joined
      ∧ joined.map TeamMember.withoutId = tasks.filterMap (Task.stay? mode)
      ∧ ∀ stay ∈ joined, ∃ number, start.surroundings.issued.members < number
        ∧ number ≤ after.surroundings.issued.members ∧ stay.id = .numbered 11 number
  audit : ∃ entries, after.store.audit = start.store.audit ++ entries
    ∧ entries.map AuditEntry.withoutId = tasks.map (Task.entry mode start.store)
    ∧ ∀ entry ∈ entries, ∃ number, start.surroundings.issued.entries < number
      ∧ number ≤ after.surroundings.issued.entries ∧ entry.id = .numbered 10 number
  events : Outbox.EnqueuedAll mode.now start.surroundings.issued.events start.store.events
    (tasks.map (Task.order mode)) after.surroundings.issued.events after.store.events
  teams : after.store.teams = start.store.teams.map (marked mode tasks)
  rest : after.store = { start.store with
    members := after.store.members, audit := after.store.audit, events := after.store.events
    teams := after.store.teams }
  fewMembers : after.surroundings.issued.members ≤ start.surroundings.issued.members + tasks.length
  fewEntries : after.surroundings.issued.entries ≤ start.surroundings.issued.entries + tasks.length

theorem worked_nil (valid : start.store.Valid) : Worked mode start [] start where
  valid := valid
  calm := refl_of World.Calm start
  members := by
    refine ⟨[], ?_, rfl, List.forall_mem_nil _⟩
    rw [List.map_nil, map_leftBy_nil, List.append_nil]
  audit := ⟨[], (List.append_nil _).symm, rfl, List.forall_mem_nil _⟩
  events := .nil
  teams := (List.map_id' _).symm
  rest := rfl
  fewMembers := Nat.le_refl _
  fewEntries := Nat.le_refl _

namespace Worked

/-- **So many identifiers are still free.** -/
theorem free {count : Nat} (worked : Worked mode start tasks between)
    (free : HasFree start.surroundings.issued start.store (tasks.length + count)) :
    HasFree between.surroundings.issued between.store count := by
  have ascends := worked.calm.issued
  have fewEvents := worked.events.issued_le
  rw [List.length_map] at fewEvents
  have fewMembers := worked.fewMembers
  have fewEntries := worked.fewEntries
  refine ⟨?_, ?_, ?_⟩
  · refine (free.members.later ascends.members (by omega) fun id taken => ?_).mono (by omega)
    obtain ⟨joined, members, _, numbers⟩ := worked.members
    rw [members, List.map_append, map_id_leftBy] at taken
    refine (List.mem_append.mp taken).imp_right fun new => ?_
    obtain ⟨stay, inside, rfl⟩ := List.mem_map.mp new
    exact numbers stay inside
  · refine (free.entries.later ascends.entries (by omega) fun id taken => ?_).mono (by omega)
    obtain ⟨entries, audit, _, numbers⟩ := worked.audit
    rw [audit, List.map_append] at taken
    refine (List.mem_append.mp taken).imp_right fun new => ?_
    obtain ⟨entry, inside, rfl⟩ := List.mem_map.mp new
    exact numbers entry inside
  · refine (free.events.later ascends.events (by omega) fun id taken => ?_).mono (by omega)
    obtain ⟨event, inside, rfl⟩ := List.mem_map.mp taken
    exact worked.events.ids inside

/-- A pass without changes goes by. -/
theorem of_unchanged (worked : Worked mode start tasks between) (calm : between.Calm after)
    (store : after.store = between.store)
    (issued : after.surroundings.issued = between.surroundings.issued) : Worked mode start tasks after where
  valid := store ▸ worked.valid
  calm := trans_of World.Calm worked.calm calm
  members := by rw [store, issued]; exact worked.members
  audit := by rw [store, issued]; exact worked.audit
  events := by rw [store, issued]; exact worked.events
  teams := store ▸ worked.teams
  rest := by rw [store]; exact worked.rest
  fewMembers := issued ▸ worked.fewMembers
  fewEntries := issued ▸ worked.fewEntries

/-- The stays after a pass with changes. -/
theorem members_of_reconciled {changes : List Change} (worked : Worked mode start tasks between)
    (members : after.store.members = membersAfter mode team between.surroundings.issued.members
      between.store.members changes)
    (issued : after.surroundings.issued.members
      = between.surroundings.issued.members + (joins changes).length)
    (leaves : ∀ stay, .leave stay ∈ changes → stay ∈ start.store.members ∧ stay.isOpen = true) :
    ∃ joined, after.store.members = start.store.members.map (leftBy mode
        ((tasks ++ changes.map (Task.mk team)).map Task.change)) ++ joined
      ∧ joined.map TeamMember.withoutId
        = (tasks ++ changes.map (Task.mk team)).filterMap (Task.stay? mode)
      ∧ ∀ stay ∈ joined, ∃ number, start.surroundings.issued.members < number
        ∧ number ≤ after.surroundings.issued.members ∧ stay.id = .numbered 11 number := by
  obtain ⟨joined, before, names, numbers⟩ := worked.members
  have ids := worked.valid.memberIds
  rw [before] at ids
  have changesOnly : (changes.map (Task.mk team)).map Task.change = changes := by
    rw [List.map_map]
    exact List.map_id changes
  refine ⟨joined ++ begun mode team between.surroundings.issued.members (joins changes), ?_, ?_, ?_⟩
  · rw [members, membersAfter, before, map_leftBy_append ids leaves, List.map_append, changesOnly,
      List.append_assoc]
  · rw [List.map_append, names, map_withoutId_begun, List.filterMap_append]
  · intro stay inside
    rcases List.mem_append.mp inside with old | new
    · obtain ⟨number, begins, ends, same⟩ := numbers stay old
      exact ⟨number, begins, by omega, same⟩
    · obtain ⟨number, begins, ends, _, _, rfl⟩ := mem_begun new
      have ascends := worked.calm.issued.members
      exact ⟨number, by omega, by omega, rfl⟩

/-- The log after a pass with changes. -/
theorem audit_of_reconciled {changes : List Change} {names : List (Uuid × String)} {users : List Uuid}
    {number : Nat} (worked : Worked mode start tasks between)
    (audit : after.store.audit = between.store.audit
      ++ entriesOf mode team names between.surroundings.issued.entries changes)
    (named : after.store.audit = between.store.audit
      ++ entriesOf mode team (namesIn users between.store) number changes)
    (asked : ∀ change ∈ changes, change.user ∈ users)
    (issued : after.surroundings.issued.entries
      = between.surroundings.issued.entries + changes.length) :
    ∃ entries, after.store.audit = start.store.audit ++ entries
      ∧ entries.map AuditEntry.withoutId
        = (tasks ++ changes.map (Task.mk team)).map (Task.entry mode start.store)
      ∧ ∀ entry ∈ entries, ∃ number, start.surroundings.issued.entries < number
        ∧ number ≤ after.surroundings.issued.entries ∧ entry.id = .numbered 10 number := by
  obtain ⟨entries, before, told, numbers⟩ := worked.audit
  have same := List.append_cancel_left (audit.symm.trans named)
  have sameUsers : between.store.users = start.store.users := by rw [worked.rest]
  refine ⟨entries ++ entriesOf mode team names between.surroundings.issued.entries changes, ?_, ?_, ?_⟩
  · rw [audit, before, List.append_assoc]
  · rw [List.map_append, told, same, List.map_append, map_withoutId_entriesOf number fun change listed => ?_]
    rw [namesIn, sameUsers]
    exact nameOf_namesIn (asked change listed)
  · intro entry inside
    rcases List.mem_append.mp inside with old | new
    · obtain ⟨number, begins, ends, id⟩ := numbers entry old
      exact ⟨number, begins, by omega, id⟩
    · obtain ⟨number, begins, ends, id⟩ := mem_entriesOf new
      have ascends := worked.calm.issued.entries
      exact ⟨number, by omega, by omega, id⟩

/-- The teams after a pass with changes. -/
theorem teams_of_reconciled {changes : List Change} (worked : Worked mode start tasks between)
    (valid : start.store.Valid) (inside : team ∈ start.store.teams)
    (other : ∀ task ∈ tasks, task.team ≠ team) (some : changes ≠ [])
    (teams : after.store.teams = retimed team.id (changeTime mode team) between.store.teams) :
    after.store.teams = start.store.teams.map (marked mode (tasks ++ changes.map (Task.mk team))) := by
  have unmarked : team ∉ tasks.map Task.team := fun taken => by
    obtain ⟨task, member, same⟩ := List.mem_map.mp taken
    exact other task member same
  have own : (changes.map (Task.mk team)).map Task.team = changes.map fun _ => team := List.map_map
  rw [teams, worked.teams, retimed, List.map_map]
  refine List.map_congr_left fun one member => ?_
  rw [Function.comp_apply, marked_id]
  by_cases same : one.id = team.id
  · obtain rfl : one = team := Store.eq_of_id_eq valid.teamIds member inside same
    have late : one ∈ (tasks ++ changes.map (Task.mk one)).map Task.team := by
      rw [List.map_append, own]
      refine List.mem_append_right _ ?_
      obtain ⟨change, listed⟩ := List.exists_mem_of_ne_nil changes some
      exact List.mem_map.mpr ⟨change, listed, rfl⟩
    rw [if_pos rfl, marked, if_neg unmarked, marked, if_pos late]
  · have foreign : one ∉ changes.map fun _ => team := fun taken => by
      obtain ⟨_, _, rfl⟩ := List.mem_map.mp taken
      exact same rfl
    rw [if_neg same]
    refine if_congr ?_ rfl rfl
    rw [List.map_append, own, List.mem_append, or_iff_left foreign]

/-- **A pass does its tasks** as they were seen from the start. -/
theorem step {last : Nat} (worked : Worked mode start tasks between) (valid : start.store.Valid)
    (system : kind ≠ .none)
    (unseen : tasksOf kind mode.now between.store = tasksOf kind mode.now start.store)
    (sameTeams : teamsOfIn kind between.store = teamsOfIn kind start.store)
    (other : ∀ task ∈ tasks, task.team.kind ≠ kind)
    (free : Uuid.FreeBetween 14 between.surroundings.issued.events last
      (between.store.events.map OutboxEvent.id))
    (ran : pass kind none mode between = .ok result after)
    (below : after.surroundings.issued.events ≤ last) :
    Worked mode start (tasks ++ tasksOf kind mode.now start.store) after := by
  have calm := (keeps_pass kind mode).of_ok ran
  cases changed : result.changed with
  | false =>
    obtain ⟨store, issued⟩ := pass_unchanged worked.valid ran changed
    have nothing := tasksOf_eq_nil_of_pass worked.valid system ran
    rw [store, unseen] at nothing
    rw [nothing, List.append_nil]
    exact worked.of_unchanged calm store issued
  | true =>
    rcases pass_ok worked.valid free ran below with ⟨store, known⟩ | ⟨team, reconciled⟩
    · obtain ⟨_, _, _, _, _, imposed⟩ :=
        (pass_imposes worked.valid Eligibility.onlyAsks_none ran).resolve_left
          fun both => Bool.false_ne_true (both.2.symm.trans changed)
      obtain ⟨_, unchanged⟩ := known _ imposed.found
      rw [changed] at unchanged
      cases unchanged
    have imposed := reconciled.imposed worked.valid ran
    have found := sameTeams.symm.trans reconciled.found
    obtain ⟨inside, ownKind⟩ := mem_of_teamsOfIn found
    have some := imposed.changesIn_ne_nil worked.valid
    have planned := unseen.symm.trans (tasksOf_of_found reconciled.found)
    have users := @map_user_changesIn between.store team.id
      (Eligibility.eligibleIn kind mode.now between.store) worked.valid
    have ordered := reconciled.events
    obtain ⟨names, middle, _, progress, _, store, issued⟩ := reconciled.made
    obtain ⟨number, named⟩ := imposed.audit
    have audit : after.store.audit = middle.store.audit := by rw [store]
    have members : after.store.members = middle.store.members := by rw [store]
    have leaves := fun stay => @leave_of_mem_tasksOf kind team mode.now start.store stay valid
    rw [planned] at leaves ⊢
    generalize changesIn team.id (Eligibility.eligibleIn kind mode.now between.store) between.store
      = changes at *
    have few := length_joins_le changes
    have issuedMembers : after.surroundings.issued.members
        = between.surroundings.issued.members + (joins changes).length := issued ▸ progress.issuedMembers
    have issuedEntries : after.surroundings.issued.entries
        = between.surroundings.issued.entries + changes.length := issued ▸ progress.issuedEntries
    refine ⟨imposed.valid, trans_of World.Calm worked.calm calm, worked.members_of_reconciled
      (members.trans progress.members) issuedMembers fun stay left => ?_,
      worked.audit_of_reconciled (audit.trans progress.audit) named (fun change listed => ?_)
        issuedEntries, ?_, worked.teams_of_reconciled valid inside
          (fun task listed same => ?_) some imposed.teams, ?_, ?_, ?_⟩
    · exact leaves stay (List.mem_map_of_mem left)
    · rw [imposed.added_eq, imposed.removed_eq, ← users]
      exact List.mem_map_of_mem listed
    · rw [List.map_append, List.map_map]
      exact worked.events.append ordered
    · exact other task listed (same ▸ ownKind)
    · rw [imposed.rest, worked.rest]
    · have earlier := worked.fewMembers
      rw [List.length_append, List.length_map]
      omega
    · have earlier := worked.fewEntries
      rw [List.length_append, List.length_map]
      omega

end Worked

end Reconcile

end Roster
