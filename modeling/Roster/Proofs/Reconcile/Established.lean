/-
**A pass establishes its rule and nothing else.**

From any store that keeps its rules, without an outage and with free identifiers, a pass over a derived
team returns, and its team then consists of the users who are entitled, as seen from the store before or
after the pass.

* `Established` — what a pass leaves behind: the stays, the log, the events and the time of change, and
  **that everything else is as it was**.
* `settles_of_pass` — what a pass that returns leaves of this, whatever identifiers it issued.
* `pass_establishes` — every pass does; `opposite_stays_pending_and_time_stays` — where both directions
  were pending for somebody, the opposite one stays, and without changes the time of change does.
-/

import Roster.Proofs.Reconcile.Pass

namespace Roster

/-! ### What the writes of a pass leave alone -/

namespace Store

variable {store after : Store} {now : Instant} {user : Uuid}

/-- What is required depends on the documents and their versions. -/
theorem Requires.congr {scope : Option Uuid} {version : DocumentVersion} {document : LegalDocument}
    (requires : store.Requires scope now version document) (versions : after.versions = store.versions)
    (documents : after.documents = store.documents) :
    after.Requires scope now version document where
  version_mem := versions ▸ requires.version_mem
  document_mem := documents ▸ requires.document_mem
  belongs := requires.belongs
  active := requires.active
  required := requires.required
  team := requires.team
  begun := requires.begun
  latest := versions ▸ requires.latest

/-- The time of a change is not what a team is known by. -/
theorem exists_retimed_iff {team : Uuid} {moment : Instant} {teams : List Team} {id : Uuid}
    {kind : TeamKind} :
    (∃ other ∈ Reconcile.retimed team moment teams, other.id = id ∧ other.kind = kind)
      ↔ ∃ other ∈ teams, other.id = id ∧ other.kind = kind := by
  unfold Reconcile.retimed
  constructor
  · rintro ⟨_, member, known⟩
    obtain ⟨other, inside, rfl⟩ := List.mem_map.mp member
    refine ⟨other, inside, ?_⟩
    split at known
    · exact known
    · exact known
  · rintro ⟨other, inside, known⟩
    refine ⟨_, List.mem_map_of_mem inside, ?_⟩
    split
    · exact known
    · exact known

end Store

namespace Reconcile

/-- A stay after a pass: it ends if its user is removed from the team. -/
def endedIn (mode : Mode) (team : Uuid) (removed : List Uuid) (stay : TeamMember) : TeamMember :=
  if stay.team = team ∧ stay.isOpen = true ∧ stay.user ∈ removed then leaving mode stay else stay

/-- The entry documents a change of the team under the name of the job. -/
structure Documents (mode : Mode) (team : Team) (entry : AuditEntry) : Prop where
  entityType : entry.entityType = "Team"
  entity : entry.entity = team.id
  relatedType : entry.relatedType = some "User"
  actorUser : entry.actorUser = none
  actorName : entry.actorName = (Actor.job mode.jobName).name
  source : entry.source = some mode.source
  occurredAt : entry.occurredAt = mode.now

/-- **What a pass leaves behind.** Of the events only that is said which does not depend on what became
of earlier ones: the event of a change is pending, and one of the opposite direction is so only where both
were before. -/
structure Established (kind : TeamKind) (mode : Mode) (team : Team) (before : Store)
    (result : PassResult) (after : Store) : Prop where
  added : ∀ user, user ∈ result.added ↔
    before.Entitled kind mode.now user ∧ ¬ before.HasStay team.id user
  removed : ∀ user, user ∈ result.removed ↔
    before.HasStay team.id user ∧ ¬ before.Entitled kind mode.now user
  once : (result.added ++ result.removed).Nodup
  stays : ∀ user, after.HasStay team.id user ↔ before.Entitled kind mode.now user
  entitled : ∀ user, after.Entitled kind mode.now user ↔ before.Entitled kind mode.now user
  members : ∃ joined,
    after.members = before.members.map (endedIn mode team.id result.removed) ++ joined
      ∧ joined.map TeamMember.user = result.added
      ∧ ∀ stay ∈ joined, stay.team = team.id ∧ stay.role = .member ∧ stay.joinedAt = mode.now
        ∧ stay.leftAt = none
  audit : ∃ entries, after.audit = before.audit ++ entries
    ∧ entries.map (fun entry => (entry.action, entry.relatedEntity))
      = result.added.map (fun user => (.teamMemberAdded, some user))
        ++ result.removed.map (fun user => (.teamMemberRemoved, some user))
    ∧ ∀ entry ∈ entries, Documents mode team entry
  grants : ∀ user ∈ result.added, Outbox.IsWaiting .add team.id user after.events
    ∧ (Outbox.IsWaiting .remove team.id user after.events ↔
      Outbox.IsWaiting .add team.id user before.events
        ∧ Outbox.IsWaiting .remove team.id user before.events)
  revokes : ∀ user ∈ result.removed, Outbox.IsWaiting .remove team.id user after.events
    ∧ (Outbox.IsWaiting .add team.id user after.events ↔
      Outbox.IsWaiting .remove team.id user before.events
        ∧ Outbox.IsWaiting .add team.id user before.events)
  others : ∀ other user, ¬ (other = team.id ∧ user ∈ result.added ++ result.removed) →
    Outbox.line other user after.events = Outbox.line other user before.events
  changedAt : result.changed = true → ∃ moment, moment.universalText = mode.now.universalText
    ∧ after.teams = retimed team.id moment before.teams
  unchanged : result.changed = false → after = before
  rest : after = { before with
    members := after.members, audit := after.audit, events := after.events, teams := after.teams }

variable {kind : TeamKind} {mode : Mode} {team : Team} {before after : Store} {user : Uuid}

/-! ### The stays -/

theorem leftBy_changesIn {eligible : List Uuid} (valid : before.Valid) {stay : TeamMember}
    (member : stay ∈ before.members) :
    leftBy mode (changesIn team.id eligible before) stay
      = endedIn mode team.id (removedIn team.id eligible before) stay := by
  have same : .leave stay ∈ changesIn team.id eligible before ↔ stay.team = team.id
      ∧ stay.isOpen = true ∧ stay.user ∈ removedIn team.id eligible before := by
    rw [mem_leave_changesIn_iff valid, mem_openStaysIn_iff, mem_removedIn_iff]
    constructor
    · rintro ⟨⟨_, sameTeam, opened⟩, unasked⟩
      exact ⟨sameTeam, opened, ⟨stay, member, sameTeam, rfl, opened⟩, unasked⟩
    · rintro ⟨sameTeam, opened, _, unasked⟩
      exact ⟨⟨member, sameTeam, opened⟩, unasked⟩
  exact if_congr same rfl rfl

/-- The stays after the changes of a difference. -/
theorem membersAfter_changesIn {eligible : List Uuid} {issued : Nat} (valid : before.Valid) :
    membersAfter mode team issued before.members (changesIn team.id eligible before)
      = before.members.map (endedIn mode team.id (removedIn team.id eligible before))
        ++ begun mode team issued (addedIn team.id eligible before) := by
  refine congrArg₂ _ (List.map_congr_left fun stay inside => leftBy_changesIn valid inside) ?_
  rw [changesIn, joins_changesOf]

/-- What is told by all members alike does not depend on their numbers. -/
theorem map_mapIdx_of_forall {α β γ : Type} (number : Nat → α → β) {seen : β → γ} {tell : α → γ}
    (told : ∀ index a, seen (number index a) = tell a) (list : List α) :
    (list.mapIdx number).map seen = list.map tell :=
  List.ext_getElem? fun index => by simp [Function.comp_def, told]

theorem map_user_begun (issued : Nat) (users : List Uuid) :
    (begun mode team issued users).map TeamMember.user = users := by
  refine Eq.trans ?_ (List.map_id users)
  unfold begun
  exact map_mapIdx_of_forall _ (by exact fun _ _ => rfl) users

theorem mem_begun_fields {issued : Nat} {users : List Uuid} {stay : TeamMember}
    (member : stay ∈ begun mode team issued users) :
    stay.team = team.id ∧ stay.role = .member ∧ stay.joinedAt = mode.now ∧ stay.leftAt = none := by
  obtain ⟨_, _, _, user, _, rfl⟩ := mem_begun member
  exact ⟨rfl, rfl, rfl, rfl⟩

/-- A stay of somebody who is removed ends, and every other stay is kept. -/
theorem endedIn_of_not_mem {removed : List Uuid} {stay : TeamMember} (kept : stay.user ∉ removed) :
    endedIn mode team.id removed stay = stay :=
  if_neg fun ends => kept ends.2.2

theorem endedIn_of_other {other : Uuid} {removed : List Uuid} {stay : TeamMember}
    (elsewhere : stay.team ≠ other) : endedIn mode other removed stay = stay :=
  if_neg fun ends => elsewhere ends.1

theorem endedIn_open {other : Uuid} {removed : List Uuid} {stay : TeamMember}
    (opened : (endedIn mode other removed stay).isOpen = true) :
    endedIn mode other removed stay = stay ∧ ¬ (stay.team = other ∧ stay.user ∈ removed) := by
  by_cases ends : stay.team = other ∧ stay.isOpen = true ∧ stay.user ∈ removed
  · rw [endedIn, if_pos ends] at opened
    cases opened
  · have same : endedIn mode other removed stay = stay := if_neg ends
    rw [same] at opened
    exact ⟨same, fun both => ends ⟨both.1, opened, both.2⟩⟩

section Stays

variable {removed : List Uuid} {joined : List TeamMember}
  (members : after.members = before.members.map (endedIn mode team.id removed) ++ joined)

include members

/-- **Who is in the team afterwards**: those who were and are not removed, and those who joined. -/
theorem hasStay_iff (fields : ∀ stay ∈ joined, stay.team = team.id ∧ stay.leftAt = none) :
    after.HasStay team.id user ↔
      before.HasStay team.id user ∧ user ∉ removed ∨ user ∈ joined.map TeamMember.user := by
  unfold Store.HasStay
  rw [members]
  constructor
  · rintro ⟨stay, member, sameTeam, sameUser, opened⟩
    rcases List.mem_append.mp member with old | new
    · obtain ⟨was, inside, rfl⟩ := List.mem_map.mp old
      obtain ⟨same, kept⟩ := endedIn_open opened
      rw [same] at sameTeam sameUser opened
      exact .inl ⟨⟨was, inside, sameTeam, sameUser, opened⟩, fun gone =>
        kept ⟨sameTeam, sameUser ▸ gone⟩⟩
    · exact .inr (List.mem_map.mpr ⟨stay, new, sameUser⟩)
  · rintro (⟨⟨stay, inside, sameTeam, sameUser, opened⟩, kept⟩ | new)
    · refine ⟨stay, List.mem_append_left _ (List.mem_map.mpr ⟨stay, inside, ?_⟩), sameTeam, sameUser,
        opened⟩
      exact endedIn_of_not_mem (sameUser ▸ kept)
    · obtain ⟨stay, inside, sameUser⟩ := List.mem_map.mp new
      obtain ⟨sameTeam, opened⟩ := fields stay inside
      refine ⟨stay, List.mem_append_right _ inside, sameTeam, sameUser, ?_⟩
      rw [TeamMember.isOpen, opened]
      rfl

omit members in
/-- **Who is in the team after the changes of a difference** are those who are asked for. -/
theorem hasStay_iff_mem {eligible : List Uuid} {issued : Nat}
    (members : after.members
      = before.members.map (endedIn mode team.id (removedIn team.id eligible before))
        ++ begun mode team issued (addedIn team.id eligible before)) :
    after.HasStay team.id user ↔ user ∈ eligible := by
  rw [hasStay_iff members fun stay inside => ⟨(mem_begun_fields inside).1,
    (mem_begun_fields inside).2.2.2⟩, map_user_begun, mem_addedIn_iff, mem_removedIn_iff]
  tauto

/-- **A pass does not change who is in other teams.** -/
theorem hasStay_elsewhere {other : Uuid} (elsewhere : other ≠ team.id)
    (fields : ∀ stay ∈ joined, stay.team = team.id) :
    after.HasStay other user ↔ before.HasStay other user := by
  unfold Store.HasStay
  rw [members]
  constructor
  · rintro ⟨stay, member, sameTeam, sameUser, opened⟩
    rcases List.mem_append.mp member with old | new
    · obtain ⟨was, inside, rfl⟩ := List.mem_map.mp old
      obtain ⟨same, _⟩ := endedIn_open opened
      rw [same] at sameTeam sameUser opened
      exact ⟨was, inside, sameTeam, sameUser, opened⟩
    · exact absurd (sameTeam.symm.trans (fields stay new)) elsewhere
  · rintro ⟨stay, inside, sameTeam, sameUser, opened⟩
    refine ⟨stay, List.mem_append_left _ (List.mem_map.mpr ⟨stay, inside, ?_⟩), sameTeam, sameUser,
      opened⟩
    exact endedIn_of_other (sameTeam ▸ elsewhere)

/-- **A pass does not change who is entitled.** -/
theorem entitled_iff (valid : before.Valid) (member : team ∈ before.teams) (system : team.kind ≠ .none)
    (fields : ∀ stay ∈ joined, stay.role = .member)
    (teams : ∃ moment, after.teams = retimed team.id moment before.teams)
    (rest : after = { before with
      members := after.members, audit := after.audit, events := after.events, teams := after.teams }) :
    after.Entitled kind mode.now user ↔ before.Entitled kind mode.now user := by
  have profiles : after.profiles = before.profiles := by rw [rest]
  have grants : after.grants = before.grants := by rw [rest]
  have versions : after.versions = before.versions := by rw [rest]
  have documents : after.documents = before.documents := by rw [rest]
  have consents : after.consents = before.consents := by rw [rest]
  cases kind with
  | none => exact Iff.rfl
  | board =>
    unfold Store.Entitled
    rw [grants]
  | volunteers =>
    unfold Store.Entitled Store.AgreedTo
    rw [profiles, consents]
    refine and_congr_right fun _ => forall₂_congr fun version document => ?_
    exact ⟨fun agreed requires => agreed (requires.congr versions documents),
      fun agreed requires => agreed (requires.congr versions.symm documents.symm)⟩
  | metaleads =>
    obtain ⟨moment, teams⟩ := teams
    unfold Store.Entitled
    dsimp only
    rw [members, teams]
    simp only [Store.exists_retimed_iff]
    constructor
    · rintro ⟨stay, inside, sameUser, opened, leads, other⟩
      rcases List.mem_append.mp inside with old | new
      · obtain ⟨was, here, rfl⟩ := List.mem_map.mp old
        obtain ⟨same, _⟩ := endedIn_open opened
        rw [same] at sameUser opened leads other
        exact ⟨was, here, sameUser, opened, leads, other⟩
      · rw [fields stay new] at leads
        cases leads
    · rintro ⟨stay, inside, sameUser, opened, leads, other, known, sameTeam, plain⟩
      have elsewhere : stay.team ≠ team.id := fun same => by
        rw [Store.eq_of_id_eq valid.teamIds known member (sameTeam.trans same)] at plain
        exact system plain
      refine ⟨stay, List.mem_append_left _ (List.mem_map.mpr ⟨stay, inside, ?_⟩), sameUser, opened,
        leads, other, known, sameTeam, plain⟩
      exact endedIn_of_other elsewhere

end Stays

/-! ### The log -/

theorem documents_entry (names : List (Uuid × String)) (id : Uuid) (change : Change) :
    Documents mode team (change.entry mode team names id) := by
  cases change <;> exact ⟨rfl, rfl, rfl, rfl, rfl, rfl, rfl⟩

/-- What an entry tells about a change. -/
def told : EventKind → Uuid → AuditAction × Option Uuid
  | .remove, user => (.teamMemberRemoved, some user)
  | _, user => (.teamMemberAdded, some user)

theorem map_told_entriesOf (names : List (Uuid × String)) (issued : Nat) (changes : List Change) :
    (entriesOf mode team names issued changes).map (fun entry => (entry.action, entry.relatedEntity))
      = changes.map fun change => told change.kind change.user := by
  unfold entriesOf
  exact map_mapIdx_of_forall _ (by intro index change; cases change <;> rfl) changes

theorem documents_entriesOf {names : List (Uuid × String)} {issued : Nat} {changes : List Change}
    {entry : AuditEntry} (member : entry ∈ entriesOf mode team names issued changes) :
    Documents mode team entry := by
  obtain ⟨index, bound, rfl⟩ := List.mem_mapIdx.mp member
  exact documents_entry names _ _

/-! ### The events -/

theorem plain_orders (changes : List Change) :
    ∀ order ∈ changes.map (Change.order mode team), order.kind ∈ EventKind.all ∧ order.IsDefault := by
  intro order member
  obtain ⟨change, _, rfl⟩ := List.mem_map.mp member
  refine ⟨?_, rfl⟩
  cases change
  · exact Outbox.mem_all_iff.mpr (.inl rfl)
  · exact Outbox.mem_all_iff.mpr (.inr rfl)

theorem mem_changesIn_of_added {eligible : List Uuid} (added : user ∈ addedIn team.id eligible before) :
    .join user ∈ changesIn team.id eligible before :=
  List.mem_append_left _ (List.mem_map_of_mem added)

theorem mem_changesIn_of_removed {eligible : List Uuid} (valid : before.Valid)
    (removed : user ∈ removedIn team.id eligible before) :
    ∃ stay, stay.user = user ∧ .leave stay ∈ changesIn team.id eligible before := by
  obtain ⟨stays, unasked⟩ := mem_removedIn_iff.mp removed
  obtain ⟨stay, inside, sameTeam, rfl, opened⟩ := stays
  exact ⟨stay, rfl, (mem_leave_changesIn_iff valid).mpr
    ⟨mem_openStaysIn_iff.mpr ⟨inside, sameTeam, opened⟩, unasked⟩⟩

/-! ### The pass -/

theorem changed_eq_false_iff {result : PassResult} :
    result.changed = false ↔ result.added = [] ∧ result.removed = [] := by
  simp [PassResult.changed]

/-- **A pass without changes found the rule established.** -/
theorem established_of_unchanged (valid : before.Valid) {result : PassResult}
    (found : result = difference kind team.id (openStaysIn team.id before)
      (Eligibility.eligibleIn kind mode.now before))
    (unchanged : result.changed = false) : Established kind mode team before result before := by
  have added : ∀ user, user ∈ result.added ↔
      before.Entitled kind mode.now user ∧ ¬ before.HasStay team.id user := fun user => by
    rw [found, ← Eligibility.mem_eligibleIn_iff valid]
    exact mem_addedIn_iff
  have removed : ∀ user, user ∈ result.removed ↔
      before.HasStay team.id user ∧ ¬ before.Entitled kind mode.now user := fun user => by
    rw [found, ← Eligibility.mem_eligibleIn_iff valid]
    exact mem_removedIn_iff
  obtain ⟨nobodyAdded, nobodyRemoved⟩ := changed_eq_false_iff.mp unchanged
  refine ⟨added, removed, ?_, fun user => ⟨fun stays => ?_, fun entitled => ?_⟩, fun user => Iff.rfl,
    ⟨[], ?_, ?_, List.forall_mem_nil _⟩, ⟨[], ?_, ?_, List.forall_mem_nil _⟩, ?_, ?_,
    fun _ _ _ => rfl, fun changed => ?_, fun _ => rfl, rfl⟩
  · rw [nobodyAdded, nobodyRemoved]
    exact List.nodup_nil
  · by_contra foreign
    have gone := (removed user).mpr ⟨stays, foreign⟩
    rw [nobodyRemoved] at gone
    cases gone
  · by_contra outside
    have joined := (added user).mpr ⟨entitled, outside⟩
    rw [nobodyAdded] at joined
    cases joined
  · rw [List.append_nil, nobodyRemoved]
    exact ((List.map_congr_left fun stay _ => endedIn_of_not_mem List.not_mem_nil).trans
      (List.map_id' _)).symm
  · rw [nobodyAdded]
    rfl
  · rw [List.append_nil]
  · rw [nobodyAdded, nobodyRemoved]
    rfl
  · rw [nobodyAdded]
    exact List.forall_mem_nil _
  · rw [nobodyRemoved]
    exact List.forall_mem_nil _
  · rw [unchanged] at changed
    cases changed

/-- The stays after a pass with changes. -/
theorem Reconciled.members {world after : World} {result : PassResult} (valid : world.store.Valid)
    (reconciled : Reconciled kind mode team world result after) :
    after.store.members = world.store.members.map (endedIn mode team.id result.removed)
      ++ begun mode team world.surroundings.issued.members result.added := by
  obtain ⟨names, middle, moment, progress, _, store, _⟩ := reconciled.made
  rw [store, reconciled.result_eq]
  exact progress.members.trans (membersAfter_changesIn valid)

/-- Who changes in a pass is added or removed. -/
theorem mem_of_isAbout {eligible : List Uuid} (valid : before.Valid) {order : Outbox.Order}
    (ordered : order ∈ (changesIn team.id eligible before).map (Change.order mode team)) {other : Uuid}
    (about : order.IsAbout other user) :
    other = team.id ∧ user ∈ addedIn team.id eligible before ++ removedIn team.id eligible before := by
  obtain ⟨change, made, rfl⟩ := List.mem_map.mp ordered
  have listed := List.mem_map_of_mem (f := Change.user) made
  rw [map_user_changesIn valid] at listed
  exact ⟨about.1.symm, about.2 ▸ listed⟩

/-- **A pass with changes establishes the rule.** -/
theorem established_of_reconciled {world after : World} {result : PassResult}
    (valid : world.store.Valid) (keyed : ∀ event ∈ world.store.events, event.Keyed)
    (system : kind ≠ .none) (reconciled : Reconciled kind mode team world result after) :
    Established kind mode team world.store result after.store := by
  obtain ⟨member, same⟩ := mem_of_teamsOfIn reconciled.found
  subst same
  have members := reconciled.members valid
  have events := reconciled.events
  obtain ⟨names, audit⟩ := reconciled.audit
  obtain ⟨moment, shown, teams⟩ := reconciled.teams
  have rest := reconciled.rest
  have changed := reconciled.changed
  obtain rfl := reconciled.result_eq
  generalize listed : Eligibility.eligibleIn team.kind mode.now world.store = eligible
    at members events audit changed ⊢
  have asked : ∀ user, user ∈ eligible ↔ world.store.Entitled team.kind mode.now user := fun user => by
    rw [← listed]
    exact Eligibility.mem_eligibleIn_iff valid
  have fields := fun stay inside => @mem_begun_fields mode team world.surroundings.issued.members
    (addedIn team.id eligible world.store) stay inside
  have apart := @apart_changesIn world.store eligible valid mode team
  have plain := @plain_orders mode team (changesIn team.id eligible world.store)
  refine ⟨fun user => mem_addedIn_iff.trans (and_congr_left' (asked user)),
    fun user => mem_removedIn_iff.trans (and_congr_right' (not_congr (asked user))),
    ?_, fun user => ?_, fun user => ?_, ⟨_, members, map_user_begun _ _, fields⟩,
    ⟨_, audit, ?_, fun entry inside => documents_entriesOf inside⟩, fun user added => ?_,
    fun user removed => ?_, fun other user foreign => ?_, fun _ => ⟨moment, shown, teams⟩,
    fun unchanged => ?_, rest⟩
  · have once := @nodup_map_user_changesIn world.store team.id eligible valid
    rwa [map_user_changesIn valid] at once
  · exact (hasStay_iff_mem members).trans (asked user)
  · exact entitled_iff members valid member system (fun stay inside => (fields stay inside).2.1)
      ⟨moment, teams⟩ rest
  · rw [map_told_entriesOf, map_changesIn valid told fun _ => rfl]
    rfl
  · have ordered := List.mem_map_of_mem (f := Change.order mode team) (mem_changesIn_of_added added)
    exact ⟨events.isWaiting plain keyed apart ordered,
      events.isWaiting_opposite plain keyed apart ordered rfl⟩
  · obtain ⟨stay, rfl, left⟩ := mem_changesIn_of_removed valid removed
    have ordered := List.mem_map_of_mem (f := Change.order mode team) left
    exact ⟨events.isWaiting plain keyed apart ordered,
      events.isWaiting_opposite plain keyed apart ordered rfl⟩
  · exact events.line_eq fun order ordered about => foreign (mem_of_isAbout valid ordered about)
  · rw [changed] at unchanged
    cases unchanged

/-! ### Every pass that returns -/

/-- **What a pass that returns leaves behind**, whatever identifiers it issued: its team consists of those who
are entitled, before and after, and at most stays, the log, events and the time of change differ. -/
structure Settles (kind : TeamKind) (mode : Mode) (team : Team) (before after : Store) : Prop where
  valid : after.Valid
  stays : ∀ user, after.HasStay team.id user ↔ before.Entitled kind mode.now user
  entitled : ∀ user, after.Entitled kind mode.now user ↔ before.Entitled kind mode.now user
  teams : ∃ moment, after.teams = retimed team.id moment before.teams
  rest : after = { before with
    members := after.members, audit := after.audit, events := after.events, teams := after.teams }

/-- The team of a system kind is the only one. -/
theorem teamsOfIn_eq (valid : before.Valid) (member : team ∈ before.teams) (system : team.kind ≠ .none) :
    teamsOfIn team.kind before = [team] := by
  have inside : team ∈ teamsOfIn team.kind before :=
    List.mem_filter.mpr ⟨member, decide_eq_true rfl⟩
  have nodup : (teamsOfIn team.kind before).Nodup := (valid.teamIds.of_map).filter _
  rw [← distinct_of_nodup nodup]
  refine distinct_of_const (fun other listed => ?_) (List.ne_nil_of_mem inside)
  obtain ⟨known, same⟩ := List.mem_filter.mp listed
  rw [decide_eq_true_eq] at same
  have isSystem : ∀ one : Team, one.kind = team.kind → one.isSystem = true := fun one same => by
    rw [Team.isSystem, same]
    exact bne_iff_ne.mpr system
  exact List.inj_on_of_nodup_map valid.systemKinds (List.mem_filter.mpr ⟨known, isSystem other same⟩)
    (List.mem_filter.mpr ⟨member, isSystem team rfl⟩) same

/-- The changes of a pass settle its team once they are committed. -/
theorem settles_of_carried {world : World} {session committed : Session} {result : PassResult}
    (valid : world.store.Valid) (system : kind ≠ .none)
    (carried : Carried kind mode team world.session result session)
    (commits : Transaction.commit session = .ok () committed) :
    Settles kind mode team world.store committed.store := by
  obtain ⟨member, same⟩ := mem_of_teamsOfIn carried.found
  obtain ⟨middle, moved, rfl⟩ := carried.moved valid
  have inside : team ∈ middle.store.teams := by
    rw [moved.rest]
    exact member
  obtain ⟨validAfter, moment, _, store⟩ := commit_ok moved.settled inside commits
  let eligible := Eligibility.eligibleIn kind mode.now world.store
  have members : committed.store.members
      = world.store.members.map (endedIn mode team.id (removedIn team.id eligible world.store))
        ++ begun mode team world.surroundings.issued.members (addedIn team.id eligible world.store) := by
    rw [store]
    exact moved.members.trans (membersAfter_changesIn valid)
  have teams : committed.store.teams = retimed team.id moment world.store.teams := by
    rw [store, moved.rest]
    rfl
  have rest : committed.store = { world.store with
      members := committed.store.members, audit := committed.store.audit
      events := committed.store.events, teams := committed.store.teams } := by
    rw [store, moved.rest]
    rfl
  refine ⟨validAfter, fun user => ?_, fun user => ?_, ⟨moment, teams⟩, rest⟩
  · exact (hasStay_iff_mem members).trans (Eligibility.mem_eligibleIn_iff valid)
  · exact entitled_iff members valid member (same ▸ system)
      (fun stay joined => (mem_begun_fields joined).2.1) ⟨moment, teams⟩ rest

/-- **A pass over a derived team that returns has settled it.** -/
theorem settles_of_pass {world after : World} {result : PassResult} (valid : world.store.Valid)
    (member : team ∈ world.store.teams) (system : team.kind ≠ .none)
    (ran : pass team.kind none mode world = .ok result after) :
    Settles team.kind mode team world.store after.store := by
  have found := teamsOfIn_eq valid member system
  rcases pass_eq_ok valid ran with ⟨same, unchanged⟩ | ⟨other, _, committed, carried, commits, same, _⟩
  · obtain ⟨known, unchanged⟩ := unchanged team found
    have established := established_of_unchanged valid known unchanged
    rw [same]
    exact ⟨valid, established.stays, established.entitled,
      ⟨team.updatedAt, (retimed_updatedAt valid member).symm⟩, rfl⟩
  · obtain rfl : team = other := List.singleton_inj.mp (found.symm.trans carried.found)
    rw [same]
    exact settles_of_carried valid system carried commits

/-! ### Every pass returns -/

/-- So many changes can a pass make at most. -/
def changeLimit (store : Store) : Nat :=
  store.profiles.length + store.grants.length + 2 * store.members.length

theorem length_eligibleIn_le (store : Store) (now : Instant) :
    (Eligibility.eligibleIn kind now store).length
      ≤ store.profiles.length + store.grants.length + store.members.length := by
  cases kind with
  | none => exact Nat.zero_le _
  | volunteers =>
    have one : (Standing.withAllConsentsIn (Eligibility.candidatesIn store) now none store).length
        ≤ (distinct (Eligibility.candidatesIn store)).length := List.length_filter_le _ _
    have two := length_distinct_le (Eligibility.candidatesIn store)
    have three : (Eligibility.candidatesIn store).length ≤ _ := length_distinct_le _
    rw [List.length_map] at three
    have four := List.length_filter_le
      (fun profile : Profile => decide (profile.isApproved ∧ !profile.isSuspended)) store.profiles
    show (Standing.withAllConsentsIn (Eligibility.candidatesIn store) now none store).length ≤ _
    omega
  | metaleads =>
    have one : (Eligibility.metaleadsIn store).length ≤ _ := length_distinct_le _
    rw [List.length_map] at one
    have two := List.length_filter_le (fun stay : TeamMember => decide (stay.isOpen ∧ stay.role = .metalead
      ∧ store.teams.any fun team => team.id = stay.team ∧ team.kind = .none)) store.members
    show (Eligibility.metaleadsIn store).length ≤ _
    omega
  | board =>
    have one : (Eligibility.boardIn now store).length ≤ _ := length_distinct_le _
    rw [List.length_map] at one
    have two := List.length_filter_le (fun grant : RoleGrant =>
      decide (grant.roleName = Eligibility.boardRole ∧ grant.isActive now)) store.grants
    show (Eligibility.boardIn now store).length ≤ _
    omega

theorem length_changesIn_le (valid : before.Valid) (team : Uuid) (now : Instant) :
    (changesIn team (Eligibility.eligibleIn kind now before) before).length ≤ changeLimit before := by
  have users := congrArg List.length
    (@map_user_changesIn before team (Eligibility.eligibleIn kind now before) valid)
  rw [List.length_map, List.length_append, addedIn, removedIn, sorted, sorted, List.length_mergeSort,
    List.length_mergeSort] at users
  have added := List.length_filter_le (fun user => !((openStaysIn team before).map
    TeamMember.user).contains user) (distinct (Eligibility.eligibleIn kind now before))
  have asked := length_distinct_le (Eligibility.eligibleIn kind now before)
  have few := @length_eligibleIn_le kind before now
  have removed := List.length_filter_le (fun user =>
    !(Eligibility.eligibleIn kind now before).contains user) ((openStaysIn team before).map TeamMember.user)
  have stays : (openStaysIn team before).length ≤ before.members.length := List.length_filter_le _ _
  rw [List.length_map] at removed
  rw [changeLimit]
  omega

/-- Who is entitled exists, if the store enforces references. -/
theorem known_of_entitled (valid : before.Valid) (enforced : before.enforcesReferences = true)
    {now : Instant} (entitled : before.Entitled kind now user) : user ∈ before.users.map User.id := by
  obtain ⟨profiles, grants, stays, _⟩ := valid.2.2.2 enforced
  cases kind with
  | none => exact entitled.elim
  | volunteers =>
    obtain ⟨⟨profile, inside, rfl, _⟩, _⟩ := entitled
    exact profiles profile inside
  | metaleads =>
    obtain ⟨stay, inside, rfl, _⟩ := entitled
    exact (stays stay inside).2
  | board =>
    obtain ⟨grant, inside, rfl, _⟩ := entitled
    exact (grants grant inside).1

/-- **Every pass over a derived team returns and establishes its rule**, from any store that keeps its
rules and whose events carry their default keys. -/
theorem pass_establishes {world : World} (valid : world.store.Valid)
    (keyed : ∀ event ∈ world.store.events, event.Keyed) (up : world.surroundings.IsUp)
    (free : HasFree world.surroundings.issued world.store (changeLimit world.store))
    (member : team ∈ world.store.teams) (system : team.kind ≠ .none) (mode : Mode) :
    ∃ result after, pass team.kind none mode world = .ok result after
      ∧ Established team.kind mode team world.store result after.store := by
  obtain ⟨rule, builtIn⟩ : ∃ rule, Eligibility.builtIn? team.kind = some rule := by
    cases kind : team.kind with
    | none => exact absurd kind system
    | volunteers => exact ⟨_, rfl⟩
    | metaleads => exact ⟨_, rfl⟩
    | board => exact ⟨_, rfl⟩
  have found := teamsOfIn_eq valid member system
  have few := free.mono (@length_changesIn_le team.kind _ valid team.id mode.now)
  obtain ⟨result, after, ran, below⟩ := pass_of_isUp builtIn valid up found (enters_changesIn
    fun enforced => ⟨List.mem_map_of_mem member, fun user asked => known_of_entitled valid enforced
      ((Eligibility.mem_eligibleIn_iff valid).mp asked)⟩) few
  refine ⟨result, after, ran, ?_⟩
  rcases pass_ok valid few.events ran below with ⟨same, unchanged⟩ | ⟨other, reconciled⟩
  · obtain ⟨known, unchanged⟩ := unchanged team found
    rw [same]
    exact established_of_unchanged valid known unchanged
  · obtain rfl : team = other := List.singleton_inj.mp (found.symm.trans reconciled.found)
    exact established_of_reconciled valid keyed system reconciled

/-- A member of the volunteers without a profile, for whom both directions are pending. -/
def bothPending : World where
  surroundings := default
  store := {
    teams := [{ (default : Team) with kind := .volunteers }]
    members := [default]
    events := [({ kind := .add, team := default, user := default } : Outbox.Order).event
        (.numbered 14 0) default,
      ({ kind := .remove, team := default, user := default } : Outbox.Order).event default default] }

theorem hasFree_bothPending :
    HasFree bothPending.surroundings.issued bothPending.store (changeLimit bothPending.store) where
  members := ⟨Uuid.freshBetween_of_le (by decide), fun number after bound =>
    (by decide +kernel : ∀ number ≤ 2, 0 < number →
      .numbered 11 number ∉ bothPending.store.members.map TeamMember.id) number bound after⟩
  entries := ⟨Uuid.freshBetween_of_le (by decide), fun _ _ _ => List.not_mem_nil⟩
  events := ⟨Uuid.freshBetween_of_le (by decide), fun number after bound =>
    (by decide +kernel : ∀ number ≤ 2, 0 < number →
      .numbered 14 number ∉ bothPending.store.events.map OutboxEvent.id) number bound after⟩

/-- Also from there the member is removed and is no longer in the team. -/
theorem bothPending_established :
    ∃ result after, pass .volunteers none default bothPending = .ok result after
      ∧ default ∈ result.removed ∧ ¬ after.store.HasStay default default := by
  obtain ⟨result, after, ran, established⟩ := @pass_establishes
    { (default : Team) with kind := .volunteers } bothPending (by decide +kernel) (by decide +kernel)
    rfl hasFree_bothPending List.mem_cons_self nofun default
  have foreign : ¬ bothPending.store.Entitled .volunteers (default : Mode).now default := by
    rintro ⟨⟨profile, inside, _⟩, _⟩
    cases inside
  refine ⟨result, after, ran, (established.removed default).mpr ⟨?_, foreign⟩, fun stays => ?_⟩
  · exact ⟨default, List.mem_cons_self, rfl, rfl, rfl⟩
  · exact foreign ((established.stays default).mp stays)

/-- The volunteers without anybody in the team or entitled to be. -/
def upToDate : World where
  surroundings := default
  store := { teams := [{ (default : Team) with kind := .volunteers }] }

/-- The event that would grant the access again stays pending, and a pass without changes leaves the time of
the last change. -/
theorem opposite_stays_pending_and_time_stays :
    (bothPending.store.Valid ∧ (∀ event ∈ bothPending.store.events, event.Keyed)
      ∧ ∃ result after, pass .volunteers none default bothPending = .ok result after
        ∧ default ∈ result.removed ∧ Outbox.IsWaiting .add default default after.store.events)
    ∧ upToDate.store.Valid ∧ ∃ result after,
      pass .volunteers none { now := ⟨1, ⟨0⟩, by decide⟩ } upToDate = .ok result after
        ∧ after.store.teams.map Team.updatedAt = [default] := by
  have removes : (match pass .volunteers none default bothPending with
      | .ok result after => decide (default ∈ result.removed
          ∧ Outbox.IsWaiting .add default default after.store.events)
      | .error _ _ => false) = true := by decide +kernel
  have idles : (match pass .volunteers none { now := ⟨1, ⟨0⟩, by decide⟩ } upToDate with
      | .ok _ after => decide (after.store.teams.map Team.updatedAt = [default])
      | .error _ _ => false) = true := by decide +kernel
  refine ⟨⟨by decide +kernel, by decide +kernel, ?_⟩, by decide +kernel, ?_⟩
  · cases ran : pass .volunteers none default bothPending with
    | error failure after =>
      rw [ran] at removes
      cases removes
    | ok result after =>
      rw [ran] at removes
      exact ⟨result, after, rfl, of_decide_eq_true removes⟩
  · cases ran : pass .volunteers none { now := ⟨1, ⟨0⟩, by decide⟩ } upToDate with
    | error failure after =>
      rw [ran] at idles
      cases idles
    | ok result after =>
      rw [ran] at idles
      exact ⟨result, after, rfl, of_decide_eq_true idles⟩

end Reconcile

end Roster
