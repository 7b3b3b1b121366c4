/-
**What a pass imposes on its team**, whatever its rule is and whatever identifiers are issued.

A pass with changes ends and begins stays in its own team only, writes one entry for each change behind
the log, and sets when the team changed. It leaves the events of other teams alone and everything else as
it was.

* `Recorded` — what a part of the changes leaves behind, apart from the events of the team.
* `Imposed` — **what a pass with changes leaves behind**; `pass_imposes`, `pass_cases` — a pass left this or
  nothing.
* `Imposed.stays` — who is in the team afterwards.
* `Store.Spares` — a team is left alone: its stays, its row, the entries about it and its events;
  `Imposed.spares`, `Imposed.not_spares` — **a pass with changes leaves every team alone but its own**.
-/

import Roster.Proofs.Reconcile.Established

namespace Roster

/-- **A team was left alone** between two states of the store: nobody's stay in it began, ended or changed,
its row is the same, and no entry and no event about it was written. -/
structure Store.Spares (team : Uuid) (before after : Store) : Prop where
  members : after.members.filter (fun stay => stay.team = team)
    = before.members.filter fun stay => stay.team = team
  row : after.teams.filter (fun other => other.id = team)
    = before.teams.filter fun other => other.id = team
  audit : after.audit.filter (Audit.isAbout "Team" team) = before.audit.filter (Audit.isAbout "Team" team)
  events : Outbox.ofTeam team after.events = Outbox.ofTeam team before.events

theorem Store.spares_self (team : Uuid) (store : Store) : store.Spares team store :=
  ⟨rfl, rfl, rfl, rfl⟩

namespace Reconcile

open EStateM (Result)

variable {kind : TeamKind} {mode : Mode} {team : Team} {names : List (Uuid × String)} {user : Uuid}

/-! ### A part of the changes -/

/-- **A part of the changes was written and recorded**: every change has its entry, and the events of other
teams are left alone. -/
structure Recorded (mode : Mode) (team : Team) (names : List (Uuid × String)) (first : Session)
    (done : List Change) (session : Session) : Prop where
  moved : Moved mode team first done session
  audit : session.store.audit = first.store.audit
    ++ entriesOf mode team names first.surroundings.issued.entries done
  issuedEntries : session.surroundings.issued.entries
    = first.surroundings.issued.entries + done.length
  events : ∀ other, other ≠ team.id →
    Outbox.ofTeam other session.store.events = Outbox.ofTeam other first.store.events

namespace Recorded

variable {first session after : Session} {done rest : List Change} {change : Change}

/-- **One more change**, whatever became of its event. -/
theorem step (recorded : Recorded mode team names first done session)
    (leaves : Leaves first.store (done ++ change :: rest))
    (made : change.make mode team names session = .ok () after) :
    Recorded mode team names first (done ++ [change]) after := by
  have settled := recorded.moved.settled
  have fits := recorded.moved.fits leaves
  have written := change.make_written settled fits made
  have audit : after.store.audit = session.store.audit
      ++ [change.entry mode team names (.numbered 10 (session.surroundings.issued.entries + 1))] := by
    rw [written.store]
    rfl
  refine ⟨recorded.moved.step leaves written, ?_, ?_, fun other elsewhere => ?_⟩
  · rw [audit, recorded.audit, recorded.issuedEntries, entriesOf_concat, List.append_assoc]
  · rw [written.issued, List.length_append, ← Nat.add_assoc, ← recorded.issuedEntries]
    rfl
  · rw [change.make_elsewhere settled fits made elsewhere]
    exact recorded.events other elsewhere

/-- **All changes were written and recorded**, if they return. -/
theorem of_ok {changes : List Change} (settled : first.Settled) (leaves : Leaves first.store changes)
    (ran : changes.forM (Change.make mode team names) first = .ok () after) :
    Recorded mode team names first changes after := by
  have start : Recorded mode team names first [] first :=
    ⟨moved_nil settled, by simp [entriesOf], rfl, fun _ _ => rfl⟩
  refine forM_ok start (fun done change rest before later split recorded made _ => ?_) ran
  subst split
  exact recorded.step leaves made

end Recorded

/-! ### The whole pass -/

/-- **A pass with changes imposed some users on its team.** -/
structure Imposed (kind : TeamKind) (mode : Mode) (team : Team) (eligible : List Uuid) (before : Store)
    (result : PassResult) (after : Store) : Prop where
  found : teamsOfIn kind before = [team]
  result_eq : result = difference kind team.id (openStaysIn team.id before) eligible
  changed : result.changed = true
  valid : after.Valid
  members : ∃ issued, after.members = before.members.map (endedIn mode team.id result.removed)
    ++ begun mode team issued result.added
  audit : ∃ issued, after.audit = before.audit
    ++ entriesOf mode team (namesIn (result.added ++ result.removed) before) issued
      (changesIn team.id eligible before)
  events : ∀ other, other ≠ team.id → Outbox.ofTeam other after.events = Outbox.ofTeam other before.events
  teams : after.teams = retimed team.id (changeTime mode team) before.teams
  rest : after = { before with
    members := after.members, audit := after.audit, events := after.events, teams := after.teams }

/-- What a pass carried out is imposed once it is committed. -/
theorem Carries.imposed {rule : Eligibility} {eligible : List Uuid} {session named after : Session}
    {committed : Session} {result : PassResult} (valid : session.store.Valid)
    (carries : Carries kind rule mode team eligible session result named after)
    (commits : Transaction.commit after = .ok () committed) :
    Imposed kind mode team eligible session.store result committed.store := by
  obtain ⟨middle, made, rfl⟩ := carries.made
  have leaves : Leaves named.store (changesIn team.id eligible session.store) := by
    rw [carries.store]
    exact leaves_changesIn valid
  have recorded := Recorded.of_ok carries.settled leaves made
  have members := recorded.moved.members
  have audit := recorded.audit
  have rest := recorded.moved.rest
  have events := recorded.events
  rw [carries.store] at members audit rest events
  have inside : team ∈ middle.store.teams := by
    rw [rest]
    exact (mem_of_teamsOfIn carries.found).1
  rw [recorded.moved.settled.staged] at commits
  obtain ⟨validAfter, store⟩ := commit_eq_ok recorded.moved.settled inside commits
  obtain rfl := carries.result_eq
  refine ⟨carries.found, rfl, carries.changed, validAfter, ⟨named.surroundings.issued.members, ?_⟩,
    ⟨named.surroundings.issued.entries, ?_⟩, fun other elsewhere => ?_, ?_, ?_⟩
  · rw [store]
    exact members.trans (membersAfter_changesIn valid)
  · rw [store]
    exact audit
  · rw [store]
    exact events other elsewhere
  · rw [store, rest]
  · rw [store, rest]

/-- **A pass that returns** wrote nothing, or it imposed the users that its rule named. -/
theorem pass_imposes {given : Option Eligibility} {world after : World} {result : PassResult}
    (valid : world.store.Valid) (asks : ∀ rule ∈ given, rule.OnlyAsks)
    (ran : pass kind given mode world = .ok result after) :
    after.store = world.store ∧ result.changed = false
      ∨ ∃ rule team eligible, (given <|> Eligibility.builtIn? kind) = some rule
        ∧ rule.Answers mode.now world.store eligible
        ∧ Imposed kind mode team eligible world.store result after.store := by
  obtain ⟨rule, chosen, ⟨same, unchanged, _⟩ | ⟨team, eligible, named, session, committed, carries,
    commits, same, _⟩⟩ := pass_eq_ok_of_asks valid asks ran
  · exact .inl ⟨same, unchanged⟩
  · refine .inr ⟨rule, team, eligible, chosen, carries.answers, ?_⟩
    rw [same]
    exact carries.imposed valid commits

/-- **A pass leaves the store as it was and reports no change, or it imposed the users that its rule named**;
in the first case it may have failed. -/
theorem pass_cases {given : Option Eligibility} {world : World} (valid : world.store.Valid)
    (asks : ∀ rule ∈ given, rule.OnlyAsks) :
    (endOf (pass kind given mode world)).store = world.store
        ∧ (∀ result after, pass kind given mode world = .ok result after → result.changed = false)
      ∨ ∃ result after rule team eligible, pass kind given mode world = .ok result after
        ∧ (given <|> Eligibility.builtIn? kind) = some rule
        ∧ rule.Answers mode.now world.store eligible
        ∧ Imposed kind mode team eligible world.store result after.store := by
  cases ran : pass kind given mode world with
  | error failure after =>
    refine .inl ⟨pass_error ran, ?_⟩
    rintro _ _ ⟨⟩
  | ok result after =>
    rcases pass_imposes valid asks ran with
      ⟨same, unchanged⟩ | ⟨rule, team, eligible, chosen, answers, imposed⟩
    · refine .inl ⟨same, ?_⟩
      rintro _ _ ⟨⟩
      exact unchanged
    · exact .inr ⟨result, after, rule, team, eligible, rfl, chosen, answers, imposed⟩

/-! ### The stays of other teams -/

theorem endedIn_team {other : Uuid} {removed : List Uuid} (stay : TeamMember) :
    (endedIn mode other removed stay).team = stay.team := by
  unfold endedIn
  split <;> rfl

theorem endedIn_user {other : Uuid} {removed : List Uuid} (stay : TeamMember) :
    (endedIn mode other removed stay).user = stay.user := by
  unfold endedIn
  split <;> rfl

/-- What does not look at whether stays have ended picks the same ones. -/
theorem filter_map_endedIn {other : Uuid} {removed : List Uuid} {members : List TeamMember}
    {wanted : TeamMember → Bool} (blind : ∀ stay, wanted (endedIn mode other removed stay) = wanted stay) :
    (members.map (endedIn mode other removed)).filter wanted
      = (members.filter wanted).map (endedIn mode other removed) := by
  rw [List.filter_map]
  exact congrArg (List.map _) (List.filter_congr fun stay _ => blind stay)

/-- The stays in other teams are the same before and after stays end and begin in a team. -/
theorem filter_members_of_ne {other : Uuid} {removed : List Uuid} {members joined : List TeamMember}
    (elsewhere : other ≠ team.id) (fields : ∀ stay ∈ joined, stay.team = team.id) :
    (members.map (endedIn mode team.id removed) ++ joined).filter (fun stay => stay.team = other)
      = members.filter fun stay => stay.team = other := by
  have nobody : joined.filter (fun stay => stay.team = other) = [] :=
    List.filter_eq_nil_iff.mpr fun stay inside same =>
      elsewhere ((of_decide_eq_true same).symm.trans (fields stay inside))
  rw [List.filter_append, nobody, List.append_nil, filter_map_endedIn fun stay => by rw [endedIn_team]]
  refine (List.map_congr_left fun stay inside => ?_).trans (List.map_id' _)
  have same := of_decide_eq_true (List.mem_filter.mp inside).2
  exact endedIn_of_other fun here => elsewhere (same.symm.trans here)

/-! ### What a pass leaves alone, and what not -/

/-- A pass reports no change exactly if its difference makes none. -/
theorem changed_difference_eq_false_iff {store : Store} {one : Uuid} {eligible : List Uuid}
    (valid : store.Valid) : (difference kind one (openStaysIn one store) eligible).changed = false
      ↔ changesIn one eligible store = [] := by
  rw [changed_eq_false_iff, ← List.append_eq_nil_iff, ← @List.map_eq_nil_iff _ _ Change.user,
    map_user_changesIn valid]
  rfl

namespace Imposed

variable {eligible : List Uuid} {before after : Store} {result : PassResult}
  (imposed : Imposed kind mode team eligible before result after)

include imposed

theorem added_eq : result.added = addedIn team.id eligible before := by
  rw [imposed.result_eq]
  rfl

theorem removed_eq : result.removed = removedIn team.id eligible before := by
  rw [imposed.result_eq]
  rfl

/-- Somebody joins or leaves. -/
theorem changesIn_ne_nil (valid : before.Valid) : changesIn team.id eligible before ≠ [] := fun none => by
  have unchanged := (@changed_difference_eq_false_iff kind _ _ _ valid).mpr none
  rw [← imposed.result_eq, imposed.changed] at unchanged
  cases unchanged

/-- **The team consists of the users that were named.** -/
theorem stays : after.HasStay team.id user ↔ user ∈ eligible := by
  obtain ⟨issued, members⟩ := imposed.members
  rw [imposed.added_eq, imposed.removed_eq] at members
  exact hasStay_iff_mem members

/-- **The entries of a pass are about its team.** -/
theorem exists_entries : ∃ entries, after.audit = before.audit ++ entries
    ∧ ∀ entry ∈ entries, Documents mode team entry := by
  obtain ⟨issued, audit⟩ := imposed.audit
  exact ⟨_, audit, fun entry inside => documents_entriesOf inside⟩

/-- **A pass with changes leaves every other team alone.** -/
theorem spares {other : Uuid} (elsewhere : other ≠ team.id) : before.Spares other after where
  members := by
    obtain ⟨issued, members⟩ := imposed.members
    rw [members]
    exact filter_members_of_ne elsewhere fun stay joined => (mem_begun_fields joined).1
  row := by
    rw [imposed.teams, filter_retimed fun _ _ => rfl]
    refine retimed_of_ne fun one member same => elsewhere ?_
    exact (of_decide_eq_true (List.mem_filter.mp member).2).symm.trans same
  audit := by
    obtain ⟨entries, audit, documents⟩ := imposed.exists_entries
    have foreign : entries.filter (Audit.isAbout "Team" other) = [] :=
      List.filter_eq_nil_iff.mpr fun entry inside about =>
        elsewhere ((of_decide_eq_true about).2.symm.trans (documents entry inside).entity)
    rw [audit, List.filter_append, foreign, List.append_nil]
  events := imposed.events other elsewhere

/-- **A pass with changes does not leave its own team alone**: it wrote entries about it. -/
theorem not_spares (valid : before.Valid) : ¬ before.Spares team.id after := fun spared => by
  obtain ⟨issued, audit⟩ := imposed.audit
  have about : ∀ entry ∈ entriesOf mode team (namesIn (result.added ++ result.removed) before) issued
      (changesIn team.id eligible before), Audit.isAbout "Team" team.id entry = true :=
    fun entry inside => decide_eq_true
      ⟨(documents_entriesOf inside).entityType, (documents_entriesOf inside).entity⟩
  have logged := spared.audit
  rw [audit, List.filter_append, List.append_right_eq_self, List.filter_eq_self.mpr about] at logged
  exact imposed.changesIn_ne_nil valid (List.mapIdx_eq_nil_iff.mp logged)

end Imposed

end Reconcile

end Roster
