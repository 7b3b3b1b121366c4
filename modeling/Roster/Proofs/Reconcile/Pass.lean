/-
**What a pass does.**

The body of a pass asks who is in the team and who is asked for, makes the changes of the difference and
sets when the team changed; the commit sends that last change. Without a difference nothing is written.

* `Carries` — what a body with any rule has done when it returns with changes: `body_eq_ok_of_asks`, and for
  the whole pass `pass_eq_ok_of_asks`.
* `Carried` — the same for the rule of the kind, whatever identifiers were issued: `body_eq_ok`, and for the
  whole pass `pass_eq_ok`.
* `body_ok` — **what a body that returns has done**, if the identifiers of its events were free;
  `body_of_isUp` — without an outage it returns.
* `Reconciled` — what a pass with changes has committed; `pass_ok`, `pass_error`, `pass_of_isUp` — the
  whole pass.
-/

import Roster.Proofs.Reconcile.Difference
import Roster.Proofs.Reconcile.Entitled
import Roster.Proofs.Session.Transact

namespace Roster.Reconcile

open EStateM (Result)

/-! ### The difference is applied as changes -/

theorem forM_join (mode : Mode) (team : Team) (names : List (Uuid × String)) (users : List Uuid) :
    (users.map Change.join).forM (Change.make mode team names) = users.forM (add mode team names) := by
  induction users with
  | nil => rfl
  | cons user rest ih =>
    rw [List.map_cons, forM_cons_apply, ih, forM_cons_apply]
    rfl

theorem forM_leave (mode : Mode) (team : Team) (names : List (Uuid × String))
    (stays : List TeamMember) (users : List Uuid) :
    (users.filterMap fun user => (stays.find? (·.user = user)).map Change.leave).forM
        (Change.make mode team names)
      = users.forM fun user => match stays.find? (·.user = user) with
          | some stay => remove mode team names stay
          | none => pure () := by
  induction users with
  | nil => rfl
  | cons user rest ih =>
    rw [List.filterMap_cons, forM_cons_apply, ← ih]
    cases stays.find? (·.user = user) with
    | none => rfl
    | some stay => rfl

/-- The last write of a pass: the team with the time of its change. -/
def retime (mode : Mode) (team : Team) : Write :=
  .change (.team { team with updatedAt := mode.now })

/-- **Applying a difference is making its changes.** -/
theorem applyDifference_eq (mode : Mode) (team : Team) (stays : List TeamMember)
    (added removed : List Uuid) :
    applyDifference mode team stays added removed
      = (Transaction.read (namesIn (added ++ removed)) >>= fun names =>
        (changesOf stays added removed).forM (Change.make mode team names) >>= fun _ =>
          Transaction.stage (retime mode team)) := by
  unfold applyDifference
  refine congrArg (Transaction.read (namesIn (added ++ removed)) >>= ·) (funext fun names => ?_)
  rw [changesOf, forM_append_apply, forM_join, forM_leave, bind_assoc]
  rfl

/-! ### The body of a pass -/

/-- What a pass finds out about a team. -/
def difference (kind : TeamKind) (team : Uuid) (stays : List TeamMember) (eligible : List Uuid) :
    PassResult where
  kind := kind
  team := some team
  added := sorted ((distinct eligible).filter fun user => !(stays.map TeamMember.user).contains user)
  removed := sorted ((stays.map TeamMember.user).filter fun user => !eligible.contains user)

/-- What a pass does once it knows who is in the team and who is asked for. -/
def conclude (mode : Mode) (team : Team) (stays : List TeamMember) (result : PassResult) :
    Transaction ((PassResult × Option String) × Ending) :=
  if !result.changed then do
    Act.note (.teamUpToDate team.name)
    return ((result, none), .discard)
  else do
    applyDifference mode team stays result.added result.removed
    return ((result, some team.name), .keep)

/-- What a pass does for the team that was found, if there is one. -/
def bodyOf (kind : TeamKind) (rule : Eligibility) (mode : Mode) :
    Option Team → Transaction ((PassResult × Option String) × Ending)
  | none => do
    Act.note (.teamMissing kind)
    return (({ kind, skipped := true }, none), .discard)
  | some team =>
    Transaction.read (openStaysIn team.id) >>= fun stays =>
      rule mode.now >>= fun eligible =>
        conclude mode team stays (difference kind team.id stays eligible)

theorem body_eq (kind : TeamKind) (rule : Eligibility) (mode : Mode) :
    body kind rule mode = (Transaction.readOne (teamsOfIn kind) >>= bodyOf kind rule mode) := by
  refine congrArg (Transaction.readOne (teamsOfIn kind) >>= ·) (funext fun found => ?_)
  cases found <;> rfl

variable {kind : TeamKind} {mode : Mode} {rule : Eligibility}

/-- The team of a pass is a team of its kind. -/
theorem mem_of_teamsOfIn {store : Store} {team : Team} (found : teamsOfIn kind store = [team]) :
    team ∈ store.teams ∧ team.kind = kind := by
  have inside : team ∈ teamsOfIn kind store := found ▸ List.mem_cons_self
  obtain ⟨member, same⟩ := List.mem_filter.mp inside
  exact ⟨member, of_decide_eq_true same⟩

/-- **A pass with any rule carries out its changes** in its session, for the users that the rule names; only
the time of change is left to be sent. -/
structure Carries (kind : TeamKind) (rule : Eligibility) (mode : Mode) (team : Team)
    (eligible : List Uuid) (session : Session) (result : PassResult) (named after : Session) : Prop where
  found : teamsOfIn kind session.store = [team]
  answers : rule.Answers mode.now session.store eligible
  result_eq : result = difference kind team.id (openStaysIn team.id session.store) eligible
  changed : result.changed = true
  settled : named.Settled
  store : named.store = session.store
  quiet : Keeps Session.Quiet (rule mode.now) → session.Quiet named
  made : ∃ middle, (changesIn team.id eligible session.store).forM (Change.make mode team
      (namesIn (result.added ++ result.removed) session.store)) named = .ok () middle
    ∧ after = { middle with staged := middle.staged ++ [retime mode team] }

/-- **The changes of a pass returned** in its session, and only the time of change is left to be sent. -/
structure Carried (kind : TeamKind) (mode : Mode) (team : Team) (session : Session)
    (result : PassResult) (after : Session) : Prop where
  found : teamsOfIn kind session.store = [team]
  result_eq : result = difference kind team.id (openStaysIn team.id session.store)
    (Eligibility.eligibleIn kind mode.now session.store)
  changed : result.changed = true
  made : ∃ names named middle, named.Settled ∧ session.Quiet named ∧ named.store = session.store
    ∧ (changesIn team.id (Eligibility.eligibleIn kind mode.now session.store) session.store).forM
        (Change.make mode team names) named = .ok () middle
    ∧ after = { middle with staged := middle.staged ++ [retime mode team] }

/-- **The changes of a pass were made** in its session, and only the time of change is left to be sent. -/
structure Applied (kind : TeamKind) (mode : Mode) (team : Team) (session : Session)
    (result : PassResult) (after : Session) : Prop where
  found : teamsOfIn kind session.store = [team]
  result_eq : result = difference kind team.id (openStaysIn team.id session.store)
    (Eligibility.eligibleIn kind mode.now session.store)
  changed : result.changed = true
  made : ∃ names middle, Progress mode team names session (changesIn team.id
      (Eligibility.eligibleIn kind mode.now session.store) session.store) middle
    ∧ after = { middle with staged := [retime mode team] }

/-- What concludes a pass writes nothing, or its changes return. -/
theorem conclude_eq_ok {team : Team} {store : Store} {session after : Session} {eligible : List Uuid}
    {result : PassResult} {name : Option String} {ending : Ending}
    (settled : session.Settled) (same : session.store = store)
    (ran : conclude mode team (openStaysIn team.id store)
      (difference kind team.id (openStaysIn team.id store) eligible) session
        = .ok ((result, name), ending) after) :
    result = difference kind team.id (openStaysIn team.id store) eligible
      ∧ (ending = .discard ∧ result.changed = false
        ∨ ending = .keep ∧ result.changed = true ∧ ∃ named middle,
          named.Settled ∧ session.Quiet named ∧ named.store = store
            ∧ (changesIn team.id eligible store).forM (Change.make mode team
              (namesIn (result.added ++ result.removed) store)) named = .ok () middle
            ∧ after = { middle with staged := middle.staged ++ [retime mode team] }) := by
  subst same
  unfold conclude at ran
  by_cases unchanged : (!(difference kind team.id (openStaysIn team.id session.store)
      eligible).changed) = true
  · rw [if_pos unchanged] at ran
    cases ran
    exact ⟨rfl, .inl ⟨rfl, by simpa using unchanged⟩⟩
  · rw [if_neg unchanged, applyDifference_eq] at ran
    obtain ⟨_, staged, applies, ⟨⟩⟩ := bind_eq_ok.mp ran
    obtain ⟨names, named, reads, applies⟩ := bind_eq_ok.mp applies
    obtain ⟨_, middle, made, ⟨⟩⟩ := bind_eq_ok.mp applies
    obtain ⟨settledNamed, store, rfl⟩ := Transaction.read_ok reads settled
    exact ⟨rfl, .inr ⟨rfl, by simpa using unchanged, named, middle, settledNamed,
      (Transaction.keeps_read _).of_ok reads, store, made, rfl⟩⟩

/-- **A body with any rule that returns** did nothing, or it carried out its changes. -/
theorem body_eq_ok_of_asks {session after : Session} {result : PassResult} {name : Option String}
    {ending : Ending} (asks : rule.OnlyAsks) (settled : session.Settled)
    (ran : body kind rule mode session = .ok ((result, name), ending) after) :
    ending = .discard ∧ result.changed = false ∧ (∀ team, teamsOfIn kind session.store = [team] →
        ∃ eligible, rule.Answers mode.now session.store eligible
          ∧ result = difference kind team.id (openStaysIn team.id session.store) eligible)
      ∨ ending = .keep ∧ ∃ team eligible named,
        Carries kind rule mode team eligible session result named after := by
  rw [body_eq] at ran
  obtain ⟨found, one, reads, ran⟩ := bind_eq_ok.mp ran
  obtain ⟨settledOne, storeOne, teams⟩ := Transaction.readOne_ok reads settled
  have quietOne := (Transaction.keeps_readOne _).of_ok reads
  cases found with
  | none =>
    cases ran
    refine .inl ⟨rfl, rfl, fun team found => ?_⟩
    rw [found] at teams
    cases teams
  | some team =>
    obtain ⟨stays, two, reads, ran⟩ := bind_eq_ok.mp ran
    obtain ⟨settledTwo, storeTwo, rfl⟩ := Transaction.read_ok reads settledOne
    have quietTwo := (Transaction.keeps_read _).of_ok reads
    obtain ⟨eligible, three, judges, ran⟩ := bind_eq_ok.mp ran
    obtain ⟨settledThree, storeThree⟩ := asks _ _ _ _ settledTwo judges
    have answers : rule.Answers mode.now session.store eligible :=
      ⟨two, three, settledTwo, storeTwo.trans storeOne, judges⟩
    rw [storeOne] at ran
    have store := storeThree.trans (storeTwo.trans storeOne)
    obtain ⟨same, ⟨rfl, unchanged⟩ | ⟨rfl, changed, named, middle, settledNamed, quietNamed,
      sameNamed, made, rfl⟩⟩ := conclude_eq_ok settledThree store ran
    · refine .inl ⟨rfl, unchanged, fun other found => ?_⟩
      rw [found] at teams
      obtain rfl : other = team := List.singleton_inj.mp teams
      exact ⟨eligible, answers, same⟩
    · refine .inr ⟨rfl, team, eligible, named, teams, answers, same, changed, settledNamed, sameNamed,
        fun quiet => ?_, middle, made, rfl⟩
      exact trans_of Session.Quiet (trans_of Session.Quiet (trans_of Session.Quiet quietOne quietTwo)
        (quiet.of_ok judges)) quietNamed

/-- With the rule of its kind a pass carries out the changes for those whom the rule names. -/
theorem Carries.carried {team : Team} {eligible : List Uuid} {session named after : Session}
    {result : PassResult} (builtIn : Eligibility.builtIn? kind = some rule)
    (carries : Carries kind rule mode team eligible session result named after) :
    Carried kind mode team session result after := by
  obtain ⟨found, answers, result_eq, changed, settled, store, quiet, middle, made, after_eq⟩ := carries
  obtain rfl := Eligibility.eq_eligibleIn_of_answers builtIn answers
  exact ⟨found, result_eq, changed, _, named, middle, settled,
    quiet (Eligibility.keeps_builtIn builtIn mode.now), store, made, after_eq⟩

/-- A body that returns did nothing, or its changes returned. -/
theorem body_eq_ok {session after : Session} {result : PassResult} {name : Option String}
    {ending : Ending} (builtIn : Eligibility.builtIn? kind = some rule) (settled : session.Settled)
    (ran : body kind rule mode session = .ok ((result, name), ending) after) :
    ending = .discard ∧ (∀ team, teamsOfIn kind session.store = [team] →
        result = difference kind team.id (openStaysIn team.id session.store)
          (Eligibility.eligibleIn kind mode.now session.store) ∧ result.changed = false)
      ∨ ending = .keep ∧ ∃ team, Carried kind mode team session result after := by
  rcases body_eq_ok_of_asks (Eligibility.onlyAsks_builtIn builtIn) settled ran with
    ⟨rfl, unchanged, known⟩ | ⟨rfl, team, eligible, named, carries⟩
  · refine .inl ⟨rfl, fun team found => ?_⟩
    obtain ⟨eligible, answers, same⟩ := known team found
    rw [← Eligibility.eq_eligibleIn_of_answers builtIn answers]
    exact ⟨same, unchanged⟩
  · exact .inr ⟨rfl, team, carries.carried builtIn⟩

namespace Carried

variable {team : Team} {session after : Session} {result : PassResult}
  (carried : Carried kind mode team session result after)

include carried

/-- **The stays of a pass were written**, whatever identifiers its events were given. -/
theorem moved (valid : session.store.Valid) : ∃ middle, Moved mode team session (changesIn team.id
      (Eligibility.eligibleIn kind mode.now session.store) session.store) middle
    ∧ after = { middle with staged := [retime mode team] } := by
  obtain ⟨names, named, middle, settled, quiet, store, made, rfl⟩ := carried.made
  have leaves : Leaves named.store (changesIn team.id
      (Eligibility.eligibleIn kind mode.now session.store) session.store) := by
    rw [store]
    exact leaves_changesIn valid
  have issued : named.surroundings.issued = session.surroundings.issued :=
    Surroundings.Quiet.issued quiet
  obtain ⟨settledMiddle, members, rest, issuedMembers⟩ := Moved.of_ok settled leaves made
  rw [store, issued] at members
  rw [store] at rest
  rw [issued] at issuedMembers
  refine ⟨middle, ⟨settledMiddle, members, rest, issuedMembers⟩, ?_⟩
  rw [settledMiddle.staged]
  rfl

/-- **The changes of a pass were made** if the identifiers of their events were free. -/
theorem applied {last : Nat} (valid : session.store.Valid)
    (free : Uuid.FreeBetween 14 session.surroundings.issued.events last
      (session.store.events.map OutboxEvent.id))
    (below : after.surroundings.issued.events ≤ last) :
    Applied kind mode team session result after := by
  obtain ⟨names, named, middle, settled, quiet, store, made, rfl⟩ := carried.made
  have leaves : Leaves named.store (changesIn team.id
      (Eligibility.eligibleIn kind mode.now session.store) session.store) := by
    rw [store]
    exact leaves_changesIn valid
  rw [← store, ← Surroundings.Quiet.issued quiet] at free
  have progress := Progress.of_ok settled leaves free made below
  refine ⟨carried.found, carried.result_eq, carried.changed, names, middle,
    progress.of_quiet quiet store, ?_⟩
  rw [progress.settled.staged]
  rfl

end Carried

/-- **What a body that returns has done**: nothing, or the changes of the difference. -/
theorem body_ok {session after : Session} {result : PassResult} {name : Option String}
    {ending : Ending} {last : Nat} (builtIn : Eligibility.builtIn? kind = some rule)
    (settled : session.Settled)
    (free : Uuid.FreeBetween 14 session.surroundings.issued.events last
      (session.store.events.map OutboxEvent.id))
    (ran : body kind rule mode session = .ok ((result, name), ending) after)
    (below : after.surroundings.issued.events ≤ last) :
    ending = .discard ∧ (∀ team, teamsOfIn kind session.store = [team] →
        result = difference kind team.id (openStaysIn team.id session.store)
          (Eligibility.eligibleIn kind mode.now session.store) ∧ result.changed = false)
      ∨ ending = .keep ∧ ∃ team, Applied kind mode team session result after := by
  refine (body_eq_ok builtIn settled ran).imp_right fun ⟨kept, team, carried⟩ => ?_
  exact ⟨kept, team, carried.applied settled.valid free below⟩

/-! ### Bodies that return -/

/-- Without an outage the conclusion of a pass returns if its changes are possible, and it issues at most
one identifier of an event for each. -/
theorem conclude_of_isUp {team : Team} {store : Store} {session : Session} {eligible : List Uuid}
    (settled : session.Settled) (up : session.surroundings.IsUp) (same : session.store = store)
    (enters : Enters team store (changesIn team.id eligible store))
    (free : HasFree session.surroundings.issued store (changesIn team.id eligible store).length) :
    ∃ result after, conclude mode team (openStaysIn team.id store)
        (difference kind team.id (openStaysIn team.id store) eligible) session = .ok result after
      ∧ after.surroundings.issued.events
        ≤ session.surroundings.issued.events + (changesIn team.id eligible store).length := by
  subst same
  unfold conclude
  by_cases unchanged : (!(difference kind team.id (openStaysIn team.id session.store)
      eligible).changed) = true
  · rw [if_pos unchanged]
    exact ⟨_, _, rfl, Nat.le_add_right _ _⟩
  · let result := difference kind team.id (openStaysIn team.id session.store) eligible
    have asked := @Transaction.read_of_settled _ (namesIn (result.added ++ result.removed)) _ settled up
    obtain ⟨middle, made, progress⟩ := @progress_of_isUp mode team
      (namesIn (result.added ++ result.removed) session.store) { session with opened := true }
      (changesIn team.id eligible session.store) ⟨settled.staged, settled.sound, settled.valid⟩ up
      (leaves_changesIn settled.valid) enters free
    have few := progress.events.issued_le
    rw [List.length_map] at few
    rw [if_neg unchanged, applyDifference_eq]
    exact ⟨_, _, bind_eq_ok.mpr ⟨(), _, bind_eq_ok.mpr ⟨_, _, asked,
      bind_eq_ok.mpr ⟨(), middle, made, rfl⟩⟩, rfl⟩, few⟩

/-- **Without an outage the body of a pass returns** if its changes are possible. -/
theorem body_of_isUp {team : Team} {session : Session} (builtIn : Eligibility.builtIn? kind = some rule)
    (settled : session.Settled) (up : session.surroundings.IsUp)
    (found : teamsOfIn kind session.store = [team])
    (enters : Enters team session.store (changesIn team.id
      (Eligibility.eligibleIn kind mode.now session.store) session.store))
    (free : HasFree session.surroundings.issued session.store (changesIn team.id
      (Eligibility.eligibleIn kind mode.now session.store) session.store).length) :
    ∃ result after, body kind rule mode session = .ok result after
      ∧ after.surroundings.issued.events ≤ session.surroundings.issued.events + (changesIn team.id
        (Eligibility.eligibleIn kind mode.now session.store) session.store).length := by
  have one := @Transaction.readOne_of_settled _ (teamsOfIn kind) session (some team) settled up found
  have two := @Transaction.read_of_settled _ (openStaysIn team.id) { session with opened := true }
    ⟨settled.staged, settled.sound, settled.valid⟩ up
  have settledOpened : ({ session with opened := true } : Session).Settled :=
    ⟨settled.staged, settled.sound, settled.valid⟩
  obtain ⟨asked, asks⟩ := (Eligibility.isQuestion_builtIn builtIn mode.now).up settledOpened up
  have three : rule mode.now { session with opened := true }
      = .ok (Eligibility.eligibleIn kind mode.now session.store) asked := asks
  have quiet := (Eligibility.keeps_builtIn builtIn mode.now).of_ok three
  have issued : asked.surroundings.issued = session.surroundings.issued :=
    Surroundings.Quiet.issued quiet
  obtain ⟨settledAsked, store, _⟩ := (Eligibility.isQuestion_builtIn builtIn mode.now).ok
    (by exact ⟨settled.staged, settled.sound, settled.valid⟩) three
  rw [← issued] at free
  obtain ⟨result, after, concludes, few⟩ := @conclude_of_isUp kind mode _ _ _ _ settledAsked
    (quiet.up up) store enters free
  rw [issued] at few
  rw [body_eq]
  exact ⟨result, after, bind_eq_ok.mpr ⟨_, _, one, bind_eq_ok.mpr ⟨_, _, two,
    bind_eq_ok.mpr ⟨_, _, three, concludes⟩⟩⟩, few⟩

/-! ### The commit -/

/-- The teams of which one got a time of change. -/
def retimed (team : Uuid) (moment : Instant) (teams : List Team) : List Team :=
  teams.map fun other => if other.id = team then { other with updatedAt := moment } else other

theorem replaced_eq_retimed {store : Store} {team : Team} (valid : store.Valid)
    (member : team ∈ store.teams) (moment : Instant) :
    Store.replaced Team.id team.id { team with updatedAt := moment } store.teams
      = retimed team.id moment store.teams := by
  refine List.map_congr_left fun other inside => ?_
  by_cases same : other.id = team.id
  · rw [if_pos same, if_pos same, Store.eq_of_id_eq valid.teamIds inside member same]
  · rw [if_neg same, if_neg same]

theorem retimed_updatedAt {store : Store} {team : Team} (valid : store.Valid)
    (member : team ∈ store.teams) : retimed team.id team.updatedAt store.teams = store.teams := by
  refine (List.map_congr_left fun other inside => ?_).trans (List.map_id' _)
  split
  · rename_i same
    rw [Store.eq_of_id_eq valid.teamIds inside member same]
  · rfl

/-- What does not look at the time of change sees the same teams. -/
theorem map_retimed {α : Type} {seen : Team → α} {teams : List Team} {one : Uuid} {moment : Instant}
    (blind : ∀ (team : Team) moment, seen { team with updatedAt := moment } = seen team) :
    (retimed one moment teams).map seen = teams.map seen := by
  rw [retimed, List.map_map]
  refine List.map_congr_left fun team _ => ?_
  rw [Function.comp_apply]
  split
  · exact blind team moment
  · rfl

theorem filter_retimed {wanted : Team → Bool} {teams : List Team} {one : Uuid} {moment : Instant}
    (blind : ∀ (team : Team) moment, wanted { team with updatedAt := moment } = wanted team) :
    (retimed one moment teams).filter wanted = retimed one moment (teams.filter wanted) := by
  rw [retimed, retimed, List.filter_map]
  refine congrArg (List.map _) (List.filter_congr fun team _ => ?_)
  rw [Function.comp_apply]
  split
  · exact blind team moment
  · rfl

theorem retimed_of_ne {teams : List Team} {one : Uuid} {moment : Instant}
    (elsewhere : ∀ team ∈ teams, team.id ≠ one) : retimed one moment teams = teams :=
  (List.map_congr_left fun team member => if_neg (elsewhere team member)).trans (List.map_id' _)

theorem valid_retimed {store : Store} (valid : store.Valid) (team : Uuid) (moment : Instant) :
    { store with teams := retimed team moment store.teams }.Valid := by
  refine valid.withTeams (map_retimed fun _ _ => rfl) (map_retimed fun _ _ => rfl) ?_
  rw [filter_retimed fun _ _ => rfl]
  exact map_retimed fun _ _ => rfl

/-- When a team was changed after a pass with changes: a time that would be shown as before is not sent. -/
def changeTime (mode : Mode) (team : Team) : Instant :=
  if team.updatedAt.universalText = mode.now.universalText then team.updatedAt else mode.now

theorem universalText_changeTime (mode : Mode) (team : Team) :
    (changeTime mode team).universalText = mode.now.universalText := by
  unfold changeTime
  split
  · assumption
  · rfl

/-- **The commit of a pass sends when the team changed.** -/
theorem commit_eq_ok {team : Team} {middle after : Session} (settled : middle.Settled)
    (member : team ∈ middle.store.teams)
    (ran : Transaction.commit { middle with staged := [retime mode team] } = .ok () after) :
    after.store.Valid ∧ after.store
      = { middle.store with teams := retimed team.id (changeTime mode team) middle.store.teams } := by
  obtain ⟨flushed, flushes, same⟩ := Transaction.commit_ok ran
  obtain ⟨settledFlushed, store⟩ := Transaction.flush_ok flushes settled.valid
  rw [same]
  refine ⟨settledFlushed.valid, ?_⟩
  have shown := @Store.alteredColumns_team_eq_nil middle.store team mode.now settled.valid.teamIds member
  rw [store, retime, statements_team, changeTime]
  by_cases unaltered : middle.store.alteredColumns (.team { team with updatedAt := mode.now }) = []
  · rw [if_pos unaltered, if_pos (shown.mp unaltered), retimed_updatedAt settled.valid member]
    rfl
  · rw [if_neg unaltered, if_neg (mt shown.mpr unaltered), ← replaced_eq_retimed settled.valid member]
    rfl

/-- The time that is sent is shown like that of the pass. -/
theorem commit_ok {team : Team} {middle after : Session} (settled : middle.Settled)
    (member : team ∈ middle.store.teams)
    (ran : Transaction.commit { middle with staged := [retime mode team] } = .ok () after) :
    after.store.Valid ∧ ∃ moment, moment.universalText = mode.now.universalText
      ∧ after.store = { middle.store with teams := retimed team.id moment middle.store.teams } := by
  obtain ⟨valid, store⟩ := commit_eq_ok settled member ran
  exact ⟨valid, changeTime mode team, universalText_changeTime mode team, store⟩

theorem commit_of_isUp {team : Team} {middle : Session} (settled : middle.Settled)
    (up : middle.surroundings.IsUp) (member : team ∈ middle.store.teams) :
    ∃ after, Transaction.commit { middle with staged := [retime mode team] } = .ok () after := by
  have along : middle.store.ValidAlong (statements middle.store [retime mode team]) := by
    rw [retime, statements_team]
    split
    · trivial
    · refine ⟨?_, trivial⟩
      have written := valid_retimed settled.valid team.id mode.now
      rwa [← replaced_eq_retimed settled.valid member] at written
  obtain ⟨opened, flushes⟩ := @Transaction.flush_of_isUp
    { middle with staged := [retime mode team] } up settled.sound along
  exact ⟨_, Transaction.commit_of_flush flushes up⟩

/-! ### Passes do not ask the groupware -/

theorem keeps_body (builtIn : Eligibility.builtIn? kind = some rule) :
    Keeps Session.Calm (body kind rule mode) := by
  have concludes : ∀ team stays result, Keeps Session.Calm (conclude mode team stays result) := by
    intro team stays result
    refine Keeps.ite (Keeps.bind (Transaction.keeps_act (Act.keeps_note _)) fun _ => Keeps.pure _)
      (Keeps.bind ?_ fun _ => Keeps.pure _)
    rw [applyDifference_eq]
    exact Keeps.bind (Transaction.keeps_read _).calm fun names =>
      Keeps.bind (Keeps.forM Change.keeps_make _) fun _ => (Transaction.keeps_stage _).calm
  rw [body_eq]
  refine Keeps.bind (Transaction.keeps_readOne _).calm fun found => ?_
  cases found with
  | none => exact Keeps.bind (Transaction.keeps_act (Act.keeps_note _)) fun _ => Keeps.pure _
  | some team =>
    exact Keeps.bind (Transaction.keeps_read _).calm fun stays =>
      Keeps.bind (Eligibility.keeps_builtIn builtIn _).calm fun eligible => concludes _ _ _

/-! ### The whole pass -/

/-- What a pass does with the outcome of its transaction, if there is a rule for it. -/
theorem pass_of_rule {given : Option Eligibility}
    (chosen : (given <|> Eligibility.builtIn? kind) = some rule) (world : World) :
    pass kind given mode world = match Application.transact (body kind rule mode) world with
      | .ok (result, name) after => .ok result { after with surroundings := { after.surroundings with
          journal := after.surroundings.journal ++ (name.map fun name =>
            Notice.teamSynced name result.added.length result.removed.length).toList } }
      | .error failure after => .error failure { after with surroundings := { after.surroundings with
          journal := after.surroundings.journal
            ++ if failure.isInterrupt then [] else [Notice.passFailed kind] } } := by
  unfold pass
  rw [chosen]
  show (tryCatch (Application.transact (body kind rule mode)) _ >>= _) world = _
  rw [bind_apply, tryCatch_apply]
  cases Application.transact (body kind rule mode) world with
  | ok found after =>
    obtain ⟨result, name⟩ := found
    cases name with
    | none =>
      simp only [Option.map_none, Option.toList_none, List.append_nil]
      rfl
    | some name => rfl
  | error failure after =>
    cases interrupt : failure.isInterrupt with
    | true =>
      simp only [interrupt, Bool.not_true, Bool.false_eq_true, if_false, if_true, List.append_nil]
      rfl
    | false =>
      simp only [interrupt, Bool.not_false, Bool.false_eq_true, if_false, if_true]
      rfl

theorem pass_apply (builtIn : Eligibility.builtIn? kind = some rule) (world : World) :
    pass kind none mode world = match Application.transact (body kind rule mode) world with
      | .ok (result, name) after => .ok result { after with surroundings := { after.surroundings with
          journal := after.surroundings.journal ++ (name.map fun name =>
            Notice.teamSynced name result.added.length result.removed.length).toList } }
      | .error failure after => .error failure { after with surroundings := { after.surroundings with
          journal := after.surroundings.journal
            ++ if failure.isInterrupt then [] else [Notice.passFailed kind] } } :=
  @pass_of_rule kind mode rule none builtIn world

/-- **A pass with changes was committed.** -/
structure Reconciled (kind : TeamKind) (mode : Mode) (team : Team) (world : World)
    (result : PassResult) (after : World) : Prop where
  found : teamsOfIn kind world.store = [team]
  result_eq : result = difference kind team.id (openStaysIn team.id world.store)
    (Eligibility.eligibleIn kind mode.now world.store)
  changed : result.changed = true
  valid : after.store.Valid
  made : ∃ names middle moment, Progress mode team names world.session (changesIn team.id
      (Eligibility.eligibleIn kind mode.now world.store) world.store) middle
    ∧ moment.universalText = mode.now.universalText
    ∧ after.store = { middle.store with teams := retimed team.id moment middle.store.teams }
    ∧ after.surroundings.issued = middle.surroundings.issued

namespace Reconciled

variable {team : Team} {world after : World} {result : PassResult}
  (reconciled : Reconciled kind mode team world result after)

include reconciled

/-- The orders of a pass with changes, and what became of them. -/
theorem events : Outbox.EnqueuedAll mode.now world.surroundings.issued.events world.store.events
    ((changesIn team.id (Eligibility.eligibleIn kind mode.now world.store) world.store).map
      (Change.order mode team)) after.surroundings.issued.events after.store.events := by
  obtain ⟨names, middle, moment, progress, _, store, issued⟩ := reconciled.made
  rw [store, issued]
  exact progress.events

theorem audit : ∃ names, after.store.audit = world.store.audit ++ entriesOf mode team names
    world.surroundings.issued.entries
      (changesIn team.id (Eligibility.eligibleIn kind mode.now world.store) world.store) := by
  obtain ⟨names, middle, moment, progress, _, store, _⟩ := reconciled.made
  rw [store]
  exact ⟨names, progress.audit⟩

theorem teams : ∃ moment, moment.universalText = mode.now.universalText
    ∧ after.store.teams = retimed team.id moment world.store.teams := by
  obtain ⟨names, middle, moment, progress, shown, store, _⟩ := reconciled.made
  rw [store, progress.rest]
  exact ⟨moment, shown, rfl⟩

/-- **A pass with changes leaves every other table alone.** -/
theorem rest : after.store = { world.store with
    members := after.store.members
    audit := after.store.audit
    events := after.store.events
    teams := after.store.teams } := by
  obtain ⟨names, middle, moment, progress, _, store, _⟩ := reconciled.made
  rw [store, progress.rest]
  rfl

end Reconciled

/-- **A pass with any rule that returns** wrote nothing, or it carried out its changes and they were
committed. -/
theorem pass_eq_ok_of_asks {given : Option Eligibility} {world after : World} {result : PassResult}
    (valid : world.store.Valid) (asks : ∀ rule ∈ given, rule.OnlyAsks)
    (ran : pass kind given mode world = .ok result after) :
    ∃ rule, (given <|> Eligibility.builtIn? kind) = some rule
      ∧ (after.store = world.store ∧ result.changed = false
          ∧ (∀ team, teamsOfIn kind world.store = [team] → ∃ eligible,
            rule.Answers mode.now world.store eligible
              ∧ result = difference kind team.id (openStaysIn team.id world.store) eligible)
        ∨ ∃ team eligible named session committed,
          Carries kind rule mode team eligible world.session result named session
            ∧ Transaction.commit session = .ok () committed ∧ after.store = committed.store
            ∧ after.surroundings.issued = session.surroundings.issued) := by
  cases chosen : given <|> Eligibility.builtIn? kind with
  | none =>
    unfold pass at ran
    rw [chosen] at ran
    cases ran
  | some rule =>
    have onlyAsks := Eligibility.OnlyAsks.of_chosen asks chosen
    refine ⟨rule, rfl, ?_⟩
    rw [pass_of_rule chosen] at ran
    cases transacts : Application.transact (body kind rule mode) world with
    | error failure final =>
      rw [transacts] at ran
      cases ran
    | ok named final =>
      obtain ⟨result, name⟩ := named
      rw [transacts] at ran
      cases ran
      obtain ⟨session, ⟨ran, rfl⟩ | ⟨committed, ran, commits, rfl⟩⟩ := Application.transact_ok transacts
      · rcases body_eq_ok_of_asks onlyAsks (World.settled_session valid) ran with
          ⟨_, unchanged, known⟩ | ⟨⟨⟩, _⟩
        exact .inl ⟨rfl, unchanged, known⟩
      · have issued : committed.surroundings.issued = session.surroundings.issued :=
          Surroundings.Quiet.issued (Transaction.keeps_commit.of_ok commits)
        rcases body_eq_ok_of_asks onlyAsks (World.settled_session valid) ran with
          ⟨⟨⟩, _⟩ | ⟨_, team, eligible, named, carries⟩
        exact .inr ⟨team, eligible, named, session, committed, carries, commits, rfl, issued⟩

/-- A pass that returns wrote nothing, or its changes returned and were committed. -/
theorem pass_eq_ok {world after : World} {result : PassResult} (valid : world.store.Valid)
    (ran : pass kind none mode world = .ok result after) :
    after.store = world.store ∧ (∀ team, teamsOfIn kind world.store = [team] →
        result = difference kind team.id (openStaysIn team.id world.store)
          (Eligibility.eligibleIn kind mode.now world.store) ∧ result.changed = false)
      ∨ ∃ team session committed, Carried kind mode team world.session result session
        ∧ Transaction.commit session = .ok () committed ∧ after.store = committed.store
        ∧ after.surroundings.issued = session.surroundings.issued := by
  obtain ⟨rule, builtIn, ⟨same, unchanged, known⟩ | ⟨team, eligible, named, session, committed, carries,
    commits, same, issued⟩⟩ := pass_eq_ok_of_asks valid Eligibility.onlyAsks_none ran
  · refine .inl ⟨same, fun team found => ?_⟩
    obtain ⟨eligible, answers, difference⟩ := known team found
    rw [← Eligibility.eq_eligibleIn_of_answers builtIn answers]
    exact ⟨difference, unchanged⟩
  · exact .inr ⟨team, session, committed, carries.carried builtIn, commits, same, issued⟩

/-- **A pass that returns** wrote nothing, or its changes were committed. -/
theorem pass_ok {world after : World} {result : PassResult} {last : Nat} (valid : world.store.Valid)
    (free : Uuid.FreeBetween 14 world.surroundings.issued.events last
      (world.store.events.map OutboxEvent.id))
    (ran : pass kind none mode world = .ok result after)
    (below : after.surroundings.issued.events ≤ last) :
    after.store = world.store ∧ (∀ team, teamsOfIn kind world.store = [team] →
        result = difference kind team.id (openStaysIn team.id world.store)
          (Eligibility.eligibleIn kind mode.now world.store) ∧ result.changed = false)
      ∨ ∃ team, Reconciled kind mode team world result after := by
  refine (pass_eq_ok valid ran).imp_right ?_
  rintro ⟨team, session, committed, carried, commits, same, issued⟩
  rw [issued] at below
  have applied := carried.applied valid free below
  obtain ⟨names, middle, progress, rfl⟩ := applied.made
  have member : team ∈ middle.store.teams := by
    rw [progress.rest]
    exact (mem_of_teamsOfIn applied.found).1
  obtain ⟨validAfter, moment, shown, store⟩ := commit_ok progress.settled member commits
  exact ⟨team, applied.found, applied.result_eq, applied.changed, same ▸ validAfter, names, middle,
    moment, progress, shown, same.trans store, issued⟩

/-- **A pass that fails leaves the store as it was**, whatever its rule. -/
theorem pass_error {given : Option Eligibility} {world after : World} {failure : Failure}
    (ran : pass kind given mode world = .error failure after) : after.store = world.store := by
  cases chosen : given <|> Eligibility.builtIn? kind with
  | none =>
    unfold pass at ran
    rw [chosen] at ran
    cases ran
    rfl
  | some rule =>
    rw [pass_of_rule chosen] at ran
    cases transacts : Application.transact (body kind rule mode) world with
    | error failure final =>
      rw [transacts] at ran
      cases ran
      exact (Application.transact_error transacts).1
    | ok named final =>
      rw [transacts] at ran
      cases ran

/-- **Without an outage a pass returns** if its changes are possible. -/
theorem pass_of_isUp {world : World} {team : Team} (builtIn : Eligibility.builtIn? kind = some rule)
    (valid : world.store.Valid) (up : world.surroundings.IsUp)
    (found : teamsOfIn kind world.store = [team])
    (enters : Enters team world.store (changesIn team.id
      (Eligibility.eligibleIn kind mode.now world.store) world.store))
    (free : HasFree world.surroundings.issued world.store (changesIn team.id
      (Eligibility.eligibleIn kind mode.now world.store) world.store).length) :
    ∃ result after, pass kind none mode world = .ok result after
      ∧ after.surroundings.issued.events ≤ world.surroundings.issued.events + (changesIn team.id
        (Eligibility.eligibleIn kind mode.now world.store) world.store).length := by
  obtain ⟨⟨⟨result, name⟩, ending⟩, session, ran, few⟩ := @body_of_isUp kind mode rule team _ builtIn
    (World.settled_session valid) up found enters free
  have upAfter := ((keeps_body builtIn).of_ok ran).up up
  rcases body_ok builtIn (World.settled_session valid) free.events ran few with
    ⟨rfl, _⟩ | ⟨rfl, other, applied⟩
  · have transacts := Application.transact_of_discard ran
    rw [pass_apply builtIn, transacts]
    exact ⟨_, _, rfl, few⟩
  · have inside := (mem_of_teamsOfIn applied.found).1
    obtain ⟨names, middle, progress, rfl⟩ := applied.made
    have member : other ∈ middle.store.teams := by
      rw [progress.rest]
      exact inside
    obtain ⟨final, commits⟩ := @commit_of_isUp mode other middle progress.settled upAfter member
    have transacts := Application.transact_of_keep ran commits
    have quiet := Transaction.keeps_commit.of_ok commits
    have issued : final.surroundings.issued = middle.surroundings.issued :=
      Surroundings.Quiet.issued quiet
    rw [pass_apply builtIn, transacts]
    refine ⟨_, _, rfl, ?_⟩
    show final.surroundings.issued.events ≤ _
    rw [issued]
    exact few

theorem keeps_pass (kind : TeamKind) (mode : Mode) : Keeps World.Calm (pass kind none mode) := by
  intro world
  cases builtIn : Eligibility.builtIn? kind with
  | none =>
    unfold pass
    rw [builtIn]
    exact refl_of World.Calm world
  | some rule =>
    have transacts := Application.keeps_transact (@keeps_body kind mode rule builtIn)
      Transaction.keeps_commit.calm world
    have noted : ∀ (after : World) (journal : List Notice), world.Calm after →
        world.Calm { after with surroundings := { after.surroundings with journal } } :=
      fun after journal calm => trans_of Surroundings.Calm calm (after.surroundings.calm_journal journal)
    rw [pass_apply builtIn]
    cases ran : Application.transact (body kind rule mode) world with
    | ok named after =>
      rw [ran] at transacts
      exact noted after _ transacts
    | error failure after =>
      rw [ran] at transacts
      exact noted after _ transacts

end Roster.Reconcile
