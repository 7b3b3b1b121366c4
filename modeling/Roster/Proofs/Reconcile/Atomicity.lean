/-
**A pass changes everything or nothing.**

A pass can fail while it looks for its team and its members, while its rule is asked, while names are looked
up, at any of its changes and at the commit. Before that it may have begun and ended stays, written entries,
placed events and superseded others; with the failure all of this is given up, and the failure itself is
passed on.

A run over the derived teams is a pass for each of them. Between two passes the surroundings may change as
they like: the signal to stop may be raised, and the database may be lost.

* `Breaks` — **where a pass breaks**; `pass_eq_error` — a pass fails there and nowhere else.
* `passesAmid`, `allAmid` — runs over derived teams while the surroundings change.
* `passesAmid_append` — what is done first is done as if it were alone.
* `reconciliation_is_all_or_nothing` — a pass that fails leaves nothing behind, and **a run that is stopped
  leaves what the passes before it left**.
-/

import Roster.Proofs.Reconcile.Pass

namespace Roster

/-- The world after a change of its surroundings. -/
def World.amid (world : World) (change : Surroundings → Surroundings) : World :=
  { world with surroundings := change world.surroundings }

/-- The world with one more notice in its journal. -/
def World.noted (world : World) (notice : Notice) : World :=
  world.amid fun now => { now with journal := now.journal ++ [notice] }

namespace Reconcile

open EStateM (Result)

variable {kind : TeamKind} {rule : Eligibility} {given : Option Eligibility} {mode : Mode}
  {session : Session} {failure : Failure} {world : World}

/-! ### Where a pass breaks -/

/-- A pass has found its team. -/
def Finds (kind : TeamKind) (session : Session) (team : Team) (found : Session) : Prop :=
  Transaction.readOne (teamsOfIn kind) session = .ok (some team) found

/-- A pass has found its team and who is in it. -/
structure Sees (kind : TeamKind) (session : Session) (team : Team) (stays : List TeamMember)
    (seen : Session) : Prop where
  members : ∃ found, Finds kind session team found
    ∧ Transaction.read (openStaysIn team.id) found = .ok stays seen

/-- A pass knows the difference between its team and its rule, and there is one. -/
structure Differs (kind : TeamKind) (rule : Eligibility) (mode : Mode) (session : Session) (team : Team)
    (stays : List TeamMember) (result : PassResult) (known : Session) : Prop where
  judged : ∃ seen eligible, Sees kind session team stays seen ∧ rule mode.now seen = .ok eligible known
    ∧ result = difference kind team.id stays eligible
  changed : result.changed = true

/-- A pass knows the names and has made some of its changes. -/
structure Underway (kind : TeamKind) (rule : Eligibility) (mode : Mode) (session : Session) (team : Team)
    (names : List (Uuid × String)) (done left : List Change) (reached : Session) : Prop where
  made : ∃ stays result known named, Differs kind rule mode session team stays result known
    ∧ Transaction.read (namesIn (result.added ++ result.removed)) known = .ok names named
    ∧ changesOf stays result.added result.removed = done ++ left
    ∧ done.forM (Change.make mode team names) named = .ok () reached

/-- **Where a pass breaks**: at the look-up of its team, of the members or of their names, at its rule, at one
of its changes after some that were made, or at the commit after all of them. -/
inductive Breaks (kind : TeamKind) (rule : Eligibility) (mode : Mode) (session : Session)
    (failure : Failure) : Prop where
  | team {stopped : Session}
      (struck : Transaction.readOne (teamsOfIn kind) session = .error failure stopped) :
      Breaks kind rule mode session failure
  | members {team : Team} {found stopped : Session} (finds : Finds kind session team found)
      (struck : Transaction.read (openStaysIn team.id) found = .error failure stopped) :
      Breaks kind rule mode session failure
  | rule {team : Team} {stays : List TeamMember} {seen stopped : Session}
      (sees : Sees kind session team stays seen)
      (struck : rule mode.now seen = .error failure stopped) : Breaks kind rule mode session failure
  | names {team : Team} {stays : List TeamMember} {result : PassResult} {known stopped : Session}
      (differs : Differs kind rule mode session team stays result known)
      (struck : Transaction.read (namesIn (result.added ++ result.removed)) known
        = .error failure stopped) : Breaks kind rule mode session failure
  | change {team : Team} {names : List (Uuid × String)} {done left : List Change} {change : Change}
      {reached stopped : Session}
      (underway : Underway kind rule mode session team names done (change :: left) reached)
      (struck : change.make mode team names reached = .error failure stopped) :
      Breaks kind rule mode session failure
  | commit {team : Team} {names : List (Uuid × String)} {done : List Change} {reached stopped : Session}
      (underway : Underway kind rule mode session team names done [] reached)
      (struck : Transaction.commit { reached with staged := reached.staged ++ [retime mode team] }
        = .error failure stopped) : Breaks kind rule mode session failure

/-- What concludes a pass fails if there is a difference and applying it fails. -/
theorem conclude_eq_error {team : Team} {stays : List TeamMember} {result : PassResult}
    {stopped : Session} :
    conclude mode team stays result session = .error failure stopped ↔ result.changed = true
      ∧ applyDifference mode team stays result.added result.removed session = .error failure stopped := by
  unfold conclude
  cases changed : result.changed with
  | false => exact ⟨nofun, nofun⟩
  | true =>
    have fails := @bind_eq_error Failure Session Unit ((PassResult × Option String) × Ending)
      (applyDifference mode team stays result.added result.removed)
      (fun _ => pure ((result, some team.name), .keep)) session stopped failure
    simpa using fails

/-- What concludes a pass is committed if there is a difference and it was applied. -/
theorem conclude_eq_keep {team : Team} {stays : List TeamMember} {result : PassResult}
    {named : PassResult × Option String} {after : Session} :
    conclude mode team stays result session = .ok (named, .keep) after ↔ result.changed = true
      ∧ named = (result, some team.name)
      ∧ applyDifference mode team stays result.added result.removed session = .ok () after := by
  unfold conclude
  cases changed : result.changed with
  | false =>
    refine ⟨fun ran => ?_, nofun⟩
    cases ran
  | true =>
    have returns := @bind_eq_ok Failure Session Unit ((PassResult × Option String) × Ending)
      (applyDifference mode team stays result.added result.removed)
      (fun _ => pure ((result, some team.name), .keep)) session after (named, .keep)
    simp only [Bool.not_true, Bool.false_eq_true, if_false, true_and]
    refine returns.trans ⟨?_, ?_⟩
    · rintro ⟨_, middle, applied, ⟨⟩⟩
      exact ⟨rfl, applied⟩
    · rintro ⟨rfl, applied⟩
      exact ⟨(), after, applied, rfl⟩

/-- Applying a difference fails if the names cannot be read, or at the first change that cannot be made. -/
theorem applyDifference_eq_error {team : Team} {stays : List TeamMember} {added removed : List Uuid}
    {stopped : Session} :
    applyDifference mode team stays added removed session = .error failure stopped ↔
      Transaction.read (namesIn (added ++ removed)) session = .error failure stopped
        ∨ ∃ names named, Transaction.read (namesIn (added ++ removed)) session = .ok names named
          ∧ ∃ done change left reached, changesOf stays added removed = done ++ change :: left
            ∧ done.forM (Change.make mode team names) named = .ok () reached
            ∧ change.make mode team names reached = .error failure stopped := by
  rw [applyDifference_eq, bind_eq_error]
  refine or_congr_right (exists_congr fun names => exists_congr fun named => and_congr_right fun _ => ?_)
  rw [bind_eq_error, forM_eq_error]
  refine ⟨?_, .inl⟩
  rintro (failed | ⟨_, reached, _, staged⟩)
  · exact failed
  · cases staged

/-- A difference was applied if all its changes were made; the time of the change is left to be sent. -/
theorem applyDifference_eq_ok {team : Team} {stays : List TeamMember} {added removed : List Uuid}
    {after : Session} :
    applyDifference mode team stays added removed session = .ok () after ↔
      ∃ names named reached, Transaction.read (namesIn (added ++ removed)) session = .ok names named
        ∧ (changesOf stays added removed).forM (Change.make mode team names) named = .ok () reached
        ∧ after = { reached with staged := reached.staged ++ [retime mode team] } := by
  rw [applyDifference_eq, bind_eq_ok]
  constructor
  · rintro ⟨names, named, reads, applied⟩
    obtain ⟨_, reached, made, staged⟩ := bind_eq_ok.mp applied
    cases staged
    exact ⟨names, named, reached, reads, made, rfl⟩
  · rintro ⟨names, named, reached, reads, made, rfl⟩
    exact ⟨names, named, reads, bind_eq_ok.mpr ⟨(), reached, made, rfl⟩⟩

/-- What a pass does once it knows its team fails at a point where a pass breaks. -/
theorem Breaks.of_bodyOf {team : Team} {found stopped : Session} (finds : Finds kind session team found)
    (failed : bodyOf kind rule mode (some team) found = .error failure stopped) :
    Breaks kind rule mode session failure := by
  unfold bodyOf at failed
  rcases bind_eq_error.mp failed with struck | ⟨stays, seen, reads, failed⟩
  · exact .members finds struck
  have sees : Sees kind session team stays seen := ⟨found, finds, reads⟩
  rcases bind_eq_error.mp failed with struck | ⟨eligible, known, judged, failed⟩
  · exact .rule sees struck
  obtain ⟨changed, failed⟩ := conclude_eq_error.mp failed
  have differs : Differs kind rule mode session team stays _ known :=
    ⟨⟨seen, eligible, sees, judged, rfl⟩, changed⟩
  rcases applyDifference_eq_error.mp failed with
    struck | ⟨names, named, reads, done, change, left, reached, split, made, struck⟩
  · exact .names differs struck
  · exact .change ⟨stays, _, known, named, differs, reads, split, made⟩ struck

/-- What a pass wants committed are all changes of its difference. -/
theorem Underway.of_bodyOf {team : Team} {found committed : Session}
    {result : PassResult × Option String} (finds : Finds kind session team found)
    (kept : bodyOf kind rule mode (some team) found = .ok (result, .keep) committed) :
    ∃ names done reached, Underway kind rule mode session team names done [] reached
      ∧ committed = { reached with staged := reached.staged ++ [retime mode team] } := by
  unfold bodyOf at kept
  obtain ⟨stays, seen, reads, kept⟩ := bind_eq_ok.mp kept
  obtain ⟨eligible, known, judged, kept⟩ := bind_eq_ok.mp kept
  obtain ⟨changed, rfl, applied⟩ := conclude_eq_keep.mp kept
  obtain ⟨names, named, reached, asked, made, rfl⟩ := applyDifference_eq_ok.mp applied
  have sees : Sees kind session team stays seen := ⟨found, finds, reads⟩
  refine ⟨names, _, reached, ⟨stays, _, known, named, ⟨⟨seen, eligible, sees, judged, rfl⟩, changed⟩,
    asked, ?_, made⟩, rfl⟩
  rw [List.append_nil]

/-- What a pass does once it has found its team. -/
theorem Finds.body_apply {team : Team} {found : Session} (finds : Finds kind session team found) :
    body kind rule mode session = (Transaction.read (openStaysIn team.id) >>= fun stays =>
      rule mode.now >>= fun eligible =>
        conclude mode team stays (difference kind team.id stays eligible)) found := by
  rw [body_eq]
  exact bind_of_ok finds

/-- What a pass does once it has seen who is in its team. -/
theorem Sees.body_apply {team : Team} {stays : List TeamMember} {seen : Session}
    (sees : Sees kind session team stays seen) :
    body kind rule mode session = (rule mode.now >>= fun eligible =>
      conclude mode team stays (difference kind team.id stays eligible)) seen := by
  obtain ⟨found, finds, reads⟩ := sees.members
  rw [finds.body_apply, bind_of_ok reads]

/-- What a pass does once it knows that there is a difference. -/
theorem Differs.body_apply {team : Team} {stays : List TeamMember} {result : PassResult}
    {known : Session} (differs : Differs kind rule mode session team stays result known) :
    body kind rule mode session = conclude mode team stays result known := by
  obtain ⟨seen, eligible, sees, judged, rfl⟩ := differs.judged
  rw [sees.body_apply, bind_of_ok judged]

/-- What a pass does once it has made some of its changes. -/
theorem Underway.body_apply {team : Team} {names : List (Uuid × String)} {done left : List Change}
    {reached : Session} (underway : Underway kind rule mode session team names done left reached) :
    ∃ result, body kind rule mode session
      = (left.forM (Change.make mode team names) >>= fun _ => Transaction.stage (retime mode team)
          >>= fun _ => pure ((result, some team.name), .keep)) reached := by
  obtain ⟨stays, result, known, named, differs, asked, split, made⟩ := underway.made
  refine ⟨result, ?_⟩
  rw [differs.body_apply]
  unfold conclude
  rw [differs.changed]
  show (applyDifference mode team stays _ _ >>= _) known = _
  rw [applyDifference_eq, bind_assoc, bind_of_ok asked, split, forM_append_apply, bind_assoc,
    bind_assoc, bind_of_ok made]

/-- **A pass breaks where its transaction fails.** -/
theorem transact_eq_error_iff_breaks :
    (∃ after, Application.transact (body kind rule mode) world = .error failure after) ↔
      Breaks kind rule mode world.session failure := by
  rw [Application.transact_eq_error]
  constructor
  · rintro (⟨stopped, failed⟩ | ⟨result, committed, stopped, kept, failed⟩)
    · rw [body_eq] at failed
      rcases bind_eq_error.mp failed with struck | ⟨answer, found, finds, failed⟩
      · exact .team struck
      · cases answer with
        | none => cases failed
        | some team => exact .of_bodyOf finds failed
    · rw [body_eq] at kept
      obtain ⟨answer, found, finds, kept⟩ := bind_eq_ok.mp kept
      cases answer with
      | none => cases kept
      | some team =>
        obtain ⟨names, done, reached, underway, rfl⟩ := Underway.of_bodyOf finds kept
        exact .commit underway failed
  · intro breaks
    cases breaks with
    | @team stopped struck =>
      refine .inl ⟨stopped, ?_⟩
      rw [body_eq]
      exact bind_eq_error.mpr (.inl struck)
    | @members team found stopped finds struck =>
      refine .inl ⟨stopped, ?_⟩
      rw [finds.body_apply]
      exact bind_eq_error.mpr (.inl struck)
    | @rule team stays seen stopped sees struck =>
      refine .inl ⟨stopped, ?_⟩
      rw [sees.body_apply]
      exact bind_eq_error.mpr (.inl struck)
    | @names team stays result known stopped differs struck =>
      refine .inl ⟨stopped, ?_⟩
      rw [differs.body_apply]
      exact conclude_eq_error.mpr ⟨differs.changed, applyDifference_eq_error.mpr (.inl struck)⟩
    | change underway struck =>
      obtain ⟨result, goesOn⟩ := underway.body_apply
      exact .inl ⟨_, goesOn.trans (bind_eq_error.mpr (.inl (bind_eq_error.mpr (.inl struck))))⟩
    | commit underway struck =>
      obtain ⟨result, goesOn⟩ := underway.body_apply
      exact .inr ⟨_, _, _, goesOn, struck⟩

/-- **A pass fails exactly where it breaks**, or for want of a rule. -/
theorem pass_eq_error : (∃ after, pass kind given mode world = .error failure after) ↔
    ((given <|> Eligibility.builtIn? kind) = none ∧ failure = .noRule kind)
      ∨ ∃ rule, (given <|> Eligibility.builtIn? kind) = some rule
        ∧ Breaks kind rule mode world.session failure := by
  cases chosen : given <|> Eligibility.builtIn? kind with
  | none =>
    have fails : pass kind given mode world = .error (.noRule kind) world := by
      unfold pass
      rw [chosen]
      rfl
    rw [fails]
    constructor
    · rintro ⟨_, ⟨⟩⟩
      exact .inl ⟨rfl, rfl⟩
    · rintro (⟨_, rfl⟩ | ⟨_, ⟨⟩, _⟩)
      exact ⟨_, rfl⟩
  | some rule =>
    have breaks : Breaks kind rule mode world.session failure ↔ _ :=
      transact_eq_error_iff_breaks.symm
    simp only [reduceCtorEq, false_and, Option.some.injEq, exists_eq_left', false_or, breaks]
    rw [pass_of_rule chosen]
    cases transacts : Application.transact (body kind rule mode) world with
    | ok named after =>
      constructor
      · rintro ⟨_, ⟨⟩⟩
      · rintro ⟨_, ⟨⟩⟩
    | error failed after =>
      constructor
      · rintro ⟨_, ⟨⟩⟩
        exact ⟨_, rfl⟩
      · rintro ⟨_, ⟨⟩⟩
        exact ⟨_, rfl⟩

/-! ### Runs while the surroundings change -/

/-- Reconciles the teams of some kinds, until the signal to stop; before each of them something happens to
the surroundings. -/
def passesAmid (mode : Mode) (happens : TeamKind → Surroundings → Surroundings) :
    List TeamKind → Application SyncRun
  | [] => return {}
  | kind :: rest => do
    modify (·.amid (happens kind))
    if ← Act.isCancelled then
      Act.note (.syncCancelled kind)
      return { cancelled := true }
    else
      let result ← pass kind none mode
      let later ← passesAmid mode happens rest
      return { later with passes := result :: later.passes }

/-- Reconciles the three derived teams while the surroundings change. -/
def allAmid (mode : Mode) (happens : TeamKind → Surroundings → Surroundings) : Application SyncRun := do
  Act.note (.syncStarted mode.now)
  let run ← passesAmid mode happens order
  Act.note (.syncCompleted run.passes.length (run.passes.filter PassResult.changed).length
    run.cancelled)
  return run

variable {happens : TeamKind → Surroundings → Surroundings} {kinds rest done : List TeamKind}
  {run : SyncRun} {after between : World} {result : PassResult}

/-- Nothing needs to happen between two passes. -/
theorem passes_eq_passesAmid (mode : Mode) (kinds : List TeamKind) :
    passes mode kinds = passesAmid mode (fun _ => id) kinds := by
  induction kinds with
  | nil => rfl
  | cons kind rest ih =>
    unfold passes passesAmid
    rw [ih]
    rfl

theorem all_eq_allAmid (mode : Mode) : all mode = allAmid mode fun _ => id := by
  unfold all allAmid
  rw [passes_eq_passesAmid]

/-- Nothing is done after the signal to stop. -/
theorem passesAmid_of_cancelled
    (cancelled : (world.amid (happens kind)).surroundings.cancelled = true) :
    passesAmid mode happens (kind :: rest) world
      = .ok { cancelled := true } ((world.amid (happens kind)).noted (.syncCancelled kind)) := by
  show (if (world.amid (happens kind)).surroundings.cancelled = true then _ else _ :
    Application SyncRun) (world.amid (happens kind)) = _
  rw [if_pos cancelled]
  rfl

/-- Without the signal to stop there is a pass, and then the others. -/
theorem passesAmid_of_goes_on
    (goesOn : (world.amid (happens kind)).surroundings.cancelled = false) :
    passesAmid mode happens (kind :: rest) world = (pass kind none mode >>= fun result =>
      passesAmid mode happens rest >>= fun later =>
        pure { later with passes := result :: later.passes }) (world.amid (happens kind)) := by
  show (if (world.amid (happens kind)).surroundings.cancelled = true then _ else _ :
    Application SyncRun) (world.amid (happens kind)) = _
  rw [goesOn]
  rfl

/-- **What is done first is done as if it were alone**, and the rest goes on from what it left. -/
theorem passesAmid_append (first : passesAmid mode happens done world = .ok run between)
    (uncancelled : run.cancelled = false) :
    passesAmid mode happens (done ++ rest) world = (passesAmid mode happens rest >>= fun later =>
      pure { later with passes := run.passes ++ later.passes }) between := by
  induction done generalizing world run with
  | nil =>
    cases first
    exact (congrFun (bind_pure (passesAmid mode happens rest)) between).symm
  | cons kind done ih =>
    cases signal : (world.amid (happens kind)).surroundings.cancelled with
    | true =>
      rw [passesAmid_of_cancelled signal] at first
      cases first
      cases uncancelled
    | false =>
      rw [passesAmid_of_goes_on signal] at first
      obtain ⟨result, passed, passes, first⟩ := bind_eq_ok.mp first
      obtain ⟨later, _, first, ⟨⟩⟩ := bind_eq_ok.mp first
      rw [List.cons_append, passesAmid_of_goes_on signal, bind_of_ok passes, bind_apply,
        ih first uncancelled, bind_apply, bind_apply]
      cases passesAmid mode happens rest between <;> rfl

/-- **A run comes to a team**: those before it were reconciled, and the signal to stop was not raised
before any of them. -/
structure ComesTo (mode : Mode) (happens : TeamKind → Surroundings → Surroundings)
    (kinds : List TeamKind) (world : World) (done : List TeamKind) (kind : TeamKind) (run : SyncRun)
    (between : World) : Prop where
  position : ∃ rest, kinds = done ++ kind :: rest
  first : passesAmid mode happens done world = .ok run between
  uncancelled : run.cancelled = false

namespace ComesTo

/-- A run comes to the first of its teams. -/
theorem head : ComesTo mode happens (kind :: rest) world [] kind {} world :=
  ⟨⟨rest, rfl⟩, rfl, rfl⟩

/-- A run comes to a team after a pass if the rest of it does. -/
theorem cons {passed : World} {later : TeamKind}
    (goesOn : (world.amid (happens kind)).surroundings.cancelled = false)
    (passes : pass kind none mode (world.amid (happens kind)) = .ok result passed)
    (comes : ComesTo mode happens rest passed done later run between) :
    ComesTo mode happens (kind :: rest) world (kind :: done) later
      { run with passes := result :: run.passes } between := by
  obtain ⟨⟨others, rfl⟩, first, uncancelled⟩ := comes
  refine ⟨⟨others, rfl⟩, ?_, uncancelled⟩
  rw [passesAmid_of_goes_on goesOn, bind_of_ok passes, bind_of_ok first]
  rfl

/-- A run that comes to a team with the signal to stop ends there. -/
theorem of_cancelled (comes : ComesTo mode happens kinds world done kind run between)
    (cancelled : (between.amid (happens kind)).surroundings.cancelled = true) :
    passesAmid mode happens kinds world = .ok { run with cancelled := true }
      ((between.amid (happens kind)).noted (.syncCancelled kind)) := by
  obtain ⟨⟨rest, rfl⟩, first, uncancelled⟩ := comes
  rw [passesAmid_append first uncancelled, bind_of_ok (passesAmid_of_cancelled cancelled)]
  show Result.ok _ _ = _
  rw [List.append_nil]

/-- A run fails with the pass to which it comes. -/
theorem of_error (comes : ComesTo mode happens kinds world done kind run between)
    (goesOn : (between.amid (happens kind)).surroundings.cancelled = false)
    (failed : pass kind none mode (between.amid (happens kind)) = .error failure after) :
    passesAmid mode happens kinds world = .error failure after := by
  obtain ⟨⟨rest, rfl⟩, first, uncancelled⟩ := comes
  rw [passesAmid_append first uncancelled]
  refine bind_eq_error.mpr (.inl ?_)
  rw [passesAmid_of_goes_on goesOn]
  exact bind_eq_error.mpr (.inl failed)

end ComesTo

/-- **A run reconciles all its teams, or it comes to one** with the signal to stop or with a pass that
fails. -/
theorem passesAmid_cases (mode : Mode) (happens : TeamKind → Surroundings → Surroundings)
    (kinds : List TeamKind) (world : World) :
    (∃ run after, passesAmid mode happens kinds world = .ok run after ∧ run.cancelled = false)
      ∨ ∃ done kind run between, ComesTo mode happens kinds world done kind run between
        ∧ ((between.amid (happens kind)).surroundings.cancelled = true
          ∨ (between.amid (happens kind)).surroundings.cancelled = false
            ∧ ∃ failure after,
              pass kind none mode (between.amid (happens kind)) = .error failure after) := by
  induction kinds generalizing world with
  | nil => exact .inl ⟨{}, world, rfl, rfl⟩
  | cons kind rest ih =>
    cases signal : (world.amid (happens kind)).surroundings.cancelled with
    | true => exact .inr ⟨[], kind, {}, world, .head, .inl signal⟩
    | false =>
      cases passes : pass kind none mode (world.amid (happens kind)) with
      | error failure after =>
        exact .inr ⟨[], kind, {}, world, .head, .inr ⟨signal, failure, after, passes⟩⟩
      | ok result passed =>
        rcases ih passed with ⟨run, after, ran, uncancelled⟩ | ⟨done, later, run, between, comes, stops⟩
        · refine .inl ⟨{ run with passes := result :: run.passes }, after, ?_, uncancelled⟩
          rw [passesAmid_of_goes_on signal, bind_of_ok passes, bind_of_ok ran]
          rfl
        · exact .inr ⟨kind :: done, later, _, between, .cons signal passes comes, stops⟩

/-- What becomes of the outcome of the passes. -/
theorem allAmid_apply (mode : Mode) (happens : TeamKind → Surroundings → Surroundings) (world : World) :
    allAmid mode happens world
      = match passesAmid mode happens order (world.noted (.syncStarted mode.now)) with
        | .ok run after => .ok run (after.noted (.syncCompleted run.passes.length
            (run.passes.filter PassResult.changed).length run.cancelled))
        | .error failure after => .error failure after := by
  show (passesAmid mode happens order >>= _) (world.noted (.syncStarted mode.now)) = _
  rw [bind_apply]
  cases passesAmid mode happens order (world.noted (.syncStarted mode.now)) <;> rfl

/-- A run leaves the store that its passes leave. -/
theorem store_allAmid : (endOf (allAmid mode happens world)).store
    = (endOf (passesAmid mode happens order (world.noted (.syncStarted mode.now)))).store := by
  rw [allAmid_apply]
  cases passesAmid mode happens order (world.noted (.syncStarted mode.now)) <;> rfl

/-- A run that a caller gets is that of its passes. -/
theorem allAmid_eq_ok (ran : allAmid mode happens world = .ok run after) :
    ∃ final, passesAmid mode happens order (world.noted (.syncStarted mode.now)) = .ok run final := by
  rw [allAmid_apply] at ran
  cases passes : passesAmid mode happens order (world.noted (.syncStarted mode.now)) with
  | ok other final =>
    rw [passes] at ran
    cases ran
    exact ⟨final, rfl⟩
  | error failure final =>
    rw [passes] at ran
    cases ran

/-- A run that comes to a team with the signal to stop leaves what the passes before it left. -/
theorem ComesTo.allAmid_of_cancelled
    (comes : ComesTo mode happens order (world.noted (.syncStarted mode.now)) done kind run between)
    (cancelled : (between.amid (happens kind)).surroundings.cancelled = true) :
    ∃ after, allAmid mode happens world = .ok { run with cancelled := true } after
      ∧ after.store = between.store := by
  rw [allAmid_apply, comes.of_cancelled cancelled]
  exact ⟨_, rfl, rfl⟩

/-- A run that comes to a pass that fails fails with it and leaves what the passes before it left. -/
theorem ComesTo.allAmid_of_error
    (comes : ComesTo mode happens order (world.noted (.syncStarted mode.now)) done kind run between)
    (goesOn : (between.amid (happens kind)).surroundings.cancelled = false)
    (failed : pass kind none mode (between.amid (happens kind)) = .error failure after) :
    ∃ after, allAmid mode happens world = .error failure after ∧ after.store = between.store := by
  rw [allAmid_apply, comes.of_error goesOn failed]
  refine ⟨after, rfl, ?_⟩
  show after.store = (between.amid (happens kind)).store
  exact pass_error failed

/-- **A run that fails came to a pass that fails.** -/
theorem allAmid_eq_error (ran : allAmid mode happens world = .error failure after) :
    ∃ done kind run between,
      ComesTo mode happens order (world.noted (.syncStarted mode.now)) done kind run between
        ∧ (between.amid (happens kind)).surroundings.cancelled = false
        ∧ ∃ broken, pass kind none mode (between.amid (happens kind)) = .error failure broken := by
  rcases passesAmid_cases mode happens order (world.noted (.syncStarted mode.now)) with
    ⟨run, final, passes, _⟩ | ⟨done, kind, run, between, comes, cancelled | ⟨goesOn, failed, broken, fails⟩⟩
  · rw [allAmid_apply, passes] at ran
    cases ran
  · obtain ⟨_, stopped, _⟩ := comes.allAmid_of_cancelled cancelled
    rw [stopped] at ran
    cases ran
  · obtain ⟨_, stopped, _⟩ := comes.allAmid_of_error goesOn fails
    rw [stopped] at ran
    cases ran
    exact ⟨done, kind, run, between, comes, goesOn, broken, fails⟩

/-- **A run that was cancelled came to a team with the signal to stop.** -/
theorem allAmid_eq_ok_cancelled (ran : allAmid mode happens world = .ok run after)
    (cancelled : run.cancelled = true) : ∃ done kind run between,
      ComesTo mode happens order (world.noted (.syncStarted mode.now)) done kind run between
        ∧ (between.amid (happens kind)).surroundings.cancelled = true := by
  rcases passesAmid_cases mode happens order (world.noted (.syncStarted mode.now)) with
    ⟨other, final, passes, uncancelled⟩
      | ⟨done, kind, first, between, comes, signal | ⟨goesOn, failed, broken, fails⟩⟩
  · rw [allAmid_apply, passes] at ran
    cases ran
    rw [uncancelled] at cancelled
    cases cancelled
  · exact ⟨done, kind, first, between, comes, signal⟩
  · obtain ⟨_, stopped, _⟩ := comes.allAmid_of_error goesOn fails
    rw [stopped] at ran
    cases ran

/-! ### All or nothing -/

/-- **Reconciling is all or nothing for each team.** A pass, with any rule, fails exactly where it breaks
and with that failure, and then the store is as it was. A run over the derived teams, whatever happens
between its passes, that comes to a team with the signal to stop or with a pass that fails is over, and the
store is what the passes before it left when they ran alone; it fails and is cancelled in no other way. -/
theorem reconciliation_is_all_or_nothing (mode : Mode) :
    (∀ kind given world failure,
      ((∃ after, pass kind given mode world = .error failure after) ↔
        ((given <|> Eligibility.builtIn? kind) = none ∧ failure = .noRule kind)
          ∨ ∃ rule, (given <|> Eligibility.builtIn? kind) = some rule
            ∧ Breaks kind rule mode world.session failure)
      ∧ ∀ after, pass kind given mode world = .error failure after → after.store = world.store)
    ∧ all mode = allAmid mode (fun _ => id)
    ∧ ∀ happens world,
      (∀ done kind run between,
        ComesTo mode happens order (world.noted (.syncStarted mode.now)) done kind run between →
          ((between.amid (happens kind)).surroundings.cancelled = true →
            ∃ after, allAmid mode happens world = .ok { run with cancelled := true } after
              ∧ after.store = between.store)
          ∧ ((between.amid (happens kind)).surroundings.cancelled = false → ∀ failure broken,
            pass kind none mode (between.amid (happens kind)) = .error failure broken →
              ∃ after, allAmid mode happens world = .error failure after
                ∧ after.store = between.store))
      ∧ (∀ failure after, allAmid mode happens world = .error failure after →
          ∃ done kind run between,
            ComesTo mode happens order (world.noted (.syncStarted mode.now)) done kind run between
              ∧ (between.amid (happens kind)).surroundings.cancelled = false ∧ ∃ broken,
                pass kind none mode (between.amid (happens kind)) = .error failure broken)
      ∧ ∀ run after, allAmid mode happens world = .ok run after → run.cancelled = true →
          ∃ done kind run between,
            ComesTo mode happens order (world.noted (.syncStarted mode.now)) done kind run between
              ∧ (between.amid (happens kind)).surroundings.cancelled = true := by
  refine ⟨fun kind given world failure => ⟨pass_eq_error, fun after failed => pass_error failed⟩,
    all_eq_allAmid mode, fun happens world => ⟨fun done kind run between comes => ⟨?_, ?_⟩, ?_, ?_⟩⟩
  · intro cancelled
    exact comes.allAmid_of_cancelled cancelled
  · intro goesOn failure broken failed
    exact comes.allAmid_of_error goesOn failed
  · intro failure after failed
    exact allAmid_eq_error failed
  · intro run after ran cancelled
    exact allAmid_eq_ok_cancelled ran cancelled

/-- A newcomer with an approved profile, a volunteer without a profile, and the three derived teams. -/
def turnover : World where
  surroundings := default
  store :=
    let newcomer : Uuid := .numbered 1 1
    let leaver : Uuid := .numbered 1 2
    let team (number : Nat) (kind : TeamKind) : Team :=
      { (default : Team) with id := .numbered 2 number, slug := kind.label, kind }
    { users := [{ (default : User) with id := newcomer }, { (default : User) with id := leaver }]
      profiles := [{ (default : Profile) with user := newcomer, isApproved := true }]
      teams := [team 1 .volunteers, team 2 .metaleads, team 3 .board]
      members := [{ (default : TeamMember) with team := .numbered 2 1, user := leaver }] }

/-- The connection to the database is lost after some statements of a sort. -/
def losing (stops : StatementKind) (passes : Nat) (now : Surroundings) : Surroundings :=
  { now with outage := some { stops, message := "connection lost", passes } }

/-- The connection to the database is lost before the pass over the metaleads. -/
def losingMetaleads : TeamKind → Surroundings → Surroundings
  | .metaleads => losing .read 0
  | _ => id

/-- A pass that loses its connection once the newcomer is added leaves the volunteer in the team; if the
connection is lost before the next pass, the newcomer stays in their place. -/
theorem lost_connection_keeps_volunteers :
    (∃ failure after, pass .volunteers none default (turnover.amid (losing .write 4))
        = .error failure after
      ∧ Breaks .volunteers Eligibility.volunteers default
        (turnover.amid (losing .write 4)).session failure
      ∧ after.store = turnover.store)
    ∧ ∃ failure after, ∃ between : World,
      allAmid default losingMetaleads turnover = .error failure after
        ∧ after.store = between.store
        ∧ (openStaysIn (.numbered 2 1) between.store).map TeamMember.user = [.numbered 1 1] := by
  obtain ⟨fails, _, runs⟩ := reconciliation_is_all_or_nothing default
  have lost : ∃ failure after,
      pass .volunteers none default (turnover.amid (losing .write 4)) = .error failure after := by
    decide +kernel
  have adds : ∃ run between, passesAmid default losingMetaleads [.volunteers]
        (turnover.noted (.syncStarted (default : Mode).now)) = .ok run between
      ∧ run.cancelled = false
      ∧ (between.amid (losingMetaleads .metaleads)).surroundings.cancelled = false
      ∧ (openStaysIn (.numbered 2 1) between.store).map TeamMember.user = [.numbered 1 1]
      ∧ ∃ failure stopped, pass .metaleads none default (between.amid (losingMetaleads .metaleads))
        = .error failure stopped := by decide +kernel
  constructor
  · obtain ⟨failure, after, ran⟩ := lost
    obtain ⟨breaks, kept⟩ := fails .volunteers none (turnover.amid (losing .write 4)) failure
    rcases breaks.mp ⟨after, ran⟩ with ⟨⟨⟩, _⟩ | ⟨rule, ⟨⟩, broken⟩
    exact ⟨failure, after, ran, broken, kept after ran⟩
  · obtain ⟨run, between, first, uncancelled, goesOn, members, failure, stopped, broken⟩ := adds
    obtain ⟨after, ran, store⟩ := ((runs losingMetaleads turnover).1 [.volunteers] .metaleads run
      between ⟨⟨[.board], rfl⟩, first, uncancelled⟩).2 goesOn failure stopped broken
    exact ⟨failure, after, between, ran, store, members⟩

end Reconcile

end Roster
