/-
**Who is entitled to be in a derived team.**

Each rule asks the store once or a few times; what it asks for is said here of the store itself, without
the look-ups.

* `Store.Entitled` — the user is to be in the team of a kind.
* `Eligibility.isQuestion_builtIn` — a rule is a question; `Eligibility.mem_eligibleIn_iff` — **its answer
  are the users who are entitled**.
* `Eligibility.OnlyAsks` — what is expected of any other rule; `Eligibility.Answers` — whom a rule names.
-/

import Roster.Eligibility
import Roster.Proofs.Standing.Lookup

namespace Roster

/-- **The user is to be in the team of a kind**: volunteers have an approved profile that is not suspended
and agreed to whatever is required of everybody, metaleads lead a team without a rule, and the board
holds a board role in force. -/
def Store.Entitled (store : Store) (kind : TeamKind) (now : Instant) (user : Uuid) : Prop :=
  match kind with
  | .none => False
  | .volunteers =>
    (∃ profile ∈ store.profiles,
      profile.user = user ∧ profile.isApproved = true ∧ profile.isSuspended = false)
      ∧ ∀ version document, store.Requires none now version document →
        store.AgreedTo user version.id
  | .metaleads =>
    ∃ stay ∈ store.members, stay.user = user ∧ stay.isOpen = true ∧ stay.role = .metalead
      ∧ ∃ team ∈ store.teams, team.id = stay.team ∧ team.kind = .none
  | .board =>
    ∃ grant ∈ store.grants,
      grant.user = user ∧ grant.roleName = Eligibility.boardRole ∧ grant.isActive now = true

namespace Eligibility

/-- The answer of a rule. -/
def eligibleIn (kind : TeamKind) (now : Instant) (store : Store) : List Uuid :=
  match kind with
  | .none => []
  | .volunteers => Standing.withAllConsentsIn (candidatesIn store) now none store
  | .metaleads => metaleadsIn store
  | .board => boardIn now store

theorem isQuestion_builtIn {kind : TeamKind} {rule : Eligibility} (builtIn : builtIn? kind = some rule)
    (now : Instant) : IsQuestion (rule now) fun store => .ok (eligibleIn kind now store) := by
  cases kind with
  | none => cases builtIn
  | volunteers =>
    cases builtIn
    exact IsQuestion.bind_read (fun candidates store =>
      .ok (Standing.withAllConsentsIn candidates now none store)) fun candidates =>
        Standing.isQuestion_withAllConsents candidates now none
  | metaleads =>
    cases builtIn
    exact IsQuestion.read metaleadsIn
  | board =>
    cases builtIn
    exact IsQuestion.read (boardIn now)

/-- Every derived team has a rule. -/
theorem exists_builtIn {kind : TeamKind} (system : kind ≠ .none) : ∃ rule, builtIn? kind = some rule := by
  cases kind with
  | none => exact absurd rfl system
  | volunteers => exact ⟨_, rfl⟩
  | metaleads => exact ⟨_, rfl⟩
  | board => exact ⟨_, rfl⟩

/-- A rule only sends statements. -/
theorem keeps_builtIn {kind : TeamKind} {rule : Eligibility} (builtIn : builtIn? kind = some rule)
    (now : Instant) : Keeps Session.Quiet (rule now) := by
  cases kind with
  | none => cases builtIn
  | volunteers =>
    cases builtIn
    refine Keeps.bind (Transaction.keeps_read _) fun candidates => ?_
    unfold Standing.withAllConsents
    refine Keeps.ite (Keeps.pure _) (Keeps.bind (Transaction.keeps_read _) fun required => ?_)
    exact Keeps.ite (Keeps.pure _)
      (Keeps.bind (Consent.keeps_versionsOfAll _ _) fun consented => Keeps.pure _)
  | metaleads =>
    cases builtIn
    exact Transaction.keeps_read _
  | board =>
    cases builtIn
    exact Transaction.keeps_read _

/-! ### Any rule -/

/-- **A rule only asks**: when it answers, nothing is staged and the store is as it was. It may answer with
any users, and it may fail. -/
def OnlyAsks (rule : Eligibility) : Prop :=
  ∀ (now : Instant) (session after : Session) (users : List Uuid), session.Settled →
    rule now session = .ok users after → after.Settled ∧ after.store = session.store

/-- Asked about a store, the rule named these users. -/
def Answers (rule : Eligibility) (now : Instant) (store : Store) (users : List Uuid) : Prop :=
  ∃ session after, session.Settled ∧ session.store = store ∧ rule now session = .ok users after

theorem onlyAsks_builtIn {kind : TeamKind} {rule : Eligibility} (builtIn : builtIn? kind = some rule) :
    rule.OnlyAsks := fun now _ _ _ settled asks => by
  obtain ⟨settledAfter, store, _⟩ := (isQuestion_builtIn builtIn now).ok settled asks
  exact ⟨settledAfter, store⟩

theorem onlyAsks_none : ∀ rule ∈ (none : Option Eligibility), rule.OnlyAsks := by
  rintro rule ⟨⟩

/-- A rule that always names the same users only asks. -/
theorem onlyAsks_pure (users : List Uuid) : OnlyAsks fun _ => pure users := by
  intro now session after named settled asks
  cases asks
  exact ⟨settled, rfl⟩

/-- The rule of a kind names the same users whoever asks. -/
theorem eq_eligibleIn_of_answers {kind : TeamKind} {rule : Eligibility} {now : Instant} {store : Store}
    {users : List Uuid} (builtIn : builtIn? kind = some rule) (answers : rule.Answers now store users) :
    users = eligibleIn kind now store := by
  obtain ⟨session, after, settled, rfl, asks⟩ := answers
  obtain ⟨_, _, answer⟩ := (isQuestion_builtIn builtIn now).ok settled asks
  exact (Except.ok.inj answer).symm

/-- The rule of a pass only asks, the given one or that of the kind. -/
theorem OnlyAsks.of_chosen {kind : TeamKind} {given : Option Eligibility} {rule : Eligibility}
    (asks : ∀ rule ∈ given, rule.OnlyAsks) (chosen : (given <|> builtIn? kind) = some rule) :
    rule.OnlyAsks := by
  cases given with
  | none => exact onlyAsks_builtIn chosen
  | some other =>
    obtain rfl : other = rule := Option.some.inj chosen
    exact asks other rfl

/-! ### Whom the rules name -/

variable {store : Store} {now : Instant} {user : Uuid}

theorem agreesTo_requirementsIn_iff (valid : store.Valid) {scope : Option Uuid} :
    Standing.agreesTo ((Standing.requirementsIn scope now store).map Requirement.version) store user
        = true
      ↔ ∀ version document, store.Requires scope now version document →
        store.AgreedTo user version.id := by
  rw [Standing.agreesTo, List.all_eq_true]
  simp only [List.contains_iff_mem, Store.mem_versionsIn_iff, List.mem_map]
  constructor
  · intro all version document requires
    exact all _ ⟨_, valid.mem_current_iff.mpr ⟨version, document, requires, rfl⟩, rfl⟩
  · rintro all _ ⟨requirement, member, rfl⟩
    obtain ⟨version, document, requires, rfl⟩ := valid.mem_current_iff.mp member
    exact all version document requires

/-- **The answer of a rule are the users who are entitled.** -/
theorem mem_eligibleIn_iff (valid : store.Valid) {kind : TeamKind} :
    user ∈ eligibleIn kind now store ↔ store.Entitled kind now user := by
  cases kind with
  | none => exact ⟨nofun, False.elim⟩
  | volunteers =>
    rw [eligibleIn, Standing.withAllConsentsIn, List.mem_filter, mem_distinct,
      agreesTo_requirementsIn_iff valid, candidatesIn, mem_distinct]
    refine and_congr_left fun _ => ?_
    simp only [List.mem_map, List.mem_filter, decide_eq_true_eq, Bool.not_eq_true']
    exact ⟨fun ⟨profile, ⟨inside, flags⟩, same⟩ => ⟨profile, inside, same, flags⟩,
      fun ⟨profile, inside, same, flags⟩ => ⟨profile, ⟨inside, flags⟩, same⟩⟩
  | metaleads =>
    rw [eligibleIn, metaleadsIn, mem_distinct]
    simp only [List.mem_map, List.mem_filter, decide_eq_true_eq, List.any_eq_true]
    exact ⟨fun ⟨stay, ⟨inside, leads⟩, same⟩ => ⟨stay, inside, same, leads⟩,
      fun ⟨stay, inside, same, leads⟩ => ⟨stay, ⟨inside, leads⟩, same⟩⟩
  | board =>
    rw [eligibleIn, boardIn, mem_distinct]
    simp only [List.mem_map, List.mem_filter, decide_eq_true_eq]
    exact ⟨fun ⟨grant, ⟨inside, holds⟩, same⟩ => ⟨grant, inside, same, holds⟩,
      fun ⟨grant, inside, same, holds⟩ => ⟨grant, ⟨inside, holds⟩, same⟩⟩

end Eligibility

end Roster
