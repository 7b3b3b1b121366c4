/-
**The instants at which a standing may turn.**

What is asked about a user is compared with the beginnings and ends of the user's roles, with the beginnings
of the versions that bind everybody, and with the ends of their days of grace. Everything turns at such an
instant and not after it: what is asked just then is answered as it is from then on.

* `Store.Boundary` — these instants, for one user.
* `Store.IsQuiet` — none of them comes after one instant and up to another.
* `answers_turn_at_boundaries_only` — **between quiet instants the answers are the same**: the standing, what
  is missing, and the place in a team with a rule.
-/

import Roster.Proofs.Reconcile.Entitled
import Roster.Proofs.Standing.Deadlines

namespace Roster

open Standing

/-! ### The boundaries of a user -/

/-- **An instant at which something may turn for a user**, in microseconds: a role of the user begins or ends,
a version that binds everybody begins, or its days of grace end. -/
inductive Store.Boundary (store : Store) (user : Uuid) : Int → Prop where
  | roleBegins {grant : RoleGrant} :
      grant ∈ store.grants → grant.user = user → store.Boundary user grant.validFrom.micros
  | roleEnds {grant : RoleGrant} {finish : Instant} : grant ∈ store.grants → grant.user = user →
      grant.validTo = some finish → store.Boundary user finish.micros
  | versionBegins {version : DocumentVersion} {document : LegalDocument} :
      store.Binds Option.none version document → store.Boundary user version.effectiveFrom.micros
  | graceEnds {version : DocumentVersion} {document : LegalDocument} :
      store.Binds Option.none version document →
      store.Boundary user (version.effectiveFrom.micros + document.graceDays * Span.day)

/-- **Nothing turns for a user** after an instant and up to another. -/
structure Store.IsQuiet (store : Store) (user : Uuid) (earlier later : Instant) : Prop where
  ordered : earlier ≤ later
  still : ∀ moment, store.Boundary user moment → ¬ (earlier.micros < moment ∧ moment ≤ later.micros)

/-- Whether something lapsed is asked of each requirement in turn. -/
theorem Requirement.anyExpired_congr {required : List Requirement} {earlier later : Instant}
    (same : ∀ requirement ∈ required, requirement.isExpired earlier = requirement.isExpired later) :
    anyExpired earlier required = anyExpired later required := by
  induction required with
  | nil => rfl
  | cons requirement rest ih =>
    rw [anyExpired, anyExpired, same requirement List.mem_cons_self,
      ih fun other member => same other (List.mem_cons_of_mem _ member)]

/-- What is required is a version that binds. -/
theorem Standing.exists_binds_of_mem_requirementsIn {store : Store} {scope : Option Uuid} {now : Instant}
    {requirement : Requirement} (member : requirement ∈ requirementsIn scope now store) :
    ∃ version document, store.Binds scope version document ∧ requirement = .ofVersion version document := by
  obtain ⟨kept, latest, perm⟩ := Requirement.latest_current (requiredRowsIn scope now store) now
  obtain ⟨version, known, document, here, belongs, active, required, team, _, same⟩ :=
    Store.mem_inForce_iff.mp (latest.inside requirement (perm.mem_iff.mp member))
  exact ⟨version, document, ⟨known, here, belongs, active, required, team⟩, same⟩

/-! ### Quiet stretches -/

namespace Store.IsQuiet

variable {store : Store} {user : Uuid} {earlier later : Instant}
  (quiet : store.IsQuiet user earlier later)

include quiet

/-- A boundary that is reached in the end was reached in the beginning. -/
theorem reached_iff {moment : Int} (boundary : store.Boundary user moment) :
    moment ≤ earlier.micros ↔ moment ≤ later.micros := by
  have ordered : earlier.micros ≤ later.micros := quiet.ordered
  have still := quiet.still moment boundary
  omega

theorem begun_iff {version : DocumentVersion} {document : LegalDocument}
    (binds : store.Binds Option.none version document) :
    version.effectiveFrom ≤ earlier ↔ version.effectiveFrom ≤ later :=
  quiet.reached_iff (.versionBegins binds)

theorem isActive_eq {grant : RoleGrant} (known : grant ∈ store.grants) (mine : grant.user = user) :
    grant.isActive earlier = grant.isActive later := by
  have begins : grant.validFrom ≤ earlier ↔ grant.validFrom ≤ later :=
    quiet.reached_iff (.roleBegins known mine)
  unfold RoleGrant.isActive RoleGrant.window Window.covers
  dsimp only
  rw [decide_eq_decide.mpr begins]
  cases ends : grant.validTo with
  | none => rfl
  | some finish =>
    have reached : finish ≤ earlier ↔ finish ≤ later := quiet.reached_iff (.roleEnds known mine ends)
    have ahead : earlier < finish ↔ later < finish := by
      rw [← not_iff_not, Instant.not_lt, Instant.not_lt]
      exact reached
    rw [Option.all_some, Option.all_some, decide_eq_decide.mpr ahead]

theorem activeGrantsIn_eq : activeGrantsIn user earlier store = activeGrantsIn user later store := by
  refine List.filter_congr fun grant known => decide_eq_decide.mpr (and_congr_right fun mine => ?_)
  rw [quiet.isActive_eq known mine]

theorem requiredRowsIn_eq :
    requiredRowsIn Option.none earlier store = requiredRowsIn Option.none later store := by
  refine List.flatMap_congr fun version known => congrArg _ (List.filter_congr fun document here => ?_)
  refine decide_eq_decide.mpr (and_congr_right fun belongs => and_congr_right fun active =>
    and_congr_right fun required => and_congr_right fun team => ?_)
  exact quiet.begun_iff ⟨known, here, belongs, active, required, team⟩

/-- **The requirements are the same**, since a version that begins, even one that begins at the later
instant, is a boundary. -/
theorem requirementsIn_eq :
    requirementsIn Option.none earlier store = requirementsIn Option.none later store := by
  have begun : ∀ row ∈ requiredRowsIn Option.none later store,
      decide (row.1.effectiveFrom ≤ earlier) = decide (row.1.effectiveFrom ≤ later) := fun row listed =>
    decide_eq_decide.mpr (quiet.begun_iff (Store.mem_requiredRowsIn_iff.mp listed).1)
  rw [requirementsIn, requirementsIn, quiet.requiredRowsIn_eq]
  unfold Requirement.current
  rw [List.filter_congr begun]

theorem missingIn_eq :
    missingIn user earlier Option.none store = missingIn user later Option.none store := by
  rw [missingIn, missingIn, quiet.requirementsIn_eq]

theorem isExpired_eq {version : DocumentVersion} {document : LegalDocument}
    (binds : store.Binds Option.none version document) :
    (Requirement.ofVersion version document).isExpired earlier
      = (Requirement.ofVersion version document).isExpired later := by
  unfold Requirement.isExpired
  cases found : (Requirement.ofVersion version document).deadline with
  | error error => rfl
  | ok deadline =>
    have reached : deadline ≤ earlier ↔ deadline ≤ later := by
      rw [Instant.le_iff, Instant.le_iff, Requirement.deadline_micros found]
      exact quiet.reached_iff (.graceEnds binds)
    exact congrArg Except.ok (decide_eq_decide.mpr reached)

/-- **The search for a lapsed requirement ends alike**, and it fails alike. -/
theorem anyExpired_eq :
    Requirement.anyExpired earlier (missingIn user later Option.none store)
      = Requirement.anyExpired later (missingIn user later Option.none store) := by
  refine Requirement.anyExpired_congr fun requirement member => ?_
  obtain ⟨version, document, binds, rfl⟩ :=
    exists_binds_of_mem_requirementsIn (List.mem_filter.mp member).1
  exact quiet.isExpired_eq binds

theorem standingIn_eq (profile : Option Profile) :
    standingIn user earlier store profile = standingIn user later store profile := by
  unfold standingIn standingInForce
  rw [quiet.activeGrantsIn_eq, quiet.missingIn_eq, quiet.anyExpired_eq]

/-- The roles of others may begin and end meanwhile: only the place of this user is the same. -/
theorem mem_eligibleIn_iff (kind : TeamKind) :
    user ∈ Eligibility.eligibleIn kind earlier store ↔ user ∈ Eligibility.eligibleIn kind later store := by
  cases kind with
  | none => exact Iff.rfl
  | metaleads => exact Iff.rfl
  | volunteers =>
    rw [Eligibility.eligibleIn, Eligibility.eligibleIn, withAllConsentsIn, withAllConsentsIn,
      quiet.requirementsIn_eq]
  | board =>
    simp only [Eligibility.eligibleIn, Eligibility.boardIn, mem_distinct, List.mem_map, List.mem_filter,
      decide_eq_true_eq]
    refine exists_congr fun grant => and_congr_left fun mine => and_congr_right fun known => ?_
    rw [quiet.isActive_eq known mine]

end Store.IsQuiet

/-! ### The answers -/

namespace Standing

variable {store : Store} {user : Uuid} {earlier later : Instant}

/-- **Between quiet instants the answers about a user are the same**: the standing, which is found if the
deadlines can be told, the versions missing, and whether a rule names the user. -/
theorem answers_turn_at_boundaries_only (quiet : store.IsQuiet user earlier later) :
    (∃ result, Replies (load user earlier) store result ∧ Replies (load user later) store result
        ∧ (store.Valid → store.DeadlinesInRange earlier → ∃ standing, result = .ok standing))
      ∧ (∃ missing, Replies (missingConsents user earlier Option.none) store (.ok missing)
        ∧ Replies (missingConsents user later Option.none) store (.ok missing))
      ∧ ∀ kind rule, Eligibility.builtIn? kind = some rule → ∃ before after,
        Replies (rule earlier) store (.ok before) ∧ Replies (rule later) store (.ok after)
          ∧ (user ∈ before ↔ user ∈ after) := by
  refine ⟨⟨_, (isQuestion_load user earlier).of_store store, ?_, fun valid inRange => ?_⟩,
    ⟨_, (isQuestion_missingConsents user earlier Option.none).of_store store, ?_⟩,
    fun kind rule builtIn => ⟨_, _, (Eligibility.isQuestion_builtIn builtIn earlier).of_store store,
      (Eligibility.isQuestion_builtIn builtIn later).of_store store, quiet.mem_eligibleIn_iff kind⟩⟩
  · simp only [quiet.standingIn_eq]
    exact (isQuestion_load user later).of_store store
  · obtain ⟨profile, found⟩ := exists_profilesIn_eq_toList valid user
    obtain ⟨standing, computed, _⟩ := standingIn_of_deadlines valid inRange found
    have replies := replies_load found earlier
    rw [computed] at replies
    exact ⟨standing, ((isQuestion_load user earlier).of_store store).unique replies⟩
  · rw [quiet.missingIn_eq]
    exact (isQuestion_missingConsents user later Option.none).of_store store

/-- A board member from the fifth microsecond to before the eighth, who has a day to agree to a document that
begins with the term. In between another board member begins, and a version for the members of a team. -/
def boardTerm : Store where
  users := [{ (default : User) with id := .numbered 1 1 }, { (default : User) with id := .numbered 1 2 }]
  profiles := [{ (default : Profile) with user := .numbered 1 1, isApproved := true }]
  teams := [{ (default : Team) with id := .numbered 5 1 }]
  grants := [{ (default : RoleGrant) with
      id := .numbered 4 1, user := .numbered 1 1, roleName := Eligibility.boardRole
      validFrom := ⟨5, ⟨0⟩, by decide⟩, validTo := some ⟨8, ⟨0⟩, by decide⟩ },
    { (default : RoleGrant) with
      id := .numbered 4 2, user := .numbered 1 2, roleName := Eligibility.boardRole
      validFrom := ⟨6, ⟨0⟩, by decide⟩ }]
  documents := [{ (default : LegalDocument) with
      id := .numbered 6 1, isRequired := true, isActive := true, graceDays := 1 },
    { (default : LegalDocument) with
      id := .numbered 6 2, isRequired := true, isActive := true, team := some (.numbered 5 1) }]
  versions := [{ (default : DocumentVersion) with
      id := .numbered 7 1, document := .numbered 6 1, effectiveFrom := ⟨5, ⟨0⟩, by decide⟩ },
    { (default : DocumentVersion) with
      id := .numbered 7 2, document := .numbered 6 2, effectiveFrom := ⟨6, ⟨0⟩, by decide⟩ }]

theorem isQuiet_boardTerm :
    boardTerm.IsQuiet (.numbered 1 1) ⟨5, ⟨0⟩, by decide⟩ ⟨7, ⟨0⟩, by decide⟩ where
  ordered := by decide
  still := by
    have mine : ∀ grant ∈ boardTerm.grants, grant.user = .numbered 1 1 →
        grant.validFrom.micros = 5 ∧ grant.validTo = some ⟨8, ⟨0⟩, by decide⟩ := by decide +kernel
    have common : ∀ version ∈ boardTerm.versions, ∀ document ∈ boardTerm.documents,
        version.document = document.id → document.team = Option.none →
        version.effectiveFrom.micros = 5 ∧ document.graceDays = 1 := by decide +kernel
    rintro moment (⟨known, user⟩ | ⟨known, user, ends⟩ | binds | binds)
    · rw [(mine _ known user).1]
      decide
    · rw [(mine _ known user).2] at ends
      cases ends
      decide
    · rw [(common _ binds.version_mem _ binds.document_mem binds.belongs binds.team).1]
      decide
    · obtain ⟨begins, grace⟩ := common _ binds.version_mem _ binds.document_mem binds.belongs binds.team
      rw [begins, grace]
      decide

/-- The standing lasts to the end of the term, where it goes in that very microsecond. -/
theorem boardTerm_lasts :
    boardTerm.IsQuiet (.numbered 1 1) ⟨5, ⟨0⟩, by decide⟩ ⟨7, ⟨0⟩, by decide⟩
      ∧ Replies (load (.numbered 1 1) ⟨7, ⟨0⟩, by decide⟩) boardTerm (.ok .active)
      ∧ Replies (load (.numbered 1 1) ⟨8, ⟨0⟩, by decide⟩) boardTerm (.ok .none)
      ∧ Replies (missingConsents (.numbered 1 1) ⟨7, ⟨0⟩, by decide⟩ Option.none) boardTerm
        (.ok [.numbered 7 1]) := by
  have found : profilesIn (.numbered 1 1) boardTerm = (boardTerm.profiles.head?).toList := by decide
  have active : standingIn (.numbered 1 1) ⟨5, ⟨0⟩, by decide⟩ boardTerm boardTerm.profiles.head?
      = .ok .active := by decide +kernel
  have missing : (missingIn (.numbered 1 1) ⟨5, ⟨0⟩, by decide⟩ Option.none boardTerm).map
      Requirement.version = [.numbered 7 1] := by decide +kernel
  obtain ⟨⟨_, before, after, _⟩, ⟨_, missed, misses⟩, _⟩ :=
    answers_turn_at_boundaries_only isQuiet_boardTerm
  refine ⟨isQuiet_boardTerm, ?_, replies_load found _, ?_⟩
  · rwa [before.unique (replies_load found _), active] at after
  · have same := missed.unique ((isQuestion_missingConsents _ _ _).of_store boardTerm)
    rwa [same, missing] at misses

end Standing

end Roster
