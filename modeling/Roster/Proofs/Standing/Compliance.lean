/-
**The compliance report and the standings.**

The report is found from the roles in force and from the requirements past their days of grace, the
standing of a member by rules of which the profile comes first. While no deadline is out of range both
are found, and they agree about every user with an accepted profile.

* `Store.HoldsRole`, `Store.HasLapsed`, `Store.IsAccepted` — the three facts that decide.
* `Standing.report_lists_lapsed` — **the report lists the role holders whose consent has lapsed**, the job
  counts and notes exactly those, and the inactive members are the ones among them with an accepted
  profile.
-/

import Roster.Job.Work
import Roster.Proofs.Session.Transact
import Roster.Proofs.Standing.Lookup

namespace Roster

/-! ### What decides about a member -/

namespace Requirement

/-- The days of grace have a last instant, and it has come. -/
def isPast (requirement : Requirement) (now : Instant) : Bool :=
  match requirement.deadline with
  | .ok deadline => deadline ≤ now
  | .error _ => false

theorem isPast_iff {requirement : Requirement} {now : Instant} :
    requirement.isPast now = true ↔
      ∃ deadline, requirement.deadline = .ok deadline ∧ deadline ≤ now := by
  unfold isPast
  cases requirement.deadline with
  | ok deadline => simp
  | error error => simp

theorem isExpired_of_deadline {requirement : Requirement} {now deadline : Instant}
    (found : requirement.deadline = .ok deadline) :
    requirement.isExpired now = .ok (requirement.isPast now) := by
  unfold isExpired isPast
  rw [found]
  rfl

variable {required : List Requirement} {now : Instant}

/-- Looking for the first lapsed requirement comes to asking whether there is one. -/
theorem anyExpired_of_deadlines
    (inRange : ∀ requirement ∈ required, ∃ deadline, requirement.deadline = .ok deadline) :
    anyExpired now required = .ok (required.any (·.isPast now)) := by
  induction required with
  | nil => rfl
  | cons requirement rest ih =>
    obtain ⟨deadline, found⟩ := inRange requirement List.mem_cons_self
    have later := ih fun other member => inRange other (List.mem_cons_of_mem _ member)
    rw [anyExpired, isExpired_of_deadline found, List.any_cons]
    cases requirement.isPast now with
    | true => rfl
    | false => exact later

theorem filterAuxM_isExpired_of_deadlines
    (inRange : ∀ requirement ∈ required, ∃ deadline, requirement.deadline = .ok deadline)
    (kept : List Requirement) :
    required.filterAuxM (·.isExpired now) kept
      = .ok ((required.filter (·.isPast now)).reverse ++ kept) := by
  induction required generalizing kept with
  | nil => rfl
  | cons requirement rest ih =>
    obtain ⟨deadline, found⟩ := inRange requirement List.mem_cons_self
    have later := ih fun other member => inRange other (List.mem_cons_of_mem _ member)
    rw [List.filterAuxM, isExpired_of_deadline found, List.filter_cons]
    cases requirement.isPast now with
    | true =>
      rw [if_pos rfl, List.reverse_cons, List.append_assoc]
      exact later (requirement :: kept)
    | false => exact later kept

end Requirement

namespace Store

/-- No deadline of what is required of everybody is out of range. -/
def DeadlinesInRange (store : Store) (now : Instant) : Prop :=
  ∀ version document, store.Requires none now version document →
    ∃ deadline, (Requirement.ofVersion version document).deadline = .ok deadline

/-- The user has a role in force. -/
def HoldsRole (store : Store) (now : Instant) (user : Uuid) : Prop :=
  ∃ grant ∈ store.grants, grant.user = user ∧ grant.isActive now = true

/-- **A consent has lapsed**: the days of grace of something required of everybody are over, and the user
has not agreed to it. -/
def HasLapsed (store : Store) (now : Instant) (user : Uuid) : Prop :=
  ∃ version document deadline, store.Requires none now version document
    ∧ (Requirement.ofVersion version document).deadline = .ok deadline ∧ deadline ≤ now
    ∧ ¬ store.AgreedTo user version.id

/-- The user has an approved profile that is not suspended. -/
def IsAccepted (store : Store) (user : Uuid) : Prop :=
  ∃ profile ∈ store.profiles,
    profile.user = user ∧ profile.isApproved = true ∧ profile.isSuspended = false

end Store

namespace Standing

variable {store : Store} {now : Instant} {user : Uuid}

theorem deadlines_requirementsIn (valid : store.Valid) (inRange : store.DeadlinesInRange now) :
    ∀ requirement ∈ requirementsIn Option.none now store,
      ∃ deadline, requirement.deadline = .ok deadline := by
  intro requirement member
  obtain ⟨version, document, requires, rfl⟩ := valid.mem_current_iff.mp member
  exact inRange version document requires

/-! ### The report -/

theorem expiredAmong_of_deadlines {required : List Requirement}
    (inRange : ∀ requirement ∈ required, ∃ deadline, requirement.deadline = .ok deadline) :
    expiredAmong now required = .ok (required.filter (·.isPast now)) := by
  rw [expiredAmong, List.filterM, Requirement.filterAuxM_isExpired_of_deadlines inRange]
  refine congrArg Except.ok ?_
  rw [List.append_nil, List.reverse_reverse]

/-- Who is to be reported among some users. -/
def lapsedIn (users : List Uuid) (now : Instant) (store : Store) : List Uuid :=
  (distinct users).filter fun user =>
    !agreesTo (((requirementsIn Option.none now store).filter (·.isPast now)).map
      Requirement.version) store user

/-- Who has not agreed to all that is past its days of grace has something of it missing. -/
theorem not_agreesTo_isPast (user : Uuid) (now : Instant) (scope : Option Uuid) (store : Store) :
    (!agreesTo (((requirementsIn scope now store).filter (·.isPast now)).map Requirement.version) store
        user)
      = (missingIn user now scope store).any (·.isPast now) := by
  have swapped : Requirement.missing ((requirementsIn scope now store).filter (·.isPast now))
        (Consent.versionsIn user store)
      = (missingIn user now scope store).filter (·.isPast now) := by
    rw [missingIn, Requirement.missing, Requirement.missing, List.filter_filter, List.filter_filter]
    exact List.filter_congr fun requirement _ => Bool.and_comm _ _
  rw [agreesTo_map_version, swapped, Bool.eq_iff_iff, Bool.not_eq_true', ← Bool.not_eq_true,
    List.isEmpty_iff, List.filter_eq_nil_iff, List.any_eq_true]
  push Not
  rfl

theorem withExpiredConsentIn_of_deadlines {scope : Option Uuid}
    (inRange : ∀ requirement ∈ requirementsIn scope now store,
      ∃ deadline, requirement.deadline = .ok deadline) (users : List Uuid) :
    withExpiredConsentIn users now scope store = .ok ((distinct users).filter fun user =>
      !agreesTo (((requirementsIn scope now store).filter (·.isPast now)).map Requirement.version)
        store user) := by
  unfold withExpiredConsentIn
  by_cases empty : (distinct users).isEmpty = true
  · rw [if_pos empty, List.isEmpty_iff.mp empty]
    rfl
  · rw [if_neg empty, expiredAmong_of_deadlines inRange]
    rfl

theorem mem_roleHoldersIn_iff : user ∈ roleHoldersIn now store ↔ store.HoldsRole now user := by
  rw [roleHoldersIn, mem_distinct]
  simp only [List.mem_map, List.mem_filter, Store.HoldsRole]
  exact ⟨fun ⟨grant, ⟨inside, inForce⟩, same⟩ => ⟨grant, inside, same, inForce⟩,
    fun ⟨grant, inside, same, inForce⟩ => ⟨grant, ⟨inside, inForce⟩, same⟩⟩

/-- What has lapsed of the requirements, said of the store. -/
theorem any_isPast_missingIn_iff (valid : store.Valid) :
    (missingIn user now Option.none store).any (·.isPast now) = true ↔ store.HasLapsed now user := by
  rw [List.any_eq_true]
  constructor
  · rintro ⟨requirement, member, past⟩
    obtain ⟨⟨version, document, requires, rfl⟩, free⟩ := (mem_missingIn_iff valid).mp member
    obtain ⟨deadline, found, reached⟩ := Requirement.isPast_iff.mp past
    exact ⟨version, document, deadline, requires, found, reached, free⟩
  · rintro ⟨version, document, deadline, requires, found, reached, free⟩
    exact ⟨.ofVersion version document,
      (mem_missingIn_iff valid).mpr ⟨⟨version, document, requires, rfl⟩, free⟩,
      Requirement.isPast_iff.mpr ⟨deadline, found, reached⟩⟩

theorem mem_lapsedIn_iff (valid : store.Valid) {users : List Uuid} :
    user ∈ lapsedIn users now store ↔ user ∈ users ∧ store.HasLapsed now user := by
  rw [lapsedIn, List.mem_filter, mem_distinct, not_agreesTo_isPast, any_isPast_missingIn_iff valid]

/-! ### The standing of one member -/

theorem isEmpty_activeGrantsIn_iff :
    (activeGrantsIn user now store).isEmpty = true ↔ ¬ store.HoldsRole now user := by
  rw [List.isEmpty_iff, activeGrantsIn, List.filter_eq_nil_iff, Store.HoldsRole]
  simp only [decide_eq_true_eq, not_exists, not_and]

/-- **An accepted member** is inactive exactly while holding a role with a consent that has lapsed. -/
theorem standingInForce_of_deadlines (valid : store.Valid) (inRange : store.DeadlinesInRange now) :
    ∃ standing, standingInForce user now store = .ok standing
      ∧ (standing = .inactive ↔ store.HoldsRole now user ∧ store.HasLapsed now user) := by
  unfold standingInForce
  by_cases roleless : (activeGrantsIn user now store).isEmpty = true
  · rw [if_pos roleless]
    exact ⟨.none, rfl, nofun, fun both => absurd both.1 (isEmpty_activeGrantsIn_iff.mp roleless)⟩
  · have holds : store.HoldsRole now user :=
      not_not.mp fun free => roleless (isEmpty_activeGrantsIn_iff.mpr free)
    have deadlines : ∀ requirement ∈ missingIn user now Option.none store,
        ∃ deadline, requirement.deadline = .ok deadline := fun requirement member =>
      deadlines_requirementsIn valid inRange requirement (List.mem_filter.mp member).1
    rw [if_neg roleless, Requirement.anyExpired_of_deadlines deadlines, ← any_isPast_missingIn_iff valid]
    cases (missingIn user now Option.none store).any (·.isPast now) with
    | true => exact ⟨.inactive, rfl, fun _ => ⟨holds, rfl⟩, fun _ => rfl⟩
    | false => exact ⟨.active, rfl, nofun, fun both => nomatch both.2⟩

theorem mem_profilesIn_iff {profile : Profile} :
    profile ∈ profilesIn user store ↔ profile ∈ store.profiles ∧ profile.user = user := by
  rw [profilesIn, List.mem_filter, decide_eq_true_eq]

theorem exists_profilesIn_eq_toList (valid : store.Valid) (user : Uuid) :
    ∃ profile : Option Profile, profilesIn user store = profile.toList :=
  Store.exists_filter_eq_toList valid.profileUsers user

/-- The standing that is found for a user with a profile, or without one. -/
theorem replies_load {profile : Option Profile} (found : profilesIn user store = profile.toList)
    (now : Instant) :
    Replies (load user now) store ((standingIn user now store profile).mapError Failure.time) := by
  have replies := (isQuestion_load user now).of_store store
  rwa [found, atMostOne_toList] at replies

theorem isAccepted_iff {profile : Option Profile} (found : profilesIn user store = profile.toList) :
    store.IsAccepted user ↔
      ∃ mine, profile = some mine ∧ mine.isApproved = true ∧ mine.isSuspended = false := by
  have inside : ∀ other, profile = some other ↔ other ∈ store.profiles ∧ other.user = user := by
    intro other
    rw [← mem_profilesIn_iff, found]
    exact Option.mem_toList.symm
  simp only [Store.IsAccepted, inside, and_assoc]

/-- The profile comes first: who is not accepted is not inactive either. -/
theorem standingIn_of_deadlines (valid : store.Valid) (inRange : store.DeadlinesInRange now)
    {profile : Option Profile} (found : profilesIn user store = profile.toList) :
    ∃ standing, standingIn user now store profile = .ok standing
      ∧ (standing = .inactive ↔
        (store.HoldsRole now user ∧ store.HasLapsed now user) ∧ store.IsAccepted user) := by
  rw [isAccepted_iff found]
  cases profile with
  | none =>
    refine ⟨.none, rfl, iff_of_false (by decide) ?_⟩
    rintro ⟨_, _, nobody, _⟩
    cases nobody
  | some mine =>
    rw [standingIn]
    by_cases suspended : mine.isSuspended = true
    · rw [if_pos suspended]
      refine ⟨.suspended, rfl, iff_of_false (by decide) ?_⟩
      rintro ⟨_, _, same, _, free⟩
      cases same
      exact absurd suspended (ne_true_of_eq_false free)
    · rw [if_neg suspended]
      by_cases approved : mine.isApproved = true
      · obtain ⟨standing, computed, inactive⟩ := @standingInForce_of_deadlines _ _ user valid inRange
        rw [approved, if_neg (by decide)]
        refine ⟨standing, computed, inactive.trans (and_iff_left ?_).symm⟩
        exact ⟨mine, rfl, approved, eq_false_of_ne_true suspended⟩
      · rw [eq_false_of_ne_true approved, if_pos (by decide)]
        refine ⟨.pending, rfl, iff_of_false (by decide) ?_⟩
        rintro ⟨_, _, same, accepted, _⟩
        cases same
        exact absurd accepted approved

/-- The standing of a member is found, and it is inactive for the reason that the report gives. -/
theorem load_of_deadlines {session : Session} (settled : session.Settled)
    (up : session.surroundings.IsUp) (inRange : session.store.DeadlinesInRange now) (user : Uuid) :
    ∃ standing after, load user now session = .ok standing after
      ∧ (standing = .inactive ↔ (session.store.HoldsRole now user ∧ session.store.HasLapsed now user)
        ∧ session.store.IsAccepted user) := by
  obtain ⟨profile, found⟩ := exists_profilesIn_eq_toList settled.valid user
  obtain ⟨standing, computed, inactive⟩ := standingIn_of_deadlines settled.valid inRange found
  obtain ⟨after, ran⟩ := (isQuestion_load user now).up settled up
  refine ⟨standing, after, ran.trans ?_, inactive⟩
  rw [found, atMostOne_toList]
  show reply after ((standingIn user now session.store profile).mapError Failure.time) = _
  rw [computed]
  rfl

/-! ### The report against the standings -/

/-- The users whom the report lists. -/
def reportIn (now : Instant) (store : Store) : List Uuid :=
  lapsedIn (roleHoldersIn now store) now store

/-- What the report notes about itself: nothing if there is nobody to list. -/
def summaryOf (report holders : List Uuid) : List Notice :=
  if report.isEmpty then [] else [.requiringUpdate report.length holders.length]

theorem keeps_withExpiredConsent (users : List Uuid) (now : Instant) (scope : Option Uuid) :
    Keeps Session.Quiet (withExpiredConsent users now scope) := by
  unfold withExpiredConsent
  refine Keeps.ite (Keeps.pure _) (Keeps.bind (Transaction.keeps_read _) fun required =>
    Keeps.bind (Transaction.keeps_act ?_) fun expired => Keeps.ite (Keeps.pure _) ?_)
  · cases required.filterM (·.isExpired now) with
    | ok expired => exact Keeps.pure expired
    | error error => exact Keeps.throw (Failure.time error)
  · exact Keeps.bind (Consent.keeps_versionsOfAll _ _) fun consented => Keeps.pure _

theorem requiringUpdate_of_deadlines {session : Session} (settled : session.Settled)
    (up : session.surroundings.IsUp) (inRange : session.store.DeadlinesInRange now) :
    ∃ after, requiringUpdate now session = .ok (reportIn now session.store) after
      ∧ after.surroundings.journal = session.surroundings.journal
        ++ summaryOf (reportIn now session.store) (roleHoldersIn now session.store) := by
  have asked := @Transaction.read_of_settled _ (roleHoldersIn now) session settled up
  have settledOpened : ({ session with opened := true } : Session).Settled :=
    ⟨settled.staged, settled.sound, settled.valid⟩
  obtain ⟨after, found⟩ := (isQuestion_withExpiredConsent (roleHoldersIn now session.store) now
    Option.none).up settledOpened up
  rw [withExpiredConsentIn_of_deadlines (deadlines_requirementsIn settled.valid inRange)] at found
  change _ = reply after (.ok (reportIn now session.store)) at found
  have journal : after.surroundings.journal = session.surroundings.journal := by
    rw [((keeps_withExpiredConsent _ _ _).of_ok found).same]
  rw [← journal, summaryOf]
  by_cases nobody : (!(reportIn now session.store).isEmpty) = true
  · have some : ¬ (reportIn now session.store).isEmpty = true := by simpa using nobody
    rw [if_neg some]
    exact ⟨_, (bind_of_ok asked).trans ((bind_of_ok found).trans (congrFun (if_pos nobody) after)), rfl⟩
  · have none : (reportIn now session.store).isEmpty = true := by simpa using nobody
    rw [if_pos none, List.append_nil]
    exact ⟨after, (bind_of_ok asked).trans ((bind_of_ok found).trans (congrFun (if_neg nobody) after)),
      rfl⟩

theorem checkCompliance_of_report {world : World} {report : List Uuid} {session : Session}
    (ran : requiringUpdate now world.session = .ok report session) :
    Job.checkCompliance now world = .ok (.table [("users_requiring_update", .int report.length)])
      { world with surroundings := { session.surroundings with
        journal := session.surroundings.journal
          ++ (Reconcile.sorted report).map Notice.memberInactive } } := by
  have listed : Application.transact (requiringUpdate now >>= fun users => pure (users, Ending.discard))
      world = .ok report { world with surroundings := session.surroundings } :=
    Application.transact_of_discard ((bind_of_ok ran).trans rfl)
  refine (bind_of_ok listed).trans ?_
  exact bind_of_ok (Application.forM_note Notice.memberInactive _ _)

/-- **The report lists the role holders whose consent has lapsed**, nobody twice; the job counts and notes
exactly those, writes nothing, and of them those with an accepted profile, and only those, have the
standing of an inactive member. -/
theorem report_lists_lapsed {world : World} (valid : world.store.Valid)
    (up : world.surroundings.IsUp) (inRange : world.store.DeadlinesInRange now) :
    ∃ report session after, requiringUpdate now world.session = .ok report session
      ∧ Job.checkCompliance now world = .ok (.table [("users_requiring_update", .int report.length)]) after
      ∧ after.store = world.store
      ∧ after.surroundings.journal = world.surroundings.journal
        ++ summaryOf report (roleHoldersIn now world.store)
        ++ (Reconcile.sorted report).map Notice.memberInactive
      ∧ report.Nodup
      ∧ ∀ user, (user ∈ report ↔ world.store.HoldsRole now user ∧ world.store.HasLapsed now user)
        ∧ ∃ standing final, load user now world.session = .ok standing final
          ∧ (standing = .inactive ↔ user ∈ report ∧ world.store.IsAccepted user) := by
  have settled := World.settled_session valid
  obtain ⟨session, ran, journal⟩ := requiringUpdate_of_deadlines settled up inRange
  refine ⟨_, session, _, ran, checkCompliance_of_report ran, rfl, congrArg (· ++ _) journal,
    (nodup_distinct _).filter _, fun user => ?_⟩
  have listed : user ∈ reportIn now world.store
      ↔ world.store.HoldsRole now user ∧ world.store.HasLapsed now user := by
    rw [reportIn, mem_lapsedIn_iff valid, mem_roleHoldersIn_iff]
  obtain ⟨standing, final, loaded, inactive⟩ := load_of_deadlines settled up inRange user
  refine ⟨listed, standing, final, loaded, ?_⟩
  rw [inactive]
  exact and_congr_left fun _ => listed.symm

/-- A user with a role in force and a suspended profile, and a document without days of grace that the
user has not agreed to. -/
def suspendedHolder : World where
  surroundings := default
  store := {
    profiles := [{ (default : Profile) with
      user := .numbered 1 1, isApproved := true, isSuspended := true }]
    grants := [{ (default : RoleGrant) with user := .numbered 1 1, roleName := Eligibility.boardRole }]
    documents := [{ (default : LegalDocument) with isRequired := true, isActive := true }]
    versions := [default] }

/-- A suspended role holder is listed without having the standing of an inactive member. -/
theorem suspendedHolder_listed :
    ∃ report session, requiringUpdate default suspendedHolder.session = .ok report session
      ∧ .numbered 1 1 ∈ report
      ∧ ∃ standing final, load (.numbered 1 1) default suspendedHolder.session = .ok standing final
        ∧ standing ≠ .inactive := by
  have known : ∀ version ∈ suspendedHolder.store.versions, ∀ document ∈ suspendedHolder.store.documents,
      (Requirement.ofVersion version document).deadline = .ok default := by decide +kernel
  obtain ⟨report, session, _, ran, _, _, _, _, each⟩ := @report_lists_lapsed default
    suspendedHolder (by decide +kernel) rfl fun version document requires =>
      ⟨default, known version requires.version_mem document requires.document_mem⟩
  obtain ⟨listed, standing, final, loaded, inactive⟩ := each (.numbered 1 1)
  refine ⟨report, session, ran, listed.mpr ⟨?_, ?_⟩, standing, final, loaded, fun same => ?_⟩
  · exact ⟨_, List.mem_cons_self, rfl, by decide⟩
  · refine ⟨_, _, default, ⟨List.mem_cons_self, List.mem_cons_self, rfl, rfl, rfl, rfl, ?_, ?_⟩,
      known _ List.mem_cons_self _ List.mem_cons_self, ?_, ?_⟩
    · exact Int.le_refl _
    · rintro other member _ _
      rw [List.mem_singleton.mp member]
      exact Int.le_refl _
    · exact Int.le_refl _
    · rintro ⟨record, member, _⟩
      cases member
  · obtain ⟨_, profile, member, _, _, free⟩ := inactive.mp same
    rw [List.mem_singleton.mp member] at free
    cases free

end Standing

end Roster
