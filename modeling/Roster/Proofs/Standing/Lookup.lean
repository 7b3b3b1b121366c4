/-
**Standings as questions.**

Whatever is asked about standings is a question: its answer is a function of the store. The batch
look-ups go through lists of users with the consents of all of them; the answer for one user does not
depend on the others.

* `isQuestion_load` — the standing of one member; `isQuestion_requiringUpdate` — the compliance report.
* `isQuestion_hasAllConsents`, `isQuestion_hasExpiredConsents`, `isQuestion_snapshot` — what one member has
  agreed to, and sees.
* `isQuestion_withAllConsents`, `isQuestion_withExpiredConsent` — many members at once.
-/

import Roster.Proofs.Consent.Lookup

namespace Roster

namespace Standing

variable {store : Store}

/-! ### Consents of many users -/

/-- The explicit consents of some users to some versions. -/
def consentsIn (users versions : List Uuid) (store : Store) : List (Uuid × List Uuid) :=
  users.map fun user => (user, (Consent.versionsIn user store).filter (versions.contains ·))

/-- The user agreed to all of some versions. -/
def agreesTo (versions : List Uuid) (store : Store) (user : Uuid) : Bool :=
  versions.all ((Consent.versionsIn user store).contains ·)

theorem isQuestion_versionsOfAll (users versions : List Uuid) :
    IsQuestion (Consent.versionsOfAll users (some versions)) fun store =>
      .ok (consentsIn (distinct users) versions store) :=
  Consent.isQuestion_versionsOfAll users (some versions)

/-- **Who agreed to all of some versions** is found by looking at each user alone. -/
theorem agreedTo_consentsIn (users versions : List Uuid) (store : Store) :
    agreedTo users versions (consentsIn users versions store)
      = users.filter (agreesTo versions store) := by
  refine List.filter_congr fun user member => ?_
  have found : (consentsIn users versions store).find? (·.1 = user)
      = some (user, (Consent.versionsIn user store).filter (versions.contains ·)) := by
    unfold consentsIn
    rw [List.find?_map]
    have first : users.find? ((fun entry : Uuid × List Uuid => decide (entry.1 = user)) ∘ fun user =>
        (user, (Consent.versionsIn user store).filter (versions.contains ·))) = some user := by
      cases seen : users.find? ((fun entry : Uuid × List Uuid => decide (entry.1 = user)) ∘ fun user =>
          (user, (Consent.versionsIn user store).filter (versions.contains ·))) with
      | none => simpa using List.find?_eq_none.mp seen user member
      | some other =>
        have same : other = user := by simpa using List.find?_some seen
        rw [same]
    rw [first]
    rfl
  rw [found, agreesTo, Bool.eq_iff_iff, List.all_eq_true, List.all_eq_true]
  refine forall₂_congr fun version inside => ?_
  simp [inside]

/-! ### Many users -/

/-- The requirements of a scope. -/
def requirementsIn (scope : Option Uuid) (now : Instant) (store : Store) : List Requirement :=
  Requirement.current (requiredRowsIn scope now store) now

theorem isQuestion_requirements (scope : Option Uuid) (now : Instant) :
    IsQuestion (requirements scope now) fun store => .ok (requirementsIn scope now store) :=
  IsQuestion.read _

/-- The users among some who agreed to everything required. -/
def withAllConsentsIn (users : List Uuid) (now : Instant) (scope : Option Uuid) (store : Store) :
    List Uuid :=
  (distinct users).filter (agreesTo ((requirementsIn scope now store).map Requirement.version) store)

theorem isQuestion_withAllConsents (users : List Uuid) (now : Instant) (scope : Option Uuid) :
    IsQuestion (withAllConsents users now scope) fun store =>
      .ok (withAllConsentsIn users now scope store) := by
  unfold withAllConsents withAllConsentsIn
  by_cases empty : (distinct users).isEmpty = true
  · dsimp only
    rw [if_pos empty, List.isEmpty_iff.mp empty]
    exact IsQuestion.pure []
  · dsimp only
    rw [if_neg empty]
    refine IsQuestion.bind (fun required store => .ok ((distinct users).filter
      (agreesTo (required.map Requirement.version) store))) (isQuestion_requirements scope now)
      fun required => ?_
    by_cases free : required.isEmpty = true
    · rw [if_pos free, List.isEmpty_iff.mp free]
      refine (IsQuestion.pure _).congr fun store => congrArg _ ?_
      exact (List.filter_eq_self.mpr fun user _ => rfl).symm
    · rw [if_neg free]
      refine (IsQuestion.bind (fun consented _ => .ok (agreedTo (distinct users)
        (required.map Requirement.version) consented)) (isQuestion_versionsOfAll _ _) fun consented =>
        IsQuestion.pure _).congr fun store => ?_
      show Except.ok (agreedTo _ _ (consentsIn (distinct (distinct users)) _ store)) = _
      rw [distinct_of_nodup (nodup_distinct users), agreedTo_consentsIn]

/-- The requirements among some whose days of grace are over. -/
def expiredAmong (now : Instant) (required : List Requirement) : Except TimeError (List Requirement) :=
  required.filterM (·.isExpired now)

/-- The users among some who have not agreed to a requirement past its days of grace. -/
def withExpiredConsentIn (users : List Uuid) (now : Instant) (scope : Option Uuid) (store : Store) :
    Except Failure (List Uuid) :=
  if (distinct users).isEmpty then .ok []
  else do
    let expired ← (expiredAmong now (requirementsIn scope now store)).mapError Failure.time
    return (distinct users).filter fun user =>
      !agreesTo (expired.map Requirement.version) store user

theorem isQuestion_withExpiredConsent (users : List Uuid) (now : Instant) (scope : Option Uuid) :
    IsQuestion (withExpiredConsent users now scope) (withExpiredConsentIn users now scope) := by
  unfold withExpiredConsent withExpiredConsentIn
  by_cases empty : (distinct users).isEmpty = true
  · simp only [if_pos empty]
    exact IsQuestion.pure []
  · simp only [if_neg empty]
    refine IsQuestion.bind (fun required store =>
      (expiredAmong now required).mapError Failure.time >>= fun expired =>
        .ok ((distinct users).filter fun user =>
          !agreesTo (expired.map Requirement.version) store user))
      (isQuestion_requirements scope now) fun required => ?_
    refine IsQuestion.bind (fun (expired : List Requirement) store =>
      .ok ((distinct users).filter fun user =>
        !agreesTo (expired.map Requirement.version) store user)) (IsQuestion.inTime _) fun expired => ?_
    by_cases free : expired.isEmpty = true
    · rw [if_pos free, List.isEmpty_iff.mp free]
      refine (IsQuestion.pure _).congr fun store => congrArg _ ?_
      exact (List.filter_eq_nil_iff.mpr fun user _ => by simp [agreesTo]).symm
    · rw [if_neg free]
      refine (IsQuestion.bind (fun consented _ => .ok ((distinct users).filter fun user =>
        !(agreedTo (distinct users) (expired.map Requirement.version) consented).contains user))
        (isQuestion_versionsOfAll _ _) fun consented => IsQuestion.pure _).congr fun store => ?_
      show Except.ok ((distinct users).filter fun user => !(agreedTo _ _
        (consentsIn (distinct (distinct users)) _ store)).contains user) = _
      rw [distinct_of_nodup (nodup_distinct users), agreedTo_consentsIn]
      refine congrArg _ (List.filter_congr fun user member => ?_)
      simp [member]

/-- **The compliance report** depends on the store only. -/
theorem isQuestion_requiringUpdate (now : Instant) :
    IsQuestion (requiringUpdate now) fun store =>
      withExpiredConsentIn (roleHoldersIn now store) now Option.none store := by
  refine IsQuestion.bind_read (fun holders => withExpiredConsentIn holders now Option.none)
    fun holders => ?_
  refine (IsQuestion.bind (fun users _ => .ok users)
    (isQuestion_withExpiredConsent holders now Option.none) fun users => ?_).congr
    fun store => bind_pure _
  refine (IsQuestion.ite (IsQuestion.bind (fun _ _ => .ok users) (IsQuestion.note _) fun _ =>
    IsQuestion.pure users) (IsQuestion.pure users)).congr fun store => ?_
  exact ite_self _

/-! ### One user -/

theorem isQuestion_consentedTo (required : List Requirement) (user : Uuid) :
    IsQuestion (consentedTo required user) fun store =>
      .ok (if required.isEmpty then [] else Consent.versionsIn user store) := by
  refine (IsQuestion.ite (IsQuestion.pure []) (IsQuestion.read _)).congr fun store => ?_
  exact (apply_ite Except.ok _ _ _).symm

/-- The requirements that a user has not agreed to. -/
def missingIn (user : Uuid) (now : Instant) (scope : Option Uuid) (store : Store) : List Requirement :=
  Requirement.missing (requirementsIn scope now store) (Consent.versionsIn user store)

/-- **What a user has yet to agree to**, said of the store. -/
theorem mem_missingIn_iff (valid : store.Valid) {user : Uuid} {now : Instant} {scope : Option Uuid}
    {requirement : Requirement} : requirement ∈ missingIn user now scope store
      ↔ store.Demands scope now requirement ∧ ¬ store.AgreedTo user requirement.version := by
  rw [missingIn, Requirement.missing, List.mem_filter, Bool.not_eq_true', ← Bool.not_eq_true,
    List.contains_iff_mem, Store.mem_versionsIn_iff]
  exact and_congr_left fun _ => valid.mem_current_iff

/-- **What is missing shrinks as a user agrees to more**: it loses the versions newly agreed to. -/
theorem missingIn_of_more {before after : Store} {user : Uuid} {now : Instant} {scope : Option Uuid}
    {newly : Uuid → Prop} [DecidablePred newly]
    (required : requirementsIn scope now after = requirementsIn scope now before)
    (more : ∀ version, after.AgreedTo user version ↔ before.AgreedTo user version ∨ newly version) :
    missingIn user now scope after
      = (missingIn user now scope before).filter fun requirement => ¬ newly requirement.version := by
  rw [missingIn, missingIn, required, Requirement.missing, Requirement.missing, List.filter_filter]
  refine List.filter_congr fun requirement _ => ?_
  rw [Bool.eq_iff_iff, Bool.and_eq_true, decide_eq_true_eq, Bool.not_eq_true', Bool.not_eq_true',
    ← Bool.not_eq_true, ← Bool.not_eq_true, List.contains_iff_mem, List.contains_iff_mem,
    Store.mem_versionsIn_iff, Store.mem_versionsIn_iff, more, not_or]
  exact and_comm

/-- **To have agreed to some requirements is to have none of them missing.** -/
theorem agreesTo_map_version (required : List Requirement) (store : Store) (user : Uuid) :
    agreesTo (required.map Requirement.version) store user
      = (Requirement.missing required (Consent.versionsIn user store)).isEmpty := by
  rw [Bool.eq_iff_iff, agreesTo, List.all_map, List.all_eq_true, List.isEmpty_iff, Requirement.missing,
    List.filter_eq_nil_iff]
  exact forall₂_congr fun requirement _ => by simp

theorem missing_consented (required : List Requirement) (user : Uuid) (store : Store) :
    Requirement.missing required (if required.isEmpty then [] else Consent.versionsIn user store)
      = Requirement.missing required (Consent.versionsIn user store) := by
  cases required <;> rfl

/-- **What is required, and what of it a user has yet to agree to**, is asked for first; the rest may depend
on both. -/
theorem isQuestion_missing {α : Type} (user : Uuid) (now : Instant) (scope : Option Uuid)
    {rest : List Requirement → List Uuid → Transaction α}
    (answer : List Requirement → List Requirement → Store → Except Failure α)
    (later : ∀ required consented, IsQuestion (rest required consented)
      (answer required (Requirement.missing required consented))) :
    IsQuestion (requirements scope now >>= fun required =>
        consentedTo required user >>= fun consented => rest required consented)
      fun store => answer (requirementsIn scope now store) (missingIn user now scope store) store := by
  let consents (required : List Requirement) (store : Store) : List Uuid :=
    if required.isEmpty then [] else Consent.versionsIn user store
  refine (IsQuestion.bind (fun required store =>
    answer required (Requirement.missing required (consents required store)) store)
    (isQuestion_requirements scope now) fun required => ?_).congr fun store => ?_
  · exact IsQuestion.bind (fun consented => answer required (Requirement.missing required consented))
      (isQuestion_consentedTo required user) (later required)
  · exact congrArg (answer (requirementsIn scope now store) · store) (missing_consented _ user store)

theorem isQuestion_missingConsents (user : Uuid) (now : Instant) (scope : Option Uuid) :
    IsQuestion (missingConsents user now scope) fun store =>
      .ok ((missingIn user now scope store).map Requirement.version) :=
  isQuestion_missing user now scope (fun _ missing _ => .ok (missing.map Requirement.version))
    fun _ _ => IsQuestion.pure _

theorem isQuestion_hasAllConsents (user : Uuid) (now : Instant) (scope : Option Uuid) :
    IsQuestion (hasAllConsents user now scope) fun store =>
      .ok (missingIn user now scope store).isEmpty := by
  refine (IsQuestion.bind (fun missing _ => .ok missing.isEmpty)
    (isQuestion_missingConsents user now scope) fun _ => IsQuestion.pure _).congr fun store => ?_
  exact congrArg Except.ok List.isEmpty_map

theorem isQuestion_hasExpiredConsents (user : Uuid) (now : Instant) (scope : Option Uuid) :
    IsQuestion (hasExpiredConsents user now scope) fun store =>
      (Requirement.anyExpired now (missingIn user now scope store)).mapError Failure.time :=
  isQuestion_missing user now scope
    (fun _ missing _ => (Requirement.anyExpired now missing).mapError Failure.time)
    fun _ _ => IsQuestion.inTime _

theorem isQuestion_hasActiveRoles (user : Uuid) (now : Instant) :
    IsQuestion (hasActiveRoles user now) fun store => .ok !(activeGrantsIn user now store).isEmpty :=
  IsQuestion.bind_read (fun (roles : List RoleGrant) _ => .ok !roles.isEmpty) fun _ => IsQuestion.pure _

/-- The standing of a user with an approved profile that is not suspended. -/
def standingInForce (user : Uuid) (now : Instant) (store : Store) : Except TimeError Standing :=
  if (activeGrantsIn user now store).isEmpty then .ok .none
  else do
    if ← Requirement.anyExpired now (missingIn user now Option.none store) then return .inactive
    else return .active

/-- The standing of a user with a profile, if there is one. -/
def standingIn (user : Uuid) (now : Instant) (store : Store) :
    Option Profile → Except TimeError Standing
  | Option.none => .ok .none
  | some profile =>
    if profile.isSuspended then .ok .suspended
    else if !profile.isApproved then .ok .pending
    else standingInForce user now store

/-- **The facts of an accepted user** leave the roles and what is missing to decide. -/
theorem ofFacts_of_accepted {flags : ProfileFlags} (approved : flags.isApproved = true)
    (free : flags.isSuspended = false) (roles : List Window) (required : List Requirement)
    (consented : List Uuid) (now : Instant) :
    ofFacts (.some flags) roles required consented now
      = if !roles.any (·.covers now) then .ok .none else do
        if ← Requirement.anyExpired now (Requirement.missing required consented) then return .inactive
        else return .active := by
  simp only [ofFacts, approved, free]
  rfl

/-- The roles that are found are in force. -/
theorem any_covers_activeGrantsIn (user : Uuid) (now : Instant) (store : Store) :
    ((activeGrantsIn user now store).map RoleGrant.window).any (·.covers now)
      = !(activeGrantsIn user now store).isEmpty := by
  cases found : activeGrantsIn user now store with
  | nil => rfl
  | cons first rest =>
    have inside : first ∈ activeGrantsIn user now store := found ▸ List.mem_cons_self
    have inForce : first.window.covers now = true := (of_decide_eq_true (List.mem_filter.mp inside).2).2
    rw [List.map_cons, List.any_cons, inForce]
    rfl

/-- **The standing of a user** depends on the store only. -/
theorem isQuestion_load (user : Uuid) (now : Instant) :
    IsQuestion (load user now) fun store => atMostOne (profilesIn user store) >>= fun profile =>
      (standingIn user now store profile).mapError Failure.time := by
  refine IsQuestion.bind (fun profile store => (standingIn user now store profile).mapError Failure.time)
    (IsQuestion.readOne _) fun profile => ?_
  match profile with
  | Option.none => exact IsQuestion.pure _
  | some profile =>
    dsimp only
    by_cases settled : (profile.isSuspended || !profile.isApproved) = true
    · rw [if_pos settled]
      refine (IsQuestion.inTime _).congr fun store => congrArg _ ?_
      cases suspended : profile.isSuspended with
      | true => simp [standingIn, ofFacts, Profile.flags, suspended, pure, Except.pure]
      | false =>
        have pending : profile.isApproved = false := by simpa [suspended] using settled
        simp [standingIn, ofFacts, Profile.flags, suspended, pending, pure, Except.pure]
    · rw [if_neg settled]
      rw [Bool.or_eq_true, not_or, Bool.not_eq_true, Bool.not_eq_true, Bool.not_eq_false'] at settled
      obtain ⟨free, approved⟩ := settled
      let facts (roles : List RoleGrant) (missing : List Requirement) : Except TimeError Standing :=
        if !(roles.map RoleGrant.window).any (·.covers now) then .ok .none else do
          if ← Requirement.anyExpired now missing then return .inactive else return .active
      refine (IsQuestion.bind_read (fun roles store => if roles.isEmpty then .ok .none
        else (facts roles (missingIn user now Option.none store)).mapError Failure.time)
        fun roles => IsQuestion.ite (IsQuestion.pure _) ?_).congr fun store => ?_
      · refine isQuestion_missing user now Option.none
          (fun _ missing _ => (facts roles missing).mapError Failure.time) fun required consented => ?_
        refine (IsQuestion.inTime _).congr fun _ => ?_
        exact congrArg _ (ofFacts_of_accepted approved free _ _ _ _)
      · have mine : standingIn user now store (some profile) = standingInForce user now store := by
          simp only [standingIn, free, approved]
          rfl
        rw [mine, standingInForce]
        simp only [facts, any_covers_activeGrantsIn, Bool.not_not]
        cases (activeGrantsIn user now store).isEmpty <;> rfl

/-- The standing and the consents that a member sees, once the standing is found. -/
def snapshotIn (user : Uuid) (now : Instant) (store : Store) (standing : Standing) : Snapshot where
  standing
  isVolunteer := isVolunteerIn user store
  requiredCount := (requirementsIn Option.none now store).length
  pendingCount := (missingIn user now Option.none store).length
  missingVersions := (missingIn user now Option.none store).map Requirement.version

/-- **What a member sees** fails exactly where the standing does. -/
theorem isQuestion_snapshot (user : Uuid) (now : Instant) :
    IsQuestion (snapshot user now) fun store =>
      (atMostOne (profilesIn user store) >>= fun profile =>
        (standingIn user now store profile).mapError Failure.time) >>= fun standing =>
          .ok (snapshotIn user now store standing) := by
  refine IsQuestion.bind (fun standing store => .ok (snapshotIn user now store standing))
    (isQuestion_load user now) fun standing => ?_
  let seen (required missing : List Requirement) (isVolunteer : Bool) : Snapshot :=
    ⟨standing, isVolunteer, required.length, missing.length, missing.map Requirement.version⟩
  exact isQuestion_missing user now Option.none
    (fun required missing store => .ok (seen required missing (isVolunteerIn user store)))
    fun required consented => IsQuestion.bind_read
      (fun isVolunteer _ => .ok (seen required (Requirement.missing required consented) isVolunteer))
      fun isVolunteer => IsQuestion.pure _

end Standing

end Roster
