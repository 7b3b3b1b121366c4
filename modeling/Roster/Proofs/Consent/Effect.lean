/-
**What one consent changes.**

Recording a consent looks for any record of the user for the version, explicit or not, while all look-ups see
the explicit ones only. So a recording that is refused leaves everything as it was, and one that succeeds adds
one fact, and only if it is explicit: that the user agreed to the version. Nothing else can be told apart
before and after, but that the user may have lacked just this consent and is not inactive any more.

* `ConsentRecord.Agrees` — the fact that a record adds.
* `missingIn_withConsent`, `any_isPast_missingIn_withConsent` — **what is missing shrinks by this version**;
  `standingInForce_withConsent` — whose standing that may turn.
* `OneMore` — what all look-ups and all standings say once a record came behind the others;
  `oneMore_withConsent` — **they change by one fact**.
* `give_error` — a recording that fails has written nothing.
* `give_changes_one_fact` — **a recording is refused exactly if there is a record, or it changes one fact**.
-/

import Roster.Proofs.Consent.Agreeing
import Roster.Proofs.Consent.Lookup
import Roster.Proofs.Standing.Compliance

namespace Roster

/-- **The fact that a record adds**: the user agrees to the version, if the record is explicit. -/
def ConsentRecord.Agrees (record : ConsentRecord) (user version : Uuid) : Prop :=
  record.user = user ∧ record.version = version ∧ record.isExplicit = true

instance (record : ConsentRecord) (user version : Uuid) : Decidable (record.Agrees user version) := by
  unfold ConsentRecord.Agrees
  infer_instance

/-- **How a record may turn a standing**: not at all, or it is an explicit one of the user, who was inactive and
is active with it. -/
def ConsentRecord.Lifts (record : ConsentRecord) (user : Uuid) (was is : Standing) : Prop :=
  is = was ∨ record.user = user ∧ record.isExplicit = true ∧ was = .inactive ∧ is = .active

namespace Standing

variable {store : Store} {record : ConsentRecord} {user : Uuid} {now : Instant}

/-- **What is missing after one more consent** is what was missing, without the version agreed to. -/
theorem missingIn_withConsent (store : Store) (record : ConsentRecord) (user : Uuid) (now : Instant)
    (scope : Option Uuid) : missingIn user now scope (store.withConsent record)
      = (missingIn user now scope store).filter fun requirement =>
        ¬ record.Agrees user requirement.version :=
  missingIn_of_more rfl fun _ => Store.agreedTo_withConsent_iff

/-- **Whether anything missing is past its days of grace** stays as it was, or ceases with the consent. -/
theorem any_isPast_missingIn_withConsent (store : Store) (record : ConsentRecord) (user : Uuid) (now : Instant) :
    (missingIn user now Option.none (store.withConsent record)).any (·.isPast now)
        = (missingIn user now Option.none store).any (·.isPast now)
      ∨ record.user = user ∧ record.isExplicit = true
        ∧ (missingIn user now Option.none store).any (·.isPast now) = true
        ∧ (missingIn user now Option.none (store.withConsent record)).any (·.isPast now) = false := by
  rw [missingIn_withConsent]
  cases later : ((missingIn user now Option.none store).filter fun requirement =>
      ¬ record.Agrees user requirement.version).any (·.isPast now) with
  | true =>
    obtain ⟨requirement, still, past⟩ := List.any_eq_true.mp later
    exact .inl (List.any_eq_true.mpr ⟨requirement, (List.mem_filter.mp still).1, past⟩).symm
  | false =>
    cases before : (missingIn user now Option.none store).any (·.isPast now) with
    | false => exact .inl rfl
    -- What was missing and past is not missing any more, so it is what the record agrees to.
    | true =>
      obtain ⟨requirement, missed, past⟩ := List.any_eq_true.mp before
      have agrees : record.Agrees user requirement.version := by
        by_contra free
        exact List.any_eq_false.mp later requirement
          (List.mem_filter.mpr ⟨missed, decide_eq_true free⟩) past
      exact .inr ⟨agrees.1, agrees.2.2, rfl, rfl⟩

/-- **An accepted member with a role** is lifted if nothing past its days of grace is missing any more. -/
theorem standingInForce_withConsent (inRange : ∀ requirement ∈ requirementsIn Option.none now store,
      ∃ deadline, requirement.deadline = .ok deadline) :
    ∃ was is, standingInForce user now store = .ok was
      ∧ standingInForce user now (store.withConsent record) = .ok is ∧ record.Lifts user was is := by
  have grants : activeGrantsIn user now (store.withConsent record) = activeGrantsIn user now store := rfl
  have before : ∀ requirement ∈ missingIn user now Option.none store,
      ∃ deadline, requirement.deadline = .ok deadline := fun requirement member =>
    inRange requirement (List.mem_filter.mp member).1
  have after : ∀ requirement ∈ missingIn user now Option.none (store.withConsent record),
      ∃ deadline, requirement.deadline = .ok deadline := fun requirement member =>
    inRange requirement (List.mem_filter.mp member).1
  unfold standingInForce
  rw [grants, Requirement.anyExpired_of_deadlines before, Requirement.anyExpired_of_deadlines after]
  by_cases roleless : (activeGrantsIn user now store).isEmpty = true
  · rw [if_pos roleless, if_pos roleless]
    exact ⟨.none, .none, rfl, rfl, .inl rfl⟩
  · rw [if_neg roleless, if_neg roleless]
    rcases any_isPast_missingIn_withConsent store record user now with same | ⟨mine, explicit, was, is⟩
    · rw [same]
      cases (missingIn user now Option.none store).any (·.isPast now) with
      | true => exact ⟨.inactive, .inactive, rfl, rfl, .inl rfl⟩
      | false => exact ⟨.active, .active, rfl, rfl, .inl rfl⟩
    · rw [was, is]
      exact ⟨.inactive, .active, rfl, rfl, .inr ⟨mine, explicit, rfl, rfl⟩⟩

/-- The profile comes first: whoever is not accepted keeps the standing. -/
theorem standingIn_withConsent (inRange : ∀ requirement ∈ requirementsIn Option.none now store,
      ∃ deadline, requirement.deadline = .ok deadline) (profile : Option Profile) :
    ∃ was is, standingIn user now store profile = .ok was
      ∧ standingIn user now (store.withConsent record) profile = .ok is ∧ record.Lifts user was is := by
  cases profile with
  | none => exact ⟨.none, .none, rfl, rfl, .inl rfl⟩
  | some mine =>
    rw [standingIn, standingIn]
    by_cases suspended : mine.isSuspended = true
    · rw [if_pos suspended, if_pos suspended]
      exact ⟨.suspended, .suspended, rfl, rfl, .inl rfl⟩
    · rw [if_neg suspended, if_neg suspended]
      by_cases pending : (!mine.isApproved) = true
      · rw [if_pos pending, if_pos pending]
        exact ⟨.pending, .pending, rfl, rfl, .inl rfl⟩
      · rw [if_neg pending, if_neg pending]
        exact standingInForce_withConsent inRange

/-- **One more consent and the standing of a user**: only an inactive one is ever turned. -/
theorem turns_load (valid : store.Valid) (inRange : store.DeadlinesInRange now) (record : ConsentRecord)
    (user : Uuid) : Turns (load user now) store (store.withConsent record) (record.Lifts user) := by
  obtain ⟨profile, found⟩ := exists_profilesIn_eq_toList valid user
  obtain ⟨was, is, before, after, lifts⟩ :=
    @standingIn_withConsent store record user now (deadlines_requirementsIn valid inRange) profile
  have replied := replies_load found now
  have replies := replies_load (show profilesIn user (store.withConsent record) = profile.toList from found) now
  rw [before] at replied
  rw [after] at replies
  exact ⟨was, is, replied, replies, lifts⟩

end Standing

namespace Consent

variable {session after : Session} {store : Store} {given : Given}

/-! ### One record more -/

/-- **One consent more.** A record came behind the others, and the rest of the store is as it was; a user still
has at most one record for a version. The look-ups learned one fact, and none if the record is not explicit.
While no deadline is out of range, the standing of nobody changed, but that of the user may have turned from
inactive to active. -/
structure OneMore (before after : Store) (record : ConsentRecord) : Prop where
  added : after = before.withConsent record
  single : (after.consents.map fun record => (record.user, record.version)).Nodup
  isGiven : ∀ user version, Turns (isGiven user version) before after fun was is =>
    (is = true ↔ was = true ∨ record.Agrees user version)
  versionsOf : ∀ user, Turns (versionsOf user) before after fun was is =>
    ∀ version, version ∈ is ↔ version ∈ was ∨ record.Agrees user version
  versionsOfAll : ∀ users among, Turns (versionsOfAll users among) before after <|
    List.Forall₂ fun was is => is.1 = was.1 ∧ ∀ version, version ∈ is.2
      ↔ version ∈ was.2 ∨ record.Agrees was.1 version ∧ ∀ list ∈ among, version ∈ list
  usersWithout : ∀ version, Turns (usersWithout version) before after fun was is =>
    ∀ user, user ∈ is ↔ user ∈ was ∧ ¬ record.Agrees user version
  standings : ∀ now, before.DeadlinesInRange now → ∀ user,
    Turns (Standing.load user now) before after (record.Lifts user)

/-- **One more record changes what is seen by one fact.** -/
theorem oneMore_withConsent {record : ConsentRecord} (valid : store.Valid)
    (fits : (store.withConsent record).Valid) : OneMore store (store.withConsent record) record where
  added := rfl
  single := fits.agreements
  isGiven user version := (IsQuestion.read _).turns rfl rfl <| by
    rw [isGivenIn_iff, isGivenIn_iff, Store.agreedTo_withConsent_iff]
    rfl
  versionsOf user := (IsQuestion.read _).turns rfl rfl fun version => by
    rw [Store.mem_versionsIn_iff, Store.mem_versionsIn_iff, Store.agreedTo_withConsent_iff]
    rfl
  versionsOfAll users among := (isQuestion_versionsOfAll users among).turns rfl rfl <| by
    rw [agreedIn, agreedIn, List.forall₂_map_left_iff, List.forall₂_map_right_iff, List.forall₂_same]
    intro user _
    refine ⟨rfl, fun version => ?_⟩
    have asked : among.all (·.contains version) = true ↔ ∀ list ∈ among, version ∈ list := by
      cases among <;> simp
    rw [List.mem_filter, List.mem_filter, Store.mem_versionsIn_iff, Store.mem_versionsIn_iff,
      Store.agreedTo_withConsent_iff, asked, or_and_right]
    rfl
  usersWithout version := (IsQuestion.read _).turns rfl rfl fun user => by
    rw [mem_usersWithoutIn_iff, mem_usersWithoutIn_iff, Store.agreedTo_withConsent_iff, not_or,
      ← and_assoc]
    rfl
  standings _ inRange user := Standing.turns_load valid inRange record user

/-! ### A recording -/

/-- **A recording that fails has written nothing**: there was a record, or the database failed. -/
theorem give_error {failure : Failure} (settled : session.Settled)
    (ran : give given session = .error failure after) : session.Unwritten after
      ∧ (failure = .alreadyConsented given.user given.version
          ∧ session.store.HasRecord given.user given.version
        ∨ failure.isDatabase = true) := by
  rw [give_eq] at ran
  rcases bind_eq_error.mp ran with stopped | ⟨found, asked, reads, ran⟩
  · obtain ⟨database, unwritten⟩ := Transaction.readOne_error settled.ready stopped
    exact ⟨unwritten, .inr database⟩
  · obtain ⟨settledAsked, store, answer⟩ := Transaction.readOne_ok reads settled
    have has := isSome_iff_hasRecord answer
    cases isSome : found.isSome with
    | true =>
      rw [isSome] at ran has
      cases ran
      exact ⟨⟨store, settledAsked.staged⟩, .inl ⟨rfl, has.mp rfl⟩⟩
    | false =>
      rw [isSome] at ran
      change append given asked = _ at ran
      rw [append_apply settledAsked] at ran
      rcases bind_eq_error.mp ran with refused | ⟨_, _, _, ⟨⟩⟩
      obtain ⟨database, unwritten⟩ := @Transaction.flush_insert_error _ { asked with
        staged := [.insert (.consent (given.recordIn asked.surroundings))]
        surroundings := numbering asked.surroundings } _ _ rfl settledAsked.sound refused
      exact ⟨⟨unwritten.store.trans store, unwritten.staged⟩, .inr database⟩

/-- **Recording a consent changes one fact**, whatever the store holds.

A recording that fails has written nothing, also if the session is committed afterwards, and without an
outage it fails for the record that is there exactly if there is one. Without a record it returns if the user
and the version exist, and whenever it returns there was none, and there is one consent more. -/
theorem give_changes_one_fact (settled : session.Settled) (given : Given) :
    (∀ failure after, give given session = .error failure after → session.Unwritten after
        ∧ (∀ final, Transaction.commit after = .ok () final → final.store = session.store)
        ∧ (failure = .alreadyConsented given.user given.version
            ∧ session.store.HasRecord given.user given.version
          ∨ failure.isDatabase = true))
      ∧ (session.surroundings.IsUp →
        ((∃ after, give given session = .error (.alreadyConsented given.user given.version) after)
          ↔ session.store.HasRecord given.user given.version))
      ∧ (session.surroundings.IsUp → ¬ session.store.HasRecord given.user given.version →
        .numbered 12 (session.surroundings.issued.consents + 1)
          ∉ session.store.consents.map ConsentRecord.id →
        (session.store.enforcesReferences = true → given.user ∈ session.store.users.map User.id
          ∧ given.version ∈ session.store.versions.map DocumentVersion.id) →
        ∃ record after, give given session = .ok record after)
      ∧ ∀ record after, give given session = .ok record after →
        ¬ session.store.HasRecord given.user given.version
          ∧ record = given.recordIn session.surroundings ∧ after.Settled
          ∧ OneMore session.store after.store record := by
  refine ⟨fun failure after ran => ?_, fun up => ⟨?_, fun has => ?_⟩, fun up free fresh known => ?_,
    fun record after ran => ?_⟩
  · obtain ⟨unwritten, cause⟩ := give_error settled ran
    exact ⟨unwritten, fun final => Transaction.commit_of_unwritten unwritten, cause⟩
  · rintro ⟨after, ran⟩
    obtain ⟨_, ⟨_, has⟩ | database⟩ := give_error settled ran
    · exact has
    · cases database
  · exact ⟨_, give_of_record settled up has⟩
  · have fits : (session.store.withConsent (given.recordIn session.surroundings)).Valid :=
      settled.valid.withConsent fresh (fun other inside same => free ⟨other, inside, same⟩) known
    obtain ⟨opened, gives⟩ := give_of_free settled up free fits
    exact ⟨_, _, gives⟩
  · obtain ⟨free, same, settledAfter, store⟩ := give_ok settled ran
    have fits : (session.store.withConsent record).Valid := store ▸ settledAfter.valid
    refine ⟨free, same, settledAfter, ?_⟩
    rw [store]
    exact oneMore_withConsent settled.valid fits

/-- An accepted member with a role, and a document without days of grace that the member has yet to agree to. -/
def overdueHolder : World where
  surroundings := default
  store := {
    users := [{ (default : User) with id := .numbered 1 1 }, { (default : User) with id := .numbered 1 2 }]
    profiles := [{ (default : Profile) with user := .numbered 1 1, isApproved := true }]
    grants := [{ (default : RoleGrant) with user := .numbered 1 1, roleName := Eligibility.boardRole }]
    documents := [{ (default : LegalDocument) with id := .numbered 6 1, isRequired := true, isActive := true }]
    versions := [{ (default : DocumentVersion) with id := .numbered 7 1, document := .numbered 6 1 }] }

/-- The member agrees and is active. -/
theorem overdueHolder_agrees : ∃ record after,
    give (.toTerms 1 true) overdueHolder.session = .ok record after
      ∧ OneMore overdueHolder.store after.store record
      ∧ Turns (Standing.load (.numbered 1 1) default) overdueHolder.store after.store fun was is =>
        was = .inactive ∧ is = .active := by
  have settled : overdueHolder.session.Settled := World.settled_session (by decide +kernel)
  obtain ⟨_, _, returns, each⟩ := give_changes_one_fact settled (.toTerms 1 true)
  obtain ⟨record, after, ran⟩ := returns rfl (by decide +kernel) (by decide +kernel) (by decide +kernel)
  obtain ⟨_, rfl, _, one⟩ := each record after ran
  have inRange : overdueHolder.store.DeadlinesInRange default := by
    have known : ∀ version ∈ overdueHolder.store.versions, ∀ document ∈ overdueHolder.store.documents,
        (Requirement.ofVersion version document).deadline = .ok default := by decide +kernel
    exact fun version document requires =>
      ⟨default, known version requires.version_mem document requires.document_mem⟩
  let profile : Profile := { (default : Profile) with user := .numbered 1 1, isApproved := true }
  have told (store : Store) (standing : Standing)
      (found : Standing.profilesIn (.numbered 1 1) store = (some profile).toList)
      (computed : Standing.standingIn (.numbered 1 1) default store (some profile) = .ok standing) :
      Replies (Standing.load (.numbered 1 1) default) store (.ok standing) := by
    have replies := Standing.replies_load found default
    rwa [computed] at replies
  have toldBefore := told overdueHolder.store .inactive (by decide +kernel) (by decide +kernel)
  have toldAfter := told after.store .active (by rw [one.added]; decide +kernel)
    (by rw [one.added]; decide +kernel)
  obtain ⟨was, is, before, later, _⟩ := one.standings default inRange (.numbered 1 1)
  cases before.unique toldBefore
  cases later.unique toldAfter
  exact ⟨_, after, ran, one, _, _, before, later, rfl, rfl⟩

end Consent

end Roster
