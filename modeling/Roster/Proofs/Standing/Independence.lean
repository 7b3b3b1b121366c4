/-
**A standing depends on the user's own facts and on what binds everybody.**

Two stores may differ in all else: in other users, in teams, in what binds the members of a team only, in
documents that are optional or no longer active, in consents that were not explicit, and in the order of
their rows. The answers about the user are the same, also those for many users at once.

* `Store.AgreesAbout` — two stores agree on the facts about a user.
* `Facts.Complete.transfer` — facts that are complete in one of them are complete in the other.
* `standing_depends_on_own_facts` — **the answers about the user are the same in both**.
-/

import Roster.Proofs.Standing.Batch
import Roster.Proofs.Standing.Shortcuts

namespace Roster

/-- **Two stores agree about a user**: on the profile, on the roles, on the versions that the user agreed to
explicitly, and on the versions that bind everybody. -/
structure Store.AgreesAbout (store other : Store) (user : Uuid) : Prop where
  profile : ∀ profile : Profile, profile.user = user →
    (profile ∈ store.profiles ↔ profile ∈ other.profiles)
  grants : ∀ grant : RoleGrant, grant.user = user → (grant ∈ store.grants ↔ grant ∈ other.grants)
  consents : ∀ version, store.AgreedTo user version ↔ other.AgreedTo user version
  binding : ∀ version document, store.Binds Option.none version document
    ↔ other.Binds Option.none version document

namespace Standing

variable {store other : Store} {facts : Facts} {user : Uuid}

/-- **What is all about a user in one store is all in the other.** -/
theorem Facts.Complete.transfer (complete : facts.Complete store user)
    (agrees : store.AgreesAbout other user) : facts.Complete other user where
  profile profile := by
    rw [complete.profile]
    exact and_congr_left fun mine => agrees.profile profile mine
  grants grant := by
    rw [complete.grants]
    exact and_congr_left fun mine => agrees.grants grant mine
  rows version document := by
    rw [complete.rows]
    have same := agrees.binding version document
    constructor
    · rintro ⟨known, here, belongs, active, required, team⟩
      have binds := same.mp ⟨known, here, belongs, active, required, team⟩
      exact ⟨binds.version_mem, binds.document_mem, belongs, active, required, team⟩
    · rintro ⟨known, here, belongs, active, required, team⟩
      have binds := same.mpr ⟨known, here, belongs, active, required, team⟩
      exact ⟨binds.version_mem, binds.document_mem, belongs, active, required, team⟩
  consented version := (complete.consented version).trans (agrees.consents version)

section

variable (valid : store.Valid) (validOther : other.Valid) (agrees : store.AgreesAbout other user)

include valid validOther agrees

theorem missingIn_eq_of_agreesAbout (now : Instant) :
    missingIn user now Option.none store = missingIn user now Option.none other := by
  have complete := complete_factsOf valid user
  rw [← complete.missing_eq valid, ← (complete.transfer agrees).missing_eq validOther]

/-- The standing is found alike, and where it is not found it fails alike. -/
theorem exists_replies_load_of_agreesAbout (now : Instant) :
    ∃ result, Replies (load user now) store result ∧ Replies (load user now) other result := by
  have complete := complete_factsOf valid user
  have completeOther := complete.transfer agrees
  refine ⟨_, replies_load (complete.profilesIn_eq valid) now, ?_⟩
  rw [← complete.standing_eq valid, completeOther.standing_eq validOther]
  exact replies_load (completeOther.profilesIn_eq validOther) now

end

/-- **The answers about a user are the same in stores that agree about the user**: the standing, the versions
missing, whether one of them has lapsed, and whether the user is among those who agreed to everything,
whoever else is asked about. -/
theorem standing_depends_on_own_facts (valid : store.Valid) (validOther : other.Valid)
    (agrees : store.AgreesAbout other user) (now : Instant) :
    (∃ result, Replies (load user now) store result ∧ Replies (load user now) other result)
      ∧ (∃ missing, Replies (missingConsents user now Option.none) store (.ok missing)
        ∧ Replies (missingConsents user now Option.none) other (.ok missing))
      ∧ (∃ result, Replies (hasExpiredConsents user now Option.none) store result
        ∧ Replies (hasExpiredConsents user now Option.none) other result)
      ∧ ∀ users others, user ∈ users → user ∈ others → ∃ agreed agreedOther,
        Replies (withAllConsents users now Option.none) store (.ok agreed)
          ∧ Replies (withAllConsents others now Option.none) other (.ok agreedOther)
          ∧ (user ∈ agreed ↔ user ∈ agreedOther) := by
  have missing := missingIn_eq_of_agreesAbout valid validOther agrees now
  refine ⟨exists_replies_load_of_agreesAbout valid validOther agrees now,
    ⟨_, (isQuestion_missingConsents user now Option.none).of_store store, ?_⟩,
    ⟨_, (isQuestion_hasExpiredConsents user now Option.none).of_store store, ?_⟩,
    fun users others asked askedOther => ⟨_, _, (isQuestion_withAllConsents users now _).of_store store,
      (isQuestion_withAllConsents others now _).of_store other, ?_⟩⟩
  · rw [missing]
    exact (isQuestion_missingConsents user now Option.none).of_store other
  · rw [missing]
    exact (isQuestion_hasExpiredConsents user now Option.none).of_store other
  · rw [mem_withAllConsentsIn_iff, mem_withAllConsentsIn_iff, missing]
    exact and_congr (iff_of_true asked askedOther) Iff.rfl

/-- A board member who has not agreed to the one document. -/
def alone : Store where
  users := [{ (default : User) with id := .numbered 1 1 }]
  profiles := [{ (default : Profile) with user := .numbered 1 1, isApproved := true }]
  grants := [{ (default : RoleGrant) with
    id := .numbered 4 1, user := .numbered 1 1, roleName := Eligibility.boardRole }]
  documents := [{ (default : LegalDocument) with id := .numbered 6 1, isRequired := true, isActive := true }]
  versions := [{ (default : DocumentVersion) with id := .numbered 7 1, document := .numbered 6 1 }]

/-- The same member among others: somebody else agreed to the document, the member did so without being
explicit, and there are three more documents, one of a team, one that is optional and one no longer active. -/
def amongOthers : Store where
  users := [{ (default : User) with id := .numbered 1 2 }, { (default : User) with id := .numbered 1 1 }]
  profiles := [{ (default : Profile) with
      id := .numbered 2 2, user := .numbered 1 2, isApproved := true, isSuspended := true },
    { (default : Profile) with user := .numbered 1 1, isApproved := true }]
  teams := [{ (default : Team) with id := .numbered 5 1 }]
  grants := alone.grants
  documents := { (default : LegalDocument) with
      id := .numbered 6 2, isRequired := true, isActive := true, team := some (.numbered 5 1) }
    :: { (default : LegalDocument) with id := .numbered 6 3, isActive := true }
    :: { (default : LegalDocument) with id := .numbered 6 4, isRequired := true } :: alone.documents
  versions := { (default : DocumentVersion) with id := .numbered 7 2, document := .numbered 6 2 }
    :: { (default : DocumentVersion) with id := .numbered 7 3, document := .numbered 6 3 }
    :: { (default : DocumentVersion) with id := .numbered 7 4, document := .numbered 6 4 } :: alone.versions
  consents := [{ (default : ConsentRecord) with
      id := .numbered 12 1, user := .numbered 1 2, version := .numbered 7 1, isExplicit := true },
    { (default : ConsentRecord) with
      id := .numbered 12 2, user := .numbered 1 1, version := .numbered 7 1, isExplicit := false }]

theorem alone_agreesAbout_amongOthers : alone.AgreesAbout amongOthers (.numbered 1 1) where
  profile profile mine := by
    have back : ∀ profile ∈ amongOthers.profiles, profile.user = .numbered 1 1 →
        profile ∈ alone.profiles := by decide +kernel
    exact ⟨fun inside => List.mem_cons_of_mem _ inside, fun inside => back profile inside mine⟩
  grants _ _ := Iff.rfl
  consents version := by
    have back : ∀ record ∈ amongOthers.consents, ¬ (record.user = .numbered 1 1 ∧
        record.isExplicit = true) := by decide +kernel
    refine iff_of_false (fun ⟨_, inside, _⟩ => by cases inside) ?_
    exact fun ⟨record, inside, user, _, explicit⟩ => back record inside ⟨user, explicit⟩
  binding version document := by
    have back : ∀ version ∈ amongOthers.versions, ∀ document ∈ amongOthers.documents,
        (version.document = document.id ∧ document.isActive = true ∧ document.isRequired = true
          ∧ document.team = Option.none) → version ∈ alone.versions ∧ document ∈ alone.documents := by
      decide +kernel
    constructor
    · intro binds
      refine ⟨?_, ?_, binds.belongs, binds.active, binds.required, binds.team⟩
      · exact List.mem_append_right (amongOthers.versions.take 3) binds.version_mem
      · exact List.mem_append_right (amongOthers.documents.take 3) binds.document_mem
    · intro binds
      obtain ⟨known, here⟩ := back version binds.version_mem document binds.document_mem
        ⟨binds.belongs, binds.active, binds.required, binds.team⟩
      exact ⟨known, here, binds.belongs, binds.active, binds.required, binds.team⟩

/-- The others make no difference to the member. -/
theorem amongOthers_inactive :
    alone.AgreesAbout amongOthers (.numbered 1 1)
      ∧ Replies (load (.numbered 1 1) default) alone (.ok .inactive)
      ∧ Replies (load (.numbered 1 1) default) amongOthers (.ok .inactive)
      ∧ Replies (withAllConsents [.numbered 1 1] default Option.none) alone (.ok [])
      ∧ ∃ agreed, Replies (withAllConsents [.numbered 1 2, .numbered 1 1] default Option.none) amongOthers
          (.ok agreed) ∧ .numbered 1 1 ∉ agreed := by
  have valid : alone.Valid := by decide +kernel
  have inactive : (alone.factsOf (.numbered 1 1)).standing default = .ok .inactive := by decide +kernel
  have complete := complete_factsOf valid (.numbered 1 1)
  rw [complete.standing_eq valid] at inactive
  have loaded := replies_load (complete.profilesIn_eq valid) default
  rw [inactive] at loaded
  have nobody : withAllConsentsIn [.numbered 1 1] default Option.none alone = [] := by decide +kernel
  have asked := (isQuestion_withAllConsents [.numbered 1 1] default Option.none).of_store alone
  rw [nobody] at asked
  obtain ⟨⟨_, first, second⟩, _, _, batch⟩ := standing_depends_on_own_facts valid
    (by decide +kernel : amongOthers.Valid) alone_agreesAbout_amongOthers default
  obtain ⟨_, agreed, before, after, same⟩ := batch [.numbered 1 1] [.numbered 1 2, .numbered 1 1]
    List.mem_cons_self (List.mem_cons_of_mem _ List.mem_cons_self)
  refine ⟨alone_agreesAbout_amongOthers, loaded, ?_, asked, agreed, after, ?_⟩
  · rwa [first.unique loaded] at second
  · cases before.unique asked
    exact fun inside => nomatch same.mpr inside

end Standing

end Roster
