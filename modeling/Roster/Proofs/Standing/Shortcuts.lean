/-
**The shortcuts to a standing change nothing.**

The standing of a member is found by asking for no more than the rules need: for the roles in force only,
for the versions that have begun only, for nothing behind the fact that decides, and for no consents where
nothing is required. The rules themselves look at every fact and tell the times apart once more.

* `Facts` — everything that the rules look at; `Facts.Complete` — all that a store says of a user, in any
  order; `Store.factsOf` — the facts as the store has them.
* `Facts.standing` — the rules on all facts.
* `load_follows_all_facts` — **what is loaded is what the rules say of all facts**.
-/

import Roster.Proofs.Standing.Compliance
import Roster.Proofs.Standing.Order

namespace Roster

namespace Standing

/-- Everything that the rules look at. -/
structure Facts where
  profile : Option Profile
  grants : List RoleGrant
  rows : List (DocumentVersion × LegalDocument)
  consented : List Uuid

/-- The standing that follows from all facts. -/
def Facts.standing (facts : Facts) (now : Instant) : Except TimeError Standing :=
  ofFacts (facts.profile.map Profile.flags) (facts.grants.map RoleGrant.window)
    (Requirement.current facts.rows now) facts.consented now

/-- **All that a store says of a user**, whatever the time: the profile, every role ever given, every version
of what is required of everybody, and every explicit consent. -/
structure Facts.Complete (facts : Facts) (store : Store) (user : Uuid) : Prop where
  profile : ∀ profile, facts.profile = some profile ↔ profile ∈ store.profiles ∧ profile.user = user
  grants : ∀ grant, grant ∈ facts.grants ↔ grant ∈ store.grants ∧ grant.user = user
  rows : ∀ version document, (version, document) ∈ facts.rows ↔
    version ∈ store.versions ∧ document ∈ store.documents ∧ version.document = document.id
      ∧ document.isActive = true ∧ document.isRequired = true ∧ document.team = Option.none
  consented : ∀ version, version ∈ facts.consented ↔ store.AgreedTo user version

end Standing

open Standing in
/-- The facts about a user as a store has them. -/
def Store.factsOf (store : Store) (user : Uuid) : Facts where
  profile := (profilesIn user store).head?
  grants := store.grants.filter fun grant => grant.user = user
  rows := store.versions.flatMap fun version =>
    (store.documents.filter fun document => version.document = document.id ∧ document.isActive
      ∧ document.isRequired ∧ document.team = Option.none).map fun document => (version, document)
  consented := Consent.versionsIn user store

namespace Standing

variable {store : Store} {facts : Facts} {user : Uuid} {now : Instant}

/-- **A store knows everything that there is to know of a user.** -/
theorem complete_factsOf (valid : store.Valid) (user : Uuid) : (store.factsOf user).Complete store user where
  profile profile := by
    obtain ⟨mine, found⟩ := exists_profilesIn_eq_toList valid user
    rw [← mem_profilesIn_iff, Store.factsOf, found]
    cases mine with
    | none => simp
    | some mine => simp [eq_comm]
  grants grant := by
    rw [Store.factsOf, List.mem_filter, decide_eq_true_eq]
  rows version document := by
    simp only [Store.factsOf, List.mem_flatMap, List.mem_map, List.mem_filter, decide_eq_true_eq,
      Prod.mk.injEq]
    constructor
    · rintro ⟨_, known, _, ⟨here, same, active, required, team⟩, rfl, rfl⟩
      exact ⟨known, here, same, active, required, team⟩
    · rintro ⟨known, here, same, active, required, team⟩
      exact ⟨version, known, document, ⟨here, same, active, required, team⟩, rfl, rfl⟩
  consented _ := Store.mem_versionsIn_iff

namespace Facts.Complete

variable (complete : facts.Complete store user)

include complete

theorem profilesIn_eq (valid : store.Valid) : profilesIn user store = facts.profile.toList := by
  obtain ⟨mine, found⟩ := exists_profilesIn_eq_toList valid user
  have same : mine = facts.profile := Option.ext fun profile => by
    rw [complete.profile, ← mem_profilesIn_iff, found]
    exact Option.mem_toList.symm
  rw [found, same]

/-- Some role covers the instant exactly if one is found to be in force. -/
theorem any_covers : (facts.grants.map RoleGrant.window).any (·.covers now)
    = !(activeGrantsIn user now store).isEmpty := by
  rw [Bool.eq_iff_iff, List.any_eq_true, Bool.not_eq_true', ← Bool.not_eq_true,
    isEmpty_activeGrantsIn_iff, not_not, Store.HoldsRole]
  constructor
  · rintro ⟨_, inside, covers⟩
    obtain ⟨grant, given, rfl⟩ := List.mem_map.mp inside
    obtain ⟨known, mine⟩ := (complete.grants grant).mp given
    exact ⟨grant, known, mine, covers⟩
  · rintro ⟨grant, known, mine, covers⟩
    exact ⟨_, List.mem_map_of_mem ((complete.grants grant).mpr ⟨known, mine⟩), covers⟩

/-- The versions still to come are left out by the rules as by the look-up. -/
theorem mem_inForce_iff {requirement : Requirement} : requirement ∈ Requirement.inForce facts.rows now
    ↔ requirement ∈ Requirement.inForce (requiredRowsIn Option.none now store) now := by
  rw [Store.mem_inForce_iff, Requirement.inForce, List.mem_map]
  constructor
  · rintro ⟨⟨version, document⟩, inside, rfl⟩
    obtain ⟨listed, begun⟩ := List.mem_filter.mp inside
    obtain ⟨known, here, same, active, required, team⟩ := (complete.rows version document).mp listed
    exact ⟨version, known, document, here, same, active, required, team, of_decide_eq_true begun, rfl⟩
  · rintro ⟨version, known, document, here, same, active, required, team, begun, rfl⟩
    refine ⟨(version, document), List.mem_filter.mpr ⟨?_, decide_eq_true begun⟩, rfl⟩
    exact (complete.rows version document).mpr ⟨known, here, same, active, required, team⟩

theorem current_eq (valid : store.Valid) :
    Requirement.current facts.rows now = requirementsIn Option.none now store :=
  Requirement.current_congr (fun _ => complete.mem_inForce_iff) valid.inForce_of_start
    valid.inForce_of_version

theorem missing_eq (valid : store.Valid) :
    Requirement.missing (Requirement.current facts.rows now) facts.consented
      = missingIn user now Option.none store := by
  rw [complete.current_eq valid, missingIn]
  refine List.filter_congr fun requirement _ => ?_
  rw [Bool.not_inj_iff, Bool.eq_iff_iff, List.contains_iff_mem, List.contains_iff_mem,
    complete.consented, Store.mem_versionsIn_iff]

/-- **The rules on all facts** come to the look-ups one after another. -/
theorem standing_eq (valid : store.Valid) :
    facts.standing now = standingIn user now store facts.profile := by
  unfold Facts.standing
  cases facts.profile with
  | none => rfl
  | some mine =>
    rw [Option.map_some, ofFacts, complete.any_covers, Requirement.hasExpired, complete.missing_eq valid,
      standingIn, standingInForce, Bool.not_not]
    rfl

end Facts.Complete

/-- **What is loaded is what the rules say of all facts** about the user: in whatever order these come, and
with all that is not in force, still to come, or behind the fact that decides. If no deadline of what is
required is out of range, the rules give a standing. -/
theorem load_follows_all_facts (valid : store.Valid) (complete : facts.Complete store user)
    (now : Instant) :
    Replies (load user now) store ((facts.standing now).mapError Failure.time)
      ∧ (store.DeadlinesInRange now → ∃ standing, facts.standing now = .ok standing
        ∧ Replies (load user now) store (.ok standing)) := by
  have replies : Replies (load user now) store ((facts.standing now).mapError Failure.time) := by
    have reply := (isQuestion_load user now).of_store store
    rw [complete.profilesIn_eq valid, atMostOne_toList] at reply
    rw [complete.standing_eq valid]
    exact reply
  refine ⟨replies, fun inRange => ?_⟩
  obtain ⟨standing, found, _⟩ :=
    standingIn_of_deadlines valid inRange (complete.profilesIn_eq valid)
  rw [← complete.standing_eq valid] at found
  rw [found] at replies
  exact ⟨standing, found, replies⟩

/-- A microsecond after the earliest instant. -/
def soon : Instant := ⟨1, ⟨0⟩, Instant.inRange_one⟩

/-- A user who held a role before and holds another now, and who agreed to the version of a document in force;
the next version is yet to come. -/
def awaitingVersion : Store where
  users := [{ (default : User) with id := .numbered 1 1 }]
  profiles := [{ (default : Profile) with user := .numbered 1 1, isApproved := true }]
  grants := [{ (default : RoleGrant) with id := .numbered 4 1, user := .numbered 1 1, validTo := some soon },
    { (default : RoleGrant) with id := .numbered 4 2, user := .numbered 1 1 }]
  documents := [{ (default : LegalDocument) with id := .numbered 6 1, isRequired := true, isActive := true }]
  versions := [{ (default : DocumentVersion) with
      id := .numbered 7 2, document := .numbered 6 1, effectiveFrom := ⟨2, ⟨0⟩, by decide⟩ },
    { (default : DocumentVersion) with id := .numbered 7 1, document := .numbered 6 1 }]
  consents := [{ (default : ConsentRecord) with
    user := .numbered 1 1, version := .numbered 7 1, isExplicit := true }]

/-- Neither the role that has ended nor the version to come makes a difference. -/
theorem awaitingVersion_active :
    (awaitingVersion.factsOf (.numbered 1 1)).grants.length = 2
      ∧ (awaitingVersion.factsOf (.numbered 1 1)).rows.length = 2
      ∧ Replies (load (.numbered 1 1) soon) awaitingVersion (.ok .active) := by
  have valid : awaitingVersion.Valid := by decide +kernel
  have active : (awaitingVersion.factsOf (.numbered 1 1)).standing soon = .ok .active := by
    decide +kernel
  have replies := (load_follows_all_facts valid (complete_factsOf valid (.numbered 1 1)) soon).1
  rw [active] at replies
  exact ⟨by decide, by decide, replies⟩

end Standing

end Roster
