/-
**Volunteers, snapshots and standings.**

Who is a volunteer is written by the pass over their team, from a rule that looks at many users at once; what
a member sees is put together from questions about the one user. Nothing of what the pass writes is asked by
the rule or for a standing, so after a pass the two agree.

* `Store.entitled_volunteers_iff` — the rule of the volunteers, said of what one user is missing.
* `exists_snapshot` — **what a member sees**, whatever the store.
* `volunteers_pass_agrees_with_snapshots` — **after a pass a member is seen as a volunteer exactly if
  accepted and with nothing pending**.
-/

import Roster.Proofs.Reconcile.Established
import Roster.Proofs.Standing.Compliance

namespace Roster

open Standing

variable {store : Store} {now : Instant} {user : Uuid}

/-! ### The rule of the volunteers -/

/-- **A volunteer is an accepted user who has nothing left to agree to.** -/
theorem Store.entitled_volunteers_iff (valid : store.Valid) : store.Entitled .volunteers now user
    ↔ store.IsAccepted user ∧ missingIn user now Option.none store = [] := by
  have agreed := @Eligibility.agreesTo_requirementsIn_iff store now user valid Option.none
  rw [agreesTo_map_version] at agreed
  exact and_congr_right fun _ => agreed.symm.trans List.isEmpty_iff

/-- The volunteers have one team. -/
theorem Standing.isVolunteerIn_iff (valid : store.Valid) {team : Team} (member : team ∈ store.teams)
    (volunteers : team.kind = .volunteers) :
    isVolunteerIn user store = true ↔ store.HasStay team.id user := by
  have only : ∀ other ∈ store.teams, other.kind = .volunteers → other = team := by
    intro other inside same
    have system : team.kind ≠ .none := by
      rw [volunteers]
      decide
    have listed : other ∈ Reconcile.teamsOfIn team.kind store :=
      List.mem_filter.mpr ⟨inside, decide_eq_true (same.trans volunteers.symm)⟩
    rw [Reconcile.teamsOfIn_eq valid member system] at listed
    exact List.mem_singleton.mp listed
  simp only [isVolunteerIn, List.any_eq_true, decide_eq_true_eq, Store.HasStay]
  refine exists_congr fun stay => and_congr_right fun _ => ?_
  constructor
  · rintro ⟨sameUser, opened, other, inside, sameTeam, kind⟩
    rw [only other inside kind] at sameTeam
    exact ⟨sameTeam.symm, sameUser, opened⟩
  · rintro ⟨sameTeam, sameUser, opened⟩
    exact ⟨sameUser, opened, team, member, sameTeam.symm, volunteers⟩

/-! ### What a member sees -/

namespace Standing

/-- A user with nothing left to agree to has the standing that the roles give. -/
theorem standingIn_of_nothing_missing {profile : Option Profile} {standing : Standing}
    (found : profilesIn user store = profile.toList)
    (computed : standingIn user now store profile = .ok standing) (accepted : store.IsAccepted user)
    (nothing : missingIn user now Option.none store = []) :
    standing = if !(activeGrantsIn user now store).isEmpty then .active else .none := by
  obtain ⟨mine, rfl, approved, free⟩ := (isAccepted_iff found).mp accepted
  simp only [standingIn, standingInForce, approved, free, nothing] at computed
  cases roleless : (activeGrantsIn user now store).isEmpty with
  | true =>
    rw [roleless] at computed
    exact (Except.ok.inj computed).symm
  | false =>
    rw [roleless] at computed
    exact (Except.ok.inj computed).symm

/-- Whoever is inactive has something left to agree to. -/
theorem missingIn_ne_nil_of_hasLapsed (valid : store.Valid) (lapsed : store.HasLapsed now user) :
    missingIn user now Option.none store ≠ [] := by
  intro nothing
  have some := (any_isPast_missingIn_iff valid).mpr lapsed
  rw [nothing] at some
  cases some

/-- **What a member sees** comes together from the questions about the member, and a user who is inactive has
something pending. -/
theorem exists_snapshot (valid : store.Valid) (inRange : store.DeadlinesInRange now) (user : Uuid) :
    ∃ standing, Replies (load user now) store (.ok standing)
      ∧ Replies (snapshot user now) store (.ok (snapshotIn user now store standing))
      ∧ (store.IsAccepted user → missingIn user now Option.none store = [] →
        standing = if !(activeGrantsIn user now store).isEmpty then .active else .none)
      ∧ (standing = .inactive → 0 < (missingIn user now Option.none store).length) := by
  obtain ⟨profile, found⟩ := exists_profilesIn_eq_toList valid user
  obtain ⟨standing, computed, inactive⟩ := standingIn_of_deadlines valid inRange found
  have loads := replies_load found now
  have sees := (isQuestion_snapshot user now).of_store store
  rw [found, atMostOne_toList] at sees
  change Replies _ _ ((standingIn user now store profile).mapError Failure.time >>= _) at sees
  rw [computed] at loads sees
  refine ⟨standing, loads, sees, standingIn_of_nothing_missing found computed, fun same => ?_⟩
  obtain ⟨⟨_, lapsed⟩, _⟩ := inactive.mp same
  exact List.length_pos_of_ne_nil (missingIn_ne_nil_of_hasLapsed valid lapsed)

/-! ### After a pass -/

/-- The deadlines after a pass are those before it. -/
theorem deadlinesInRange_of_settles {kind : TeamKind} {mode : Reconcile.Mode} {team : Team}
    {before after : Store} (settles : Reconcile.Settles kind mode team before after)
    (inRange : before.DeadlinesInRange now) : after.DeadlinesInRange now := by
  have versions : before.versions = after.versions := by rw [settles.rest]
  have documents : before.documents = after.documents := by rw [settles.rest]
  intro version document requires
  exact inRange version document (requires.congr versions documents)

/-- **After a pass over the volunteers** a member is seen as a volunteer exactly if the profile is approved and
not suspended and nothing is pending, and the standing of a volunteer is active with a role in force and none
without. What is pending is what is missing, at most what is required, and something if the member is
inactive. -/
theorem volunteers_pass_agrees_with_snapshots {world after : World} {team : Team}
    {mode : Reconcile.Mode} {result : Reconcile.PassResult} (valid : world.store.Valid)
    (member : team ∈ world.store.teams) (volunteers : team.kind = .volunteers)
    (inRange : world.store.DeadlinesInRange mode.now)
    (ran : Reconcile.pass .volunteers Option.none mode world = .ok result after) (user : Uuid) :
    ∃ seen holds, Replies (snapshot user mode.now) after.store (.ok seen)
      ∧ Replies (load user mode.now) after.store (.ok seen.standing)
      ∧ Replies (missingConsents user mode.now Option.none) after.store (.ok seen.missingVersions)
      ∧ Replies (hasActiveRoles user mode.now) after.store (.ok holds)
      ∧ (seen.isVolunteer = true ↔ after.store.IsAccepted user ∧ seen.pendingCount = 0)
      ∧ (seen.isVolunteer = true → seen.standing = if holds then .active else .none)
      ∧ seen.pendingCount = seen.missingVersions.length
      ∧ seen.pendingCount ≤ seen.requiredCount
      ∧ (seen.standing = .inactive → 0 < seen.pendingCount) := by
  have system : team.kind ≠ .none := by
    rw [volunteers]
    decide
  have settles := Reconcile.settles_of_pass valid member system (volunteers ▸ ran)
  rw [volunteers] at settles
  obtain ⟨moment, teams⟩ := settles.teams
  have still : { team with updatedAt := moment } ∈ after.store.teams := by
    rw [teams]
    exact List.mem_map.mpr ⟨team, member, if_pos rfl⟩
  obtain ⟨standing, loads, sees, inForce, inactive⟩ :=
    exists_snapshot settles.valid (deadlinesInRange_of_settles settles inRange) user
  have volunteer : isVolunteerIn user after.store = true
      ↔ after.store.IsAccepted user ∧ missingIn user mode.now Option.none after.store = [] := by
    rw [isVolunteerIn_iff settles.valid still volunteers, settles.stays, ← settles.entitled,
      Store.entitled_volunteers_iff settles.valid]
  refine ⟨_, _, sees, loads, (isQuestion_missingConsents _ _ _).of_store _,
    (isQuestion_hasActiveRoles _ _).of_store _, ?_, fun isVolunteer => ?_, (List.length_map _).symm, ?_,
    inactive⟩
  · exact volunteer.trans (and_congr_right fun _ => List.length_eq_zero_iff.symm)
  · exact inForce (volunteer.mp isVolunteer).1 (volunteer.mp isVolunteer).2
  · exact List.length_filter_le _ _

/-- Somebody who agreed to the one document, and a volunteer who has not; both hold a role. -/
def onBoard : World where
  surroundings := default
  store :=
    let agreeing : Uuid := .numbered 1 1
    let silent : Uuid := .numbered 1 2
    { users := [{ (default : User) with id := agreeing }, { (default : User) with id := silent }]
      profiles := [{ (default : Profile) with id := .numbered 2 1, user := agreeing, isApproved := true },
        { (default : Profile) with id := .numbered 2 2, user := silent, isApproved := true }]
      grants := [{ (default : RoleGrant) with id := .numbered 4 1, user := agreeing },
        { (default : RoleGrant) with id := .numbered 4 2, user := silent }]
      teams := [{ (default : Team) with id := .numbered 5 1, kind := .volunteers }]
      members := [{ (default : TeamMember) with team := .numbered 5 1, user := silent }]
      documents := [{ (default : LegalDocument) with isRequired := true, isActive := true }]
      versions := [default]
      consents := [{ (default : ConsentRecord) with user := agreeing, isExplicit := true }] }

/-- The pass adds the one and removes the other, and both see it. -/
theorem onBoard_sees_pass : ∃ result after,
    Reconcile.pass .volunteers Option.none default onBoard = .ok result after
      ∧ (∃ seen, Replies (snapshot (.numbered 1 1) default) after.store (.ok seen)
        ∧ seen.isVolunteer = true ∧ seen.standing = .active)
      ∧ ∃ seen, Replies (snapshot (.numbered 1 2) default) after.store (.ok seen)
        ∧ seen.isVolunteer = false ∧ seen.missingVersions = [default] := by
  have passes : (match Reconcile.pass .volunteers Option.none default onBoard with
      | .ok _ after => decide ((∃ profile ∈ after.store.profiles, profile.user = .numbered 1 1
            ∧ profile.isApproved = true ∧ profile.isSuspended = false)
          ∧ (missingIn (.numbered 1 1) default Option.none after.store).map Requirement.version = []
          ∧ (missingIn (.numbered 1 2) default Option.none after.store).map Requirement.version = [default]
          ∧ (activeGrantsIn (.numbered 1 1) default after.store).isEmpty = false)
      | .error _ _ => false) = true := by decide +kernel
  cases ran : Reconcile.pass .volunteers Option.none default onBoard with
  | error failure after =>
    rw [ran] at passes
    cases passes
  | ok result after =>
    rw [ran] at passes
    obtain ⟨accepted, agreed, missing, holds⟩ := of_decide_eq_true passes
    have known : ∀ version ∈ onBoard.store.versions, ∀ document ∈ onBoard.store.documents,
        (Requirement.ofVersion version document).deadline = .ok default := by decide +kernel
    have agrees := @volunteers_pass_agrees_with_snapshots onBoard after _ default result
      (by decide +kernel) List.mem_cons_self rfl (fun version document requires =>
        ⟨default, known version requires.version_mem document requires.document_mem⟩) ran
    refine ⟨result, after, rfl, ?_, ?_⟩
    · obtain ⟨seen, inForce, sees, _, misses, asks, volunteer, standing, count, _⟩ := agrees (.numbered 1 1)
      have nothing := misses.unique ((isQuestion_missingConsents _ _ _).of_store after.store)
      have role := asks.unique ((isQuestion_hasActiveRoles _ _).of_store after.store)
      have here : (default : Reconcile.Mode).now = default := rfl
      rw [here, agreed] at nothing
      rw [here, holds] at role
      cases role
      rw [Except.ok.inj nothing] at count
      have isVolunteer := volunteer.mpr ⟨accepted, count⟩
      exact ⟨seen, sees, isVolunteer, standing isVolunteer⟩
    · obtain ⟨seen, _, sees, _, misses, _, volunteer, _, count, _⟩ := agrees (.numbered 1 2)
      have pending := misses.unique ((isQuestion_missingConsents _ _ _).of_store after.store)
      have here : (default : Reconcile.Mode).now = default := rfl
      rw [here, missing] at pending
      have one := Except.ok.inj pending
      rw [one] at count
      refine ⟨seen, sees, eq_false_of_ne_true fun isVolunteer => ?_, one⟩
      have zero := (volunteer.mp isVolunteer).2
      rw [count] at zero
      cases zero

end Standing

end Roster
