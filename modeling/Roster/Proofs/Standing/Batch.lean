/-
**Many members at once.**

The consents of many users are looked up together: once for the requirements, once for the consents to
just those versions that matter, and not at all where nobody is asked about or nothing is required. What is
found about one of them is what is found by asking about that one alone, in every scope.

* `mem_withAllConsentsIn_iff`, `mem_overdueIn_iff` — one user among many.
* `batches_agree_with_single_checks` — **the users found together are the users found one by one**, nobody is
  found twice, and nobody both has agreed to everything and is past the days of grace of something.
-/

import Roster.Proofs.Standing.Compliance

namespace Roster

namespace Standing

variable {store : Store} {users : List Uuid} {user : Uuid} {scope : Option Uuid} {now : Instant}

theorem mem_withAllConsentsIn_iff : user ∈ withAllConsentsIn users now scope store
    ↔ user ∈ users ∧ (missingIn user now scope store).isEmpty = true := by
  rw [withAllConsentsIn, List.mem_filter, mem_distinct, agreesTo_map_version]
  rfl

/-- The users among some who are past the days of grace of something they have not agreed to. -/
def overdueIn (users : List Uuid) (now : Instant) (scope : Option Uuid) (store : Store) : List Uuid :=
  (distinct users).filter fun user => (missingIn user now scope store).any (·.isPast now)

theorem mem_overdueIn_iff : user ∈ overdueIn users now scope store
    ↔ user ∈ users ∧ (missingIn user now scope store).any (·.isPast now) = true := by
  rw [overdueIn, List.mem_filter, mem_distinct]

theorem withExpiredConsentIn_eq_overdueIn
    (inRange : ∀ requirement ∈ requirementsIn scope now store,
      ∃ deadline, requirement.deadline = .ok deadline) (users : List Uuid) :
    withExpiredConsentIn users now scope store = .ok (overdueIn users now scope store) := by
  rw [withExpiredConsentIn_of_deadlines inRange]
  exact congrArg Except.ok (List.filter_congr fun user _ => not_agreesTo_isPast user now scope store)

/-- **The users found together are the users found one by one.** Whoever is asked about, also twice or unknown,
and in whatever scope: who has agreed to everything and who is past the days of grace of something is told
of each user as it is told of that user alone, nobody is listed twice, and nobody is listed as both. -/
theorem batches_agree_with_single_checks
    (inRange : ∀ requirement ∈ requirementsIn scope now store,
      ∃ deadline, requirement.deadline = .ok deadline) (users : List Uuid) :
    ∃ complete overdue, Replies (withAllConsents users now scope) store (.ok complete)
      ∧ Replies (withExpiredConsent users now scope) store (.ok overdue)
      ∧ complete.Nodup ∧ overdue.Nodup ∧ complete.Disjoint overdue
      ∧ ∀ user, ∃ hasAll hasExpired,
        Replies (hasAllConsents user now scope) store (.ok hasAll)
          ∧ Replies (hasExpiredConsents user now scope) store (.ok hasExpired)
          ∧ (user ∈ complete ↔ user ∈ users ∧ hasAll = true)
          ∧ (user ∈ overdue ↔ user ∈ users ∧ hasExpired = true) := by
  have together := (isQuestion_withExpiredConsent users now scope).of_store store
  rw [withExpiredConsentIn_eq_overdueIn inRange] at together
  refine ⟨_, _, (isQuestion_withAllConsents users now scope).of_store store, together,
    (nodup_distinct users).filter _, (nodup_distinct users).filter _, ?_, fun user => ?_⟩
  · intro user agreed late
    have none := (mem_withAllConsentsIn_iff.mp agreed).2
    have some := (mem_overdueIn_iff.mp late).2
    rw [List.isEmpty_iff.mp none] at some
    cases some
  · have alone := (isQuestion_hasExpiredConsents user now scope).of_store store
    have inRangeMissing : ∀ requirement ∈ missingIn user now scope store,
        ∃ deadline, requirement.deadline = .ok deadline := fun requirement member =>
      inRange requirement (List.mem_filter.mp member).1
    rw [Requirement.anyExpired_of_deadlines inRangeMissing] at alone
    exact ⟨_, _, (isQuestion_hasAllConsents user now scope).of_store store, alone,
      mem_withAllConsentsIn_iff, mem_overdueIn_iff⟩

/-- A team has a document; one of its members agreed to it, and for another an agreement is recorded that was
not explicit. -/
def halfAgreed : Store where
  users := [{ (default : User) with id := .numbered 1 1 }, { (default : User) with id := .numbered 1 2 }]
  teams := [{ (default : Team) with id := .numbered 5 1 }]
  documents := [{ (default : LegalDocument) with
    id := .numbered 6 1, team := some (.numbered 5 1), isRequired := true, isActive := true }]
  versions := [{ (default : DocumentVersion) with id := .numbered 7 1, document := .numbered 6 1 }]
  consents := [{ (default : ConsentRecord) with
      user := .numbered 1 1, version := .numbered 7 1, isExplicit := true },
    { (default : ConsentRecord) with
      id := .numbered 8 2, user := .numbered 1 2, version := .numbered 7 1, isExplicit := false }]

/-- The first member is found to have agreed, the second one and a stranger are past the days of grace. -/
theorem halfAgreed_batches :
    let users : List Uuid := [.numbered 1 2, .numbered 1 1, .numbered 1 2, .numbered 1 3]
    ∃ complete overdue,
      Replies (withAllConsents users default (some (.numbered 5 1))) halfAgreed (.ok complete)
        ∧ Replies (withExpiredConsent users default (some (.numbered 5 1))) halfAgreed (.ok overdue)
        ∧ complete = [.numbered 1 1] ∧ .numbered 1 2 ∈ overdue ∧ .numbered 1 3 ∈ overdue := by
  intro users
  have inRange : ∀ requirement ∈ requirementsIn (some (.numbered 5 1)) default halfAgreed,
      ∃ deadline, requirement.deadline = .ok deadline := by
    have all : (requirementsIn (some (.numbered 5 1)) default halfAgreed).all
        (·.deadline = .ok default) = true := by decide +kernel
    exact fun requirement member => ⟨default, of_decide_eq_true (List.all_eq_true.mp all _ member)⟩
  have expired : ∀ user ∈ [Uuid.numbered 1 2, .numbered 1 3], user ∈ users
      ∧ Requirement.anyExpired default (missingIn user default (some (.numbered 5 1)) halfAgreed)
        = .ok true := by decide +kernel
  obtain ⟨complete, overdue, agreed, late, _, _, _, alone⟩ :=
    batches_agree_with_single_checks inRange users
  have listed : ∀ user ∈ [Uuid.numbered 1 2, .numbered 1 3], user ∈ overdue := by
    intro user member
    obtain ⟨asked, past⟩ := expired user member
    obtain ⟨_, hasExpired, _, told, _, mem_iff⟩ := alone user
    have same := told.unique ((isQuestion_hasExpiredConsents user default _).of_store halfAgreed)
    rw [past] at same
    cases same
    exact mem_iff.mpr ⟨asked, rfl⟩
  refine ⟨complete, overdue, agreed, late, ?_, listed _ (by simp), listed _ (by simp)⟩
  have same := agreed.unique ((isQuestion_withAllConsents users default _).of_store halfAgreed)
  cases same
  decide +kernel

end Standing

end Roster
