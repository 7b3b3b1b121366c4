/-
**Deadlines that cannot be told.**

The days of grace of a document are any whole number, and added to the beginning of a version they may
lead out of the calendar, or be too many for a span at all. A question about standings that comes to such
a deadline fails; whether it does depends on which requirements come first, and on whether the user has
agreed to them.

* `Requirement.deadline_eq_error_iff` — when a deadline cannot be told.
* `Requirement.FirstUntold` — going through requirements in order comes to one without a deadline;
  `InOrder.firstUntold_iff` — the same, said of the members of the list.
* `Store.Untold`, `Store.UntoldFor` — the deadlines that stop a question about many users and one about a
  single user.
* `FailsExactly` — a question fails with some time errors and with nothing else.
* `standings_fail_exactly_at_untold_deadlines` — **the questions about standings fail exactly where such a
  deadline is reached**.
-/

import Roster.Proofs.Standing.Compliance
import Roster.Proofs.Standing.Order

namespace Roster

/-! ### One deadline -/

namespace Requirement

variable {requirement : Requirement} {required : List Requirement} {now : Instant} {error : TimeError}

/-- There are more days of grace than a span has. -/
def IsOverlong (requirement : Requirement) : Prop := Span.maxDays < requirement.graceDays.natAbs

/-- The days of grace lead out of the calendar, on the clock that shows their beginning. -/
def LeavesCalendar (requirement : Requirement) : Prop :=
  let shown := requirement.effectiveFrom.micros + requirement.graceDays * Span.day
    + requirement.effectiveFrom.offset.micros
  shown < 0 ∨ Instant.limit ≤ shown

/-- **A deadline cannot be told** if there are more days of grace than a span has, and otherwise if they lead
out of the calendar. -/
theorem deadline_eq_error_iff : requirement.deadline = .error error ↔
    (requirement.IsOverlong ∧ error = .tooManyDays requirement.graceDays)
      ∨ (¬ requirement.IsOverlong ∧ requirement.LeavesCalendar ∧ error = .outOfRange) := by
  unfold deadline
  by_cases long : requirement.IsOverlong
  · rw [Span.ofDays_of_long long]
    show Except.error _ = _ ↔ _
    simp [long, eq_comm]
  · rw [Span.ofDays_of_short (Int.not_lt.mp long)]
    show Instant.ofMicros _ _ = _ ↔ _
    rw [Instant.ofMicros_eq_error_iff]
    simp [long, LeavesCalendar]

/-- A deadline is where the days of grace lead. -/
theorem deadline_micros {deadline : Instant} (found : requirement.deadline = .ok deadline) :
    deadline.micros = requirement.effectiveFrom.micros + requirement.graceDays * Span.day := by
  unfold Requirement.deadline at found
  by_cases long : requirement.IsOverlong
  · rw [Span.ofDays_of_long long] at found
    cases found
  · rw [Span.ofDays_of_short (Int.not_lt.mp long)] at found
    exact Instant.micros_of_ofMicros found

/-- The deadline of a requirement can be told. -/
def IsTold (requirement : Requirement) : Prop := ∃ deadline, requirement.deadline = .ok deadline

/-- The days of grace of a requirement are not over. -/
def IsOpen (now : Instant) (requirement : Requirement) : Prop :=
  ∃ deadline, requirement.deadline = .ok deadline ∧ now < deadline

theorem isExpired_of_untold (untold : requirement.deadline = .error error) :
    requirement.isExpired now = .error error := by
  unfold isExpired
  rw [untold]
  rfl

/-! ### Going through requirements -/

/-- **Going through requirements comes to one without a deadline**, past others that let it go on. -/
def FirstUntold (passes : Requirement → Prop) (required : List Requirement) (error : TimeError) : Prop :=
  ∃ earlier requirement later, required = earlier ++ requirement :: later
    ∧ requirement.deadline = .error error ∧ ∀ other ∈ earlier, passes other

theorem not_firstUntold_nil {passes : Requirement → Prop} : ¬ FirstUntold passes [] error := by
  rintro ⟨earlier, requirement, later, split, _⟩
  cases earlier <;> cases split

theorem firstUntold_cons_iff {passes : Requirement → Prop} :
    FirstUntold passes (requirement :: required) error
      ↔ requirement.deadline = .error error ∨ passes requirement ∧ FirstUntold passes required error := by
  constructor
  · rintro ⟨earlier, stuck, later, split, untold, past⟩
    cases earlier with
    | nil =>
      cases split
      exact .inl untold
    | cons first earlier =>
      cases split
      exact .inr ⟨past requirement List.mem_cons_self, earlier, stuck, later, rfl, untold,
        fun other member => past other (List.mem_cons_of_mem _ member)⟩
  · rintro (untold | ⟨passed, earlier, stuck, later, rfl, untold, past⟩)
    · exact ⟨[], requirement, required, rfl, untold, List.forall_mem_nil _⟩
    · exact ⟨requirement :: earlier, stuck, later, rfl, untold, List.forall_mem_cons.mpr ⟨passed, past⟩⟩

/-- **Of requirements in order**, the first without a deadline is one of which all others that come first let
the search go on. -/
theorem InOrder.firstUntold_iff {passes : Requirement → Prop} (ordered : InOrder required) :
    FirstUntold passes required error ↔ ∃ requirement ∈ required, requirement.deadline = .error error
      ∧ ∀ other ∈ required, comesFirst other requirement = true → other ≠ requirement → passes other := by
  constructor
  · rintro ⟨earlier, requirement, later, rfl, untold, past⟩
    refine ⟨requirement, List.mem_append_right _ List.mem_cons_self, untold,
      fun other inside first different => past other ?_⟩
    exact ordered.mem_earlier_iff.mpr ⟨inside, first, different⟩
  · rintro ⟨requirement, inside, untold, past⟩
    obtain ⟨earlier, later, rfl⟩ := List.append_of_mem inside
    refine ⟨earlier, requirement, later, rfl, untold, fun other before => ?_⟩
    obtain ⟨inside, first, different⟩ := ordered.mem_earlier_iff.mp before
    exact past other inside first different

/-- **Looking for a lapsed requirement fails** at the first without a deadline, if none before has lapsed. -/
theorem anyExpired_eq_error_iff :
    anyExpired now required = .error error ↔ FirstUntold (IsOpen now) required error := by
  induction required with
  | nil =>
    show Except.ok false = _ ↔ _
    simp [not_firstUntold_nil]
  | cons requirement rest ih =>
    rw [firstUntold_cons_iff, ← ih, anyExpired]
    cases found : requirement.deadline with
    | error stuck =>
      rw [isExpired_of_untold found]
      show Except.error stuck = _ ↔ _
      simp [IsOpen, found]
    | ok deadline =>
      have still : IsOpen now requirement ↔ now < deadline := by simp [IsOpen, found]
      have past : requirement.isPast now = decide (deadline ≤ now) := by simp [isPast, found]
      rw [isExpired_of_deadline found, past, still]
      by_cases reached : deadline ≤ now
      · have lapsed : ¬ now < deadline := Instant.not_lt.mpr reached
        rw [decide_eq_true reached]
        show Except.ok true = _ ↔ _
        simp [lapsed]
      · have ahead : now < deadline := Int.not_le.mp reached
        rw [decide_eq_false reached]
        show anyExpired now rest = _ ↔ _
        simp [ahead]

/-- **Sorting out the lapsed requirements fails** at the first without a deadline. -/
theorem filterAuxM_isExpired_eq_error_iff (kept : List Requirement) :
    required.filterAuxM (·.isExpired now) kept = .error error ↔ FirstUntold IsTold required error := by
  induction required generalizing kept with
  | nil => exact iff_of_false nofun not_firstUntold_nil
  | cons requirement rest ih =>
    rw [firstUntold_cons_iff, List.filterAuxM]
    cases found : requirement.deadline with
    | error stuck =>
      rw [isExpired_of_untold found]
      show Except.error stuck = _ ↔ _
      simp [IsTold, found]
    | ok deadline =>
      have told : IsTold requirement := ⟨deadline, found⟩
      rw [isExpired_of_deadline found]
      show rest.filterAuxM _ _ = _ ↔ _
      simp [ih, told]

theorem filterM_isExpired_eq_error_iff :
    required.filterM (·.isExpired now) = .error error ↔ FirstUntold IsTold required error := by
  rw [← filterAuxM_isExpired_eq_error_iff [], List.filterM]
  cases required.filterAuxM (·.isExpired now) [] with
  | ok kept =>
    show Except.ok kept.reverse = _ ↔ _
    simp
  | error stuck => exact Iff.rfl

end Requirement

/-! ### The deadlines of a store -/

namespace Store

variable {store : Store} {scope : Option Uuid} {now : Instant} {user : Uuid} {error : TimeError}

/-- **Something required has no deadline**, while all that comes before it has one. -/
def Untold (store : Store) (scope : Option Uuid) (now : Instant) (error : TimeError) : Prop :=
  ∃ requirement, store.Demands scope now requirement ∧ requirement.deadline = .error error
    ∧ ∀ other, store.Demands scope now other → Requirement.comesFirst other requirement = true →
      other ≠ requirement → other.IsTold

/-- **Something that a user has not agreed to has no deadline**, while all of it that comes before is within
the days of grace. -/
def UntoldFor (store : Store) (scope : Option Uuid) (now : Instant) (user : Uuid) (error : TimeError) :
    Prop :=
  ∃ requirement, store.Demands scope now requirement ∧ ¬ store.AgreedTo user requirement.version
    ∧ requirement.deadline = .error error
    ∧ ∀ other, store.Demands scope now other → ¬ store.AgreedTo user other.version →
      Requirement.comesFirst other requirement = true → other ≠ requirement → other.IsOpen now

end Store

namespace Standing

open Requirement (FirstUntold InOrder)

variable {store : Store} {scope : Option Uuid} {now : Instant} {user : Uuid} {error : TimeError}

theorem inOrder_requirementsIn (valid : store.Valid) : InOrder (requirementsIn scope now store) :=
  Requirement.inOrder_current valid.inForce_of_version

theorem firstUntold_requirementsIn_iff (valid : store.Valid) :
    FirstUntold Requirement.IsTold (requirementsIn scope now store) error
      ↔ store.Untold scope now error := by
  have demands : ∀ requirement, requirement ∈ requirementsIn scope now store
      ↔ store.Demands scope now requirement := fun _ => valid.mem_current_iff
  simp only [(inOrder_requirementsIn valid).firstUntold_iff, demands, Store.Untold]

theorem firstUntold_missingIn_iff (valid : store.Valid) :
    FirstUntold (Requirement.IsOpen now) (missingIn user now scope store) error
      ↔ store.UntoldFor scope now user error := by
  have ordered : InOrder (missingIn user now scope store) :=
    (inOrder_requirementsIn valid).sublist List.filter_sublist
  simp only [ordered.firstUntold_iff, mem_missingIn_iff valid, Store.UntoldFor, and_assoc, and_imp]

/-! ### Questions that fail -/

/-- **A question to a store fails exactly with some time errors**, and has an answer if there are none. -/
def FailsExactly {α : Type} (x : Transaction α) (store : Store) (stuck : TimeError → Prop) : Prop :=
  ∃ result, Replies x store result
    ∧ ∀ failure, result = .error failure ↔ ∃ error, failure = .time error ∧ stuck error

theorem FailsExactly.of_stuck {α : Type} {x : Transaction α} {stuck : TimeError → Prop}
    (fails : FailsExactly x store stuck) (here : stuck error) : Replies x store (.error (.time error)) := by
  obtain ⟨result, replies, failure⟩ := fails
  rw [(failure (.time error)).mpr ⟨error, rfl, here⟩] at replies
  exact replies

theorem mapError_eq_error_iff {α : Type} {result : Except TimeError α} {failure : Failure} :
    result.mapError Failure.time = .error failure ↔ ∃ error, failure = .time error ∧ result = .error error := by
  cases result with
  | ok answer => exact iff_of_false nofun nofun
  | error error =>
    show Except.error _ = _ ↔ _
    simp [eq_comm]

theorem bind_ok_eq_error_iff {α β : Type} {result : Except Failure α} {f : α → β} {failure : Failure} :
    (result >>= fun a => (.ok (f a) : Except Failure β)) = .error failure ↔ result = .error failure := by
  cases result with
  | ok answer => exact iff_of_false nofun nofun
  | error other => simp [bind, Except.bind]

/-- The search among what an accepted user with a role in force has not agreed to decides. -/
theorem standingInForce_eq_error_iff (valid : store.Valid) :
    standingInForce user now store = .error error
      ↔ store.HoldsRole now user ∧ store.UntoldFor Option.none now user error := by
  unfold standingInForce
  by_cases roleless : (activeGrantsIn user now store).isEmpty = true
  · rw [if_pos roleless]
    exact iff_of_false nofun fun both => isEmpty_activeGrantsIn_iff.mp roleless both.1
  · have holds : store.HoldsRole now user :=
      not_not.mp fun free => roleless (isEmpty_activeGrantsIn_iff.mpr free)
    rw [if_neg roleless, ← firstUntold_missingIn_iff valid, ← Requirement.anyExpired_eq_error_iff,
      and_iff_right holds]
    cases Requirement.anyExpired now (missingIn user now Option.none store) with
    | error stuck => simp [bind, Except.bind]
    | ok expired => cases expired <;> exact iff_of_false nofun nofun

theorem standingIn_eq_error_iff (valid : store.Valid) {profile : Option Profile}
    (found : profilesIn user store = profile.toList) :
    standingIn user now store profile = .error error
      ↔ store.IsAccepted user ∧ store.HoldsRole now user ∧ store.UntoldFor Option.none now user error := by
  rw [isAccepted_iff found, ← standingInForce_eq_error_iff valid]
  cases profile with
  | none => exact iff_of_false nofun fun ⟨⟨_, nobody, _⟩, _⟩ => nomatch nobody
  | some mine =>
    cases suspended : mine.isSuspended <;> cases approved : mine.isApproved <;>
      simp [standingIn, suspended, approved]

theorem failsExactly_load (valid : store.Valid) (user : Uuid) (now : Instant) :
    FailsExactly (load user now) store fun error => store.IsAccepted user ∧ store.HoldsRole now user
      ∧ store.UntoldFor Option.none now user error := by
  obtain ⟨profile, found⟩ := exists_profilesIn_eq_toList valid user
  refine ⟨_, (isQuestion_load user now).of_store store, fun failure => ?_⟩
  rw [found, atMostOne_toList]
  refine mapError_eq_error_iff.trans (exists_congr fun error => and_congr_right fun _ => ?_)
  exact standingIn_eq_error_iff valid found

theorem failsExactly_hasExpiredConsents (valid : store.Valid) (user : Uuid) (now : Instant)
    (scope : Option Uuid) :
    FailsExactly (hasExpiredConsents user now scope) store (store.UntoldFor scope now user) := by
  refine ⟨_, (isQuestion_hasExpiredConsents user now scope).of_store store, fun failure => ?_⟩
  refine mapError_eq_error_iff.trans (exists_congr fun error => and_congr_right fun _ => ?_)
  rw [Requirement.anyExpired_eq_error_iff, firstUntold_missingIn_iff valid]

/-- Who is asked about does not matter, if anybody is. -/
theorem withExpiredConsentIn_eq_error_iff (valid : store.Valid) {users : List Uuid} {failure : Failure} :
    withExpiredConsentIn users now scope store = .error failure
      ↔ ∃ error, failure = .time error ∧ users ≠ [] ∧ store.Untold scope now error := by
  unfold withExpiredConsentIn
  by_cases empty : (distinct users).isEmpty = true
  · have nobody : users = [] := List.eq_nil_iff_forall_not_mem.mpr fun user member => by
      have inside := mem_distinct.mpr member
      rw [List.isEmpty_iff.mp empty] at inside
      cases inside
    rw [if_pos empty]
    exact iff_of_false nofun fun ⟨_, _, asked, _⟩ => asked nobody
  · have asked : users ≠ [] := fun nobody => empty (by rw [nobody]; rfl)
    rw [if_neg empty]
    refine bind_ok_eq_error_iff.trans (mapError_eq_error_iff.trans (exists_congr fun error =>
      and_congr_right fun _ => ?_))
    rw [and_iff_right asked, ← firstUntold_requirementsIn_iff valid]
    exact Requirement.filterM_isExpired_eq_error_iff

theorem failsExactly_requiringUpdate (valid : store.Valid) (now : Instant) :
    FailsExactly (requiringUpdate now) store fun error =>
      (∃ user, store.HoldsRole now user) ∧ store.Untold Option.none now error := by
  refine ⟨_, (isQuestion_requiringUpdate now).of_store store, fun failure => ?_⟩
  refine (withExpiredConsentIn_eq_error_iff valid).trans (exists_congr fun error =>
    and_congr_right fun _ => and_congr_left fun _ => ?_)
  constructor
  · intro asked
    obtain ⟨user, member⟩ := List.exists_mem_of_ne_nil _ asked
    exact ⟨user, mem_roleHoldersIn_iff.mp member⟩
  · rintro ⟨user, holds⟩
    exact List.ne_nil_of_mem (mem_roleHoldersIn_iff.mpr holds)

/-- **The questions about standings fail exactly where a deadline is reached that cannot be told**: the
standing of a member, and what the member sees, only for an accepted one with a role in force; the search
for lapsed consents of one user among what that user has not agreed to; of many users, for any of them;
and the compliance report if anybody has a role. A deadline cannot be told if there are more days of grace
than a span has, or if they lead out of the calendar. -/
theorem standings_fail_exactly_at_untold_deadlines (valid : store.Valid) (now : Instant) :
    (∀ user, FailsExactly (load user now) store fun error => store.IsAccepted user
        ∧ store.HoldsRole now user ∧ store.UntoldFor Option.none now user error)
      ∧ (∀ user, FailsExactly (snapshot user now) store fun error => store.IsAccepted user
        ∧ store.HoldsRole now user ∧ store.UntoldFor Option.none now user error)
      ∧ (∀ user scope, FailsExactly (hasExpiredConsents user now scope) store
        (store.UntoldFor scope now user))
      ∧ (∀ users scope, FailsExactly (withExpiredConsent users now scope) store fun error =>
        users ≠ [] ∧ store.Untold scope now error)
      ∧ FailsExactly (requiringUpdate now) store (fun error =>
        (∃ user, store.HoldsRole now user) ∧ store.Untold Option.none now error)
      ∧ ∀ (requirement : Requirement) error, requirement.deadline = .error error ↔
        (requirement.IsOverlong ∧ error = .tooManyDays requirement.graceDays)
          ∨ (¬ requirement.IsOverlong ∧ requirement.LeavesCalendar ∧ error = .outOfRange) := by
  refine ⟨fun user => failsExactly_load valid user now, fun user => ?_,
    fun user => failsExactly_hasExpiredConsents valid user now, fun users scope => ?_,
    failsExactly_requiringUpdate valid now, fun _ _ => Requirement.deadline_eq_error_iff⟩
  · obtain ⟨_, told, fails⟩ := failsExactly_load valid user now
    refine ⟨_, (isQuestion_snapshot user now).of_store store, fun failure => ?_⟩
    rw [((isQuestion_load user now).of_store store).unique told]
    exact bind_ok_eq_error_iff.trans (fails failure)
  · exact ⟨_, (isQuestion_withExpiredConsent users now scope).of_store store, fun _ =>
      withExpiredConsentIn_eq_error_iff valid⟩

/-- An accepted user with a role, and a document with as many days of grace as a column holds, to which another
user has agreed. -/
def endlessGrace : Store where
  users := [{ (default : User) with id := .numbered 1 1 }, { (default : User) with id := .numbered 1 2 }]
  profiles := [{ (default : Profile) with user := .numbered 1 1, isApproved := true }]
  grants := [{ (default : RoleGrant) with user := .numbered 1 1, roleName := Eligibility.boardRole }]
  documents := [{ (default : LegalDocument) with
    isRequired := true, isActive := true, graceDays := 2147483647 }]
  versions := [default]
  consents := [{ (default : ConsentRecord) with user := .numbered 1 2, isExplicit := true }]

theorem untoldFor_endlessGrace :
    endlessGrace.UntoldFor Option.none default (.numbered 1 1) (.tooManyDays 2147483647)
      ∧ endlessGrace.Untold Option.none default (.tooManyDays 2147483647) := by
  let endless : Requirement := .ofVersion default
    { (default : LegalDocument) with isRequired := true, isActive := true, graceDays := 2147483647 }
  have demanded : endlessGrace.Demands Option.none default endless := by
    refine ⟨_, _, ⟨List.mem_cons_self, List.mem_cons_self, rfl, rfl, rfl, rfl, Int.le_refl _, ?_⟩, rfl⟩
    rintro other member _ _
    rw [List.mem_singleton.mp member]
    exact Int.le_refl _
  have only : ∀ other, endlessGrace.Demands Option.none default other → other = endless := by
    rintro _ ⟨version, document, requires, rfl⟩
    rw [List.mem_singleton.mp requires.version_mem, List.mem_singleton.mp requires.document_mem]
  have untold : endless.deadline = .error (.tooManyDays 2147483647) := by decide +kernel
  refine ⟨⟨endless, demanded, by decide +kernel, untold, fun other known _ _ different => ?_⟩,
    endless, demanded, untold, fun other known _ different => ?_⟩
  · exact absurd (only other known) different
  · exact absurd (only other known) different

/-- None of the questions is answered, also about the user who has agreed. -/
theorem endlessGrace_fails :
    Replies (load (.numbered 1 1) default) endlessGrace (.error (.time (.tooManyDays 2147483647)))
      ∧ Replies (snapshot (.numbered 1 1) default) endlessGrace (.error (.time (.tooManyDays 2147483647)))
      ∧ Replies (hasExpiredConsents (.numbered 1 1) default Option.none) endlessGrace
        (.error (.time (.tooManyDays 2147483647)))
      ∧ Replies (withExpiredConsent [.numbered 1 2] default Option.none) endlessGrace
        (.error (.time (.tooManyDays 2147483647)))
      ∧ Replies (requiringUpdate default) endlessGrace (.error (.time (.tooManyDays 2147483647))) := by
  obtain ⟨stuckFor, stuck⟩ := untoldFor_endlessGrace
  have holds : endlessGrace.HoldsRole default (.numbered 1 1) := ⟨_, List.mem_cons_self, rfl, by decide⟩
  have accepted : endlessGrace.IsAccepted (.numbered 1 1) := ⟨_, List.mem_cons_self, rfl, rfl, rfl⟩
  obtain ⟨loads, sees, expires, many, reports, _⟩ :=
    @standings_fail_exactly_at_untold_deadlines endlessGrace (by decide +kernel) default
  exact ⟨(loads _).of_stuck ⟨accepted, holds, stuckFor⟩, (sees _).of_stuck ⟨accepted, holds, stuckFor⟩,
    (expires _ _).of_stuck stuckFor, (many _ _).of_stuck ⟨List.cons_ne_nil _ _, stuck⟩,
    reports.of_stuck ⟨⟨_, holds⟩, stuck⟩⟩

end Standing

end Roster
