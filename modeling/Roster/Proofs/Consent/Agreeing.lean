/-
**Giving the consents that are missing.**

What a user has yet to agree to is told by the explicit records, but any record stands in the way of another.
So a missing consent can be given exactly if the user has no record for the version; a record that is not
explicit keeps the version missing for good.

* `ask` — a user is asked for a consent, in a transaction of its own.
* `Asked` — what some explicit consents that were asked for have added, and that the rest is as it was;
  `Asked.step`, `Asked.run` — one more, and any number of them.
* `missing_consents_can_be_given` — **the missing consents can be given but for those that a record bars**:
  once all of them were asked for, in any order, the barred ones are left, and without any nothing is missing.
* `silent_record_bars_consent` — a record that is not explicit bars a consent that is missing.
-/

import Roster.Proofs.Consent.Recording
import Roster.Proofs.Outbox.Key
import Roster.Proofs.Run
import Roster.Proofs.Standing.Lookup

namespace Roster

namespace Store

theorem agreedTo_withConsent_iff {store : Store} {record : ConsentRecord} {user version : Uuid} :
    (store.withConsent record).AgreedTo user version ↔ store.AgreedTo user version
      ∨ record.user = user ∧ record.version = version ∧ record.isExplicit = true := by
  simp only [AgreedTo, withConsent, List.mem_append, List.mem_singleton, or_and_right, exists_or,
    exists_eq_left]

end Store

namespace Consent

/-- A user is asked for a consent, whatever comes of it. -/
def ask (world : World) (given : Given) : World :=
  endOf (Application.commitAfter (give given) world)

/-- **Explicit consents of a user were asked for**: the rest of the store is as it was, the user has a record
for each of them, and agreed to it unless a record was there before. Identifiers are left up to the last. -/
structure Asked (first : World) (user : Uuid) (last : Nat) (done : List Given) (world : World) : Prop where
  valid : world.store.Valid
  up : world.surroundings.IsUp
  rest : world.store = { first.store with consents := world.store.consents }
  issued : world.surroundings.issued.consents ≤ first.surroundings.issued.consents + done.length
  free : Uuid.FreeBetween 12 world.surroundings.issued.consents last
    (world.store.consents.map ConsentRecord.id)
  has : ∀ version, world.store.HasRecord user version
    ↔ first.store.HasRecord user version ∨ version ∈ done.map Given.version
  agreed : ∀ version, world.store.AgreedTo user version ↔ first.store.AgreedTo user version
    ∨ ¬ first.store.HasRecord user version ∧ version ∈ done.map Given.version

namespace Asked

variable {first world : World} {user : Uuid} {last : Nat} {done : List Given} {given : Given}

theorem refl (valid : first.store.Valid) (up : first.surroundings.IsUp)
    (free : Uuid.FreeBetween 12 first.surroundings.issued.consents last
      (first.store.consents.map ConsentRecord.id)) : Asked first user last [] first where
  valid := valid
  up := up
  rest := rfl
  issued := Nat.le_refl _
  free := free
  has version := by simp
  agreed version := by simp

/-- A consent that a record bars changes nothing, and the user had a record for it or was asked before. -/
theorem step_of_record (asked : Asked first user last done world)
    (has : world.store.HasRecord user given.version) (mine : given.user = user) :
    Asked first user last (done ++ [given]) (ask world given) := by
  have same : ask world given = world := by
    rw [ask, commitAfter_give_of_record asked.valid asked.up (mine ▸ has)]
    rfl
  have before := (asked.has given.version).mp has
  rw [same]
  refine ⟨asked.valid, asked.up, asked.rest, ?_, asked.free, fun version => ?_, fun version => ?_⟩
  · exact Nat.le_trans asked.issued (Nat.add_le_add_left (by simp) _)
  · rw [asked.has, List.map_append, List.mem_append, List.map_singleton, List.mem_singleton, ← or_assoc]
    exact (or_iff_left_of_imp fun last => last ▸ before).symm
  -- A record that was not there at first is from one of the consents asked for before.
  · rw [asked.agreed, List.map_append, List.mem_append, List.map_singleton, List.mem_singleton]
    refine or_congr_right (and_congr_right fun free => (or_iff_left_of_imp fun last => ?_).symm)
    exact (last ▸ before).resolve_left (last ▸ free)

/-- A consent without a record is recorded. -/
theorem step_of_free (asked : Asked first user last done world)
    (free : ¬ world.store.HasRecord user given.version) (mine : given.user = user)
    (explicit : given.isExplicit = true) (room : world.surroundings.issued.consents < last)
    (known : user ∈ first.store.users.map User.id
      ∧ given.version ∈ first.store.versions.map DocumentVersion.id) :
    Asked first user last (done ++ [given]) (ask world given) := by
  subst mine
  have unused := asked.free.unused _ (Nat.lt_succ_self _) room
  have here : given.user ∈ world.store.users.map User.id
      ∧ given.version ∈ world.store.versions.map DocumentVersion.id := by
    rw [asked.rest]
    exact known
  have recorded := commitAfter_give_of_free asked.valid asked.up free unused fun _ => here
  have valid : (world.store.withConsent (given.recordIn world.surroundings)).Valid :=
    (commitAfter_give_ok asked.valid recorded).2.2.1
  have before : ¬ first.store.HasRecord given.user given.version :=
    fun inside => free ((asked.has _).mpr (.inl inside))
  rw [ask, recorded]
  refine ⟨valid, asked.up, ?_, ?_, ?_, fun version => ?_, fun version => ?_⟩
  · conv_lhs => rw [endOf, asked.rest]
    rfl
  · rw [List.length_append]
    exact Nat.succ_le_succ asked.issued
  · show Uuid.FreeBetween 12 (world.surroundings.issued.consents + 1) last
      ((world.store.consents ++ [_]).map ConsentRecord.id)
    rw [List.map_append]
    exact asked.free.next room
  · rw [endOf, Store.hasRecord_withConsent_iff, asked.has, List.map_append, List.mem_append,
      List.map_singleton, List.mem_singleton, ← or_assoc]
    exact or_congr_right ((and_iff_right rfl).trans eq_comm)
  · rw [endOf, Store.agreedTo_withConsent_iff, asked.agreed, List.map_append, List.mem_append,
      List.map_singleton, List.mem_singleton, and_or_left, or_assoc]
    refine or_congr_right (or_congr_right ⟨fun ⟨_, same, _⟩ => ?_, fun ⟨_, same⟩ => ?_⟩)
    · exact ⟨same ▸ before, same.symm⟩
    · exact ⟨rfl, same.symm, explicit⟩

/-- **One more explicit consent.** -/
theorem step (asked : Asked first user last done world) (mine : given.user = user)
    (explicit : given.isExplicit = true)
    (room : first.surroundings.issued.consents + done.length < last)
    (known : user ∈ first.store.users.map User.id
      ∧ given.version ∈ first.store.versions.map DocumentVersion.id) :
    Asked first user last (done ++ [given]) (ask world given) := by
  by_cases has : world.store.HasRecord user given.version
  · exact asked.step_of_record has mine
  · exact asked.step_of_free has mine explicit (Nat.lt_of_le_of_lt asked.issued room) known

/-- **Any number of explicit consents**, one after another. -/
theorem run (asked : Asked first user last done world) {givens : List Given}
    (mine : ∀ given ∈ givens, given.user = user ∧ given.isExplicit = true)
    (room : first.surroundings.issued.consents + (done ++ givens).length ≤ last)
    (known : user ∈ first.store.users.map User.id ∧ ∀ given ∈ givens,
      given.version ∈ first.store.versions.map DocumentVersion.id) :
    Asked first user last (done ++ givens) (givens.foldl ask world) := by
  induction givens generalizing done world with
  | nil => rwa [List.append_nil]
  | cons given rest ih =>
    obtain ⟨user, explicit⟩ := mine given List.mem_cons_self
    have next := asked.step user explicit (by simp at room; omega)
      ⟨known.1, known.2 given List.mem_cons_self⟩
    rw [List.append_cons] at room ⊢
    exact ih next (fun other inside => mine other (List.mem_cons_of_mem _ inside)) room
      ⟨known.1, fun other inside => known.2 other (List.mem_cons_of_mem _ inside)⟩

/-- **What is missing in the end** is what was missing and barred, once all that was missing was asked for. -/
theorem missingIn_eq (asked : Asked first user last done world) (now : Instant) (scope : Option Uuid)
    (all : ∀ requirement ∈ Standing.missingIn user now scope first.store,
      requirement.version ∈ done.map Given.version) :
    Standing.missingIn user now scope world.store
      = (Standing.missingIn user now scope first.store).filter fun requirement =>
        first.store.HasRecord user requirement.version := by
  have required : Standing.requirementsIn scope now world.store
      = Standing.requirementsIn scope now first.store := by
    rw [asked.rest]
    rfl
  rw [Standing.missingIn_of_more required asked.agreed]
  -- What was missing was asked for, so it is left exactly if a record was there.
  refine List.filter_congr fun requirement missed => decide_eq_decide.mpr ?_
  rw [not_and_or, not_not]
  exact or_iff_left (not_not.mpr (all requirement missed))

/-- Without a bar nothing is missing in the end. -/
theorem missingIn_eq_nil (asked : Asked first user last done world) (now : Instant) (scope : Option Uuid)
    (all : ∀ requirement ∈ Standing.missingIn user now scope first.store,
      requirement.version ∈ done.map Given.version)
    (unbarred : ∀ requirement ∈ Standing.missingIn user now scope first.store,
      ¬ first.store.HasRecord user requirement.version) :
    Standing.missingIn user now scope world.store = [] := by
  rw [asked.missingIn_eq now scope all, List.filter_eq_nil_iff]
  simpa only [decide_eq_true_eq] using unbarred

end Asked

variable {start : Store} {world : World} {user : Uuid} {last : Nat}

/-- What is missing is a version that the store knows, and the user did not agree to it. -/
theorem of_mem_missingIn {store : Store} (valid : store.Valid) {now : Instant} {scope : Option Uuid}
    {version : Uuid}
    (missing : version ∈ (Standing.missingIn user now scope store).map Requirement.version) :
    version ∈ store.versions.map DocumentVersion.id ∧ ¬ store.AgreedTo user version := by
  obtain ⟨requirement, inside, rfl⟩ := List.mem_map.mp missing
  obtain ⟨⟨row, document, requires, rfl⟩, silent⟩ := (Standing.mem_missingIn_iff valid).mp inside
  exact ⟨List.mem_map_of_mem requires.version_mem, silent⟩

/-- **The consents that are missing can be given but for those that a record bars.** An explicit consent to a
missing version is recorded if the user has no record for it. If there is one, which is not explicit then, the
consent is refused and nothing changes. Once all that was missing was asked for, in any order, exactly the
barred versions are still missing; if there were none nothing is missing and nothing has expired. -/
theorem missing_consents_can_be_given (valid : start.Valid)
    (recordings : Relation.ReflTransGen Recording start world.store)
    (known : user ∈ world.store.users.map User.id) (up : world.surroundings.IsUp)
    (ahead : world.surroundings.issued.consents < last)
    (free : Uuid.FreeBetween 12 world.surroundings.issued.consents last
      (world.store.consents.map ConsentRecord.id)) (now : Instant) (scope : Option Uuid) :
    ∃ missing : List Uuid, Replies (Standing.missingConsents user now scope) world.store (.ok missing)
      ∧ (∀ record ∈ world.store.consents, record.user = user → record.version ∈ missing →
        record.isExplicit = false)
      ∧ (∀ given : Given, given.user = user → given.version ∈ missing → given.isExplicit = true →
        (world.store.HasRecord user given.version →
          Application.commitAfter (give given) world
            = .error (.alreadyConsented user given.version) world)
        ∧ (¬ world.store.HasRecord user given.version →
          ∃ record after, Application.commitAfter (give given) world = .ok record after
            ∧ record.user = user ∧ record.version = given.version ∧ record.isExplicit = true
            ∧ after.store = world.store.withConsent record))
      ∧ ∀ givens : List Given, (∀ given ∈ givens, given.user = user ∧ given.isExplicit = true) →
        (∀ version, version ∈ givens.map Given.version ↔ version ∈ missing) →
        world.surroundings.issued.consents + givens.length ≤ last →
        Replies (Standing.missingConsents user now scope) (givens.foldl ask world).store
            (.ok (missing.filter fun version => world.store.HasRecord user version))
          ∧ ((∀ version ∈ missing, ¬ world.store.HasRecord user version) →
            Replies (Standing.missingConsents user now scope) (givens.foldl ask world).store (.ok [])
            ∧ Replies (Standing.hasAllConsents user now scope) (givens.foldl ask world).store (.ok true)
            ∧ Replies (Standing.hasExpiredConsents user now scope) (givens.foldl ask world).store
              (.ok false)) := by
  have validHere := valid_of_recordings valid recordings
  refine ⟨_, (Standing.isQuestion_missingConsents user now scope).of_store world.store, ?_, ?_, ?_⟩
  · intro record inside mine missing
    exact eq_false_of_ne_true fun explicit =>
      (of_mem_missingIn validHere missing).2 ⟨record, inside, mine, rfl, explicit⟩
  · rintro given rfl missing explicit
    refine ⟨fun has => commitAfter_give_of_record validHere up has, fun none => ?_⟩
    have unused := free.unused _ (Nat.lt_succ_self _) ahead
    exact ⟨_, _, commitAfter_give_of_free validHere up none unused
      fun _ => ⟨known, (of_mem_missingIn validHere missing).1⟩, rfl, rfl, explicit, rfl⟩
  · intro givens mine all room
    have asked : Asked world user last givens (givens.foldl ask world) :=
      (Asked.refl validHere up free).run mine room ⟨known, fun given inside =>
        (of_mem_missingIn validHere ((all _).mp (List.mem_map_of_mem inside))).1⟩
    have each : ∀ requirement ∈ Standing.missingIn user now scope world.store,
        requirement.version ∈ givens.map Given.version :=
      fun requirement inside => (all _).mpr (List.mem_map_of_mem inside)
    have misses := (Standing.isQuestion_missingConsents user now scope).of_store (givens.foldl ask world).store
    have has := (Standing.isQuestion_hasAllConsents user now scope).of_store (givens.foldl ask world).store
    have lapsed :=
      (Standing.isQuestion_hasExpiredConsents user now scope).of_store (givens.foldl ask world).store
    constructor
    · rw [asked.missingIn_eq now scope each] at misses
      rwa [List.filter_map]
    · intro unbarred
      rw [asked.missingIn_eq_nil now scope each fun requirement inside =>
        unbarred _ (List.mem_map_of_mem inside)] at misses has lapsed
      exact ⟨misses, has, lapsed⟩

/-- Two users and a version that everybody has to agree to. -/
def newTerms : World where
  surroundings := default
  store := {
    users := [{ (default : User) with id := .numbered 1 1 }, { (default : User) with id := .numbered 1 2 }]
    documents := [{ (default : LegalDocument) with id := .numbered 6 1, isRequired := true, isActive := true }]
    versions := [{ (default : DocumentVersion) with id := .numbered 7 1, document := .numbered 6 1 }] }

/-- A consent to the version. -/
def Given.toTerms (number : Nat) (isExplicit : Bool) : Given :=
  { (default : Given) with user := .numbered 1 number, version := .numbered 7 1, isExplicit }

/-- The version was shown to the first user, who did not agree to it. -/
def shownTerms : World := ask newTerms (.toTerms 1 false)

/-- The second user can agree to the version and has nothing missing then; the first user cannot. -/
theorem shownTerms_bars_first :
    Replies (Standing.missingConsents (.numbered 1 2) default none)
        (ask shownTerms (.toTerms 2 true)).store (.ok [])
      ∧ Replies (Standing.missingConsents (.numbered 1 1) default none)
        (ask shownTerms (.toTerms 1 true)).store (.ok [.numbered 7 1]) := by
  have issued : shownTerms.surroundings.issued.consents = 1 := by decide +kernel
  have up : shownTerms.surroundings.IsUp := Option.isNone_iff_eq_none.mp (by decide +kernel)
  have unused : .numbered 12 2 ∉ shownTerms.store.consents.map ConsentRecord.id := by decide +kernel
  have free : Uuid.FreeBetween 12 shownTerms.surroundings.issued.consents 2
      (shownTerms.store.consents.map ConsentRecord.id) := by
    rw [issued]
    refine ⟨Uuid.freshBetween_of_le (by decide), fun number after bound => ?_⟩
    obtain rfl : number = 2 := by omega
    exact unused
  have shown : Relation.ReflTransGen Recording newTerms.store shownTerms.store :=
    .single (.asked newTerms.surroundings (.toTerms 1 false))
  have left (number : Nat) (known : .numbered 1 number ∈ shownTerms.store.users.map User.id)
      (missed : (Standing.missingIn (.numbered 1 number) default none shownTerms.store).map
        Requirement.version = [.numbered 7 1]) :
      Replies (Standing.missingConsents (.numbered 1 number) default none)
        (ask shownTerms (.toTerms number true)).store (.ok ([.numbered 7 1].filter fun version =>
          shownTerms.store.HasRecord (.numbered 1 number) version)) := by
    obtain ⟨missing, misses, _, _, run⟩ := missing_consents_can_be_given (by decide +kernel) shown known
      up (by rw [issued]; decide) free default none
    have same := misses.unique ((Standing.isQuestion_missingConsents _ _ _).of_store _)
    rw [missed] at same
    cases same
    exact (run [.toTerms number true] (List.forall_mem_singleton.mpr ⟨rfl, rfl⟩)
      (fun version => Iff.rfl) (by rw [issued]; exact Nat.le_refl 2)).1
  have second := left 2 (by decide +kernel) (by decide +kernel)
  have first := left 1 (by decide +kernel) (by decide +kernel)
  rw [List.filter_cons_of_neg (by decide +kernel)] at second
  rw [List.filter_cons_of_pos (by decide +kernel)] at first
  exact ⟨second, first⟩

/-- **A record that is not explicit bars a consent that is missing**: the user cannot agree to the version any
more, and it stays missing. -/
theorem silent_record_bars_consent :
    newTerms.store.Valid ∧ Recording newTerms.store shownTerms.store ∧ shownTerms.surroundings.IsUp
      ∧ Replies (Standing.missingConsents (.numbered 1 1) default none) shownTerms.store
        (.ok [.numbered 7 1])
      ∧ (∃ failure after, Application.commitAfter (give (.toTerms 1 true)) shownTerms
        = .error failure after)
      ∧ Replies (Standing.missingConsents (.numbered 1 1) default none)
        (ask shownTerms (.toTerms 1 true)).store (.ok [.numbered 7 1])
      ∧ Replies (Standing.hasAllConsents (.numbered 1 1) default none)
        (ask shownTerms (.toTerms 1 true)).store (.ok false) := by
  let left (store : Store) : List Requirement := Standing.missingIn (.numbered 1 1) default none store
  have before : (left shownTerms.store).map Requirement.version = [.numbered 7 1] := by decide +kernel
  have after : (left (ask shownTerms (.toTerms 1 true)).store).map Requirement.version
      = [.numbered 7 1] := by decide +kernel
  have still : (left (ask shownTerms (.toTerms 1 true)).store).isEmpty = false := by decide +kernel
  have misses (store : Store) :=
    (Standing.isQuestion_missingConsents (.numbered 1 1) default none).of_store store
  have has := (Standing.isQuestion_hasAllConsents (.numbered 1 1) default none).of_store
    (ask shownTerms (.toTerms 1 true)).store
  exact ⟨by decide +kernel, .asked newTerms.surroundings (.toTerms 1 false),
    Option.isNone_iff_eq_none.mp (by decide +kernel), before ▸ misses _, by decide +kernel,
    after ▸ misses _, still ▸ has⟩

end Consent

end Roster
