/-
**Who agreed to what.**

One relation between users and versions can be asked about in five ways: by the records of a user, by a user
and a version, by a user, by a version, and by many users at once. The last way enters the agreements that were
found one by one with the users who were asked about, and whoever is not among them has no place there.

* `enter_of_mem` — one agreement is entered with its user; `foldlM_enter` — **any number of them is, if all
  their users were asked about**.
* `isQuestion_versionsOfAll` — the look-up for many users finds what the look-up for one finds for each.
* `lookups_show_one_relation` — **all five ways show one relation**, whatever the store holds.
-/

import Roster.Proofs.Session.Question
import Roster.Proofs.Standing.Required

namespace Roster.Consent

variable {store : Store} {users : List Uuid} {user version : Uuid}

/-! ### Entering agreements -/

/-- **An agreement is entered with its user** and with nobody else, if the user has an entry. -/
theorem enter_of_mem (nodup : users.Nodup) (member : user ∈ users) (version : Uuid)
    (entered : Uuid → List Uuid) :
    enter user version (users.map fun other => (other, entered other))
      = .ok (users.map fun other => (other, if other = user ∧ version ∉ entered other then
          entered other ++ [version] else entered other)) := by
  induction users with
  | nil => cases member
  | cons first rest ih =>
    rw [List.nodup_cons] at nodup
    rw [List.map_cons, List.map_cons, enter]
    by_cases same : first = user
    · subst same
      have others : ∀ other ∈ rest, other ≠ first := fun other inside equal => nodup.1 (equal ▸ inside)
      have kept : (rest.map fun other => (other, if other = first ∧ version ∉ entered other then
          entered other ++ [version] else entered other))
            = rest.map fun other => (other, entered other) :=
        List.map_congr_left fun other inside => by rw [if_neg fun both => others other inside both.1]
      rw [if_pos rfl, kept]
      by_cases known : version ∈ entered first <;> simp [known]
    · have inside : user ∈ rest := (List.mem_cons.mp member).resolve_left (Ne.symm same)
      rw [if_neg same, if_neg fun both => same both.1, ih nodup.2 inside]
      rfl

/-- The versions that some agreements name for a user. -/
def versionsNamed (agreements : List (Uuid × Uuid)) (user : Uuid) : List Uuid :=
  distinct ((agreements.filter (·.1 = user)).map (·.2))

theorem versionsNamed_concat (agreements : List (Uuid × Uuid)) (agreement : Uuid × Uuid) (user : Uuid) :
    versionsNamed (agreements ++ [agreement]) user
      = if user = agreement.1 ∧ agreement.2 ∉ versionsNamed agreements user then
          versionsNamed agreements user ++ [agreement.2] else versionsNamed agreements user := by
  unfold versionsNamed
  rw [List.filter_append]
  by_cases same : agreement.1 = user
  · rw [List.filter_cons_of_pos (by simpa using same), List.filter_nil, List.map_append,
      List.map_singleton, distinct_concat, ← ite_not]
    refine if_congr ?_ rfl rfl
    rw [mem_distinct, and_iff_right same.symm]
  · rw [List.filter_cons_of_neg (by simpa using same), List.filter_nil, List.append_nil,
      if_neg fun both => same both.1.symm]

/-- **Agreements are entered one by one**, if all their users have entries: in the end each entry holds what
they name for its user. -/
theorem foldlM_enter (nodup : users.Nodup) {agreements : List (Uuid × Uuid)}
    (known : ∀ agreement ∈ agreements, agreement.1 ∈ users) (done : List (Uuid × Uuid)) :
    agreements.foldlM (fun entries agreement => enter agreement.1 agreement.2 entries)
        (users.map fun user => (user, versionsNamed done user))
      = .ok (users.map fun user => (user, versionsNamed (done ++ agreements) user)) := by
  induction agreements generalizing done with
  | nil =>
    rw [List.append_nil]
    rfl
  | cons agreement rest ih =>
    have here := known agreement List.mem_cons_self
    have entered := enter_of_mem nodup here agreement.2 (versionsNamed done)
    have later := ih (fun other inside => known other (List.mem_cons_of_mem _ inside))
      (done ++ [agreement])
    simp only [versionsNamed_concat done agreement] at later
    rw [List.foldlM_cons, entered, List.append_cons]
    exact later

theorem enter_error {user version : Uuid} {entries : List (Uuid × List Uuid)} {failure : Failure}
    (failed : enter user version entries = .error failure) : failure = .noEntry user := by
  induction entries with
  | nil =>
    cases failed
    rfl
  | cons entry rest ih =>
    unfold enter at failed
    split at failed
    · cases failed
    · cases later : enter user version rest with
      | ok entered =>
        rw [later] at failed
        cases failed
      | error other =>
        rw [later] at failed
        cases failed
        exact ih later

/-- Agreements that cannot be entered are those of somebody without an entry. -/
theorem foldlM_enter_error {agreements : List (Uuid × Uuid)} {entries : List (Uuid × List Uuid)}
    {failure : Failure} (failed : agreements.foldlM (fun entries agreement =>
      enter agreement.1 agreement.2 entries) entries = .error failure) : ∃ user, failure = .noEntry user := by
  induction agreements generalizing entries with
  | nil => cases failed
  | cons agreement rest ih =>
    rw [List.foldlM_cons] at failed
    cases first : enter agreement.1 agreement.2 entries with
    | ok entered =>
      rw [first] at failed
      exact ih failed
    | error other =>
      rw [first] at failed
      cases failed
      exact ⟨_, enter_error first⟩

/-! ### The look-up for many users -/

/-- What each of some users agreed to, perhaps among certain versions only. -/
def agreedIn (users : List Uuid) (among : Option (List Uuid)) (store : Store) :
    List (Uuid × List Uuid) :=
  users.map fun user => (user, (versionsIn user store).filter fun version => among.all (·.contains version))

/-- What is found for one of the users is what that user agreed to. -/
theorem versionsNamed_agreementsIn (member : user ∈ users) (among : Option (List Uuid)) (store : Store) :
    versionsNamed (agreementsIn users among store) user
      = (versionsIn user store).filter fun version => among.all (·.contains version) := by
  unfold versionsNamed agreementsIn versionsIn
  rw [filter_distinct, List.filter_map, List.filter_map, List.filter_filter, List.filter_filter,
    List.map_map]
  refine congrArg distinct (congrArg _ (List.filter_congr fun record _ => ?_))
  by_cases mine : record.user = user
  · simp [mine, member, Bool.and_comm]
  · simp [mine]

/-- **The look-up for many users** enters nothing but what it found for them, so it never comes to a user
without an entry. -/
theorem isQuestion_versionsOfAll (users : List Uuid) (among : Option (List Uuid)) :
    IsQuestion (versionsOfAll users among) fun store => .ok (agreedIn (distinct users) among store) := by
  unfold versionsOfAll
  by_cases nobody : (distinct users).isEmpty = true
  · rw [if_pos nobody, List.isEmpty_iff.mp nobody]
    exact IsQuestion.pure []
  · rw [if_neg nobody]
    by_cases nothing : among = some []
    · rw [if_pos nothing, nothing]
      refine (IsQuestion.pure _).congr fun store => congrArg _ ?_
      exact List.map_congr_left fun user _ => by simp
    · rw [if_neg nothing]
      refine (IsQuestion.bind_read (fun agreements _ => agreements.foldlM (fun entries agreement =>
        enter agreement.1 agreement.2 entries) ((distinct users).map fun user => (user, [])))
        fun agreements => IsQuestion.ofExcept _).congr fun store => ?_
      have known : ∀ agreement ∈ agreementsIn (distinct users) among store,
          agreement.1 ∈ distinct users := by
        intro agreement inside
        obtain ⟨record, found, rfl⟩ := List.mem_map.mp inside
        exact List.contains_iff_mem.mp (of_decide_eq_true (List.mem_filter.mp found).2).1
      refine (foldlM_enter (nodup_distinct users) known []).trans (congrArg _ ?_)
      refine List.map_congr_left fun user member => ?_
      rw [List.nil_append, versionsNamed_agreementsIn member]

theorem keeps_versionsOfAll (users : List Uuid) (among : Option (List Uuid)) :
    Keeps Session.Quiet (versionsOfAll users among) := by
  unfold versionsOfAll
  refine Keeps.ite (Keeps.pure _) (Keeps.ite (Keeps.pure _) ?_)
  exact Keeps.bind (Transaction.keeps_read _) fun _ => Keeps.ofExcept _

/-! ### One relation -/

theorem isGivenIn_iff : isGivenIn user version store = true ↔ store.AgreedTo user version := by
  simp only [isGivenIn, List.any_eq_true, decide_eq_true_eq, Store.AgreedTo]

theorem mem_ofUserIn_iff {record : ConsentRecord} :
    record ∈ ofUserIn user store ↔ record ∈ store.consents ∧ record.user = user := by
  rw [ofUserIn, List.mem_mergeSort, List.mem_filter, decide_eq_true_eq]

/-- Somebody who is not stored is not listed either. -/
theorem mem_usersWithoutIn_iff : user ∈ usersWithoutIn version store
    ↔ user ∈ store.users.map User.id ∧ ¬ store.AgreedTo user version := by
  have listed : user ∈ (store.consents.filter fun record =>
        record.version = version ∧ record.isExplicit).map (·.user) ↔ store.AgreedTo user version := by
    simp only [List.mem_map, List.mem_filter, decide_eq_true_eq, Store.AgreedTo]
    constructor
    · rintro ⟨record, ⟨inside, same, explicit⟩, mine⟩
      exact ⟨record, inside, mine, same, explicit⟩
    · rintro ⟨record, inside, mine, same, explicit⟩
      exact ⟨record, ⟨inside, same, explicit⟩, mine⟩
  rw [usersWithoutIn, List.mem_filter, Bool.not_eq_true', ← Bool.not_eq_true, List.contains_iff_mem,
    listed]

/-- **The look-ups show one relation**, whatever the store holds: who agreed to what. A user agreed to a version
exactly if the store says so of the two, exactly if the version is among those of the user, exactly if one of
the records of the user is an explicit one for it, and, if the user is stored, exactly if the user is not listed
as one who did not. Asked about many users at once, also twice or unknown ones, the store has one entry for each
of them and none for anybody else, with the versions of that user, up to those that were not asked about. -/
theorem lookups_show_one_relation (store : Store) :
    (∀ user version, ∃ given versions records others,
      Replies (isGiven user version) store (.ok given)
        ∧ Replies (versionsOf user) store (.ok versions)
        ∧ Replies (ofUser user) store (.ok records)
        ∧ Replies (usersWithout version) store (.ok others)
        ∧ (given = true ↔ store.AgreedTo user version)
        ∧ (version ∈ versions ↔ store.AgreedTo user version)
        ∧ ((∃ record ∈ records, record.version = version ∧ record.isExplicit = true)
          ↔ store.AgreedTo user version)
        ∧ (user ∈ others ↔ user ∈ store.users.map User.id ∧ ¬ store.AgreedTo user version))
      ∧ ∀ users among, ∃ entries, Replies (versionsOfAll users among) store (.ok entries)
        ∧ (entries.map Prod.fst).Nodup
        ∧ (∀ user, user ∈ entries.map Prod.fst ↔ user ∈ users)
        ∧ ∀ entry ∈ entries, ∃ versions, Replies (versionsOf entry.1) store (.ok versions)
          ∧ ∀ version, (version ∈ entry.2 ↔ version ∈ versions ∧ ∀ list ∈ among, version ∈ list)
            ∧ (version ∈ versions ↔ store.AgreedTo entry.1 version) := by
  constructor
  · intro user version
    refine ⟨_, _, _, _, (IsQuestion.read _).of_store store, (IsQuestion.read _).of_store store,
      (IsQuestion.read _).of_store store, (IsQuestion.read _).of_store store, isGivenIn_iff,
      Store.mem_versionsIn_iff, ?_, mem_usersWithoutIn_iff⟩
    simp only [mem_ofUserIn_iff, Store.AgreedTo, and_assoc]
  · intro users among
    have keys : (agreedIn (distinct users) among store).map Prod.fst = distinct users := by
      simp [agreedIn, Function.comp_def]
    refine ⟨_, (isQuestion_versionsOfAll users among).of_store store, ?_, fun user => ?_,
      fun entry inside => ?_⟩
    · rw [keys]
      exact nodup_distinct users
    · rw [keys, mem_distinct]
    · obtain ⟨user, _, rfl⟩ := List.mem_map.mp inside
      refine ⟨_, (IsQuestion.read _).of_store store, fun version => ⟨?_, Store.mem_versionsIn_iff⟩⟩
      rw [List.mem_filter]
      cases among with
      | none => simp
      | some list => simp

end Roster.Consent
