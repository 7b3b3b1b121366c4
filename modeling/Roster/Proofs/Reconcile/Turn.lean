/-
**What a pass means for one user in one team.**

Seen from one user and one team, a pass with changes does one of three things: it leaves their stays as they
are and the log silent, it adds an open stay where none was open, or it ends the open one; in the last two
cases the log tells it once.

* `Store.staysOf` — the stays of a user in a team; `actionsOf` — what entries of the log tell about them.
* `Turn` — **the three things**; `Imposed.turn` — a pass with changes does one of them.
-/

import Roster.Proofs.Reconcile.Imposed

namespace Roster

/-- The stays of a user in a team, in the order of their insertion. -/
def Store.staysOf (team user : Uuid) (store : Store) : List TeamMember :=
  (store.members.filter fun stay => stay.team = team).filter fun stay => stay.user = user

theorem Store.mem_staysOf {team user : Uuid} {store : Store} {stay : TeamMember} :
    stay ∈ store.staysOf team user ↔ stay ∈ store.members ∧ stay.team = team ∧ stay.user = user := by
  rw [staysOf, List.mem_filter, List.mem_filter, decide_eq_true_eq, decide_eq_true_eq, and_assoc]

/-- Whether a user is in a team is seen from their stays in it. -/
theorem Store.hasStay_iff_staysOf {team user : Uuid} {store : Store} :
    store.HasStay team user ↔ ∃ stay ∈ store.staysOf team user, stay.isOpen = true := by
  simp only [Store.mem_staysOf, and_assoc, Store.HasStay]

namespace Reconcile

/-- **What entries tell about a user in a team**: the actions of those about the team that relate to the
user. -/
def actionsOf (team user : Uuid) (entries : List AuditEntry) : List AuditAction :=
  ((entries.filter (Audit.isAbout "Team" team)).filter fun entry =>
    entry.relatedType = some "User" ∧ entry.relatedEntity = some user).map AuditEntry.action

theorem actionsOf_append {team user : Uuid} (entries more : List AuditEntry) :
    actionsOf team user (entries ++ more) = actionsOf team user entries ++ actionsOf team user more := by
  simp [actionsOf]

/-- A stay that is over afterwards, if it was open. -/
def ended (mode : Mode) (stay : TeamMember) : TeamMember :=
  if stay.isOpen then leaving mode stay else stay

/-- **What a pass does to the stays of a user in a team**, and what it tells about it. -/
inductive Turn (mode : Mode) (stays : List TeamMember) : Option AuditAction → List TeamMember → Prop where
  | rests : Turn mode stays none stays
  | joins {stay : TeamMember} (outside : ∀ other ∈ stays, other.isOpen = false)
      (joinedAt : stay.joinedAt = mode.now) (opened : stay.leftAt = none) :
      Turn mode stays (some .teamMemberAdded) (stays ++ [stay])
  | leaves (inside : ∃ stay ∈ stays, stay.isOpen = true) :
      Turn mode stays (some .teamMemberRemoved) (stays.map (ended mode))

variable {kind : TeamKind} {mode : Mode} {team : Team} {user : Uuid} {removed : List Uuid}
  {stays : List TeamMember}

/-! ### Stays that end -/

theorem map_endedIn_of_not_mem (kept : user ∉ removed) (own : ∀ stay ∈ stays, stay.user = user) :
    stays.map (endedIn mode team.id removed) = stays :=
  (List.map_congr_left fun stay inside => endedIn_of_not_mem (own stay inside ▸ kept)).trans
    (List.map_id' _)

theorem map_endedIn_of_mem (gone : user ∈ removed)
    (own : ∀ stay ∈ stays, stay.team = team.id ∧ stay.user = user) :
    stays.map (endedIn mode team.id removed) = stays.map (ended mode) := by
  refine List.map_congr_left fun stay inside => ?_
  obtain ⟨sameTeam, rfl⟩ := own stay inside
  exact if_congr ((and_iff_right sameTeam).trans (and_iff_left gone)) rfl rfl

/-- The stays of a user in a team after stays end and begin in it. -/
theorem staysOf_append {before after : Store} {joined : List TeamMember}
    (members : after.members = before.members.map (endedIn mode team.id removed) ++ joined)
    (fields : ∀ stay ∈ joined, stay.team = team.id) :
    after.staysOf team.id user = (before.staysOf team.id user).map (endedIn mode team.id removed)
      ++ joined.filter fun stay => stay.user = user := by
  have own : joined.filter (fun stay => stay.team = team.id) = joined :=
    List.filter_eq_self.mpr fun stay inside => decide_eq_true (fields stay inside)
  rw [Store.staysOf, members, List.filter_append, own, List.filter_append,
    filter_map_endedIn fun stay => by rw [endedIn_team],
    filter_map_endedIn fun stay => by rw [endedIn_user]]
  rfl

/-- Whoever begins stays begins one each. -/
theorem filter_begun_of_mem {issued : Nat} {users : List Uuid} (once : users.Nodup)
    (joined : user ∈ users) : ∃ stay, (begun mode team issued users).filter (fun stay => stay.user = user)
      = [stay] ∧ stay.joinedAt = mode.now ∧ stay.leftAt = none := by
  have named := @map_user_begun mode team issued users
  rw [← named] at joined once
  obtain ⟨stay, inside, rfl⟩ := List.mem_map.mp joined
  obtain ⟨_, _, joinedAt, opened⟩ := mem_begun_fields inside
  exact ⟨stay, Store.filter_of_nodup once inside, joinedAt, opened⟩

theorem filter_begun_of_not_mem {issued : Nat} {users : List Uuid} (absent : user ∉ users) :
    (begun mode team issued users).filter (fun stay => stay.user = user) = [] := by
  refine List.filter_eq_nil_iff.mpr fun stay inside same => absent ?_
  have named := List.mem_map_of_mem (f := TeamMember.user) inside
  rw [map_user_begun, of_decide_eq_true same] at named
  exact named

/-! ### What the log tells -/

theorem filter_eq_ite {ids : List Uuid} (once : ids.Nodup) :
    ids.filter (fun other => other = user) = if user ∈ ids then [user] else [] := by
  split
  · rename_i inside
    exact @Store.filter_of_nodup Uuid id ids (by rwa [List.map_id]) user inside
  · rename_i absent
    refine List.filter_eq_nil_iff.mpr fun other inside same => absent ?_
    exact of_decide_eq_true same ▸ inside

/-- **What the entries of a pass tell about a user in its team**: that they were added, removed, or
nothing. -/
theorem actionsOf_entriesOf {names : List (Uuid × String)} {issued : Nat} {eligible : List Uuid}
    {before : Store} (valid : before.Valid) :
    actionsOf team.id user (entriesOf mode team names issued (changesIn team.id eligible before))
      = (if user ∈ addedIn team.id eligible before then [.teamMemberAdded] else [])
        ++ if user ∈ removedIn team.id eligible before then [.teamMemberRemoved] else [] := by
  have about : (entriesOf mode team names issued (changesIn team.id eligible before)).filter
      (Audit.isAbout "Team" team.id) = entriesOf mode team names issued
        (changesIn team.id eligible before) := List.filter_eq_self.mpr fun entry inside =>
    decide_eq_true ⟨(documents_entriesOf inside).entityType, (documents_entriesOf inside).entity⟩
  have pairs := @map_told_entriesOf mode team names issued (changesIn team.id eligible before)
  rw [map_changesIn valid told fun _ => rfl] at pairs
  have seen : ∀ entries : List AuditEntry, (∀ entry ∈ entries, Documents mode team entry) →
      (entries.filter fun entry => entry.relatedType = some "User"
        ∧ entry.relatedEntity = some user).map AuditEntry.action
        = ((entries.map fun entry => (entry.action, entry.relatedEntity)).filter fun pair =>
          pair.2 = some user).map Prod.fst := by
    intro entries documents
    rw [List.filter_map, List.map_map]
    refine congrArg _ (List.filter_congr fun entry inside => ?_)
    rw [(documents entry inside).relatedType]
    simp
  have listed : ∀ (kind : EventKind) (ids : List Uuid), ids.Nodup →
      ((ids.map (told kind)).filter fun pair => pair.2 = some user).map Prod.fst
        = if user ∈ ids then [(told kind user).1] else [] := by
    intro kind ids once
    have same : (fun pair : AuditAction × Option Uuid => decide (pair.2 = some user)) ∘ told kind
        = fun other => decide (other = user) := by
      funext other
      cases kind <;> simp [told]
    rw [List.filter_map, same, filter_eq_ite once]
    split <;> rfl
  rw [actionsOf, about, seen _ fun entry inside => documents_entriesOf inside, pairs, List.filter_append,
    List.map_append, listed _ _ nodup_addedIn, listed _ _ (nodup_removedIn valid)]
  rfl

/-! ### One pass -/

namespace Imposed

variable {eligible : List Uuid} {before after : Store} {result : PassResult}
  (imposed : Imposed kind mode team eligible before result after)

include imposed

/-- In the team of the pass a user is added, removed, or left as they are. -/
theorem turn_own : ∃ action, Turn mode (before.staysOf team.id user) action (after.staysOf team.id user)
    ∧ (if user ∈ addedIn team.id eligible before then [.teamMemberAdded] else [])
      ++ (if user ∈ removedIn team.id eligible before then [.teamMemberRemoved] else [])
        = action.toList := by
  obtain ⟨issued, members⟩ := imposed.members
  have stays := @staysOf_append mode team user _ _ _ _ members fun stay joined => (mem_begun_fields joined).1
  have own : ∀ stay ∈ before.staysOf team.id user, stay.team = team.id ∧ stay.user = user :=
    fun stay inside => (Store.mem_staysOf.mp inside).2
  rw [stays, imposed.added_eq, imposed.removed_eq]
  by_cases added : user ∈ addedIn team.id eligible before
  · have outside := (mem_addedIn_iff.mp added).2
    have kept : user ∉ removedIn team.id eligible before := fun gone =>
      outside (mem_removedIn_iff.mp gone).1
    obtain ⟨stay, alone, joinedAt, opened⟩ := @filter_begun_of_mem mode team user issued _ nodup_addedIn
      added
    rw [if_pos added, if_neg kept, alone, map_endedIn_of_not_mem kept fun stay inside => (own stay inside).2]
    rw [Store.hasStay_iff_staysOf] at outside
    refine ⟨some .teamMemberAdded, .joins (fun other inside => ?_) joinedAt opened, rfl⟩
    exact Bool.eq_false_iff.mpr fun opened => outside ⟨other, inside, opened⟩
  rw [if_neg added, filter_begun_of_not_mem added, List.append_nil, List.nil_append]
  by_cases gone : user ∈ removedIn team.id eligible before
  · rw [if_pos gone, map_endedIn_of_mem gone own]
    exact ⟨some .teamMemberRemoved, .leaves (Store.hasStay_iff_staysOf.mp (mem_removedIn_iff.mp gone).1),
      rfl⟩
  · rw [if_neg gone, map_endedIn_of_not_mem gone fun stay inside => (own stay inside).2]
    exact ⟨none, .rests, rfl⟩

/-- **A pass with changes does one of three things for a user in a team**, and tells it once in the log. -/
theorem turn (valid : before.Valid) : ∃ entries, after.audit = before.audit ++ entries ∧ ∀ other user, ∃ action,
    Turn mode (before.staysOf other user) action (after.staysOf other user)
      ∧ actionsOf other user entries = action.toList := by
  obtain ⟨first, audit⟩ := imposed.audit
  refine ⟨_, audit, fun other user => ?_⟩
  by_cases own : other = team.id
  · subst own
    rw [actionsOf_entriesOf valid]
    exact imposed.turn_own
  · have same : after.staysOf other user = before.staysOf other user :=
      congrArg (List.filter _) (imposed.spares own).members
    have silent : ∀ entry ∈ entriesOf mode team (namesIn (result.added ++ result.removed) before) first
        (changesIn team.id eligible before), ¬ Audit.isAbout "Team" other entry = true :=
      fun entry inside about =>
        own ((of_decide_eq_true about).2.symm.trans (documents_entriesOf inside).entity)
    rw [same, actionsOf, List.filter_eq_nil_iff.mpr silent]
    exact ⟨none, .rests, rfl⟩

end Imposed

end Reconcile

end Roster
