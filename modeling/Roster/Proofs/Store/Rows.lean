/-
**Rows and the rules of the store.**

What a change of some rows does to a table, and which changes keep the rules of the store.

* `updated` — the rows of a table, some of them replaced by rows of the same identifier; applying
  replacements one after another comes to the same if their identifiers differ
  (`foldl_replaced_eq_updated`), **in whatever order** (`updated_perm`).
* `Valid.withEvents`, `Valid.withMembers`, `Valid.withAudit`, `Valid.withTeams` — a valid store stays
  valid if one table changes and the rules about this table hold; `Valid.withEvent`, `Valid.withMember`,
  `Valid.withLeft`, `Valid.withEntry`, `Valid.withConsent` — the changes of one row.
-/

import Roster.Session
import Mathlib.Data.List.Nodup

namespace Roster

/-! ### Distinct members of a list -/

section Distinct

variable {α : Type} [DecidableEq α]

theorem mem_distinct {a : α} {list : List α} : a ∈ distinct list ↔ a ∈ list := by
  induction list with
  | nil => rfl
  | cons first rest ih =>
    rw [distinct, List.mem_cons, List.mem_cons, List.mem_filter, ih]
    by_cases same : a = first <;> simp [same]

theorem nodup_distinct (list : List α) : (distinct list).Nodup := by
  induction list with
  | nil => exact List.nodup_nil
  | cons first rest ih =>
    rw [distinct, List.nodup_cons]
    exact ⟨by simp, ih.filter _⟩

theorem distinct_of_nodup {list : List α} (nodup : list.Nodup) : distinct list = list := by
  induction list with
  | nil => rfl
  | cons first rest ih =>
    rw [List.nodup_cons] at nodup
    rw [distinct, ih nodup.2, List.filter_eq_self.mpr]
    intro a member
    exact decide_eq_true fun same => nodup.1 (same ▸ member)

/-- Whether the distinct members are looked for first or the members with a property makes no
difference. -/
theorem filter_distinct (p : α → Bool) (list : List α) :
    (distinct list).filter p = distinct (list.filter p) := by
  induction list with
  | nil => rfl
  | cons first rest ih =>
    rw [distinct, List.filter_cons, List.filter_cons, List.filter_filter]
    by_cases holds : p first = true
    · rw [if_pos holds, if_pos holds, distinct, ← ih, List.filter_filter]
      exact congrArg _ (List.filter_congr fun a _ => Bool.and_comm _ _)
    · rw [if_neg holds, if_neg holds, ← ih]
      refine List.filter_congr fun a _ => ?_
      by_cases same : a = first
      · simp [same, holds]
      · simp [same]

/-- One more member comes last, unless it is there. -/
theorem distinct_concat (list : List α) (a : α) :
    distinct (list ++ [a]) = if a ∈ list then distinct list else distinct list ++ [a] := by
  induction list with
  | nil => rfl
  | cons first rest ih =>
    rw [List.cons_append, distinct, ih, distinct]
    by_cases same : a = first
    · have inside : a ∈ first :: rest := same ▸ List.mem_cons_self
      rw [if_pos inside]
      split
      · rfl
      · simp [same]
    · by_cases inside : a ∈ rest
      · rw [if_pos inside, if_pos (List.mem_cons_of_mem _ inside)]
      · have outside : a ∉ first :: rest := by simp [same, inside]
        rw [if_neg inside, if_neg outside]
        simp [List.filter_append, same]

theorem length_distinct_le (list : List α) : (distinct list).length ≤ list.length := by
  induction list with
  | nil => exact Nat.le_refl 0
  | cons first rest ih =>
    rw [distinct, List.length_cons, List.length_cons]
    have few := List.length_filter_le (fun a => decide (a ≠ first)) (distinct rest)
    omega

theorem distinct_of_const {list : List α} {a : α} (const : ∀ b ∈ list, b = a) (some : list ≠ []) :
    distinct list = [a] := by
  match list, some with
  | first :: rest, _ =>
    obtain rfl : first = a := const first List.mem_cons_self
    rw [distinct, List.filter_eq_nil_iff.mpr]
    intro b member
    have same := const b (List.mem_cons_of_mem _ (mem_distinct.mp member))
    simp [same]

end Distinct

/-! ### Replaced rows -/

namespace Store

variable {α : Type} {idOf : α → Uuid}

/-- The row of a table by its identifier, if the identifiers are distinct. -/
theorem find?_of_nodup {table : List α} (ids : (table.map idOf).Nodup) {row : α} (member : row ∈ table) :
    table.find? (fun other => idOf other = idOf row) = some row := by
  induction table with
  | nil => cases member
  | cons first rest ih =>
    rw [List.map_cons, List.nodup_cons] at ids
    rw [List.find?_cons]
    rcases List.mem_cons.mp member with rfl | member
    · simp
    · have other : idOf first ≠ idOf row := fun same =>
        ids.1 (same ▸ List.mem_map_of_mem member)
      simp only [other, decide_false]
      exact ih ids.2 member

/-- Rows of one identifier are the same row. -/
theorem eq_of_id_eq {table : List α} (ids : (table.map idOf).Nodup) {row other : α} (member : row ∈ table)
    (memberOther : other ∈ table) (same : idOf row = idOf other) : row = other :=
  List.inj_on_of_nodup_map ids member memberOther same

/-- The rows with the identifier of a row are just this row. -/
theorem filter_of_nodup {table : List α} (ids : (table.map idOf).Nodup) {row : α}
    (member : row ∈ table) : table.filter (fun other => idOf other = idOf row) = [row] := by
  induction table with
  | nil => cases member
  | cons first rest ih =>
    rw [List.map_cons, List.nodup_cons] at ids
    rcases List.mem_cons.mp member with rfl | later
    · have others : rest.filter (fun other => idOf other = idOf row) = [] := by
        refine List.filter_eq_nil_iff.mpr fun other inside same => ids.1 ?_
        rw [← of_decide_eq_true same]
        exact List.mem_map_of_mem inside
      rw [List.filter_cons_of_pos (by simp), others]
    · have different : idOf first ≠ idOf row := fun same => ids.1 (same ▸ List.mem_map_of_mem later)
      rw [List.filter_cons_of_neg (by simpa using different), ih ids.2 later]

/-- At most one row has a key, if the keys are distinct. -/
theorem exists_filter_eq_toList {κ : Type} [DecidableEq κ] {keyOf : α → κ} {table : List α}
    (keys : (table.map keyOf).Nodup) (key : κ) :
    ∃ row : Option α, table.filter (fun row => keyOf row = key) = row.toList := by
  induction table with
  | nil => exact ⟨none, rfl⟩
  | cons first rest ih =>
    rw [List.map_cons, List.nodup_cons] at keys
    by_cases same : keyOf first = key
    · refine ⟨some first, ?_⟩
      rw [List.filter_cons_of_pos (by simpa using same), List.filter_eq_nil_iff.mpr]
      · rfl
      · intro other inside equal
        refine keys.1 ?_
        rw [same, ← of_decide_eq_true equal]
        exact List.mem_map_of_mem inside
    · obtain ⟨row, found⟩ := ih keys.2
      exact ⟨row, by rw [List.filter_cons_of_neg (by simpa using same), found]⟩

variable (idOf) in
/-- The rows of a table, some of them replaced by rows of the same identifier. -/
def updated (changes table : List α) : List α :=
  table.map fun row => (changes.find? fun change => idOf change = idOf row).getD row

theorem updated_nil (table : List α) : updated idOf [] table = table := by
  simp [updated]

/-- Replaced rows keep their identifiers. -/
theorem map_updated (changes table : List α) : (updated idOf changes table).map idOf = table.map idOf := by
  rw [updated, List.map_map]
  refine List.map_congr_left fun row _ => ?_
  rw [Function.comp_apply]
  cases found : changes.find? fun change => idOf change = idOf row with
  | none => rfl
  | some change => simpa using List.find?_some found

/-- A row whose identifier is not replaced was there before. -/
theorem mem_of_mem_updated {changes table : List α} {row : α} (member : row ∈ updated idOf changes table)
    (other : ∀ change ∈ changes, idOf change ≠ idOf row) : row ∈ table := by
  obtain ⟨before, was, rfl⟩ := List.mem_map.mp member
  cases found : changes.find? fun change => idOf change = idOf before with
  | none => exact was
  | some change =>
    rw [found] at other
    exact absurd rfl (other change (List.mem_of_find?_eq_some found))

/-- What becomes of one row depends on the replacements with its identifier only. -/
theorem updated_eq_of_forall {changes table : List α} {after : α → α}
    (replaced : ∀ row ∈ table, ∀ change ∈ changes, idOf change = idOf row → change = after row)
    (kept : ∀ row ∈ table, (∀ change ∈ changes, idOf change ≠ idOf row) → row = after row) :
    updated idOf changes table = table.map after := by
  refine List.map_congr_left fun row member => ?_
  cases found : changes.find? fun change => idOf change = idOf row with
  | none =>
    rw [List.find?_eq_none] at found
    exact kept row member fun change inside => by simpa using found change inside
  | some change =>
    have same : idOf change = idOf row := by simpa using List.find?_some found
    exact replaced row member change (List.mem_of_find?_eq_some found) same

/-- **Replacements of different rows may be made one after another.** -/
theorem foldl_replaced_eq_updated {changes : List α} (ids : (changes.map idOf).Nodup) (table : List α) :
    changes.foldl (fun table change => replaced idOf (idOf change) change table) table
      = updated idOf changes table := by
  induction changes generalizing table with
  | nil => exact (updated_nil table).symm
  | cons first rest ih =>
    rw [List.map_cons, List.nodup_cons] at ids
    rw [List.foldl_cons, ih ids.2, updated, replaced, List.map_map]
    refine List.map_congr_left fun row _ => ?_
    rw [Function.comp_apply, List.find?_cons]
    by_cases same : idOf row = idOf first
    · rw [if_pos same, List.find?_eq_none.mpr]
      · simp [same]
      · intro change member
        have other : idOf change ≠ idOf first := fun equal =>
          ids.1 (equal ▸ List.mem_map_of_mem member)
        simpa using other
    · rw [if_neg same]
      have other : ¬ idOf first = idOf row := fun equal => same equal.symm
      simp [other]

/-- **The order of replacements of different rows does not matter.** -/
theorem updated_perm {changes others : List α} (perm : changes.Perm others)
    (ids : (changes.map idOf).Nodup) (table : List α) :
    updated idOf changes table = updated idOf others table := by
  refine List.map_congr_left fun row _ => congrArg (Option.getD · row) ?_
  have ids' : (others.map idOf).Nodup := (perm.map idOf).nodup_iff.mp ids
  cases found : changes.find? fun change => idOf change = idOf row with
  | none =>
    rw [List.find?_eq_none] at found
    exact (List.find?_eq_none.mpr fun change member => found change (perm.mem_iff.mpr member)).symm
  | some change =>
    have same : idOf change = idOf row := by simpa using List.find?_some found
    rw [← same]
    exact (find?_of_nodup ids' (perm.mem_iff.mp (List.mem_of_find?_eq_some found))).symm

/-! ### The rules one by one -/

variable {store : Store}

theorem Valid.teamIds (valid : store.Valid) : (store.teams.map Team.id).Nodup :=
  valid.1.2.2.2.1

theorem Valid.memberIds (valid : store.Valid) : (store.members.map TeamMember.id).Nodup :=
  valid.1.2.2.2.2.1

theorem Valid.documentIds (valid : store.Valid) : (store.documents.map LegalDocument.id).Nodup :=
  valid.1.2.2.2.2.2.1

theorem Valid.versionIds (valid : store.Valid) : (store.versions.map DocumentVersion.id).Nodup :=
  valid.1.2.2.2.2.2.2.1

theorem Valid.consentIds (valid : store.Valid) : (store.consents.map ConsentRecord.id).Nodup :=
  valid.1.2.2.2.2.2.2.2.1

theorem Valid.eventIds (valid : store.Valid) : (store.events.map OutboxEvent.id).Nodup :=
  valid.1.2.2.2.2.2.2.2.2.1

theorem Valid.auditIds (valid : store.Valid) : (store.audit.map AuditEntry.id).Nodup :=
  valid.1.2.2.2.2.2.2.2.2.2

theorem Valid.profileUsers (valid : store.Valid) : (store.profiles.map Profile.user).Nodup :=
  valid.2.1.2.1

theorem Valid.systemKinds (valid : store.Valid) :
    ((store.teams.filter Team.isSystem).map Team.kind).Nodup :=
  valid.2.1.2.2.2.1

theorem Valid.openStays (valid : store.Valid) :
    ((store.members.filter TeamMember.isOpen).map fun stay => (stay.team, stay.user)).Nodup :=
  valid.2.1.2.2.2.2.1

theorem Valid.starts (valid : store.Valid) : (store.versions.map fun version =>
    (version.document, version.effectiveFrom.micros)).Nodup :=
  valid.2.1.2.2.2.2.2.1

theorem Valid.agreements (valid : store.Valid) :
    (store.consents.map fun record => (record.user, record.version)).Nodup :=
  valid.2.1.2.2.2.2.2.2.1

theorem Valid.pendingKeys (valid : store.Valid) :
    ((store.events.filter OutboxEvent.isPending).map OutboxEvent.key).Nodup :=
  valid.2.1.2.2.2.2.2.2.2

/-! ### Changes that keep the rules -/

/-- **New events keep the rules** if their identifiers are distinct and no key is pending twice. -/
theorem Valid.withEvents (valid : store.Valid) {events : List OutboxEvent}
    (ids : (events.map OutboxEvent.id).Nodup)
    (keys : ((events.filter OutboxEvent.isPending).map OutboxEvent.key).Nodup) :
    { store with events }.Valid := by
  obtain ⟨⟨users, profiles, grants, teams, members, documents, versions, consents, _, audit⟩,
    ⟨emails, owners, slugs, kinds, stays, starts, agreed, _⟩, windows, references⟩ := valid
  exact ⟨⟨users, profiles, grants, teams, members, documents, versions, consents, ids, audit⟩,
    ⟨emails, owners, slugs, kinds, stays, starts, agreed, keys⟩, windows, references⟩

/-- One more event keeps the rules if its identifier is fresh and its key is not pending. -/
theorem Valid.withEvent (valid : store.Valid) {event : OutboxEvent}
    (fresh : event.id ∉ store.events.map OutboxEvent.id)
    (absent : ∀ other ∈ store.events, other.key = event.key → other.isPending = false) :
    { store with events := store.events ++ [event] }.Valid := by
  refine valid.withEvents ?_ ?_
  · rw [List.map_append, List.map_singleton, ← List.concat_eq_append]
    exact valid.eventIds.concat fresh
  · rw [List.filter_append, List.map_append, List.filter_singleton]
    cases event.isPending with
    | false => simpa using valid.pendingKeys
    | true =>
      rw [Bool.cond_true, List.map_singleton, ← List.concat_eq_append]
      refine valid.pendingKeys.concat fun taken => ?_
      obtain ⟨other, pending, same⟩ := List.mem_map.mp taken
      obtain ⟨inside, pending⟩ := List.mem_filter.mp pending
      rw [absent other inside same] at pending
      cases pending

/-- **New audit entries keep the rules** if their identifiers are distinct and their actors exist. -/
theorem Valid.withAudit (valid : store.Valid) {audit : List AuditEntry}
    (ids : (audit.map AuditEntry.id).Nodup)
    (actors : store.enforcesReferences = true → ∀ entry ∈ audit, ∀ actor ∈ entry.actorUser,
      actor ∈ store.users.map User.id) :
    { store with audit }.Valid := by
  obtain ⟨⟨users, profiles, grants, teams, members, documents, versions, consents, events, _⟩,
    indexes, windows, references⟩ := valid
  refine ⟨⟨users, profiles, grants, teams, members, documents, versions, consents, events, ids⟩,
    indexes, windows, fun enforced => ?_⟩
  obtain ⟨owners, grantees, stays, scopes, documented, agreed, _⟩ := references enforced
  exact ⟨owners, grantees, stays, scopes, documented, agreed, actors enforced⟩

/-- **New stays keep the rules** if their identifiers are distinct, nobody is in a team twice, and
their teams and users exist. -/
theorem Valid.withMembers (valid : store.Valid) {members : List TeamMember}
    (ids : (members.map TeamMember.id).Nodup)
    (stays : ((members.filter TeamMember.isOpen).map fun stay => (stay.team, stay.user)).Nodup)
    (known : store.enforcesReferences = true → ∀ stay ∈ members,
      stay.team ∈ store.teams.map Team.id ∧ stay.user ∈ store.users.map User.id) :
    { store with members }.Valid := by
  obtain ⟨⟨users, profiles, grants, teams, _, documents, versions, consents, events, audit⟩,
    ⟨emails, owners, slugs, kinds, _, starts, agreed, keys⟩, windows, references⟩ := valid
  refine ⟨⟨users, profiles, grants, teams, ids, documents, versions, consents, events, audit⟩,
    ⟨emails, owners, slugs, kinds, stays, starts, agreed, keys⟩, windows, fun enforced => ?_⟩
  obtain ⟨owned, grantees, _, scopes, documented, given, actors⟩ := references enforced
  exact ⟨owned, grantees, known enforced, scopes, documented, given, actors⟩

/-- **One more consent keeps the rules** if its identifier is fresh, the user has no record for the version,
and both exist. -/
theorem Valid.withConsent (valid : store.Valid) {record : ConsentRecord}
    (fresh : record.id ∉ store.consents.map ConsentRecord.id)
    (absent : ∀ other ∈ store.consents, ¬ (other.user = record.user ∧ other.version = record.version))
    (known : store.enforcesReferences = true → record.user ∈ store.users.map User.id
      ∧ record.version ∈ store.versions.map DocumentVersion.id) :
    { store with consents := store.consents ++ [record] }.Valid := by
  have newIds := valid.consentIds.concat fresh
  have newPairs := valid.agreements.concat (a := (record.user, record.version)) fun taken => by
    obtain ⟨other, inside, same⟩ := List.mem_map.mp taken
    exact absent other inside ⟨congrArg Prod.fst same, congrArg Prod.snd same⟩
  obtain ⟨⟨users, profiles, grants, teams, members, documents, versions, _, events, audit⟩,
    ⟨emails, owners, slugs, kinds, stays, starts, _, keys⟩, windows, references⟩ := valid
  rw [List.concat_eq_append, ← List.map_singleton (f := ConsentRecord.id), ← List.map_append] at newIds
  rw [List.concat_eq_append] at newPairs
  refine ⟨⟨users, profiles, grants, teams, members, documents, versions, newIds, events, audit⟩,
    ⟨emails, owners, slugs, kinds, stays, starts, ?_, keys⟩, windows, fun enforced => ?_⟩
  · rw [List.map_append]
    exact newPairs
  · obtain ⟨owned, grantees, entered, scopes, documented, given, actors⟩ := references enforced
    refine ⟨owned, grantees, entered, scopes, documented, fun other member => ?_, actors⟩
    rcases List.mem_append.mp member with old | new
    · exact given other old
    · rw [List.mem_singleton.mp new]
      exact known enforced

/-- One more entry keeps the rules if its identifier is fresh and it names no acting user. -/
theorem Valid.withEntry (valid : store.Valid) {entry : AuditEntry}
    (fresh : entry.id ∉ store.audit.map AuditEntry.id) (anonymous : entry.actorUser = none) :
    { store with audit := store.audit ++ [entry] }.Valid := by
  refine valid.withAudit ?_ fun enforced other member actor named => ?_
  · rw [List.map_append, List.map_singleton, ← List.concat_eq_append]
    exact valid.auditIds.concat fresh
  · rcases List.mem_append.mp member with old | new
    · exact (valid.2.2.2 enforced).2.2.2.2.2.2 other old actor named
    · rw [List.mem_singleton.mp new, anonymous] at named
      cases named

/-- One more stay keeps the rules if its identifier is fresh, the user is not in the team, and both
exist. -/
theorem Valid.withMember (valid : store.Valid) {stay : TeamMember}
    (fresh : stay.id ∉ store.members.map TeamMember.id)
    (outside : ∀ other ∈ store.members, other.isOpen = true → other.team = stay.team →
      other.user ≠ stay.user)
    (known : store.enforcesReferences = true →
      stay.team ∈ store.teams.map Team.id ∧ stay.user ∈ store.users.map User.id) :
    { store with members := store.members ++ [stay] }.Valid := by
  refine valid.withMembers ?_ ?_ fun enforced other member => ?_
  · rw [List.map_append, List.map_singleton, ← List.concat_eq_append]
    exact valid.memberIds.concat fresh
  · rw [List.filter_append, List.map_append, List.filter_singleton]
    cases stay.isOpen with
    | false => simpa using valid.openStays
    | true =>
      rw [Bool.cond_true, List.map_singleton, ← List.concat_eq_append]
      refine valid.openStays.concat fun taken => ?_
      obtain ⟨other, stays, same⟩ := List.mem_map.mp taken
      obtain ⟨inside, opened⟩ := List.mem_filter.mp stays
      exact outside other inside opened (congrArg Prod.fst same) (congrArg Prod.snd same)
  · rcases List.mem_append.mp member with old | new
    · exact (valid.2.2.2 enforced).2.2.1 other old
    · rw [List.mem_singleton.mp new]
      exact known enforced

/-- **The end of a stay keeps the rules.** -/
theorem Valid.withLeft (valid : store.Valid) {stay : TeamMember} (member : stay ∈ store.members)
    (moment : Instant) : Valid { store with
      members := replaced TeamMember.id stay.id { stay with leftAt := some moment }
        store.members } := by
  have ids : (replaced TeamMember.id stay.id { stay with leftAt := some moment } store.members).map
      TeamMember.id = store.members.map TeamMember.id := by
    rw [replaced, List.map_map]
    refine List.map_congr_left fun other _ => ?_
    rw [Function.comp_apply]
    split
    · rename_i same
      exact same.symm
    · rfl
  refine valid.withMembers (ids ▸ valid.memberIds) (valid.openStays.sublist ?_)
    fun enforced other inside => ?_
  · rw [replaced]
    generalize store.members = members
    induction members with
    | nil => exact List.Sublist.slnil
    | cons first rest ih =>
      rw [List.map_cons, List.filter_cons, List.filter_cons]
      by_cases same : first.id = stay.id
      · rw [if_pos same, if_neg (by simp [TeamMember.isOpen])]
        split
        · exact ih.cons _
        · exact ih
      · rw [if_neg same]
        split
        · exact ih.cons_cons _
        · exact ih
  · obtain ⟨before, was, rfl⟩ := List.mem_map.mp inside
    split
    · exact (valid.2.2.2 enforced).2.2.1 stay member
    · exact (valid.2.2.2 enforced).2.2.1 before was

/-- **Changed teams keep the rules** if what identifies them stays the same. -/
theorem Valid.withTeams (valid : store.Valid) {teams : List Team}
    (ids : teams.map Team.id = store.teams.map Team.id)
    (slugs : teams.map Team.slug = store.teams.map Team.slug)
    (kinds : (teams.filter Team.isSystem).map Team.kind
      = (store.teams.filter Team.isSystem).map Team.kind) :
    { store with teams }.Valid := by
  obtain ⟨⟨users, profiles, grants, teamIds, members, documents, versions, consents, events, audit⟩,
    ⟨emails, owners, teamSlugs, teamKinds, stays, starts, agreed, keys⟩, windows, references⟩ := valid
  refine ⟨⟨users, profiles, grants, ids ▸ teamIds, members, documents, versions, consents, events,
    audit⟩, ⟨emails, owners, slugs ▸ teamSlugs, kinds ▸ teamKinds, stays, starts, agreed, keys⟩,
    windows, fun enforced => ?_⟩
  obtain ⟨owned, grantees, entered, scopes, documented, given, actors⟩ := references enforced
  refine ⟨owned, grantees, fun stay member => ?_, fun document member team known => ?_, documented,
    given, actors⟩
  · rw [ids]
    exact entered stay member
  · rw [ids]
    exact scopes document member team known

end Store

end Roster
