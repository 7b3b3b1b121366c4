/-
**What the removal of rows leaves behind.**

Users, teams, documents and versions are referred to. Removing some of them takes along what the declared
references take along, and nothing more: rows that go with others have none that go with them in turn, so one
look at the references of a row decides. A consent, or a document of a team, forbids the removal.

* `Store.remove_cases` — everything that a removal can do.
* `Store.remove_eq_none_iff`, `Store.removesAsDeclared_of_remove` — **a removal is refused, or done, as the
  layout declares it**.
* `Store.Valid.thinned` — fewer rows keep the rules about single tables.
* `Maintenance.maintain_remove` — a removal in a session of its own.
* `Store.removal_keeps_evidence` — **consents, events and the audit log outlast every removal**.
-/

import Roster.Maintenance
import Roster.Proofs.Session.Transact
import Roster.Proofs.Store.References
import Roster.Proofs.Store.Rows

namespace Roster

open EStateM (Result)

variable {store after : Store} {table : Table} {goes : Uuid → Bool} {row : Row}

/-! ### The rows that go -/

/-- The row is one of those that are to be removed from a table. -/
def Row.IsChosen (table : Table) (goes : Uuid → Bool) (row : Row) : Prop :=
  row.table = table ∧ goes row.id = true

/-- The row is to be removed from its table, or refers to such a row by a reference with which it goes too. -/
def Row.leaves (table : Table) (goes : Uuid → Bool) (row : Row) : Bool :=
  (row.table = table && goes row.id)
    || row.links.any fun link => link.1.removal = .cascade && link.1.table = table && link.2.any goes

/-- The row without its references to users that go. -/
def Row.forgetting (table : Table) (goes : Uuid → Bool) : Row → Row
  | .grant row => .grant { row with
      createdBy := if table = .users then Store.forget goes row.createdBy else row.createdBy }
  | .entry row => .entry { row with
      actorUser := if table = .users then Store.forget goes row.actorUser else row.actorUser }
  | row => row

namespace Store

theorem leaves_iff : row.leaves table goes = true ↔ row.IsChosen table goes
    ∨ ∃ link ∈ row.links, link.1.removal = .cascade ∧ link.1.table = table
      ∧ ∃ id ∈ link.2, goes id = true := by
  simp [Row.leaves, Row.IsChosen, Option.any_eq_true, and_assoc]

/-- **The rows that go are the chosen ones, and those that refer to them.** Nothing goes with the latter in
turn. -/
theorem goes_iff_leaves (linked : store.Linked) (member : row ∈ store.rows row.table) :
    store.Goes (Row.IsChosen table goes) row ↔ row.leaves table goes = true := by
  rw [leaves_iff]
  constructor
  · intro going
    clear member
    induction going with
    | first _ chosen => exact .inl chosen
    | @along row other reference _ leads rule _ ih =>
      rcases ih with ⟨there, gone⟩ | ⟨link, inside, further, _⟩
      · exact .inr ⟨_, (Reference.leadsTo_iff.mp leads).1, rule, leads.2.1.symm.trans there, other.id, rfl,
          gone⟩
      · exact absurd further (leads.removal_ne (by simp [rule]) link inside)
  · rintro (chosen | ⟨⟨reference, _⟩, inside, rule, rfl, id, ⟨⟩, gone⟩)
    · exact .first member chosen
    · obtain ⟨other, there, rfl, leads⟩ := linked.exists_row member inside
      exact .along member leads rule (.first (mem_rows_table there) ⟨leads.2.1, gone⟩)

theorem Goes.member {chosen : Row → Prop} (going : store.Goes chosen row) : row ∈ store.rows row.table := by
  cases going <;> assumption

/-! ### The columns that are emptied -/

/-- **A column is emptied if it is a reference to a chosen row**, and not one that takes its row along. -/
theorem empties_iff (linked : store.Linked) (member : row ∈ store.rows row.table) {name : String} :
    Empties (store.Goes (Row.IsChosen table goes)) row name ↔
      ∃ link ∈ row.links, link.1.column = name ∧ link.1.removal = .setNull ∧ link.1.table = table
        ∧ ∃ id ∈ link.2, goes id = true := by
  constructor
  · rintro ⟨reference, other, leads, same, rule, going⟩
    rw [goes_iff_leaves linked going.member, leaves_iff] at going
    rcases going with ⟨there, gone⟩ | ⟨link, inside, further, _⟩
    · exact ⟨_, (Reference.leadsTo_iff.mp leads).1, same, rule, leads.2.1.symm.trans there, other.id, rfl,
        gone⟩
    · exact absurd further (leads.removal_ne (by simp [rule]) link inside)
  · rintro ⟨⟨reference, _⟩, inside, same, rule, rfl, id, ⟨⟩, gone⟩
    obtain ⟨other, there, rfl, leads⟩ := linked.exists_row member inside
    exact ⟨reference, other, leads, same, rule, .first (mem_rows_table there) ⟨leads.2.1, gone⟩⟩

theorem ofOption_forget (table : Table) (goes : Uuid → Bool) (reference : Option Uuid) :
    (if Table.users = table ∧ ∃ id, reference = some id ∧ goes id = true then Value.null
      else Value.ofOption Value.ofUuid reference)
      = Value.ofOption Value.ofUuid (if table = .users then forget goes reference else reference) := by
  by_cases users : table = .users
  · subst users
    cases reference with
    | none => simp [forget]
    | some id => cases gone : goes id <;> simp [forget, Option.filter, gone, Value.ofOption]
  · rw [if_neg fun both => users both.1.symm, if_neg users]

/-- **What is left of a row is the row without its references to users that go.** -/
theorem columnsWithout_eq (linked : store.Linked) (member : row ∈ store.rows row.table) :
    columnsWithout (store.Goes (Row.IsChosen table goes)) row = (row.forgetting table goes).columns := by
  unfold columnsWithout
  simp only [empties_iff linked member]
  cases row with
  | grant grant =>
    simp [Row.links, Row.columns, RoleGrant.columns, Row.forgetting, Reference.toUser, ofOption_forget]
  | entry entry =>
    simp [Row.links, Row.columns, AuditEntry.columns, Row.forgetting, Reference.toUser, ofOption_forget]
  | _ => simp [Row.links, Row.columns, Row.forgetting, Reference.toUser, Reference.toTeam]

/-! ### What the store does -/

/-- **Everything that a removal can do**: it is not forbidden, and these are the tables that change. -/
theorem remove_cases (enforced : store.enforcesReferences = true)
    (referred : table ∈ Table.referred) (removed : store.remove table goes = some after) :
    (table = .users ∧ (∀ record ∈ store.consents, goes record.user = false) ∧ after = { store with
        users := store.users.filter fun user => !goes user.id
        profiles := store.profiles.filter fun profile => !goes profile.user
        grants := (store.grants.filter fun grant => !goes grant.user).map fun grant =>
          { grant with createdBy := forget goes grant.createdBy }
        members := store.members.filter fun stay => !goes stay.user
        audit := store.audit.map fun entry => { entry with actorUser := forget goes entry.actorUser } })
      ∨ (table = .teams ∧ (∀ document ∈ store.documents, document.team.any goes = false)
        ∧ after = { store with
          teams := store.teams.filter fun team => !goes team.id
          members := store.members.filter fun stay => !goes stay.team })
      ∨ (table = .documents ∧ (∀ record ∈ store.consents, ∀ version ∈ store.versions,
          version.id = record.version → goes version.document = false) ∧ after = { store with
          versions := store.versions.filter fun version => !goes version.document
          documents := store.documents.filter fun document => !goes document.id })
      ∨ (table = .versions ∧ (∀ record ∈ store.consents, ∀ version ∈ store.versions,
          version.id = record.version → goes version.id = false) ∧ after = { store with
          versions := store.versions.filter fun version => !goes version.id }) := by
  simp only [Table.referred, List.mem_cons, List.not_mem_nil, or_false] at referred
  rcases referred with rfl | rfl | rfl | rfl <;> rw [remove, if_pos enforced] at removed
  · obtain ⟨allowed, ⟨⟩⟩ := Option.ite_none_left_eq_some.mp removed
    exact .inl ⟨rfl, by simpa using allowed, rfl⟩
  · obtain ⟨allowed, ⟨⟩⟩ := Option.ite_none_left_eq_some.mp removed
    exact .inr (.inl ⟨rfl, by simpa using allowed, rfl⟩)
  · obtain ⟨rest, left, rfl⟩ := Option.map_eq_some_iff.mp removed
    obtain ⟨allowed, ⟨⟩⟩ := Option.ite_none_left_eq_some.mp left
    exact .inr (.inr (.inl ⟨rfl, by simpa using allowed, rfl⟩))
  · obtain ⟨allowed, ⟨⟩⟩ := Option.ite_none_left_eq_some.mp removed
    exact .inr (.inr (.inr ⟨rfl, by simpa using allowed, rfl⟩))

/-- The rows that are left. -/
theorem rows_of_remove (enforced : store.enforcesReferences = true)
    (referred : table ∈ Table.referred) (removed : store.remove table goes = some after) (other : Table) :
    after.rows other
      = ((store.rows other).filter fun row => !row.leaves table goes).map (Row.forgetting table goes) := by
  rcases remove_cases enforced referred removed with
    ⟨rfl, _, rfl⟩ | ⟨rfl, _, rfl⟩ | ⟨rfl, _, rfl⟩ | ⟨rfl, _, rfl⟩
    <;> cases other <;> simp [rows, Row.leaves, Row.links, Row.forgetting, Row.table, Row.id, List.filter_map,
      Function.comp_def, Reference.toUser, Reference.toTeam]

/-- Only documents and consents forbid that a row is removed. -/
theorem link_of_restrict {reference : Reference} {held : Option Uuid} (inside : (reference, held) ∈ row.links)
    (rule : reference.removal = .restrict) :
    (∃ document, row = .document document ∧ reference.table = .teams ∧ held = document.team)
      ∨ ∃ record, row = .consent record ∧ (reference.table = .users ∧ held = some record.user
        ∨ reference.table = .versions ∧ held = some record.version) := by
  cases row <;> grind [Row.links, Reference.toUser, Reference.toTeam]

theorem restricted_of_link (row other : Row) (reference : Reference) (linked : store.Linked)
    (member : row ∈ store.rows row.table) (there : other ∈ store.rows other.table)
    (inside : (reference, some other.id) ∈ row.links) (target : other.table = reference.table)
    (rule : reference.removal = .restrict) (leaves : other.leaves table goes = true) :
    store.Restricted (Row.IsChosen table goes) :=
  ⟨row.table, row, member, reference, other, Reference.leadsTo_iff.mpr ⟨inside, target⟩, rule,
    (goes_iff_leaves linked there).mpr leaves⟩

/-- **What forbids a removal**: documents of a team that goes, consents of a user who goes, and consents to a
version that goes. -/
theorem restricted_iff (linked : store.Linked) : store.Restricted (Row.IsChosen table goes) ↔
    (∃ document ∈ store.documents, ∃ team ∈ store.teams, document.team = some team.id
        ∧ (Row.team team).leaves table goes = true)
      ∨ (∃ record ∈ store.consents, ∃ user ∈ store.users, record.user = user.id
        ∧ (Row.user user).leaves table goes = true)
      ∨ (∃ record ∈ store.consents, ∃ version ∈ store.versions, record.version = version.id
        ∧ (Row.version version).leaves table goes = true) := by
  constructor
  · rintro ⟨here, row, member, reference, other, leads, rule, going⟩
    have leaves := (goes_iff_leaves linked going.member).mp going
    have there := going.member
    obtain ⟨link, same⟩ := Reference.leadsTo_iff.mp leads
    obtain rfl := table_of_mem_rows member
    rw [same] at there
    rcases link_of_restrict link rule with
      ⟨document, rfl, target, held⟩ | ⟨record, rfl, ⟨target, held⟩ | ⟨target, held⟩⟩
      <;> rw [target] at there <;> obtain ⟨found, inside, rfl⟩ := List.mem_map.mp there
      <;> obtain ⟨_, known, ⟨⟩⟩ := List.mem_map.mp member
    · exact .inl ⟨document, known, found, inside, held.symm, leaves⟩
    · exact .inr (.inl ⟨record, known, found, inside, (Option.some.inj held).symm, leaves⟩)
    · exact .inr (.inr ⟨record, known, found, inside, (Option.some.inj held).symm, leaves⟩)
  · rintro (⟨document, known, team, inside, held, leaves⟩ | ⟨record, known, user, inside, held, leaves⟩
      | ⟨record, known, version, inside, held, leaves⟩)
    · refine restricted_of_link (.document document) (.team team) (.toTeam .restrict) linked
        (List.mem_map_of_mem known) (List.mem_map_of_mem inside) ?_ rfl rfl leaves
      rw [Row.links, held]
      exact List.mem_singleton_self _
    · refine restricted_of_link (.consent record) (.user user) (.toUser "user_id" .restrict) linked
        (List.mem_map_of_mem known) (List.mem_map_of_mem inside) ?_ rfl rfl leaves
      rw [Row.links, held]
      exact List.mem_cons_self
    · refine restricted_of_link (.consent record) (.version version)
        ⟨"document_version_id", .versions, "document_version_id", .restrict⟩ linked
        (List.mem_map_of_mem known) (List.mem_map_of_mem inside) ?_ rfl rfl leaves
      rw [Row.links, held]
      exact List.mem_cons_of_mem _ (List.mem_singleton_self _)

/-- **A removal is refused exactly if a declared reference forbids it.** -/
theorem remove_eq_none_iff (references : store.ReferencesHold) (enforced : store.enforcesReferences = true)
    (referred : table ∈ Table.referred) :
    store.remove table goes = none ↔ store.Restricted (Row.IsChosen table goes) := by
  rw [restricted_iff (linked_iff.mpr references)]
  obtain ⟨_, _, _, scopes, _, agreed, _⟩ := references
  simp only [Table.referred, List.mem_cons, List.not_mem_nil, or_false] at referred
  rcases referred with rfl | rfl | rfl | rfl
  · have given : (∃ record ∈ store.consents, goes record.user = true) ↔ ∃ record ∈ store.consents,
        ∃ user ∈ store.users, record.user = user.id ∧ goes user.id = true := by
      constructor
      · rintro ⟨record, known, gone⟩
        obtain ⟨user, inside, same⟩ := List.mem_map.mp (agreed record known).1
        exact ⟨record, known, user, inside, same.symm, same ▸ gone⟩
      · rintro ⟨record, known, user, _, same, gone⟩
        exact ⟨record, known, same ▸ gone⟩
    simpa [remove, enforced, removeUsers, Row.leaves, Row.links, Row.table, Row.id] using given
  · have concerned : (∃ document ∈ store.documents, document.team.any goes = true) ↔
        ∃ document ∈ store.documents, ∃ team ∈ store.teams, document.team = some team.id
          ∧ goes team.id = true := by
      constructor
      · rintro ⟨document, known, gone⟩
        obtain ⟨id, held, gone⟩ := (Option.any_eq_true ..).mp gone
        obtain ⟨team, inside, rfl⟩ := List.mem_map.mp (scopes document known id held)
        exact ⟨document, known, team, inside, held, gone⟩
      · rintro ⟨document, known, team, _, held, gone⟩
        exact ⟨document, known, (Option.any_eq_true ..).mpr ⟨_, held, gone⟩⟩
    simpa [remove, enforced, removeTeams, Row.leaves, Row.links, Row.table, Row.id] using concerned
  · simp [remove, enforced, removeDocuments, removeVersions, Row.leaves, Row.links, Row.table, Row.id,
      eq_comm (b := DocumentVersion.id _)]
  · simp [remove, enforced, removeVersions, Row.leaves, Row.links, Row.table, Row.id,
      eq_comm (b := DocumentVersion.id _)]

/-- **A removal does what the layout declares.** -/
theorem removesAsDeclared_of_remove (references : store.ReferencesHold)
    (enforced : store.enforcesReferences = true) (referred : table ∈ Table.referred)
    (removed : store.remove table goes = some after) :
    store.RemovesAsDeclared (Row.IsChosen table goes) after := by
  classical
  have linked := linked_iff.mpr references
  refine ⟨fun restricted => ?_, fun other => ?_⟩
  · rw [(remove_eq_none_iff references enforced referred).mpr restricted] at removed
    cases removed
  · rw [rows_of_remove enforced referred removed, List.map_map]
    have same : ((store.rows other).filter fun row => ¬ store.Goes (Row.IsChosen table goes) row)
        = (store.rows other).filter fun row => !row.leaves table goes := by
      refine List.filter_congr fun row member => ?_
      simp [goes_iff_leaves linked (mem_rows_table member)]
    rw [same]
    exact List.map_congr_left fun row member =>
      (columnsWithout_eq linked (mem_rows_table (List.mem_of_mem_filter member))).symm

/-- Rows go out of a store, and nothing but references to them changes in those that are left. -/
structure Thinned (store after : Store) : Prop where
  users : after.users.Sublist store.users
  profiles : after.profiles.Sublist store.profiles
  grants : (after.grants.map fun grant => (grant.id, grant.validFrom, grant.validTo)).Sublist
    (store.grants.map fun grant => (grant.id, grant.validFrom, grant.validTo))
  teams : after.teams.Sublist store.teams
  members : after.members.Sublist store.members
  documents : after.documents.Sublist store.documents
  versions : after.versions.Sublist store.versions
  consents : after.consents = store.consents
  events : after.events = store.events
  audit : after.audit.map AuditEntry.id = store.audit.map AuditEntry.id

/-- A removal thins the store. -/
theorem thinned_of_remove (enforced : store.enforcesReferences = true)
    (referred : table ∈ Table.referred) (removed : store.remove table goes = some after) :
    store.Thinned after := by
  rcases remove_cases enforced referred removed with
    ⟨rfl, _, rfl⟩ | ⟨rfl, _, rfl⟩ | ⟨rfl, _, rfl⟩ | ⟨rfl, _, rfl⟩
    <;> constructor <;> simp [Function.comp_def, List.filter_sublist, List.Sublist.map]

/-- **A store with fewer rows keeps the rules**, as long as every reference leads to a row. -/
theorem Valid.thinned (valid : store.Valid) (thinned : store.Thinned after)
    (references : after.enforcesReferences = true → after.ReferencesHold) : after.Valid := by
  obtain ⟨⟨users, profiles, grants, teams, members, documents, versions, consents, events, audit⟩,
    ⟨emails, owners, slugs, kinds, stays, starts, agreed, keys⟩, windows, _⟩ := valid
  refine ⟨⟨users.sublist (thinned.users.map _), profiles.sublist (thinned.profiles.map _), ?_,
      teams.sublist (thinned.teams.map _), members.sublist (thinned.members.map _),
      documents.sublist (thinned.documents.map _), versions.sublist (thinned.versions.map _),
      thinned.consents ▸ consents, thinned.events ▸ events, thinned.audit ▸ audit⟩,
    ⟨emails.sublist (thinned.users.filterMap _), owners.sublist (thinned.profiles.map _),
      slugs.sublist (thinned.teams.map _), kinds.sublist ((thinned.teams.filter _).map _),
      stays.sublist ((thinned.members.filter _).map _), starts.sublist (thinned.versions.map _),
      thinned.consents ▸ agreed, thinned.events ▸ keys⟩, ?_, references⟩
  · have ids := thinned.grants.map Prod.fst
    rw [List.map_map, List.map_map] at ids
    exact grants.sublist ids
  · intro grant member
    obtain ⟨old, known, same⟩ := List.mem_map.mp (thinned.grants.subset (List.mem_map_of_mem member))
    obtain ⟨_, window⟩ := Prod.mk.inj same
    obtain ⟨starts, ends⟩ := Prod.mk.inj window
    rw [← starts, ← ends]
    exact windows old known

/-! ### What a removal never touches -/

theorem forget_eq (goes : Uuid → Bool) (reference : Option Uuid) :
    forget goes reference = if reference.any goes then none else reference := by
  cases reference with
  | none => rfl
  | some id => cases gone : goes id <;> simp [forget, Option.filter, gone]

/-- **What is left once rows of a table are removed, as far as it is evidence**: the declared references decide
what goes, every rule of the store holds, consents and events are as they were, and so is the audit log, but
for the removed users that its entries no longer point to. -/
structure KeepsEvidence (store : Store) (table : Table) (goes : Uuid → Bool) (after : Store) : Prop where
  declared : store.RemovesAsDeclared (Row.IsChosen table goes) after
  valid : after.Valid
  references : after.ReferencesHold
  consents : after.consents = store.consents
  events : after.events = store.events
  audit : after.audit = store.audit.map fun entry =>
    if table = .users ∧ entry.actorUser.any goes = true then { entry with actorUser := none } else entry

/-- Only the removal of users is seen in the audit log. -/
theorem audit_of_remove (enforced : store.enforcesReferences = true)
    (referred : table ∈ Table.referred) (removed : store.remove table goes = some after) :
    after.audit = store.audit.map fun entry =>
      if table = .users ∧ entry.actorUser.any goes = true then { entry with actorUser := none } else entry := by
  rcases remove_cases enforced referred removed with
    ⟨rfl, _, rfl⟩ | ⟨rfl, _, rfl⟩ | ⟨rfl, _, rfl⟩ | ⟨rfl, _, rfl⟩
  · refine List.map_congr_left fun entry _ => ?_
    rw [forget_eq]
    split <;> simp_all
  all_goals simp

theorem keepsEvidence_of_remove (valid : store.Valid) (enforced : store.enforcesReferences = true)
    (referred : table ∈ Table.referred) (removed : store.remove table goes = some after) :
    store.KeepsEvidence table goes after := by
  have references := valid.2.2.2 enforced
  have declared := removesAsDeclared_of_remove references enforced referred removed
  have held := linked_iff.mp (declared.linked (linked_iff.mpr references))
  have thinned := thinned_of_remove enforced referred removed
  exact ⟨declared, valid.thinned thinned fun _ => held, held, thinned.consents, thinned.events,
    audit_of_remove enforced referred removed⟩

end Store

/-! ### Removals in a session of their own -/

/-- The identifiers of the rows that a removal picks. -/
def Store.picks (store : Store) (table : Table) (conditions : List (String × Value)) (id : Uuid) : Bool :=
  (store.picked table conditions).any (·.id = id)

namespace Maintenance

variable {conditions : List (String × Value)} {session later : Session}

/-- The removal of rows that were picked: it is refused, or leaves the store without them. -/
def removing (table : Table) (rows : List Row) : Transaction (Except FieldError Nat) := fun asked =>
  (asked.store.remove table fun id => rows.any (·.id = id)).elim (.error .constraint asked)
    fun left => .ok (.ok rows.length) { asked with store := left }

/-- A piece of work that removes rows is a question, and the removal of the rows in the answer. -/
theorem run_remove (table : Table) (conditions : List (String × Value)) :
    (remove table conditions).run
      = Transaction.read (fun store => store.picked table conditions) >>= removing table := by
  unfold remove pick
  rw [ExceptT.run_bind_lift]
  refine bind_congr fun rows => funext fun asked => ?_
  change (ExceptT.lift (get : Transaction Session) >>= _ : Maintenance Nat).run asked = _
  rw [ExceptT.run_bind_lift, bind_of_ok (get_apply asked), removing]
  cases asked.store.remove table fun id => rows.any (·.id = id) <;> rfl

/-- The rows that a session picks are removed, unless its store refuses. -/
theorem removing_picked (asked : Session) :
    removing table (asked.store.picked table conditions) asked
      = (asked.store.remove table (asked.store.picks table conditions)).elim (.error .constraint asked)
        fun left => .ok (.ok (asked.store.picked table conditions).length) { asked with store := left } := rfl

/-- What a removal that returns has done: it removed what it picked, and nothing is staged. -/
theorem remove_ok {result : Except FieldError Nat} (settled : session.Settled)
    (ran : (remove table conditions).run session = .ok result later) :
    (∃ count, result = .ok count) ∧ later.Ready
      ∧ session.store.remove table (session.store.picks table conditions) = some later.store := by
  rw [run_remove] at ran
  obtain ⟨rows, asked, reads, ran⟩ := bind_eq_ok.mp ran
  obtain ⟨⟨staged, sound, _⟩, store, rfl⟩ := Transaction.read_ok reads settled
  rw [← store] at ran ⊢
  rw [removing_picked] at ran
  cases removed : asked.store.remove table (asked.store.picks table conditions) with
  | none =>
    rw [removed] at ran
    cases ran
  | some left =>
    rw [removed] at ran
    cases ran
    exact ⟨⟨_, rfl⟩, ⟨staged, sound⟩, rfl⟩

/-- **Without an outage, a removal that is not refused is committed.** -/
theorem maintain_remove_of_isUp {world : World} {left : Store} (settled : world.session.Settled)
    (up : world.surroundings.IsUp)
    (removed : world.store.remove table (world.store.picks table conditions) = some left) :
    Application.maintain (remove table conditions) world
      = .ok (.ok (world.store.picked table conditions).length) { world with store := left } := by
  let session : Session := { world.session with store := left, opened := true }
  have work : (remove table conditions).run world.session
      = .ok (.ok (world.store.picked table conditions).length) session := by
    rw [run_remove, bind_of_ok (Transaction.read_of_settled settled up)]
    refine (removing_picked { world.session with opened := true }).trans ?_
    exact congrArg (Option.elim · _ _) removed
  have ready : session.Ready := ⟨rfl, rfl⟩
  have commits := Transaction.commit_of_flush (Transaction.flush_of_ready ready) up
  refine Application.transact_of_keep ?_ commits
  rw [bind_of_ok work]
  rfl

/-- **A removal in a session of its own is committed as a whole, or not at all**; without an outage it is given
up only if it is refused. -/
theorem maintain_remove {world : World} (valid : world.store.Valid) :
    match Application.maintain (remove table conditions) world with
    | .ok _ after => world.store.remove table (world.store.picks table conditions) = some after.store
    | .error _ after => after.store = world.store ∧ (world.surroundings.IsUp →
        world.store.remove table (world.store.picks table conditions) = none) := by
  cases ran : Application.maintain (remove table conditions) world with
  | error failure after =>
    refine ⟨(Application.transact_error ran).1, fun up => Option.eq_none_iff_forall_ne_some.mpr ?_⟩
    intro left removed
    cases ran.symm.trans (maintain_remove_of_isUp (World.settled_session valid) up removed)
  | ok result after =>
    obtain ⟨session, ⟨body, _⟩ | ⟨final, body, commits, rfl⟩⟩ := Application.transact_ok ran
      <;> obtain ⟨outcome, later, work, ended⟩ := bind_eq_ok.mp body
      <;> obtain ⟨⟨count, rfl⟩, ready, removed⟩ := remove_ok (World.settled_session valid) work
      <;> cases ended
    obtain ⟨flushed, flushes, store⟩ := Transaction.commit_ok commits
    rw [Transaction.flush_of_ready ready] at flushes
    cases flushes
    exact store ▸ removed

end Maintenance

namespace Store

/-- **Removing rows that others refer to never loses evidence.** With the references enforced, a removal from
the tables of users, teams, documents and versions is refused if a declared reference forbids it; otherwise the
rows go that the declared references take along, the store keeps its rules, and consents, events and the audit
log stay, but for the removed users that entries of the log no longer point to. Done in a session of its own,
it is committed as a whole, or leaves the store as it was; without an outage, only a refused one does. -/
theorem removal_keeps_evidence (valid : store.Valid) (enforced : store.enforcesReferences = true)
    (referred : table ∈ Table.referred) :
    (∀ goes, (store.remove table goes = none ∧ store.Restricted (Row.IsChosen table goes))
        ∨ ∃ after, store.remove table goes = some after ∧ store.KeepsEvidence table goes after)
      ∧ ∀ surroundings conditions,
        match Application.maintain (Maintenance.remove table conditions) { surroundings, store } with
        | .ok _ after => store.remove table (store.picks table conditions) = some after.store
        | .error _ after => after.store = store
          ∧ (surroundings.IsUp → store.remove table (store.picks table conditions) = none) := by
  refine ⟨fun goes => ?_, fun surroundings conditions => Maintenance.maintain_remove valid⟩
  cases removed : store.remove table goes with
  | none => exact .inl ⟨rfl, (remove_eq_none_iff (valid.2.2.2 enforced) enforced referred).mp removed⟩
  | some after => exact .inr ⟨after, rfl, keepsEvidence_of_remove valid enforced referred removed⟩

/-- Somebody in a team, whom grants and an audit entry name, and somebody who agreed to the document of this
team. -/
def referring : Store where
  users := [⟨.numbered 1 1, "Ada", some "ada@example.org"⟩, ⟨.numbered 1 2, "Bo", none⟩]
  profiles := [⟨.numbered 2 1, default, .numbered 1 1, true, false, none⟩]
  grants := [⟨.numbered 3 1, .numbered 1 1, "board", default, none, none, some (.numbered 1 1)⟩,
    ⟨.numbered 3 2, .numbered 1 2, "board", default, none, none, some (.numbered 1 1)⟩]
  teams := [⟨.numbered 5 1, default, "Garden", "garden", true, .none⟩]
  members := [⟨.numbered 6 1, .numbered 5 1, .numbered 1 1, .member, default, none⟩]
  documents := [⟨.numbered 7 1, "Rules", some (.numbered 5 1), true, true, 7, none, none⟩]
  versions := [⟨.numbered 8 1, .numbered 7 1, "1", none, default, false, none⟩]
  consents := [⟨.numbered 9 1, .numbered 1 2, .numbered 8 1, default, true, "", "", "", none⟩]
  audit := [⟨.numbered 11 1, .teamMemberAdded, "Team", .numbered 5 1, "Ada joined", default,
    some (.numbered 1 1), "Ada", some (.numbered 1 1), some "User", none⟩]
  enforcesReferences := true

/-- The first user goes, and her entry in the log stays; whatever leads to the consent is kept. -/
theorem referring_keeps_evidence :
    (∃ after, referring.remove .users (· = .numbered 1 1) = some after
        ∧ referring.KeepsEvidence .users (· = .numbered 1 1) after)
      ∧ referring.Restricted (Row.IsChosen .users (· = .numbered 1 2))
      ∧ referring.Restricted (Row.IsChosen .teams (· = .numbered 5 1))
      ∧ referring.Restricted (Row.IsChosen .documents (· = .numbered 7 1))
      ∧ referring.Restricted (Row.IsChosen .versions (· = .numbered 8 1)) := by
  have valid : referring.Valid := by decide +kernel
  have kept (table : Table) (referred : table ∈ Table.referred) :=
    (@removal_keeps_evidence referring table valid rfl referred).1
  have refused : ∀ table ∈ Table.referred, ∀ goes,
      referring.remove table goes = none → referring.Restricted (Row.IsChosen table goes) := by
    intro table referred goes refused
    rcases kept table referred goes with ⟨_, restricted⟩ | ⟨after, left, _⟩
    · exact restricted
    · cases refused.symm.trans left
  refine ⟨(kept .users (by decide) _).resolve_left fun both => ?_, refused .users (by decide) _ ?_,
    refused .teams (by decide) _ ?_, refused .documents (by decide) _ ?_,
    refused .versions (by decide) _ ?_⟩
  · exact absurd both.1 (by decide +kernel)
  all_goals decide +kernel

end Store

end Roster
