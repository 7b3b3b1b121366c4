/-
**What is required of a member.**

Of the versions of a document that are in force the latest is required; the list of requirements is
found by keeping the latest version of each document while going through the rows in any order.

* `Requirement.mem_current_iff` — **the requirements are the latest versions in force**, if no document
  has two versions from one instant on.
* `Store.Requires`, `Store.Demands` — the same, said of a store; `Store.Valid.mem_current_iff` — the two
  agree.
* `Store.Binds` — a version of what binds, also one that is still to come.
* `Store.AgreedTo` — the explicit consent of a user to a version.
-/

import Roster.Proofs.Store.Rows
import Roster.Proofs.Time
import Roster.Standing.Loader

namespace Roster

/-! ### The latest version of each document -/

namespace Requirement

/-- What keeping a later version does to a list: it comes in where it wins, and what it beats goes. -/
theorem mem_keepLatest_iff {later requirement : Requirement} {kept : List Requirement}
    (documents : (kept.map Requirement.document).Nodup) :
    requirement ∈ keepLatest later kept ↔
      (requirement ∈ kept ∧ ¬ (requirement.document = later.document
        ∧ requirement.effectiveFrom < later.effectiveFrom))
      ∨ requirement = later ∧ ∀ other ∈ kept, other.document = later.document →
        other.effectiveFrom < later.effectiveFrom := by
  induction kept with
  | nil => simp [keepLatest]
  | cons first rest ih =>
    rw [List.map_cons, List.nodup_cons] at documents
    have others : ∀ other ∈ rest, other.document ≠ first.document := fun other member same =>
      documents.1 (same ▸ List.mem_map_of_mem member)
    rw [keepLatest]
    by_cases same : first.document = later.document
    · rw [if_pos same]
      by_cases beaten : first.effectiveFrom < later.effectiveFrom
      · rw [if_pos beaten]
        grind
      · rw [if_neg beaten]
        grind
    · rw [if_neg same, List.mem_cons, ih documents.2]
      grind

theorem mem_map_document_keepLatest {later : Requirement} {kept : List Requirement} {document : Uuid} :
    document ∈ (keepLatest later kept).map Requirement.document
      ↔ document ∈ kept.map Requirement.document ∨ document = later.document := by
  induction kept with
  | nil => simp [keepLatest]
  | cons first rest ih =>
    rw [keepLatest]
    by_cases same : first.document = later.document
    · rw [if_pos same]
      split <;> grind
    · rw [if_neg same, List.map_cons, List.mem_cons, ih, List.map_cons, List.mem_cons, or_assoc]

theorem nodup_keepLatest {later : Requirement} {kept : List Requirement}
    (documents : (kept.map Requirement.document).Nodup) :
    ((keepLatest later kept).map Requirement.document).Nodup := by
  induction kept with
  | nil => simp [keepLatest]
  | cons first rest ih =>
    rw [List.map_cons, List.nodup_cons] at documents
    rw [keepLatest]
    by_cases same : first.document = later.document
    · rw [if_pos same, List.map_cons, List.nodup_cons]
      refine ⟨?_, documents.2⟩
      split
      · exact same ▸ documents.1
      · exact documents.1
    · rw [if_neg same, List.map_cons, List.nodup_cons, mem_map_document_keepLatest, not_or]
      exact ⟨⟨documents.1, same⟩, ih documents.2⟩

/-- **The requirements kept so far** are some of those met: for each document one, and none that was met
is later. -/
structure Latest (met kept : List Requirement) : Prop where
  documents : (kept.map Requirement.document).Nodup
  inside : ∀ requirement ∈ kept, requirement ∈ met
  latest : ∀ requirement ∈ kept, ∀ other ∈ met, other.document = requirement.document →
    other.effectiveFrom ≤ requirement.effectiveFrom
  covers : ∀ other ∈ met, other.document ∈ kept.map Requirement.document

theorem latest_nil : Latest [] [] where
  documents := List.nodup_nil
  inside _ member := member
  latest _ member := by cases member
  covers _ member := by cases member

theorem Latest.keepLatest {met kept : List Requirement} (latest : Latest met kept)
    (later : Requirement) : Latest (met ++ [later]) (keepLatest later kept) := by
  have member := fun requirement =>
    @mem_keepLatest_iff later requirement kept latest.documents
  refine ⟨nodup_keepLatest latest.documents, fun requirement inside => ?_,
    fun requirement inside other was same => ?_, fun other was => ?_⟩
  · rcases (member requirement).mp inside with ⟨old, _⟩ | ⟨rfl, _⟩
    · exact List.mem_append_left _ (latest.inside requirement old)
    · exact List.mem_append_right _ List.mem_cons_self
  · rcases List.mem_append.mp was with earlier | new
    · rcases (member requirement).mp inside with ⟨old, _⟩ | ⟨rfl, wins⟩
      · exact latest.latest requirement old other earlier same
      · obtain ⟨best, here, document⟩ := List.mem_map.mp (latest.covers other earlier)
        have below := latest.latest best here other earlier document.symm
        have beaten := wins best here (document.trans same)
        rw [Instant.le_iff] at below ⊢
        rw [Instant.lt_iff] at beaten
        omega
    · rw [List.mem_singleton] at new
      subst new
      rcases (member requirement).mp inside with ⟨_, unbeaten⟩ | ⟨rfl, _⟩
      · exact Instant.not_lt.mp fun beaten => unbeaten ⟨same.symm, beaten⟩
      · exact Int.le_refl _
  · rw [mem_map_document_keepLatest]
    rcases List.mem_append.mp was with earlier | new
    · exact .inl (latest.covers other earlier)
    · exact .inr (congrArg Requirement.document (List.mem_singleton.mp new))

/-- Going through rows keeps the latest of those met. -/
theorem latest_foldl {met kept : List Requirement} (latest : Latest met kept)
    (rows : List (DocumentVersion × LegalDocument)) :
    Latest (met ++ rows.map fun row => ofVersion row.1 row.2)
      (rows.foldl (fun kept row => Requirement.keepLatest (ofVersion row.1 row.2) kept) kept) := by
  induction rows generalizing met kept with
  | nil => simpa using latest
  | cons row rest ih =>
    have later := ih (latest.keepLatest (ofVersion row.1 row.2))
    rwa [List.append_assoc] at later

/-- The versions of documents in force at an instant. -/
def inForce (rows : List (DocumentVersion × LegalDocument)) (now : Instant) : List Requirement :=
  (rows.filter fun row => row.1.effectiveFrom ≤ now).map fun row => ofVersion row.1 row.2

theorem latest_current (rows : List (DocumentVersion × LegalDocument)) (now : Instant) :
    ∃ kept, Latest (inForce rows now) kept ∧ (current rows now).Perm kept :=
  ⟨_, latest_foldl latest_nil _, List.mergeSort_perm _ _⟩

/-- **The requirements are the latest versions in force**, if a document has no two versions from one
instant on. -/
theorem mem_current_iff {rows : List (DocumentVersion × LegalDocument)} {now : Instant}
    {requirement : Requirement}
    (unique : ∀ a ∈ inForce rows now, ∀ b ∈ inForce rows now, a.document = b.document →
      a.effectiveFrom.micros = b.effectiveFrom.micros → a = b) :
    requirement ∈ current rows now ↔ requirement ∈ inForce rows now
      ∧ ∀ other ∈ inForce rows now, other.document = requirement.document →
        other.effectiveFrom ≤ requirement.effectiveFrom := by
  obtain ⟨kept, latest, perm⟩ := latest_current rows now
  rw [perm.mem_iff]
  constructor
  · exact fun inside => ⟨latest.inside requirement inside, latest.latest requirement inside⟩
  · rintro ⟨inside, last⟩
    obtain ⟨best, here, document⟩ := List.mem_map.mp (latest.covers requirement inside)
    have below := latest.latest best here requirement inside document.symm
    have above := last best (latest.inside best here) document
    rw [Instant.le_iff] at below above
    rw [unique requirement inside best (latest.inside best here) document.symm (by omega)]
    exact here

end Requirement

/-! ### Requirements and consents of a store -/

namespace Store

/-- **A version of a document is required** of everybody, or of the members of a team: the document is
active and required, and of its versions that have begun this is the latest. -/
structure Requires (store : Store) (scope : Option Uuid) (now : Instant) (version : DocumentVersion)
    (document : LegalDocument) : Prop where
  version_mem : version ∈ store.versions
  document_mem : document ∈ store.documents
  belongs : version.document = document.id
  active : document.isActive = true
  required : document.isRequired = true
  team : document.team = scope
  begun : version.effectiveFrom ≤ now
  latest : ∀ other ∈ store.versions, other.document = document.id → other.effectiveFrom ≤ now →
    other.effectiveFrom ≤ version.effectiveFrom

/-- **A version of what binds** everybody, or the members of a team: its document is active and required,
whether the version has begun or not. -/
structure Binds (store : Store) (scope : Option Uuid) (version : DocumentVersion)
    (document : LegalDocument) : Prop where
  version_mem : version ∈ store.versions
  document_mem : document ∈ store.documents
  belongs : version.document = document.id
  active : document.isActive = true
  required : document.isRequired = true
  team : document.team = scope

/-- **The store demands this** of everybody, or of the members of a team. -/
def Demands (store : Store) (scope : Option Uuid) (now : Instant) (requirement : Requirement) : Prop :=
  ∃ version document, store.Requires scope now version document
    ∧ requirement = .ofVersion version document

/-- The user agreed to a version explicitly. -/
def AgreedTo (store : Store) (user version : Uuid) : Prop :=
  ∃ record ∈ store.consents, record.user = user ∧ record.version = version ∧ record.isExplicit = true

instance (store : Store) (user version : Uuid) : Decidable (store.AgreedTo user version) := by
  unfold AgreedTo
  infer_instance

variable {store : Store}

theorem mem_versionsIn_iff {user version : Uuid} :
    version ∈ Consent.versionsIn user store ↔ store.AgreedTo user version := by
  simp only [Consent.versionsIn, mem_distinct, List.mem_map, List.mem_filter, decide_eq_true_eq,
    AgreedTo]
  exact ⟨fun ⟨record, ⟨inside, user, explicit⟩, same⟩ => ⟨record, inside, user, same, explicit⟩,
    fun ⟨record, inside, user, same, explicit⟩ => ⟨record, ⟨inside, user, explicit⟩, same⟩⟩

/-- The look-up finds the versions that bind and have begun. -/
theorem mem_requiredRowsIn_iff {scope : Option Uuid} {now : Instant} {version : DocumentVersion}
    {document : LegalDocument} : (version, document) ∈ Standing.requiredRowsIn scope now store
      ↔ store.Binds scope version document ∧ version.effectiveFrom ≤ now := by
  simp only [Standing.requiredRowsIn, List.mem_flatMap, List.mem_map, List.mem_filter,
    decide_eq_true_eq, Prod.mk.injEq]
  constructor
  · rintro ⟨_, known, _, ⟨here, same, active, required, team, begun⟩, rfl, rfl⟩
    exact ⟨⟨known, here, same, active, required, team⟩, begun⟩
  · rintro ⟨binds, begun⟩
    exact ⟨version, binds.version_mem, document, ⟨binds.document_mem, binds.belongs, binds.active,
      binds.required, binds.team, begun⟩, rfl, rfl⟩

theorem mem_inForce_iff {scope : Option Uuid} {now : Instant} {requirement : Requirement} :
    requirement ∈ Requirement.inForce (Standing.requiredRowsIn scope now store) now
      ↔ ∃ version ∈ store.versions, ∃ document ∈ store.documents, version.document = document.id
        ∧ document.isActive = true ∧ document.isRequired = true ∧ document.team = scope
        ∧ version.effectiveFrom ≤ now ∧ requirement = .ofVersion version document := by
  simp only [Requirement.inForce, Standing.requiredRowsIn, List.mem_map, List.mem_filter,
    List.mem_flatMap, decide_eq_true_eq]
  constructor
  · rintro ⟨_, ⟨⟨version, inside, document, ⟨known, same, active, required, team, begun⟩, rfl⟩, _⟩, rfl⟩
    exact ⟨version, inside, document, known, same, active, required, team, begun, rfl⟩
  · rintro ⟨version, inside, document, known, same, active, required, team, begun, rfl⟩
    exact ⟨(version, document),
      ⟨⟨version, inside, document, ⟨known, same, active, required, team, begun⟩, rfl⟩, begun⟩, rfl⟩

/-- A document has one version from an instant on. -/
theorem Valid.inForce_of_start (valid : store.Valid) {scope : Option Uuid} {now : Instant} :
    ∀ a ∈ Requirement.inForce (Standing.requiredRowsIn scope now store) now,
      ∀ b ∈ Requirement.inForce (Standing.requiredRowsIn scope now store) now, a.document = b.document →
        a.effectiveFrom.micros = b.effectiveFrom.micros → a = b := by
  intro a insideA b insideB one start
  obtain ⟨version, known, document, here, belongs, _, _, _, _, rfl⟩ := mem_inForce_iff.mp insideA
  obtain ⟨version', known', document', here', belongs', _, _, _, _, rfl⟩ := mem_inForce_iff.mp insideB
  obtain rfl : document = document' :=
    List.inj_on_of_nodup_map valid.documentIds here here' one
  obtain rfl : version = version' :=
    List.inj_on_of_nodup_map valid.starts known known'
      (Prod.ext (belongs.trans belongs'.symm) start)
  rfl

/-- A version belongs to one document. -/
theorem Valid.inForce_of_version (valid : store.Valid) {scope : Option Uuid} {now : Instant} :
    ∀ a ∈ Requirement.inForce (Standing.requiredRowsIn scope now store) now,
      ∀ b ∈ Requirement.inForce (Standing.requiredRowsIn scope now store) now, a.version = b.version →
        a = b := by
  intro a insideA b insideB one
  obtain ⟨version, known, document, here, belongs, _, _, _, _, rfl⟩ := mem_inForce_iff.mp insideA
  obtain ⟨version', known', document', here', belongs', _, _, _, _, rfl⟩ := mem_inForce_iff.mp insideB
  obtain rfl : version = version' := List.inj_on_of_nodup_map valid.versionIds known known' one
  obtain rfl : document = document' :=
    List.inj_on_of_nodup_map valid.documentIds here here' (belongs.symm.trans belongs')
  rfl

/-- **The requirements of a valid store are the versions that it requires.** -/
theorem Valid.mem_current_iff (valid : store.Valid) {scope : Option Uuid} {now : Instant}
    {requirement : Requirement} :
    requirement ∈ Requirement.current (Standing.requiredRowsIn scope now store) now
      ↔ ∃ version document, store.Requires scope now version document
        ∧ requirement = .ofVersion version document := by
  rw [Requirement.mem_current_iff valid.inForce_of_start]
  constructor
  · rintro ⟨inside, last⟩
    obtain ⟨version, known, document, here, same, active, required, team, begun, rfl⟩ :=
      mem_inForce_iff.mp inside
    refine ⟨version, document, ⟨known, here, same, active, required, team, begun, ?_⟩, rfl⟩
    intro other knownOther sameOther begunOther
    exact last (.ofVersion other document) (mem_inForce_iff.mpr ⟨other, knownOther, document, here,
      sameOther, active, required, team, begunOther, rfl⟩) rfl
  · rintro ⟨version, document, requires, rfl⟩
    refine ⟨mem_inForce_iff.mpr ⟨version, requires.version_mem, document, requires.document_mem,
      requires.belongs, requires.active, requires.required, requires.team, requires.begun, rfl⟩, ?_⟩
    intro other inside same
    obtain ⟨version', known, document', here, belongs, _, _, _, begun, rfl⟩ :=
      mem_inForce_iff.mp inside
    exact requires.latest version' known (belongs.trans same) begun

end Store

end Roster
