/-
**Which versions are selected.**

Rows of versions and their documents come in any order. Going through them keeps, for each document, the latest
version that has begun, and in the end what was kept is sorted. What the selection has to be can be said without
either: one entry for each document of which a version has begun, the latest such version, in the order of the
names and of the texts of the identifiers. No other list is like that, so the order of the rows cannot matter.

* `Apart` — rows as a store has them: versions are distinct, and no two of a document begin at once.
* `Selects` — **what the selection has to be**; `Selects.unique` — there is at most one such list, and
  `Selects.perm` — it is the same for the rows in any other order.
* `selects_current` — **the selection is such a list**; `current_is_exact` — all of it together.
* `apart_requiredRowsIn`, `replies_requirements` — a valid store finds such rows, and what is required is selected
  from them.
-/

import Roster.Proofs.Standing.Order
import Roster.Proofs.Uuid

namespace Roster.Requirement

variable {rows others : List (DocumentVersion × LegalDocument)} {row other : DocumentVersion × LegalDocument}
  {now : Instant} {required : List Requirement} {a b : Requirement}

/-- **Rows that a store can have**: a version comes up once, no two versions of a document begin at once, and a
document is the same in all its rows. -/
structure Apart (rows : List (DocumentVersion × LegalDocument)) : Prop where
  versions : (rows.map fun row => row.1.id).Nodup
  starts : (rows.map fun row => (row.2.id, row.1.effectiveFrom.micros)).Nodup
  documents : ∀ row ∈ rows, ∀ other ∈ rows, row.2.id = other.2.id → row.2 = other.2

theorem Apart.perm (apart : Apart rows) (order : others.Perm rows) : Apart others where
  versions := (order.map _).nodup_iff.mpr apart.versions
  starts := (order.map _).nodup_iff.mpr apart.starts
  documents row inside other insideOther :=
    apart.documents row (order.mem_iff.mp inside) other (order.mem_iff.mp insideOther)

/-- The row tells the current version of its document: it has begun, and all other versions of the document
that have begun are earlier. -/
structure IsLatest (rows : List (DocumentVersion × LegalDocument)) (now : Instant)
    (row : DocumentVersion × LegalDocument) : Prop where
  inside : row ∈ rows
  begun : row.1.effectiveFrom ≤ now
  latest : ∀ other ∈ rows, other.2.id = row.2.id → other.1.effectiveFrom ≤ now → other ≠ row →
    other.1.effectiveFrom < row.1.effectiveFrom

/-- Of a document one row tells the current version. -/
theorem IsLatest.unique (first : IsLatest rows now row) (second : IsLatest rows now other)
    (same : row.2.id = other.2.id) : row = other := by
  by_contra different
  have below := second.latest row first.inside same first.begun different
  have above := first.latest other second.inside same.symm second.begun (Ne.symm different)
  rw [Instant.lt_iff] at below above
  omega

/-- A requirement comes before another by the name of its document, or by the text of its version where two
documents have one name. -/
def Precedes (a b : Requirement) : Prop :=
  a.documentName < b.documentName ∨ a.documentName = b.documentName ∧ a.version.text < b.version.text

theorem Precedes.asymm (first : Precedes a b) : ¬ Precedes b a := by
  rintro (above | ⟨same, above⟩)
  · rcases first with below | ⟨equal, _⟩
    · exact String.lt_asymm below above
    · exact String.lt_irrefl _ (equal ▸ above)
  · rcases first with below | ⟨_, below⟩
    · exact String.lt_irrefl _ (same ▸ below)
    · exact String.lt_asymm below above

/-- Of different versions one precedes the other. -/
theorem precedes_of_comesFirst (first : comesFirst a b = true) (different : a.version ≠ b.version) :
    Precedes a b := by
  refine (comesFirst_iff.mp first).imp_right fun ⟨same, le⟩ => ⟨same, ?_⟩
  rw [Uuid.text_lt_iff]
  exact Nat.lt_of_le_of_ne le fun equal => different (Uuid.le_antisymm le (Nat.le_of_eq equal.symm))

/-- **What a selection of current versions has to be.** Each document is listed at most once, and it is listed
exactly if one of its versions has begun. An entry is its current version, with the name and the days of grace
that every row of the document shows, and each entry precedes all later ones. -/
structure Selects (rows : List (DocumentVersion × LegalDocument)) (now : Instant)
    (required : List Requirement) : Prop where
  once : (required.map Requirement.document).Nodup
  listed : ∀ document, document ∈ required.map Requirement.document
    ↔ ∃ row ∈ rows, row.2.id = document ∧ row.1.effectiveFrom ≤ now
  current : ∀ requirement ∈ required, ∃ row, IsLatest rows now row ∧ requirement = .ofVersion row.1 row.2
  told : ∀ requirement ∈ required, ∀ row ∈ rows, row.2.id = requirement.document →
    requirement.documentName = row.2.name ∧ requirement.graceDays = row.2.graceDays
  sorted : required.Pairwise Precedes

namespace Selects

/-- The order of the rows does not matter for what a selection has to be. -/
theorem perm (selects : Selects others now required) (order : others.Perm rows) :
    Selects rows now required where
  once := selects.once
  listed document := by simp only [selects.listed, order.mem_iff]
  current requirement member := by
    obtain ⟨row, latest, same⟩ := selects.current requirement member
    exact ⟨row, ⟨order.mem_iff.mp latest.inside, latest.begun, fun other inside =>
      latest.latest other (order.mem_iff.mpr inside)⟩, same⟩
  told requirement member row inside := selects.told requirement member row (order.mem_iff.mpr inside)
  sorted := selects.sorted

/-- Two selections list the same requirements. -/
theorem subset {more : List Requirement} (first : Selects rows now required)
    (second : Selects rows now more) {requirement : Requirement} (member : requirement ∈ required) :
    requirement ∈ more := by
  have document : requirement.document ∈ more.map Requirement.document :=
    (second.listed _).mpr ((first.listed _).mp (List.mem_map_of_mem member))
  obtain ⟨twin, inside, same⟩ := List.mem_map.mp document
  obtain ⟨row, latest, rfl⟩ := first.current requirement member
  obtain ⟨other, latestOther, rfl⟩ := second.current twin inside
  obtain rfl : row = other := latest.unique latestOther same.symm
  exact inside

/-- **There is at most one such list.** -/
theorem unique {more : List Requirement} (first : Selects rows now required)
    (second : Selects rows now more) : required = more := by
  have order : required.Perm more :=
    (List.perm_ext_iff_of_nodup (List.Nodup.of_map _ first.once) (List.Nodup.of_map _ second.once)).mpr
      fun _ => ⟨first.subset second, second.subset first⟩
  exact order.eq_of_pairwise (fun a b _ _ below above => absurd above below.asymm) first.sorted
    second.sorted

end Selects

/-! ### The selection -/

theorem mem_inForce_iff {requirement : Requirement} : requirement ∈ inForce rows now
    ↔ ∃ row ∈ rows, row.1.effectiveFrom ≤ now ∧ .ofVersion row.1 row.2 = requirement := by
  simp only [inForce, List.mem_map, List.mem_filter, decide_eq_true_eq, and_assoc]

/-- Rows of which no two begin at once tell different requirements. -/
theorem Apart.eq_of_start (apart : Apart rows) : ∀ a ∈ inForce rows now, ∀ b ∈ inForce rows now,
    a.document = b.document → a.effectiveFrom.micros = b.effectiveFrom.micros → a = b := by
  intro a insideA b insideB document start
  obtain ⟨row, here, _, rfl⟩ := mem_inForce_iff.mp insideA
  obtain ⟨other, there, _, rfl⟩ := mem_inForce_iff.mp insideB
  rw [List.inj_on_of_nodup_map apart.starts here there (Prod.ext document start)]

theorem Apart.eq_of_version (apart : Apart rows) : ∀ a ∈ inForce rows now, ∀ b ∈ inForce rows now,
    a.version = b.version → a = b := by
  intro a insideA b insideB version
  obtain ⟨row, here, _, rfl⟩ := mem_inForce_iff.mp insideA
  obtain ⟨other, there, _, rfl⟩ := mem_inForce_iff.mp insideB
  rw [List.inj_on_of_nodup_map apart.versions here there version]

/-- **An entry is the current version of its document**: it is one of the rows that have begun, and no such row of
its document is later or as late. -/
theorem Apart.exists_isLatest (apart : Apart rows) {requirement : Requirement}
    (member : requirement ∈ current rows now) :
    ∃ row, IsLatest rows now row ∧ requirement = .ofVersion row.1 row.2 := by
  obtain ⟨inside, last⟩ := (mem_current_iff apart.eq_of_start).mp member
  obtain ⟨row, here, begun, rfl⟩ := mem_inForce_iff.mp inside
  refine ⟨row, ⟨here, begun, fun other there same begunOther different => ?_⟩, rfl⟩
  have below := last (.ofVersion other.1 other.2) (mem_inForce_iff.mpr ⟨other, there, begunOther, rfl⟩) same
  have earlier : other.1.effectiveFrom.micros ≠ row.1.effectiveFrom.micros := fun start =>
    different (List.inj_on_of_nodup_map apart.starts there here (Prod.ext same start))
  exact Instant.lt_iff.mpr (Int.lt_iff_le_and_ne.mpr ⟨below, earlier⟩)

/-- **The listed documents** are those of which a version has begun. -/
theorem mem_map_document_current_iff {document : Uuid} : document ∈ (current rows now).map Requirement.document
    ↔ ∃ row ∈ rows, row.2.id = document ∧ row.1.effectiveFrom ≤ now := by
  obtain ⟨kept, latest, order⟩ := latest_current rows now
  rw [(order.map _).mem_iff]
  constructor
  · intro listed
    obtain ⟨requirement, member, rfl⟩ := List.mem_map.mp listed
    obtain ⟨row, here, begun, rfl⟩ := mem_inForce_iff.mp (latest.inside requirement member)
    exact ⟨row, here, rfl, begun⟩
  · rintro ⟨row, here, rfl, begun⟩
    exact latest.covers (.ofVersion row.1 row.2) (mem_inForce_iff.mpr ⟨row, here, begun, rfl⟩)

/-- **The selection is what it has to be.** -/
theorem selects_current (apart : Apart rows) (now : Instant) : Selects rows now (current rows now) where
  once := by
    obtain ⟨kept, latest, order⟩ := latest_current rows now
    exact (order.map _).nodup_iff.mpr latest.documents
  listed _ := mem_map_document_current_iff
  current _ := apart.exists_isLatest
  told requirement member row here same := by
    obtain ⟨own, isLatest, rfl⟩ := apart.exists_isLatest member
    rw [apart.documents row here own isLatest.inside same]
    exact ⟨rfl, rfl⟩
  sorted := by
    have ordered := inOrder_current (@Apart.eq_of_version rows now apart)
    refine (ordered.sorted.and ordered.nodup).imp_of_mem fun insideA insideB ⟨first, different⟩ => ?_
    exact precedes_of_comesFirst first fun same => different (ordered.apart _ insideA _ insideB same)

/-- **The selection of current versions is exact and does not depend on the order of the rows.** For each
document of which a version has begun it lists the latest such version, with the name and the days of grace of
the document, and nothing else, in the order of the names and of the texts of the versions. No other list is
like that, and the rows in any other order give the same one. -/
theorem current_is_exact (apart : Apart rows) (now : Instant) :
    Selects rows now (current rows now)
      ∧ (∀ required, Selects rows now required → required = current rows now)
      ∧ ∀ others, others.Perm rows → current others now = current rows now := by
  have selects := selects_current apart now
  refine ⟨selects, fun required other => other.unique selects, fun others order => ?_⟩
  exact ((selects_current (apart.perm order) now).perm order).unique selects

/-- A row for a version of a document, with as many days of grace as the document's number. -/
def rowOf (document version : Nat) (name : String) (effectiveFrom : Instant) :
    DocumentVersion × LegalDocument :=
  ({ (default : DocumentVersion) with
      id := .numbered 7 version, document := .numbered 6 document, effectiveFrom },
    { (default : LegalDocument) with id := .numbered 6 document, name, graceDays := document })

/-- Three documents, of which two have one name, in mixed order; the last version of the first one is still to
come in the twenty-fifth microsecond. -/
def mixedRows : List (DocumentVersion × LegalDocument) :=
  [rowOf 2 5 "Terms" default, rowOf 1 10 "Terms" ⟨24, ⟨0⟩, by decide⟩,
    rowOf 1 1 "Terms" ⟨21, ⟨0⟩, by decide⟩, rowOf 2 2 "Terms" ⟨21, ⟨0⟩, by decide⟩,
    rowOf 1 12 "Terms" ⟨29, ⟨0⟩, by decide⟩, rowOf 3 11 "Bylaws" ⟨25, ⟨0⟩, by decide⟩]

/-- Each document has its latest version selected, by name and then by the text of the version. -/
theorem mixedRows_selected :
    Selects mixedRows ⟨25, ⟨0⟩, by decide⟩ (current mixedRows ⟨25, ⟨0⟩, by decide⟩)
      ∧ (current mixedRows ⟨25, ⟨0⟩, by decide⟩).map (fun entry => (entry.documentName, entry.version))
        = [("Bylaws", .numbered 7 11), ("Terms", .numbered 7 2), ("Terms", .numbered 7 10)] := by
  let now : Instant := ⟨25, ⟨0⟩, by decide⟩
  have apart : Apart mixedRows := ⟨by decide +kernel, by decide +kernel, by decide +kernel⟩
  obtain ⟨selects, _, order⟩ := current_is_exact apart now
  -- In the reverse order of the rows, what is kept of them is in order already.
  let kept : List Requirement := (mixedRows.reverse.filter fun row => row.1.effectiveFrom ≤ now).foldl
    (fun kept row => keepLatest (ofVersion row.1 row.2) kept) []
  have same : current mixedRows now = kept := by
    rw [← order mixedRows.reverse (List.reverse_perm _)]
    exact List.mergeSort_of_pairwise (by decide +kernel)
  refine ⟨selects, ?_⟩
  rw [same]
  decide +kernel

/-! ### The rows of a store -/

/-- A version comes up in at most one of the rows that a store finds, since its document is one. -/
theorem map_requiredRowsIn_sublist {store : Store} {κ : Type} {keyOf : DocumentVersion × LegalDocument → κ}
    {key : DocumentVersion → κ} (valid : store.Valid) (scope : Option Uuid) (now : Instant)
    (told : ∀ version document, version.document = document.id → keyOf (version, document) = key version) :
    ((Standing.requiredRowsIn scope now store).map keyOf).Sublist (store.versions.map key) := by
  unfold Standing.requiredRowsIn
  generalize store.versions = versions
  induction versions with
  | nil => exact List.Sublist.slnil
  | cons version rest ih =>
    rw [List.flatMap_cons, List.map_append, List.map_cons]
    obtain ⟨found, documents⟩ := Store.exists_filter_eq_toList valid.documentIds version.document
    have rows : (store.documents.filter fun document => version.document = document.id
          ∧ document.isActive ∧ document.isRequired ∧ document.team = scope
          ∧ version.effectiveFrom ≤ now).Sublist found.toList := by
      rw [← documents]
      refine List.monotone_filter_right _ fun document holds => ?_
      exact decide_eq_true (of_decide_eq_true holds).1.symm
    have one : (found.toList.map fun document => keyOf (version, document)).Sublist [key version] := by
      cases found with
      | none => exact List.nil_sublist _
      | some document =>
        have inside : document ∈ store.documents.filter fun row => row.id = version.document :=
          documents ▸ List.mem_cons_self
        have same : document.id = version.document := of_decide_eq_true (List.mem_filter.mp inside).2
        rw [Option.toList_some, List.map_singleton, told version document same.symm]
    rw [List.map_map]
    exact ((rows.map _).trans one).append ih

/-- **A valid store finds such rows.** -/
theorem apart_requiredRowsIn {store : Store} (valid : store.Valid) (scope : Option Uuid) (now : Instant) :
    Apart (Standing.requiredRowsIn scope now store) where
  versions := valid.versionIds.sublist
    (map_requiredRowsIn_sublist valid scope now fun _ _ _ => rfl)
  starts := valid.starts.sublist
    (map_requiredRowsIn_sublist valid scope now fun _ _ same => congrArg (·, _) same.symm)
  documents row inside other insideOther same := by
    obtain ⟨binds, _⟩ := Store.mem_requiredRowsIn_iff.mp inside
    obtain ⟨bindsOther, _⟩ := Store.mem_requiredRowsIn_iff.mp insideOther
    exact List.inj_on_of_nodup_map valid.documentIds binds.document_mem bindsOther.document_mem same

/-- **What is required of everybody, or of a team, is the selection from the rows of the store.** -/
theorem replies_requirements {store : Store} (valid : store.Valid) (scope : Option Uuid) (now : Instant) :
    ∃ required, Replies (Standing.requirements scope now) store (.ok required)
      ∧ Selects (Standing.requiredRowsIn scope now store) now required :=
  ⟨_, (Standing.isQuestion_requirements scope now).of_store store,
    selects_current (apart_requiredRowsIn valid scope now) now⟩

end Roster.Requirement
