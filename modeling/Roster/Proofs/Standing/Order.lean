/-
**The order of what is required.**

Requirements are gone through in the order of their documents' names, and of their versions where two
documents have one name. Which one is met first matters where the days of grace of one cannot be told.

* `Requirement.comesFirst_trans`, `Requirement.comesFirst_total` — the order is one.
* `Requirement.InOrder` — a list in this order whose members have different versions; it is determined by
  its members (`InOrder.eq_of_mem_iff`), and what stands before a member is what comes first of the others
  (`InOrder.mem_earlier_iff`).
* `Requirement.current_congr` — **the requirements depend on the versions in force only**, not on their
  order, and not on what is still to come.
-/

import Roster.Proofs.Standing.Lookup

namespace Roster

theorem Uuid.le_antisymm {a b : Uuid} (first : a ≤ b) (second : b ≤ a) : a = b := by
  have same : a.bits.toNat = b.bits.toNat := Nat.le_antisymm first second
  cases a
  cases b
  exact congrArg Uuid.mk (BitVec.eq_of_toNat_eq same)

namespace Requirement

theorem comesFirst_iff {a b : Requirement} : comesFirst a b = true ↔
    a.documentName < b.documentName ∨ a.documentName = b.documentName ∧ a.version ≤ b.version := by
  simp [comesFirst]

theorem comesFirst_trans (a b c : Requirement) (first : comesFirst a b = true)
    (second : comesFirst b c = true) : comesFirst a c = true := by
  rw [comesFirst_iff] at first second ⊢
  rcases first with below | ⟨same, le⟩
  · rcases second with belowNext | ⟨sameNext, _⟩
    · exact .inl (String.lt_trans below belowNext)
    · exact .inl (sameNext ▸ below)
  · rcases second with belowNext | ⟨sameNext, leNext⟩
    · exact .inl (same ▸ belowNext)
    · exact .inr ⟨same.trans sameNext, Nat.le_trans le leNext⟩

theorem comesFirst_total (a b : Requirement) : (comesFirst a b || comesFirst b a) = true := by
  rw [Bool.or_eq_true, comesFirst_iff, comesFirst_iff]
  by_cases below : a.documentName < b.documentName
  · exact .inl (.inl below)
  · by_cases above : b.documentName < a.documentName
    · exact .inr (.inl above)
    · have same := String.le_antisymm (String.not_lt.mp above) (String.not_lt.mp below)
      exact (Nat.le_total a.version.bits.toNat b.version.bits.toNat).imp
        (fun le => .inr ⟨same, le⟩) fun le => .inr ⟨same.symm, le⟩

/-- Two requirements of which each comes first have one version. -/
theorem version_eq_of_comesFirst {a b : Requirement} (first : comesFirst a b = true)
    (second : comesFirst b a = true) : a.version = b.version := by
  rw [comesFirst_iff] at first second
  rcases first with below | ⟨same, le⟩
  · rcases second with above | ⟨same, _⟩
    · exact absurd above (String.lt_asymm below)
    · exact absurd (same ▸ below) (String.lt_irrefl _)
  · rcases second with above | ⟨_, leBack⟩
    · exact absurd (same ▸ above) (String.lt_irrefl _)
    · exact Uuid.le_antisymm le leBack

/-! ### Lists in order -/

/-- **Requirements in their order**, of different versions. -/
structure InOrder (required : List Requirement) : Prop where
  sorted : required.Pairwise fun a b => comesFirst a b = true
  nodup : required.Nodup
  apart : ∀ a ∈ required, ∀ b ∈ required, a.version = b.version → a = b

namespace InOrder

variable {required others : List Requirement}

theorem sublist (ordered : InOrder required) (fewer : others.Sublist required) : InOrder others :=
  ⟨ordered.sorted.sublist fewer, ordered.nodup.sublist fewer, fun a insideA b insideB =>
    ordered.apart a (fewer.subset insideA) b (fewer.subset insideB)⟩

/-- **A list in order is determined by its members.** -/
theorem eq_of_mem_iff (ordered : InOrder required) (orderedOthers : InOrder others)
    (same : ∀ requirement, requirement ∈ required ↔ requirement ∈ others) : required = others := by
  refine List.Perm.eq_of_pairwise (fun a b insideA insideB first second => ?_) ordered.sorted
    orderedOthers.sorted ((List.perm_ext_iff_of_nodup ordered.nodup orderedOthers.nodup).mpr same)
  exact ordered.apart a insideA b ((same b).mpr insideB) (version_eq_of_comesFirst first second)

/-- **What stands before a member** is what comes first of the other members. -/
theorem mem_earlier_iff {earlier later : List Requirement} {requirement other : Requirement}
    (ordered : InOrder (earlier ++ requirement :: later)) :
    other ∈ earlier ↔ other ∈ earlier ++ requirement :: later
      ∧ comesFirst other requirement = true ∧ other ≠ requirement := by
  obtain ⟨_, sortedRest, before⟩ := List.pairwise_append.mp ordered.sorted
  obtain ⟨_, nodupRest, apart⟩ := List.nodup_append.mp ordered.nodup
  have here : requirement ∈ earlier ++ requirement :: later :=
    List.mem_append_right _ List.mem_cons_self
  constructor
  · exact fun inside => ⟨List.mem_append_left _ inside, before other inside _ List.mem_cons_self,
      apart other inside _ List.mem_cons_self⟩
  · rintro ⟨inside, first, different⟩
    rcases List.mem_append.mp inside with early | rest
    · exact early
    · rcases List.mem_cons.mp rest with same | late
      · exact absurd same different
      · have second := (List.pairwise_cons.mp sortedRest).1 other late
        exact absurd (ordered.apart other inside _ here (version_eq_of_comesFirst first second)) different

end InOrder

/-! ### The versions in force -/

theorem inOrder_current {rows : List (DocumentVersion × LegalDocument)} {now : Instant}
    (apart : ∀ a ∈ inForce rows now, ∀ b ∈ inForce rows now, a.version = b.version → a = b) :
    InOrder (current rows now) := by
  obtain ⟨kept, latest, perm⟩ := latest_current rows now
  have inside : ∀ requirement ∈ current rows now, requirement ∈ inForce rows now :=
    fun requirement member => latest.inside requirement (perm.mem_iff.mp member)
  refine ⟨List.pairwise_mergeSort comesFirst_trans comesFirst_total _,
    perm.nodup_iff.mpr (List.Nodup.of_map _ latest.documents), fun a insideA b insideB => ?_⟩
  exact apart a (inside a insideA) b (inside b insideB)

/-- **The requirements depend on the versions in force only**: not on the order of the rows, nor on versions
that are still to come. -/
theorem current_congr {rows others : List (DocumentVersion × LegalDocument)} {now : Instant}
    (same : ∀ requirement, requirement ∈ inForce rows now ↔ requirement ∈ inForce others now)
    (unique : ∀ a ∈ inForce others now, ∀ b ∈ inForce others now, a.document = b.document →
      a.effectiveFrom.micros = b.effectiveFrom.micros → a = b)
    (apart : ∀ a ∈ inForce others now, ∀ b ∈ inForce others now, a.version = b.version → a = b) :
    current rows now = current others now := by
  refine (inOrder_current fun a insideA b insideB => ?_).eq_of_mem_iff (inOrder_current apart)
    fun requirement => ?_
  · exact apart a ((same a).mp insideA) b ((same b).mp insideB)
  · rw [mem_current_iff unique, mem_current_iff fun a insideA b insideB =>
      unique a ((same a).mp insideA) b ((same b).mp insideB)]
    exact and_congr (same requirement) (forall_congr' fun other => by rw [same])

end Requirement

end Roster
