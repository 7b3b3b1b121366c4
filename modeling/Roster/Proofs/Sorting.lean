/-
**Sorting is stable.**

What is level keeps its places, so what is kept of a sorted list is what is kept, sorted.

* `filter_mergeSort` — **a stable order passes to a part of a list**.
* `filter_mergeSort_of_level` — what is level stays as it was.
-/

import Mathlib.Data.List.Pairwise

namespace Roster

/-- Two lists that are cut where a property ends are cut at the same place. -/
theorem eq_of_cut {α : Type} {holds : α → Bool} {first rest other otherRest : List α}
    (same : first ++ rest = other ++ otherRest)
    (inside : ∀ a ∈ first, holds a = true) (outside : ∀ a ∈ rest, holds a = false)
    (insideOther : ∀ a ∈ other, holds a = true) (outsideOther : ∀ a ∈ otherRest, holds a = false) :
    first = other ∧ rest = otherRest := by
  have kept := congrArg (List.filter holds) same
  have none {list : List α} (fails : ∀ a ∈ list, holds a = false) : list.filter holds = [] :=
    List.filter_eq_nil_iff.mpr fun a member => Bool.eq_false_iff.mp (fails a member)
  rw [List.filter_append, List.filter_append, List.filter_eq_self.mpr inside,
    List.filter_eq_self.mpr insideOther, none outside, none outsideOther, List.append_nil,
    List.append_nil] at kept
  exact ⟨kept, List.append_cancel_left (kept ▸ same)⟩

/-- **A stable order passes to a part of a list**: what is kept of a sorted list is what is kept, sorted. -/
theorem filter_mergeSort {α : Type} {le : α → α → Bool}
    (trans : ∀ a b c, le a b = true → le b c = true → le a c = true)
    (total : ∀ a b, (le a b || le b a) = true) (keep : α → Bool) (list : List α) :
    (list.mergeSort le).filter keep = (list.filter keep).mergeSort le := by
  induction list with
  | nil => rw [List.mergeSort_nil, List.filter_nil, List.mergeSort_nil]
  | cons a rest ih =>
    obtain ⟨before, after, sorted, sortedRest, less⟩ := List.mergeSort_cons trans total a rest
    by_cases kept : keep a = true
    -- The first one has its place behind the smaller ones, in the whole list as in the part.
    · obtain ⟨first, last, sortedKept, sortedKeptRest, lessKept⟩ :=
        List.mergeSort_cons trans total a (rest.filter keep)
      have above {smaller larger part : List α} (whole : part.mergeSort le = smaller ++ a :: larger) :
          ∀ b ∈ larger, (!le a b) = false := by
        have pairs := List.pairwise_mergeSort trans total part
        rw [whole] at pairs
        intro b member
        rw [(List.pairwise_cons.mp (List.pairwise_append.mp pairs).2.1).1 b member]
        rfl
      have same : before.filter keep ++ after.filter keep = first ++ last := by
        rw [← List.filter_append, ← sortedRest, ih, sortedKeptRest]
      obtain ⟨front, back⟩ := eq_of_cut same (fun b member => less b (List.mem_filter.mp member).1)
        (fun b member => above sorted b (List.mem_filter.mp member).1) lessKept (above sortedKept)
      rw [List.filter_cons_of_pos kept, sorted, sortedKept, List.filter_append,
        List.filter_cons_of_pos kept, front, back]
    · rw [List.filter_cons_of_neg kept, sorted, List.filter_append, List.filter_cons_of_neg kept,
        ← List.filter_append, ← sortedRest, ih]

/-- **What is level stays as it was**, wherever it stands. -/
theorem filter_mergeSort_of_level {α : Type} {le : α → α → Bool}
    (trans : ∀ a b c, le a b = true → le b c = true → le a c = true)
    (total : ∀ a b, (le a b || le b a) = true) {keep : α → Bool}
    (level : ∀ a b, keep a = true → keep b = true → le a b = true) (list : List α) :
    (list.mergeSort le).filter keep = list.filter keep := by
  rw [filter_mergeSort trans total]
  refine List.mergeSort_of_pairwise (List.pairwise_of_forall_mem_list fun a insideA b insideB => ?_)
  exact level a b (List.mem_filter.mp insideA).2 (List.mem_filter.mp insideB).2

end Roster
