/-
**Identifiers are ordered like their texts.**

Texts are compared character by character. The digits of a number stand before the letters, both ascend, and
equally many digits of two numbers differ first where the numbers do. Dashes stand at the same places of all
identifiers, so they decide nothing.

* `Text.Quoted.hexDigits_lt_iff` — as many digits as needed are ordered like the numbers.
* `Uuid.grouped_lt_iff` — dashes at fixed places do not matter.
* `Uuid.text_lt_iff` — **the order of the texts is that of the numbers**.
-/

import Roster.Proofs.Outbox.Key

namespace Roster

namespace Text.Quoted

/-- Two texts in two parts, of which the first ones are equally long: the first difference decides. -/
theorem append_lt_append_iff {first other rest otherRest : List Char}
    (long : first.length = other.length) :
    first ++ rest < other ++ otherRest ↔ first < other ∨ first = other ∧ rest < otherRest := by
  induction first generalizing other with
  | nil =>
    obtain rfl : other = [] := List.length_eq_zero_iff.mp long.symm
    simp
  | cons c first ih =>
    cases other with
    | nil => cases long
    | cons d other =>
      rw [List.cons_append, List.cons_append, List.cons_lt_cons_iff, List.cons_lt_cons_iff,
        ih (Nat.succ.inj long), List.cons.injEq, and_or_left, or_assoc, and_assoc]

theorem hexDigit_lt_iff : ∀ a < 16, ∀ b < 16, (hexDigit a < hexDigit b ↔ a < b) := by decide

/-- **Digits are ordered like the numbers** if these need no more of them than are written. -/
theorem hexDigits_lt_iff {width a b : Nat} (boundA : a < 16 ^ width) (boundB : b < 16 ^ width) :
    hexDigits width a < hexDigits width b ↔ a < b := by
  induction width generalizing a b with
  | zero =>
    rw [Nat.pow_zero, Nat.lt_one_iff] at boundA boundB
    rw [boundA, boundB]
    exact iff_of_false (List.lt_irrefl []) (Nat.lt_irrefl 0)
  | succ width ih =>
    rw [Nat.pow_succ] at boundA boundB
    have highA : a / 16 < 16 ^ width := Nat.div_lt_of_lt_mul (by omega)
    have highB : b / 16 < 16 ^ width := Nat.div_lt_of_lt_mul (by omega)
    have high : hexDigits width (a / 16) = hexDigits width (b / 16) ↔ a / 16 = b / 16 :=
      ⟨hexDigits_injective highA highB, fun same => same ▸ rfl⟩
    have low : [hexDigit (a % 16)] < [hexDigit (b % 16)] ↔ a % 16 < b % 16 := by
      rw [List.cons_lt_cons_iff, hexDigit_lt_iff _ (Nat.mod_lt _ (by decide)) _
        (Nat.mod_lt _ (by decide)), or_iff_left fun last => List.lt_irrefl [] last.2]
    rw [hexDigits, hexDigits, append_lt_append_iff (by rw [length_hexDigits, length_hexDigits]),
      ih highA highB, high, low]
    omega

end Text.Quoted

namespace Uuid

open Text.Quoted

/-- A dash behind equally many digits does not matter, if nothing in what follows does. -/
theorem dash_lt_iff {size : Nat} {digits others rest otherRest : List Char}
    (long : digits.length = others.length)
    (later : rest < otherRest ↔ digits.drop size < others.drop size) :
    digits.take size ++ '-' :: rest < others.take size ++ '-' :: otherRest ↔ digits < others := by
  have part : (digits.take size).length = (others.take size).length := by
    rw [List.length_take, List.length_take, long]
  have whole : digits < others ↔ digits.take size < others.take size
      ∨ digits.take size = others.take size ∧ digits.drop size < others.drop size := by
    rw [← append_lt_append_iff part, List.take_append_drop, List.take_append_drop]
  rw [append_lt_append_iff part, List.cons_lt_cons_iff, later, whole,
    or_iff_right (Char.lt_irrefl '-'), and_iff_right rfl]

/-- The groups one after another, each cut off from what is left. -/
theorem grouped_eq (digits : List Char) :
    grouped digits = digits.take 8 ++ '-' :: ((digits.drop 8).take 4 ++ '-' ::
      (((digits.drop 8).drop 4).take 4 ++ '-' :: ((((digits.drop 8).drop 4).drop 4).take 4 ++ '-' ::
        (((digits.drop 8).drop 4).drop 4).drop 4))) := by
  simp [grouped, List.drop_drop]

/-- **Dashes at fixed places do not matter** for the order. -/
theorem grouped_lt_iff {digits others : List Char} (long : digits.length = others.length) :
    grouped digits < grouped others ↔ digits < others := by
  have left : ∀ {digits others : List Char} (size : Nat), digits.length = others.length →
      (digits.drop size).length = (others.drop size).length := fun size long => by
    rw [List.length_drop, List.length_drop, long]
  rw [grouped_eq, grouped_eq]
  exact dash_lt_iff long <| dash_lt_iff (left 8 long) <| dash_lt_iff (left 4 (left 8 long)) <|
    dash_lt_iff (left 4 (left 4 (left 8 long))) Iff.rfl

/-- **The texts of identifiers are ordered like their numbers.** -/
theorem text_lt_iff {a b : Uuid} : a.text < b.text ↔ a.bits.toNat < b.bits.toNat := by
  have long : (hexDigits 32 a.bits.toNat).length = (hexDigits 32 b.bits.toNat).length := by
    rw [length_hexDigits, length_hexDigits]
  rw [text, text, String.lt_iff, String.toList_ofList, String.toList_ofList, grouped_lt_iff long]
  exact hexDigits_lt_iff (by have := a.bits.isLt; omega) (by have := b.bits.isLt; omega)

end Uuid

end Roster
