/-
**Default keys identify what is asked for.**

An identifier is written with 36 characters, and the written form determines it: dashes aside, it is
the list of its hexadecimal digits. A default key ends in two such texts of fixed length, so **nothing
of it is cut off and the kind, the team and the user can be read back from it**.

* `Uuid.text_injective` — identifiers with the same text are the same.
* `Uuid.freshBetween_of_le` — identifiers issued in sequence differ.
* `defaultKey_inj` — two default keys are the same only if kind, team and user are.
* `Order.storedKey_of_default` — an order without a key of its own gets its default key, uncut.
-/

import Mathlib.Algebra.Group.Nat.Defs
import Roster.Outbox.Basic

namespace Roster

/-! ### Hexadecimal digits -/

namespace Text.Quoted

theorem length_hexDigits (width number : Nat) : (hexDigits width number).length = width := by
  induction width generalizing number with
  | zero => rfl
  | succ width ih => rw [hexDigits, List.length_append, ih, List.length_singleton]

theorem hexDigit_injective : ∀ a < 16, ∀ b < 16, hexDigit a = hexDigit b → a = b := by decide

theorem hexDigit_ne_dash : ∀ digit < 16, hexDigit digit ≠ '-' := by decide

theorem ne_dash_of_mem_hexDigits {width number : Nat} {c : Char} (member : c ∈ hexDigits width number) :
    c ≠ '-' := by
  induction width generalizing number with
  | zero => cases member
  | succ width ih =>
    rw [hexDigits, List.mem_append, List.mem_singleton] at member
    rcases member with inside | rfl
    · exact ih inside
    · exact hexDigit_ne_dash _ (Nat.mod_lt _ (by decide))

/-- **A number is determined by its digits** if it needs no more of them than are written. -/
theorem hexDigits_injective {width a b : Nat} (boundA : a < 16 ^ width) (boundB : b < 16 ^ width)
    (same : hexDigits width a = hexDigits width b) : a = b := by
  induction width generalizing a b with
  | zero =>
    rw [Nat.pow_zero, Nat.lt_one_iff] at boundA boundB
    rw [boundA, boundB]
  | succ width ih =>
    rw [hexDigits, hexDigits] at same
    obtain ⟨front, back⟩ := List.append_inj' same rfl
    rw [Nat.pow_succ] at boundA boundB
    have high : a / 16 = b / 16 :=
      ih (Nat.div_lt_of_lt_mul (by omega)) (Nat.div_lt_of_lt_mul (by omega)) front
    have low : a % 16 = b % 16 :=
      hexDigit_injective _ (Nat.mod_lt _ (by decide)) _ (Nat.mod_lt _ (by decide))
        (List.singleton_inj.mp back)
    omega

end Text.Quoted

/-! ### Texts of identifiers -/

namespace Uuid

open Text.Quoted

/-- Without its dashes a grouped list of digits is the list itself. -/
theorem filter_grouped {digits : List Char} (plain : ∀ c ∈ digits, c ≠ '-') :
    (grouped digits).filter (· ≠ '-') = digits := by
  have keep : ∀ part : List Char, part ⊆ digits → part.filter (· ≠ '-') = part := fun part sub =>
    List.filter_eq_self.mpr fun c member => decide_eq_true (plain c (sub member))
  have piece : ∀ start size, ((digits.drop start).take size).filter (· ≠ '-')
      = (digits.drop start).take size := fun start size =>
    keep _ (List.Subset.trans (List.take_subset _ _) (List.drop_subset _ _))
  have first := keep _ (List.take_subset 8 digits)
  have last := keep _ (List.drop_subset 20 digits)
  have regroup : ∀ start size, (digits.drop start).take size ++ digits.drop (start + size)
      = digits.drop start := fun start size => by
    rw [← List.drop_drop, List.take_append_drop]
  simp only [grouped, List.filter_append, List.filter_cons_of_neg, piece, first, last,
    List.append_assoc, ne_eq, not_true_eq_false, decide_false, Bool.false_eq_true,
    not_false_eq_true]
  rw [regroup 16 4, regroup 12 4, regroup 8 4, List.take_append_drop]

theorem length_text (id : Uuid) : id.text.toList.length = 36 := by
  have digits := length_hexDigits 32 id.bits.toNat
  rw [text, String.toList_ofList, grouped]
  simp only [List.length_append, List.length_cons, List.length_take, List.length_drop, digits]
  rfl

/-- **Identifiers with the same text are the same.** -/
theorem text_injective {a b : Uuid} (same : a.text = b.text) : a = b := by
  have digits : hexDigits 32 a.bits.toNat = hexDigits 32 b.bits.toNat := by
    rw [← filter_grouped fun _ => @ne_dash_of_mem_hexDigits 32 a.bits.toNat _,
      ← filter_grouped fun _ => @ne_dash_of_mem_hexDigits 32 b.bits.toNat _,
      String.ofList_injective same]
  have bits : a.bits.toNat = b.bits.toNat :=
    hexDigits_injective (by have := a.bits.isLt; omega) (by have := b.bits.isLt; omega) digits
  obtain ⟨bitsA⟩ := a
  obtain ⟨bitsB⟩ := b
  exact congrArg Uuid.mk (BitVec.eq_of_toNat_eq bits)

theorem ofNat_inj {offset start a b : Nat} (afterA : start < a) (boundA : a ≤ start + 2 ^ 128)
    (afterB : start < b) (boundB : b ≤ start + 2 ^ 128)
    (same : BitVec.ofNat 128 (offset + a) = BitVec.ofNat 128 (offset + b)) : a = b := by
  have bits := congrArg BitVec.toNat same
  rw [BitVec.toNat_ofNat, BitVec.toNat_ofNat] at bits
  omega

/-- The identifiers that are issued in sequence between two counts are fresh: none comes up twice. -/
def FreshBetween (leading start finish : Nat) : Prop :=
  ∀ a b, start < a → a ≤ finish → start < b → b ≤ finish → numbered leading a = numbered leading b → a = b

/-- **Identifiers are fresh until all numbers of 128 bits have been used.** -/
theorem freshBetween_of_le {leading start finish : Nat} (few : finish ≤ start + 2 ^ 128) :
    FreshBetween leading start finish := fun _ _ afterA boundA afterB boundB same =>
  ofNat_inj afterA (Nat.le_trans boundA few) afterB (Nat.le_trans boundB few) (Uuid.mk.inj same)

theorem FreshBetween.mono {leading start finish earlier : Nat}
    (fresh : FreshBetween leading start finish) (before : earlier ≤ finish) :
    FreshBetween leading start earlier := fun a b afterA boundA afterB boundB =>
  fresh a b afterA (Nat.le_trans boundA before) afterB (Nat.le_trans boundB before)

/-- **The identifiers issued between two counts are free**: they are fresh, and a table has none of them. -/
structure FreeBetween (leading start finish : Nat) (ids : List Uuid) : Prop where
  fresh : FreshBetween leading start finish
  unused : ∀ number, start < number → number ≤ finish → .numbered leading number ∉ ids

theorem FreeBetween.mono {leading start finish earlier : Nat} {ids : List Uuid}
    (free : FreeBetween leading start finish ids) (before : earlier ≤ finish) :
    FreeBetween leading start earlier ids :=
  ⟨free.fresh.mono before, fun number after bound => free.unused number after (Nat.le_trans bound before)⟩

/-- Where none is to be issued, nothing has to be free. -/
theorem freeBetween_self {leading start : Nat} {ids : List Uuid} : FreeBetween leading start start ids where
  fresh _ _ after bound _ _ _ := by omega
  unused _ after bound := by omega

/-- The identifiers that are left once the next is taken. -/
theorem FreeBetween.next {leading start finish : Nat} {ids : List Uuid}
    (free : FreeBetween leading start finish ids) (room : start < finish) :
    FreeBetween leading (start + 1) finish (ids ++ [.numbered leading (start + 1)]) where
  fresh a b afterA boundA afterB boundB same :=
    free.fresh a b (Nat.lt_of_succ_lt afterA) boundA (Nat.lt_of_succ_lt afterB) boundB same
  unused number after bound taken := by
    rcases List.mem_append.mp taken with old | new
    · exact free.unused number (Nat.lt_of_succ_lt after) bound old
    · have same := free.fresh number (start + 1) (Nat.lt_of_succ_lt after) bound (Nat.lt_succ_self _) room
        (List.mem_singleton.mp new)
      omega

/-- The identifiers that are left once some were used. -/
theorem FreeBetween.later {leading start middle finish : Nat} {ids others : List Uuid}
    (free : FreeBetween leading start finish ids) (ascends : start ≤ middle) (room : middle ≤ finish)
    (known : ∀ id ∈ others,
      id ∈ ids ∨ ∃ number, start < number ∧ number ≤ middle ∧ id = .numbered leading number) :
    FreeBetween leading middle finish others where
  fresh a b afterA boundA afterB boundB same :=
    free.fresh a b (Nat.lt_of_le_of_lt ascends afterA) boundA (Nat.lt_of_le_of_lt ascends afterB) boundB
      same
  unused number after bound taken := by
    rcases known _ taken with old | ⟨used, begins, ends, same⟩
    · exact free.unused number (Nat.lt_of_le_of_lt ascends after) bound old
    · have equal := free.fresh number used (Nat.lt_of_le_of_lt ascends after) bound begins
        (Nat.le_trans ends room) same
      omega

end Uuid

/-! ### Default keys -/

namespace Outbox

theorem toList_defaultKey (kind : EventKind) (team user : Uuid) :
    (defaultKey kind team user).toList
      = (kind.label.toList ++ ':' :: team.text.toList) ++ ':' :: user.text.toList := by
  simp [defaultKey]

/-- **A default key determines the kind's word, the team and the user.** -/
theorem defaultKey_inj {kind other : EventKind} {team user otherTeam otherUser : Uuid}
    (same : defaultKey kind team user = defaultKey other otherTeam otherUser) :
    kind.label = other.label ∧ team = otherTeam ∧ user = otherUser := by
  have lists := congrArg String.toList same
  rw [toList_defaultKey, toList_defaultKey] at lists
  obtain ⟨front, users⟩ := List.append_inj' lists (by simp [Uuid.length_text])
  obtain ⟨labels, teams⟩ := List.append_inj' front (by simp [Uuid.length_text])
  exact ⟨String.toList_injective labels,
    Uuid.text_injective (String.toList_injective (List.cons_inj_right _ |>.mp teams)),
    Uuid.text_injective (String.toList_injective (List.cons_inj_right _ |>.mp users))⟩

theorem mem_all_iff {kind : EventKind} : kind ∈ EventKind.all ↔ kind = .add ∨ kind = .remove := by
  simp [EventKind.all]

theorem label_injective {kind other : EventKind} (known : kind ∈ EventKind.all)
    (knownOther : other ∈ EventKind.all) (same : kind.label = other.label) : kind = other := by
  rcases mem_all_iff.mp known with rfl | rfl <;> rcases mem_all_iff.mp knownOther with rfl | rfl
  · rfl
  · exact absurd same (by decide)
  · exact absurd same (by decide)
  · rfl

/-- No default key of a kind that can be stored reaches the limit of a key. -/
theorem length_defaultKey_le {kind : EventKind} (known : kind ∈ EventKind.all) (team user : Uuid) :
    (defaultKey kind team user).toList.length ≤ maxKeyLength := by
  have label : kind.label.toList.length ≤ 31 := by
    rcases mem_all_iff.mp known with rfl | rfl <;> decide
  rw [toList_defaultKey]
  simp only [List.length_append, List.length_cons, Uuid.length_text, maxKeyLength]
  omega

/-- The order has no key of its own: none was given, or an empty one. -/
def Order.IsDefault (order : Order) : Prop := order.key.getD "" = ""

/-- **An order without a key of its own gets its default key**, of which nothing is cut off. -/
theorem Order.storedKey_of_default {order : Order} (default : order.IsDefault)
    (known : order.kind ∈ EventKind.all) :
    order.storedKey = defaultKey order.kind order.team order.user := by
  have empty : (order.key.getD "").isEmpty = true := by
    rw [show order.key.getD "" = "" from default]
    rfl
  unfold Order.storedKey
  dsimp only
  rw [if_pos empty, Text.clip, List.take_of_length_le (length_defaultKey_le known _ _),
    String.ofList_toList]

end Outbox

end Roster
