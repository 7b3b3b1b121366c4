/-
**What is kept of a text.**

A text that is put together for a column with a limit is kept whole if it fits, and else as far as the limit
allows. Six columns are filled in this way, each by one definition.

* `Text.IsCut`, `Text.IsAbridged` — what is kept of a text, with the end cut off, or replaced by three points.
* `Order.isCut_storedKey`, `isCut_errorText`, `Acting.isCut_name`, `Audit.isAbridged_clipDescription`,
  `Digest.length_ofContent` — **what each of the columns keeps**, told from the whole text.
-/

import Roster.Audit
import Roster.Consent
import Roster.Outbox.Drain
import Roster.Proofs.Outbox.Key

namespace Roster

/-! ### Cut and abridged texts -/

namespace Text

variable {limit : Nat} {whole kept : String}

/-- **A text with its end cut off**: whole if it is within the limit, and else its beginning of exactly that
length. -/
structure IsCut (limit : Nat) (whole kept : String) : Prop where
  fits : whole.length ≤ limit → kept = whole
  exceeds : limit < whole.length → kept.length = limit ∧ kept.toList <+: whole.toList

/-- **A text with its end replaced by three points**: whole if it is within the limit, and else a beginning of it
and the points, of exactly that length together. -/
structure IsAbridged (limit : Nat) (whole kept : String) : Prop where
  fits : whole.length ≤ limit → kept = whole
  exceeds : limit < whole.length → kept.length = limit
    ∧ ∃ beginning : String, kept = beginning ++ "..." ∧ beginning.toList <+: whole.toList

theorem IsCut.length_le (cut : IsCut limit whole kept) : kept.length ≤ limit := by
  rcases Nat.lt_or_ge limit whole.length with long | short
  · exact Nat.le_of_eq (cut.exceeds long).1
  · rw [cut.fits short]
    exact short

theorem IsCut.length_pos (cut : IsCut limit whole kept) (room : 0 < limit) (some : whole ≠ "") :
    0 < kept.length := by
  rcases Nat.lt_or_ge limit whole.length with long | short
  · rw [(cut.exceeds long).1]
    exact room
  · rw [cut.fits short]
    exact Nat.pos_of_ne_zero fun none => some (String.length_eq_zero_iff.mp none)

theorem IsAbridged.length_le (abridged : IsAbridged limit whole kept) : kept.length ≤ limit := by
  rcases Nat.lt_or_ge limit whole.length with long | short
  · exact Nat.le_of_eq (abridged.exceeds long).1
  · rw [abridged.fits short]
    exact short

/-- A text that is short enough is kept in full. -/
theorem clip_of_length_le (short : whole.length ≤ limit) : clip limit whole = whole := by
  rw [clip, List.take_of_length_le short, String.ofList_toList]

theorem clip_prefix (limit : Nat) (whole : String) : (clip limit whole).toList <+: whole.toList := by
  rw [clip, String.toList_ofList]
  exact List.take_prefix _ _

theorem isCut_clip (limit : Nat) (whole : String) : IsCut limit whole (clip limit whole) where
  fits := clip_of_length_le
  exceeds long := ⟨by rw [length_clip, Nat.min_eq_left (Nat.le_of_lt long)], clip_prefix limit whole⟩

/-- A limit that is not negative cuts as the number does. -/
theorem isCut_clipTo {limit : Int} (room : 0 ≤ limit) (whole : String) :
    IsCut limit.toNat whole (clipTo limit whole) := by
  obtain ⟨number, rfl⟩ := Int.eq_ofNat_of_zero_le room
  exact isCut_clip number whole

end Text

/-! ### What the columns keep -/

namespace Outbox

/-- The whole key of an order: the given one, or the default key if none was given or an empty one. -/
def Order.wholeKey (order : Order) : String :=
  if (order.key.getD "").isEmpty then defaultKey order.kind order.team order.user
  else order.key.getD ""

theorem Order.isCut_storedKey (order : Order) :
    Text.IsCut maxKeyLength order.wholeKey order.storedKey :=
  Text.isCut_clip maxKeyLength order.wholeKey

/-- The whole text of a failure: its wording, or the name of its class if it has none. -/
def wholeError (failure : Failure) : String :=
  if failure.message.isEmpty then failure.name else failure.message

theorem isCut_errorText (failure : Failure) {limit : Int} (room : 0 ≤ limit) :
    Text.IsCut limit.toNat (wholeError failure) (errorText failure limit) :=
  Text.isCut_clipTo room (wholeError failure)

/-- A failure always has a text. -/
theorem wholeError_ne_empty (failure : Failure) : wholeError failure ≠ "" := by
  unfold wholeError
  split
  · exact failure.name_ne_empty
  · rename_i told
    simpa using told

end Outbox

/-- Somebody who acts: a job, or an administrator. -/
inductive Acting where
  | job (name : String)
  | admin (user : Uuid) (displayName : String)
deriving DecidableEq, Repr

namespace Acting

/-- The actor of an entry. -/
def actor : Acting → Actor
  | job name => Actor.job name
  | admin user displayName => Actor.admin user displayName

/-- The whole name of an actor. -/
def wholeName : Acting → String
  | job name => name
  | admin _ displayName => "Admin: " ++ displayName

theorem isCut_name (acting : Acting) :
    Text.IsCut Actor.maxNameLength acting.wholeName acting.actor.name := by
  cases acting with
  | job name => exact Text.isCut_clip Actor.maxNameLength name
  | admin user displayName => exact Text.isCut_clip Actor.maxNameLength ("Admin: " ++ displayName)

end Acting

theorem Audit.isAbridged_clipDescription (description : String) :
    Text.IsAbridged maxDescriptionLength description (clipDescription description) := by
  unfold clipDescription
  refine ⟨fun short => if_pos short, fun long => ?_⟩
  rw [if_neg (Nat.not_le.mpr long)]
  refine ⟨?_, _, rfl, Text.clip_prefix _ description⟩
  have room : maxDescriptionLength - 3 ≤ description.length :=
    Nat.le_trans (Nat.sub_le _ _) (Nat.le_of_lt long)
  rw [String.length_append, Text.length_clip, Nat.min_eq_left room]
  rfl

namespace Digest

theorem length_text (state : State) : state.text.length = 64 := by
  have digits : ∀ word : UInt32, (wordDigits word).length = 8 := fun word =>
    Text.Quoted.length_hexDigits 8 word.toNat
  simp [State.text, digits]

/-- **A digest has 64 digits**, whatever the content. -/
theorem length_ofContent (content : Content) : (ofContent content).length = 64 := by
  cases content with
  | text text => exact length_text _
  | bytes bytes => exact length_text _

end Digest

end Roster
