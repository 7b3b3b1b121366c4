/-
**The scheme of an address.**

The asynchronous driver and the migration have their own ways to put the driver into an address: the one asks
for the plain schemes in turn, the other looks for the first that the address begins with. Both then replace
the first occurrence of the scheme that they found. Because the scheme stands at the beginning, that occurrence
is the beginning, whatever else the address holds.

* `Text.replaceFirst_of_beginsWith` — at the beginning, a replacement leaves all that follows.
* `Connection.Rewritten` — what an address becomes, without a search.
* `Connection.scheme_replaced_once` — **both ways come to this, and doing it again changes nothing**.
-/

import Roster.Connection.Target
import Roster.Layout.Migration
import Roster.Settings.Basic

namespace Roster

namespace Text

variable {beginning part new text rest : String}

theorem beginsWith_iff : beginsWith beginning text = true ↔ ∃ rest, text = beginning ++ rest := by
  rw [beginsWith, List.isPrefixOf_iff_prefix]
  constructor
  · rintro ⟨rest, whole⟩
    refine ⟨String.ofList rest, String.toList_injective ?_⟩
    rw [String.toList_append, String.toList_ofList, whole]
  · rintro ⟨rest, rfl⟩
    rw [String.toList_append]
    exact List.prefix_append _ _

theorem beginsWith_append (beginning rest : String) : beginsWith beginning (beginning ++ rest) = true :=
  beginsWith_iff.mpr ⟨rest, rfl⟩

/-- In front of the rest, the part is its own first occurrence. -/
theorem replaceFirstIn_append (part new rest : List Char) :
    replaceFirstIn part new (part ++ rest) = new ++ rest := by
  cases part with
  | nil =>
    cases rest with
    | nil => simp [replaceFirstIn]
    | cons char rest => simp [replaceFirstIn]
  | cons char part => simp [replaceFirstIn]

/-- **At the beginning, a replacement leaves all that follows**, occurrences of the part among it. -/
theorem replaceFirst_append (part new rest : String) :
    replaceFirst part new (part ++ rest) = new ++ rest := by
  apply String.toList_injective
  rw [replaceFirst, String.toList_ofList, String.toList_append, replaceFirstIn_append,
    String.toList_append]

end Text

namespace Connection

variable {address become other scheme : String}

/-- The schemes that name no driver. -/
def plainSchemes : List String := [plainScheme, shortScheme]

/-- **What an address becomes**: with a plain scheme at the beginning, the driver's scheme with the same rest; and
else the address as it is. -/
inductive Rewritten : String → String → Prop where
  | plain (scheme rest : String) (plain : scheme ∈ plainSchemes) :
    Rewritten (scheme ++ rest) (driverScheme ++ rest)
  | other (address : String)
    (other : ∀ scheme ∈ plainSchemes, Text.beginsWith scheme address = false) :
    Rewritten address address

/-- Two beginnings of one text: one of them begins with the other. -/
theorem beginsWith_or_beginsWith {one two text : String} (first : Text.beginsWith one text = true)
    (second : Text.beginsWith two text = true) :
    Text.beginsWith one two = true ∨ Text.beginsWith two one = true := by
  simp only [Text.beginsWith, List.isPrefixOf_iff_prefix] at first second ⊢
  exact List.prefix_or_prefix_of_prefix first second

/-- The driver's scheme is not a plain one, nor is it the beginning of one. -/
theorem beginsWith_driverScheme_append (plain : scheme ∈ plainSchemes) (rest : String) :
    Text.beginsWith scheme (driverScheme ++ rest) = false := by
  rw [Bool.eq_false_iff]
  intro begins
  have overlap := beginsWith_or_beginsWith begins (Text.beginsWith_append driverScheme rest)
  have apart : ∀ scheme ∈ plainSchemes, ¬ (Text.beginsWith scheme driverScheme = true
      ∨ Text.beginsWith driverScheme scheme = true) := by decide
  exact apart scheme plain overlap

/-- An address has at most one plain scheme. -/
theorem plainScheme_unique {one two : String} (plain : one ∈ plainSchemes) (plainToo : two ∈ plainSchemes)
    (begins : Text.beginsWith one address = true) (beginsToo : Text.beginsWith two address = true) :
    one = two := by
  have overlap := beginsWith_or_beginsWith begins beginsToo
  have apart : ∀ one ∈ plainSchemes, ∀ two ∈ plainSchemes,
      Text.beginsWith one two = true ∨ Text.beginsWith two one = true → one = two := by decide
  exact apart one plain two plainToo overlap

namespace Rewritten

/-- An address becomes one thing only. -/
theorem unique (one : Rewritten address become) (two : Rewritten address other) : become = other := by
  cases one with
  | plain scheme rest plain =>
    generalize whole : scheme ++ rest = address at two
    have begins := Text.beginsWith_append scheme rest
    cases two with
    | plain schemeToo restToo plainToo =>
      have same : schemeToo = scheme :=
        plainScheme_unique plainToo plain (Text.beginsWith_append schemeToo restToo) (whole ▸ begins)
      subst same
      rw [String.append_right_inj] at whole
      rw [whole]
    | other _ unplain =>
      subst whole
      rw [unplain scheme plain] at begins
      contradiction
  | other _ unplain =>
    cases two with
    | plain scheme rest plain =>
      have begins := Text.beginsWith_append scheme rest
      rw [unplain scheme plain] at begins
      contradiction
    | other => rfl

/-- What an address becomes stays as it is. -/
theorem settled (rewritten : Rewritten address become) : Rewritten become become := by
  cases rewritten with
  | plain scheme rest _ =>
    exact .other _ fun scheme plain => beginsWith_driverScheme_append plain rest
  | other _ unplain => exact .other _ unplain

end Rewritten

/-- A replacement at the beginning of an address is what the address becomes. -/
theorem rewritten_replaceFirst (plain : scheme ∈ plainSchemes)
    (begins : Text.beginsWith scheme address = true) :
    Rewritten address (Text.replaceFirst scheme driverScheme address) := by
  obtain ⟨rest, rfl⟩ := Text.beginsWith_iff.mp begins
  rw [Text.replaceFirst_append]
  exact .plain scheme rest plain

theorem rewritten_forDriver (address : String) : Rewritten address (forDriver address) := by
  unfold forDriver
  split
  case isTrue begins => exact rewritten_replaceFirst (by decide) begins
  case isFalse notPlain =>
    split
    case isTrue begins => exact rewritten_replaceFirst (by decide) begins
    case isFalse notShort =>
      refine .other address fun scheme plain => ?_
      obtain rfl | rfl : scheme = plainScheme ∨ scheme = shortScheme := by simpa [plainSchemes] using plain
      · exact Bool.eq_false_iff.mpr notPlain
      · exact Bool.eq_false_iff.mpr notShort

theorem rewritten_migrationAddress (named : Option String) (configured : String) :
    Rewritten (Migration.chosenAddress named configured) (Migration.address named configured) := by
  unfold Migration.address
  dsimp only
  split
  case h_1 scheme found =>
    have begins := List.find?_some found
    exact rewritten_replaceFirst (List.mem_of_find?_eq_some found) begins
  case h_2 missing =>
    exact .other _ fun scheme plain =>
      Bool.eq_false_iff.mpr (List.find?_eq_none.mp missing scheme plain)

/-- The migration and the driver agree about the address that the migration chooses. -/
theorem migrationAddress_eq (named : Option String) (configured : String) :
    Migration.address named configured = forDriver (Migration.chosenAddress named configured) :=
  (rewritten_migrationAddress named configured).unique (rewritten_forDriver _)

theorem forDriver_forDriver (address : String) : forDriver (forDriver address) = forDriver address :=
  (rewritten_forDriver _).unique (rewritten_forDriver address).settled

/-- **The two ways to the driver's address agree, and going again changes nothing.** Only a plain scheme at the
beginning is replaced, with the rest kept as it is; a worker that takes the rewritten address from its settings
gets the engine of the address itself; and the migration rewrites an address in the same way, whether the
environment names it or it is the configured one. -/
theorem scheme_replaced_once (address : String) :
    Rewritten address (forDriver address)
      ∧ (∀ become, Rewritten address become → become = forDriver address)
      ∧ forDriver (forDriver address) = forDriver address
      ∧ (∀ settings : Settings, settings.database.url = address →
          settings.driverAddress = forDriver address
            ∧ Target.forEngine settings.driverAddress = Target.forEngine address)
      ∧ (address ≠ "" →
          (∀ configured, Migration.address (some address) configured = forDriver address)
            ∧ ∀ named : Option String, named.getD "" = "" →
              Migration.address named address = forDriver address) := by
  refine ⟨rewritten_forDriver address, fun become rewritten => rewritten.unique (rewritten_forDriver address),
    forDriver_forDriver address, ?_, ?_⟩
  · rintro settings rfl
    refine ⟨rfl, ?_⟩
    unfold Target.forEngine Settings.driverAddress
    rw [forDriver_forDriver]
  · intro given
    refine ⟨fun configured => ?_, fun named unnamed => ?_⟩
    · rw [migrationAddress_eq, Migration.chosenAddress, if_neg (by simpa using given)]
    · rw [migrationAddress_eq]
      cases named with
      | none => rfl
      | some name =>
        obtain rfl : name = "" := unnamed
        rfl

/-- An address with a further address in its password: only the scheme at the beginning is replaced. -/
theorem scheme_replaced_once_of_embedded :
    "postgres://u:postgresql://p@db/humans" ≠ ""
      ∧ Migration.address (some "postgres://u:postgresql://p@db/humans") ""
        = "postgresql+psycopg://u:postgresql://p@db/humans"
      ∧ Migration.address none "postgres://u:postgresql://p@db/humans"
        = "postgresql+psycopg://u:postgresql://p@db/humans" := by
  obtain ⟨-, unique, -, -, migrated⟩ := scheme_replaced_once "postgres://u:postgresql://p@db/humans"
  have given : "postgres://u:postgresql://p@db/humans" ≠ "" := by decide
  have becomes := unique "postgresql+psycopg://u:postgresql://p@db/humans"
    (.plain shortScheme "u:postgresql://p@db/humans" (by decide))
  exact ⟨given, ((migrated given).1 "").trans becomes.symm,
    ((migrated given).2 none rfl).trans becomes.symm⟩

end Connection

end Roster
