/-
**Universally unique identifiers.**

An identifier is a number of 128 bits. It is written with 32 hexadecimal digits in lower case, in
five groups of 8, 4, 4, 4 and 12; the order of the numbers is the order of these texts.

* `Uuid.text` — the written form.
* `Uuid.read` — reads it, also in capitals, without dashes, in braces or behind a name label.
* `Uuid.numbered` — the identifiers issued in sequence under a leading digit.
-/

import Roster.Number.Numeral
import Roster.Text.Quoted

namespace Roster

/-- An identifier of 128 bits. -/
structure Uuid where
  bits : BitVec 128
deriving DecidableEq, Repr, Inhabited

namespace Uuid

/-- Identifiers are ordered as numbers. -/
instance : LE Uuid := ⟨fun a b => a.bits.toNat ≤ b.bits.toNat⟩

instance (a b : Uuid) : Decidable (a ≤ b) := inferInstanceAs (Decidable (a.bits.toNat ≤ b.bits.toNat))

/-- Puts a dash after the 8th, 12th, 16th and 20th digit. -/
def grouped (digits : List Char) : List Char :=
  digits.take 8 ++ '-' :: (digits.drop 8).take 4 ++ '-' :: (digits.drop 12).take 4
    ++ '-' :: (digits.drop 16).take 4 ++ '-' :: digits.drop 20

/-- The written form: five groups of digits in lower case. -/
def text (id : Uuid) : String :=
  String.ofList (grouped (Text.Quoted.hexDigits 32 id.bits.toNat))

instance : ToString Uuid := ⟨text⟩

/-- What keeps a text from being read as an identifier. -/
inductive ReadError where
  /-- Without its decorations the text does not have 32 characters. -/
  | length
  /-- The 32 characters make no number. -/
  | digits (text : String)
deriving DecidableEq, Repr, Inhabited

/-- The wording of a reading error. -/
def ReadError.message : ReadError → String
  | .length => "badly formed hexadecimal UUID string"
  | .digits text => "invalid literal for int() with base 16: " ++ Text.Quoted.encode text

/-- Removes the name labels, braces at the ends and all dashes. -/
def undecorated (text : String) : List Char :=
  let plain := ((text.replace "urn:" "").replace "uuid:" "").toList
  let isBrace := fun c : Char => c = '\x7b' || c = '\x7d'
  (((plain.dropWhile isBrace).reverse.dropWhile isBrace).reverse).filter (· ≠ '-')

/-- Reads an identifier from 32 characters that make a hexadecimal number, and any of the usual
decorations. No dash is left then, so the number is not negative. -/
def read (text : String) : Except ReadError Uuid :=
  let digits := undecorated text
  if digits.length ≠ 32 then .error .length
  else match Numeral.read? 16 (String.ofList digits) with
    | some number => .ok ⟨BitVec.ofInt 128 number⟩
    | none => .error (.digits (String.ofList digits))

/-- The identifier `d0000000-0000-4000-8000-n` for a leading digit `d` and a number `n`. -/
def numbered (leading number : Nat) : Uuid :=
  ⟨BitVec.ofNat 128 (leading * Nat.pow 16 31 + 4 * Nat.pow 16 19 + 8 * Nat.pow 16 15 + number)⟩

end Uuid

end Roster
