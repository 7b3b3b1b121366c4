/-
**Written whole numbers.**

A whole number is written as a sign or none and digits in some base, up to sixteen. Decimal digits of
every script count, single underscores may stand between digits, and white space around the whole does
not matter. In base sixteen a mark of a zero and an `x` may stand before the digits, an underscore behind
it.

* `Numeral.read?` — the number that a text denotes in a base.
-/

import Roster.Text.Blank
import Roster.Text.DecimalDigit

namespace Roster.Numeral

/-- The value of a letter that serves as a digit, in either case. -/
def letterValue? (c : Char) : Option Nat :=
  if 'a' ≤ c ∧ c ≤ 'f' then some (c.toNat - 0x61 + 10)
  else if 'A' ≤ c ∧ c ≤ 'F' then some (c.toNat - 0x41 + 10)
  else none

/-- The value of a digit in a base. -/
def digit? (base : Nat) (c : Char) : Option Nat :=
  (Text.decimalValue? c <|> letterValue? c).filter (· < base)

/-- The number that digits denote, between which single underscores may stand. -/
def digits? (base : Nat) (input : List Char) : Option Nat :=
  let groups := input.splitOn '_'
  if groups.any List.isEmpty then none
  else groups.flatten.foldlM (fun total c => (digit? base c).map (total * base + ·)) 0

/-- What follows the mark of base sixteen and an underscore behind it; all of it if there is no mark. -/
def unmarked : List Char → List Char
  | first :: mark :: rest =>
    if Text.decimalValue? first = some 0 ∧ (mark = 'x' ∨ mark = 'X') then
      match rest with
      | '_' :: digits => digits
      | digits => digits
    else first :: mark :: rest
  | input => input

/-- The number that digits denote, in base sixteen perhaps behind a mark. -/
def natural? (base : Nat) (input : List Char) : Option Nat :=
  digits? base (if base = 16 then unmarked input else input)

/-- The number that a text denotes in a base. -/
def read? (base : Nat) (text : String) : Option Int :=
  match (Text.trimBoth Text.isWhiteSpace text).toList with
  | '-' :: digits => (natural? base digits).map fun size => -(size : Int)
  | '+' :: digits => (natural? base digits).map fun size => (size : Int)
  | digits => (natural? base digits).map fun size => (size : Int)

/-- How many decimal digits there are in a text. -/
def digitCount (text : String) : Nat := (text.toList.filter Text.isDecimal).length

/-- The most decimal digits that a number in base ten may have to be read. -/
def mostDigits : Nat := 4300

end Roster.Numeral
