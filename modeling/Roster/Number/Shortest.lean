/-
**The shortest numeral of a number.**

A number of 64 bits is written with the fewest decimal digits from which it can be read back; of the
numerals with so many digits it is the nearest one. Seventeen digits are always enough. If any numeral of
so many digits reads back, then one of the two next to the number does.

* `Decimal.neighbours` — the two numerals of so many digits next to a fraction.
* `Binary64.shortest` — the shortest numeral that reads back.
* `Binary64.text` — a number as text.
-/

import Roster.Number.Binary64
import Roster.Number.Padded

namespace Roster

/-- The number `digits * 10 ^ power`. -/
structure Decimal where
  digits : Nat
  power : Int
deriving DecidableEq, Repr, Inhabited

namespace Decimal

/-- The power of ten of the first digit of a fraction that is not zero. -/
def leadingPower (numerator denominator : Nat) : Int :=
  if denominator ≤ numerator then ((Nat.toDigits 10 (numerator / denominator)).length : Int) - 1
  else
    let places := (Nat.toDigits 10 (denominator / numerator)).length
    if denominator ≤ numerator * Nat.pow 10 (places - 1) then 1 - (places : Int) else -(places : Int)

/-- The two numerals of so many digits next to a fraction that is not zero, the nearer one first; of two that
are as near the even one. -/
def neighbours (count numerator denominator : Nat) : List Decimal :=
  let power := leadingPower numerator denominator - (count : Int) + 1
  let (top, bottom) : Nat × Nat := match power with
    | .ofNat places => (numerator, denominator * Nat.pow 10 places)
    | .negSucc places => (numerator * Nat.pow 10 (places + 1), denominator)
  let nearer := roundHalfEven top bottom
  let other := if nearer = top / bottom then nearer + 1 else top / bottom
  [⟨nearer, power⟩, ⟨other, power⟩]

/-- The digits without the zeros at their end. -/
def significant (decimal : Decimal) : List Char :=
  ((Nat.toDigits 10 decimal.digits).reverse.dropWhile (· = '0')).reverse

/-- The power of ten of the first digit. -/
def lead (decimal : Decimal) : Int :=
  decimal.power + (Nat.toDigits 10 decimal.digits).length - 1

/-- The least power of the first digit that is written without an exponent. -/
def leastPlain : Int := -4

/-- From this power of the first digit on there is an exponent. -/
def leastScientific : Int := 16

/-- Digits behind a point; there is always one. -/
def places (digits : List Char) : List Char := '.' :: (if digits.isEmpty then ['0'] else digits)

/-- The numeral of a number that is not zero: with a point, and with an exponent of at least two digits
where the number is very small or very large. -/
def text (decimal : Decimal) : String :=
  let digits := decimal.significant
  let lead := decimal.lead
  if lead < leastPlain ∨ leastScientific ≤ lead then
    String.ofList (digits.take 1 ++ if digits.length ≤ 1 then [] else '.' :: digits.drop 1)
      ++ (if lead < 0 then "e-" else "e+") ++ padded 2 lead.natAbs
  else if lead < 0 then
    String.ofList ('0' :: places (List.replicate (lead.natAbs - 1) '0' ++ digits))
  else
    let count := lead.toNat + 1
    String.ofList (digits.take count ++ List.replicate (count - digits.length) '0'
      ++ places (digits.drop count))

end Decimal

namespace Binary64

/-- The most digits that are ever needed. -/
def mostDigits : Nat := 17

/-- The shortest numeral from which a finite number that is not zero can be read back. -/
def shortest (significand : Nat) (exponent : Int) : Decimal :=
  let (top, bottom) := magnitude significand exponent
  let readsBack := fun decimal : Decimal =>
    ofDecimal false decimal.digits decimal.power = .finite false significand exponent
  let found := (List.range mostDigits).findSome? fun fewer =>
    (Decimal.neighbours (fewer + 1) top bottom).find? fun decimal => readsBack decimal
  found.getD default

/-- A number as text. -/
def text : Binary64 → String
  | .finite negative significand exponent =>
    (if negative then "-" else "")
      ++ (if significand = 0 then "0.0" else (shortest significand exponent).text)
  | .infinite negative => if negative then "-inf" else "inf"
  | .undefined => "nan"

end Binary64

end Roster
