/-
**Binary numbers of 64 bits.**

A finite number is a sign, a significand below 2^53 and a power of two; the least power is -1074.
Results that fall between two such numbers go to the nearer one, and an exact half goes to the even
significand.

* `roundHalfEven` — a quotient rounded to the nearest natural number.
* `Binary64.ofRatio` — the number nearest to a fraction.
* `Binary64.ofDecimal` — the number nearest to a decimal numeral.
* `Binary64.times`, `Binary64.truncate` — one product and the whole part.
-/

namespace Roster

/-- A quotient rounded to the nearest natural number, an exact half to the even one. -/
def roundHalfEven (numerator denominator : Nat) : Nat :=
  let quotient := numerator / denominator
  let twice := 2 * (numerator % denominator)
  if twice < denominator then quotient
  else if denominator < twice then quotient + 1
  else quotient + quotient % 2

/-- A number of 64 bits: finite, infinite or no number at all. -/
inductive Binary64 where
  /-- The number `significand * 2 ^ exponent`, with its sign. -/
  | finite (negative : Bool) (significand : Nat) (exponent : Int)
  | infinite (negative : Bool)
  | undefined
deriving DecidableEq, Repr, Inhabited

namespace Binary64

/-- The fraction divided by a power of two, as numerator and denominator. -/
def shifted (numerator denominator : Nat) : Int → Nat × Nat
  | .ofNat power => (numerator, denominator * Nat.pow 2 power)
  | .negSucc power => (numerator * Nat.pow 2 (power + 1), denominator)

/-- The power of two by which a fraction is divided before it is rounded: the quotient then has 53
binary digits, or fewer at the least power. -/
def exponentFor (numerator denominator : Nat) : Int :=
  let guess : Int := (numerator.log2 : Int) - (denominator.log2 : Int) - 53
  let (top, bottom) := shifted numerator denominator guess
  max (-1074) (if bottom * Nat.pow 2 53 ≤ top then guess + 1 else guess)

/-- The number nearest to a fraction with a positive denominator. -/
def ofRatio (negative : Bool) (numerator denominator : Nat) : Binary64 :=
  if numerator = 0 then .finite negative 0 0
  else
    let exponent := exponentFor numerator denominator
    let (top, bottom) := shifted numerator denominator exponent
    let significand := roundHalfEven top bottom
    if 971 < exponent ∨ (exponent = 971 ∧ Nat.pow 2 53 ≤ significand) then .infinite negative
    else .finite negative significand exponent

/-- The whole number, rounded to 53 binary digits. -/
def ofInt (value : Int) : Binary64 :=
  ofRatio (value < 0) value.natAbs 1

/-- The number nearest to `digits * 10 ^ power`. Powers beyond 400 digits on either side are decided
without writing the numeral out. -/
def ofDecimal (negative : Bool) (digits : Nat) (power : Int) : Binary64 :=
  if digits = 0 then .finite negative 0 0
  else
    let length : Int := (digits.log2 : Int) * 3 / 10
    if 400 < length + power then .infinite negative
    else if length + power < -400 then .finite negative 0 0
    else match power with
      | .ofNat power => ofRatio negative (digits * Nat.pow 10 power) 1
      | .negSucc power => ofRatio negative digits (Nat.pow 10 (power + 1))

/-- The magnitude of a finite number as a fraction. -/
def magnitude (significand : Nat) : Int → Nat × Nat
  | .ofNat power => (significand * Nat.pow 2 power, 1)
  | .negSucc power => (significand, Nat.pow 2 (power + 1))

/-- The product with a natural number. -/
def times (factor : Nat) : Binary64 → Binary64
  | .finite negative significand exponent =>
    let (top, bottom) := magnitude significand exponent
    ofRatio negative (top * factor) bottom
  | other => other

/-- The whole part of a finite number, toward zero. -/
def truncate : Binary64 → Int
  | .finite negative significand exponent =>
    let (top, bottom) := magnitude significand exponent
    if negative then -((top / bottom : Nat) : Int) else ((top / bottom : Nat) : Int)
  | _ => 0

/-- The number is at most a natural number. -/
def isAtMost (limit : Nat) : Binary64 → Bool
  | .finite negative significand exponent =>
    let (top, bottom) := magnitude significand exponent
    negative || decide (top ≤ limit * bottom)
  | .infinite negative => negative
  | .undefined => false

/-- The whole number that a finite number equals, if it equals one. -/
def toInt? : Binary64 → Option Int
  | .finite negative significand exponent =>
    let (top, bottom) := magnitude significand exponent
    if top % bottom = 0 then
      some (if negative then -((top / bottom : Nat) : Int) else ((top / bottom : Nat) : Int))
    else none
  | _ => none

end Binary64

end Roster
