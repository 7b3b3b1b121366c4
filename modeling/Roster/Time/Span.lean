/-
**Lengths of time.**

A span counts microseconds and may be negative. Spans are bounded: the number of whole days, rounded
down, has at most nine digits.

* `Span.ofDays`, `Span.ofMicros` — the spans within the bounds, or why there is none.
* `Span.text` — days, then hours, minutes and seconds.
* `Span.wholeMillis`, `Span.wholeSeconds` — whole units, through the nearest 64-bit number of seconds.
* `Span.uptime` — hours, minutes and seconds, the greater ones only if there are any.
-/

import Roster.Number.Binary64
import Roster.Number.Padded

namespace Roster

/-- What goes wrong when a time or a span leaves its range. -/
inductive TimeError where
  /-- A time falls outside the years 1 to 9999. -/
  | outOfRange
  /-- A span has more than nine digits of days. -/
  | tooManyDays (days : Int)
  /-- A span is measured by an infinite number. -/
  | infinite
  /-- A span is measured by what is no number. -/
  | undefined
deriving DecidableEq, Repr, Inhabited

namespace TimeError

/-- The wording of a time error. A count of days beyond 32 bits has a wording of its own. -/
def message : TimeError → String
  | .outOfRange => "date value out of range"
  | .tooManyDays days =>
    if -(Nat.pow 2 31 : Int) ≤ days ∧ days < Nat.pow 2 31 then
      "days=" ++ toString days ++ "; must have magnitude <= 999999999"
    else "Python int too large to convert to C int"
  | .infinite => "cannot convert float infinity to integer"
  | .undefined => "cannot convert float NaN to integer"

end TimeError

/-- A length of time in microseconds. -/
structure Span where
  micros : Int
deriving DecidableEq, Repr, Inhabited

namespace Span

/-- The number of microseconds in a second. -/
def second : Nat := 1000000

/-- The number of microseconds in a day. -/
def day : Nat := 86400 * second

/-- The greatest number of whole days in a span. -/
def maxDays : Int := 999999999

/-- The span of so many microseconds, if its days are within the bounds. -/
def ofMicros (micros : Int) : Except TimeError Span :=
  let days := micros.fdiv day
  if -maxDays ≤ days ∧ days ≤ maxDays then .ok ⟨micros⟩ else .error (.tooManyDays days)

/-- The span of so many days, if they are within the bounds. -/
def ofDays (days : Int) : Except TimeError Span :=
  ofMicros (days * day)

/-- The span of so many units of some microseconds each. The whole units count exactly; the product of a
unit with the part behind the point is rounded to a number of 64 bits and then to whole microseconds. -/
def ofUnits (unit : Nat) : Binary64 → Except TimeError Span
  | .finite negative significand exponent =>
    let (top, bottom) := Binary64.magnitude significand exponent
    let part := match Binary64.ofRatio false (top % bottom * unit) bottom with
      | .finite _ significand exponent =>
        let (top, bottom) := Binary64.magnitude significand exponent
        roundHalfEven top bottom
      | _ => 0
    let micros := top / bottom * unit + part
    ofMicros (if negative then -(micros : Int) else micros)
  | .infinite _ => .error .infinite
  | .undefined => .error .undefined

/-- The span of so many seconds, if its days are within the bounds. -/
def ofSeconds (seconds : Int) : Except TimeError Span :=
  ofMicros (seconds * second)

/-- The number of seconds as a number of 64 bits. -/
def seconds (span : Span) : Binary64 :=
  .ofRatio (span.micros < 0) span.micros.natAbs second

/-- The whole seconds of a span, toward zero. -/
def wholeSeconds (span : Span) : Int :=
  span.seconds.truncate

/-- The whole milliseconds of a span, toward zero; the number of seconds is rounded before it is
multiplied. -/
def wholeMillis (span : Span) : Int :=
  (span.seconds.times 1000).truncate

/-- The exact whole milliseconds of a span, rounded down. -/
def millis (span : Span) : Int := span.micros.fdiv 1000

/-- Days if there are any, then hours, minutes and seconds, then microseconds if there are any. The
days are rounded down, so the rest is never negative. -/
def text (span : Span) : String :=
  let days := span.micros.fdiv day
  let rest := (span.micros.fmod day).toNat
  let seconds := rest / second
  let micros := rest % second
  let clock := toString (seconds / 3600) ++ ":" ++ padded 2 (seconds / 60 % 60) ++ ":"
    ++ padded 2 (seconds % 60) ++ (if micros = 0 then "" else "." ++ padded 6 micros)
  if days = 0 then clock
  else toString days ++ (if days.natAbs = 1 then " day, " else " days, ") ++ clock

/-- Hours, minutes and seconds, the greater ones only if there are any. -/
def uptime (span : Span) : String :=
  let total := span.wholeSeconds
  let hours := total.fdiv 3600
  let minutes := (total.fmod 3600).fdiv 60
  let seconds := toString ((total.fmod 3600).fmod 60) ++ "s"
  if 0 < hours then toString hours ++ "h " ++ toString minutes ++ "m " ++ seconds
  else if 0 < minutes then toString minutes ++ "m " ++ seconds
  else seconds

end Span

end Roster
