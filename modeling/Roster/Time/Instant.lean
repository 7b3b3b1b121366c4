/-
**Points in time.**

An instant is shown with a date and a time of day from the start of the year 1 to the end of the year
9999, and with the offset of its clock from universal time. Instants are ordered by universal time,
which may itself lie a little outside those years.

* `Instant.plus` — an instant moved by a span, unless its clock leaves the range.
* `Instant.inUniversalTime` — the same instant as a clock without an offset shows it.
* `Instant.text`, `Instant.universalText` — date and time of day by the own clock and in universal time.
-/

import Roster.Time.Calendar
import Roster.Time.Span

namespace Roster

/-- The number of microseconds from the year 1 to the end of the year 9999. -/
def Instant.limit : Nat := Calendar.dayCount * Span.day

/-- A point in time: the microseconds in universal time from the start of the year 1, and how far the
clock that shows it is ahead. -/
structure Instant where
  micros : Int
  offset : Span := ⟨0⟩
  inRange : 0 ≤ micros + offset.micros ∧ micros + offset.micros < Instant.limit
deriving DecidableEq

namespace Instant

instance : Inhabited Instant := ⟨⟨0, ⟨0⟩, by decide⟩⟩

/-- Instants are ordered in time. -/
instance : LE Instant := ⟨fun a b => a.micros ≤ b.micros⟩

instance : LT Instant := ⟨fun a b => a.micros < b.micros⟩

instance (a b : Instant) : Decidable (a ≤ b) := inferInstanceAs (Decidable (a.micros ≤ b.micros))

instance (a b : Instant) : Decidable (a < b) := inferInstanceAs (Decidable (a.micros < b.micros))

/-- The instant of so many microseconds in universal time, on a clock that is ahead by an offset, if
that clock stays in range. -/
def ofMicros (micros : Int) (offset : Span := ⟨0⟩) : Except TimeError Instant :=
  if valid : 0 ≤ micros + offset.micros ∧ micros + offset.micros < limit then
    .ok ⟨micros, offset, valid⟩
  else .error .outOfRange

/-- An instant moved by a span, if its clock stays in range. -/
def plus (start : Instant) (span : Span) : Except TimeError Instant :=
  ofMicros (start.micros + span.micros) start.offset

/-- The span from an earlier instant to a later one. -/
def since (finish start : Instant) : Span :=
  ⟨finish.micros - start.micros⟩

/-- The same instant on a clock that is ahead by an offset, if that clock stays in range. -/
def shownAt (offset : Span) (instant : Instant) : Except TimeError Instant :=
  ofMicros instant.micros offset

/-- The same instant on a clock without an offset, if that clock stays in range. -/
def inUniversalTime (instant : Instant) : Except TimeError Instant := instant.shownAt ⟨0⟩

/-- Date and time of day for so many microseconds from the start of the year 1, with six digits of
fraction unless it is zero. -/
def clockText (micros : Nat) : String :=
  let (year, month, day) := Calendar.dateOf (micros / Span.day)
  let rest := micros % Span.day
  let seconds := rest / Span.second
  let fraction := rest % Span.second
  padded 4 year ++ "-" ++ padded 2 month ++ "-" ++ padded 2 day ++ "T"
    ++ padded 2 (seconds / 3600) ++ ":" ++ padded 2 (seconds / 60 % 60) ++ ":"
    ++ padded 2 (seconds % 60) ++ (if fraction = 0 then "" else "." ++ padded 6 fraction)

/-- An offset: sign, hours and minutes, then seconds and a fraction if there are any. -/
def offsetText (offset : Span) : String :=
  let rest := offset.micros.natAbs
  let seconds := rest / Span.second
  let fraction := rest % Span.second
  (if offset.micros < 0 then "-" else "+") ++ padded 2 (seconds / 3600) ++ ":"
    ++ padded 2 (seconds / 60 % 60)
    ++ (if rest % (60 * Span.second) = 0 then "" else ":" ++ padded 2 (seconds % 60))
    ++ (if fraction = 0 then "" else "." ++ padded 6 fraction)

/-- Date and time of day by the own clock, with its offset. -/
def text (instant : Instant) : String :=
  clockText (instant.micros + instant.offset.micros).toNat ++ offsetText instant.offset

/-- Date and time of day in universal time. A time before the year 1 is shown as its start. -/
def universalText (instant : Instant) : String :=
  clockText instant.micros.toNat ++ offsetText ⟨0⟩

instance : ToString Instant := ⟨text⟩

instance : Repr Instant := ⟨fun instant _ => instant.text⟩

end Instant

end Roster
