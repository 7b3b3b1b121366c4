/-
**Reading times.**

A written time is a date, any one character, a time of day and an offset. The date has the form of
`2026-03-01`, or of `2026-W09-7` with a week and perhaps a day of it; the time of day has hours, and perhaps
minutes, seconds and a fraction; the offset is `Z` or a sign with a time of day. The dashes of a date
and the colons of a time of day may be left out together. Only after the whole text is found to have such a
form are its numbers checked.

* `Instant.Written` — the numbers in a text of such a form, and `Instant.written?` takes a text apart.
* `Instant.read` — the instant of a written time, or why it is none.
-/

import Roster.Text.Quoted
import Roster.Time.Instant

namespace Roster.Instant

/-- Why a text is no time. -/
inductive ReadError where
  /-- The text has no such form. -/
  | form (text : String)
  /-- The offset is a day or more. -/
  | offset (offset : Span)
  | year (year : Nat)
  | month
  | day
  | hour
  | minute
  | second
deriving DecidableEq, Repr, Inhabited

/-- The days, seconds and microseconds of a span, which are named if they are not zero. -/
def spanParts (span : Span) : String :=
  let days := span.micros.fdiv Span.day
  let rest := (span.micros.fmod Span.day).toNat
  let part (name : String) (value : Int) : List String :=
    if value = 0 then [] else [name ++ "=" ++ toString value]
  ", ".intercalate (part "days" days ++ part "seconds" (rest / Span.second : Nat)
    ++ part "microseconds" (rest % Span.second : Nat))

/-- The wording of a reading error. -/
def ReadError.message : ReadError → String
  | .form text => "Invalid isoformat string: " ++ Text.Quoted.encode text
  | .offset span =>
    "offset must be a timedelta strictly between -timedelta(hours=24) and timedelta(hours=24), not "
      ++ "datetime.timedelta(" ++ spanParts span ++ ")."
  | .year number => "year " ++ toString number ++ " is out of range"
  | .month => "month must be in 1..12"
  | .day => "day is out of range for month"
  | .hour => "hour must be in 0..23"
  | .minute => "minute must be in 0..59"
  | .second => "second must be in 0..59"

/-- The natural number written by a fixed count of decimal digits, with what follows them. -/
def digits? : (count : Nat) → (total : Nat) → List Char → Option (Nat × List Char)
  | 0, total, rest => some (total, rest)
  | count + 1, total, c :: rest =>
    if c.isDigit then digits? count (total * 10 + (c.toNat - 0x30)) rest else none
  | _ + 1, _, [] => none

/-! ### Dates -/

/-- A date as it is written. -/
structure WrittenDate where
  year : Nat
  month : Nat
  day : Nat
deriving DecidableEq, Repr, Inhabited

/-- How many characters the date takes at the start of a text. Whether the last digit behind a week is the
day of that week or belongs to the time of day follows from what comes after it. -/
def dateWidth (text : List Char) : Nat :=
  if text.length = 7 then 7
  else match text.drop 4 with
    | '-' :: 'W' :: _ => if text[8]? = some '-' ∧ !text[10]?.any Char.isDigit then 10 else 8
    | '-' :: _ => 10
    | 'W' :: _ =>
      let place := 7 + ((text.drop 7).takeWhile Char.isDigit).length
      if place < 9 then place else if place % 2 = 0 then 7 else 8
    | _ => 8

/-- What follows a dash, if there has to be one. -/
def pastDash? (dashed : Bool) (text : List Char) : Option (List Char) :=
  if !dashed then some text
  else match text with
    | '-' :: rest => some rest
    | _ => none

/-- The date of a day of a numbered week. The first week of a year has its first Thursday; a year has 53
weeks if it begins with a Thursday, or with a Wednesday and has 366 days. The weeks of the year 0 belong to
no month. -/
def ofWeek? (year week day : Nat) : Option WrittenDate :=
  let start := Calendar.daysBeforeYear year
  let weekday := start % 7
  let isLong := year ≠ 0 ∧ (weekday = 3 ∨ (weekday = 2 ∧ Calendar.isLeap year))
  if 1 ≤ week ∧ week ≤ (if isLong then 53 else 52) ∧ 1 ≤ day ∧ day ≤ 7 then
    if year = 0 then some ⟨1, 0, day⟩
    else
      let monday := if weekday ≤ 3 then start - weekday else start + 7 - weekday
      let (year, month, day) := Calendar.dateOf (monday + (week - 1) * 7 + (day - 1))
      some ⟨year, month, day⟩
  else none

/-- The date that takes so many characters at the start of a text. Without its day a week stands for its
first day. -/
def date? (width : Nat) (text : List Char) : Option WrittenDate := do
  let (year, rest) ← digits? 4 0 text
  let dashed := rest.head? = some '-'
  match ← pastDash? dashed rest with
  | 'W' :: rest =>
    let (week, rest) ← digits? 2 0 rest
    if text.length - rest.length < width then
      let (day, _) ← digits? 1 0 (← pastDash? dashed rest)
      ofWeek? year week day
    else ofWeek? year week 1
  | rest =>
    let (month, rest) ← digits? 2 0 rest
    let (day, _) ← digits? 2 0 (← pastDash? dashed rest)
    some ⟨year, month, day⟩

/-! ### Times of day -/

/-- The character that stands for the end of a text. -/
def ending : Char := '\x00'

/-- The numbers of a time of day as far as they are written, and the character where they end. -/
structure WrittenClock where
  pairs : List Nat := []
  micros : Nat := 0
  last : Char := ending
deriving DecidableEq, Repr, Inhabited

namespace WrittenClock

/-- One of the numbers, which is 0 if it is not written. -/
def number (clock : WrittenClock) (place : Nat) : Nat := clock.pairs[place]?.getD 0

/-- The seconds from the start of the day. -/
def seconds (clock : WrittenClock) : Nat :=
  (clock.number 0 * 60 + clock.number 1) * 60 + clock.number 2

/-- The microseconds from the start of the day. -/
def span (clock : WrittenClock) : Nat := clock.seconds * Span.second + clock.micros

/-- A fraction of a second in a text with a follower: up to six digits count, further ones are dropped,
and only six may stand before anything else. -/
def fraction? (follower : Char) (text : List Char) : Option WrittenClock := do
  let count := min 6 text.length
  let (number, rest) ← digits? count 0 text
  some { micros := number * Nat.pow 10 (6 - count), last := (rest.dropWhile Char.isDigit).headD follower }

/-- So many pairs of digits in a text with a follower, with colons between them or not, and perhaps a
fraction. Any one character may stand last. -/
def pairs? (follower : Char) (colons : Bool) : (count : Nat) → List Char → Option WrittenClock
  | 0, text => fraction? follower text
  | count + 1, text => do
    let (pair, rest) ← digits? 2 0 text
    let clock ← match rest with
      | [] => some { last := follower }
      | [c] => some { last := c }
      | c :: more =>
        if colons ∧ c = ':' then pairs? follower colons count more
        else if c = '.' ∨ c = ',' then fraction? follower more
        else if colons then none
        else pairs? follower colons count (c :: more)
    some { clock with pairs := pair :: clock.pairs }

/-- The time of day in a text with a follower. The character behind the hours says whether there are
colons. -/
def read? (follower : Char) (text : List Char) : Option WrittenClock :=
  pairs? follower (text[2]? = some ':') 3 text

end WrittenClock

/-- The character begins an offset. -/
def startsOffset (c : Char) : Bool := c = '+' || c = '-' || c = 'Z'

/-- A time of day, and the offset behind it. An offset of less than a second is none. -/
def clockWithOffset? (text : List Char) : Option (WrittenClock × Span) := do
  let clockText := text.takeWhile (!startsOffset ·)
  match text.dropWhile (!startsOffset ·) with
  | [] =>
    let clock ← WrittenClock.read? ending clockText
    guard (clock.last = ending)
    some (clock, ⟨0⟩)
  | sign :: rest =>
    let clock ← WrittenClock.read? sign clockText
    if sign = 'Z' then
      guard (rest.headD ending = ending)
      some (clock, ⟨0⟩)
    else
      let offset ← WrittenClock.read? ending rest
      guard (offset.last = ending)
      some (clock, ⟨if offset.seconds = 0 then 0
        else if sign = '-' then -(offset.span : Int) else offset.span⟩)

/-! ### Times -/

/-- The numbers of a written time. -/
structure Written where
  date : WrittenDate
  clock : WrittenClock := {}
  offset : Span := ⟨0⟩
deriving DecidableEq, Repr, Inhabited

/-- The characters of a text, each as often as it has bytes: the width of a date is counted in bytes. -/
def bytewise (text : String) : List Char :=
  text.toList.flatMap fun c => List.replicate c.utf8Size c

/-- The numbers of a text that has the form of a time. -/
def written? (text : String) : Option Written := do
  let characters := bytewise text
  guard (7 ≤ characters.length)
  let width := dateWidth characters
  let date ← date? width characters
  match characters.drop width with
  | [] => some { date }
  | separator :: rest =>
    let (clock, offset) ← clockWithOffset? (rest.drop (separator.utf8Size - 1))
    some { date, clock, offset }

/-- The instant of a written time, whose numbers have to be in range. -/
def ofWritten (written : Written) : Except ReadError Instant := do
  let ⟨⟨year, month, day⟩, clock, ahead⟩ := written
  if Span.day ≤ ahead.micros.natAbs then throw (.offset ahead)
  if year < 1 ∨ 9999 < year then throw (.year year)
  if month < 1 ∨ 12 < month then throw .month
  if !Calendar.isDate year month day then throw .day
  if 24 ≤ clock.number 0 then throw .hour
  if 60 ≤ clock.number 1 then throw .minute
  if 60 ≤ clock.number 2 then throw .second
  let shown : Nat := Calendar.dayNumber year month day * Span.day + clock.span
  match ofMicros (shown - ahead.micros) ahead with
  | .ok instant => return instant
  | .error _ => throw (.year year)

/-- The instant of a written time. Without an offset it is in universal time. -/
def read (text : String) : Except ReadError Instant :=
  match written? text with
  | some written => ofWritten written
  | none => .error (.form text)

end Roster.Instant
