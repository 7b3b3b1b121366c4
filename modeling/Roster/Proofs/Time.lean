/-
**Times and spans within their ranges.**

A clock shows the years 1 to 9999, and a span has at most nine digits of days. What leads out of these ranges
is refused, and what stays within them is added up exactly.

* `Span.ofDays_of_short`, `Span.ofDays_of_long` — which numbers of days are spans.
* `Span.ofSeconds_of_short`, `Span.ofSeconds_of_long` — which numbers of seconds are.
* `Instant.ofMicros_eq_error_iff`, `Instant.exists_plus_iff` — when a time cannot be told, and when it can.
-/

import Roster.Time.Instant

namespace Roster

/-! ### Spans -/

namespace Span

theorem ofDays_of_short {days : Int} (short : days.natAbs ≤ maxDays) :
    ofDays days = .ok ⟨days * day⟩ := by
  unfold ofDays ofMicros
  rw [Int.mul_fdiv_cancel _ (by decide)]
  exact if_pos (by omega)

theorem ofDays_of_long {days : Int} (long : maxDays < days.natAbs) :
    ofDays days = .error (.tooManyDays days) := by
  unfold ofDays ofMicros
  rw [Int.mul_fdiv_cancel _ (by decide)]
  exact if_neg (by omega)

/-- The number of seconds in a day. -/
def secondsADay : Int := 86400

theorem fdiv_day_of_seconds (seconds : Int) :
    (seconds * second).fdiv day = seconds.fdiv secondsADay := by
  have split : ((day : Nat) : Int) = secondsADay * second := by decide
  rw [split, Int.fdiv_eq_ediv_of_nonneg _ (by decide), Int.fdiv_eq_ediv_of_nonneg _ (by decide),
    Int.mul_ediv_mul_of_pos_left _ _ (by decide)]

theorem ofSeconds_of_short {seconds : Int} (positive : 0 ≤ seconds)
    (short : seconds.fdiv secondsADay ≤ maxDays) : ofSeconds seconds = .ok ⟨seconds * second⟩ := by
  have least : -maxDays ≤ seconds.fdiv secondsADay :=
    Int.le_trans (by decide) (Int.fdiv_nonneg positive (by decide))
  unfold ofSeconds ofMicros
  rw [fdiv_day_of_seconds]
  exact if_pos ⟨least, short⟩

theorem ofSeconds_of_long {seconds : Int} (long : maxDays < seconds.fdiv secondsADay) :
    ofSeconds seconds = .error (.tooManyDays (seconds.fdiv secondsADay)) := by
  unfold ofSeconds ofMicros
  rw [fdiv_day_of_seconds]
  exact if_neg (by omega)

end Span

/-! ### Instants -/

namespace Instant

theorem le_iff {a b : Instant} : a ≤ b ↔ a.micros ≤ b.micros := Iff.rfl

theorem lt_iff {a b : Instant} : a < b ↔ a.micros < b.micros := Iff.rfl

theorem not_lt {a b : Instant} : ¬ a < b ↔ b ≤ a := Int.not_lt

/-- The calendar goes on a microsecond after its first instant. -/
theorem inRange_one : 0 ≤ (1 : Int) + (⟨0⟩ : Span).micros ∧ (1 : Int) + (⟨0⟩ : Span).micros < limit := by
  decide

theorem ofMicros_eq_error_iff {micros : Int} {offset : Span} {error : TimeError} :
    ofMicros micros offset = .error error ↔
      (micros + offset.micros < 0 ∨ limit ≤ micros + offset.micros) ∧ error = .outOfRange := by
  unfold ofMicros
  by_cases inside : 0 ≤ micros + offset.micros ∧ micros + offset.micros < limit
  · rw [dif_pos inside]
    exact iff_of_false nofun fun outside => by omega
  · rw [dif_neg inside]
    have outside : micros + offset.micros < 0 ∨ limit ≤ micros + offset.micros := by omega
    simp [outside, eq_comm]

theorem micros_of_ofMicros {micros : Int} {offset : Span} {instant : Instant}
    (made : ofMicros micros offset = .ok instant) : instant.micros = micros := by
  unfold ofMicros at made
  split at made
  · cases made
    rfl
  · cases made

/-- **A time can be moved by a span** if the clock that shows it stays in range. -/
theorem exists_plus_iff {start : Instant} {span : Span} :
    (∃ next, start.plus span = .ok next) ↔
      0 ≤ start.micros + span.micros + start.offset.micros
        ∧ start.micros + span.micros + start.offset.micros < limit := by
  unfold plus ofMicros
  split
  · exact iff_of_true ⟨_, rfl⟩ ‹_›
  · exact iff_of_false (by rintro ⟨_, ⟨⟩⟩) ‹_›

end Instant

end Roster
