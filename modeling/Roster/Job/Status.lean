/-
**How a run of a job ended.**

* `RunStatus` — succeeded, cancelled or failed, with the word that reports show.
-/

namespace Roster

/-- How a run of a job ended. -/
inductive RunStatus where
  | succeeded
  | cancelled
  | failed
deriving DecidableEq, Repr, Inhabited

/-- The word that reports show. -/
def RunStatus.label : RunStatus → String
  | .succeeded => "succeeded"
  | .cancelled => "cancelled"
  | .failed => "failed"

/-- All ways in which a run can end. -/
def RunStatus.all : List RunStatus := [.succeeded, .cancelled, .failed]

end Roster
