/-
**What can go wrong.**

A failure is a cause: what a collaborator reported, a rule of the store that a statement breaks, a
time out of range, or a request that makes no sense. Its wording is a function of the cause.

* `ReportedKind` — how a failure from outside is dealt with; the class behind it has any name but the empty one.
* `Failure.message` — the wording; it may be empty.
* `Failure.name` — the name of the class, which stands in for an empty wording; `Failure.name_ne_empty` says
  that **it never is empty itself**.
* `Failure.isInterrupt` — the one kind that no job may absorb.
-/

import Roster.Store.Record
import Roster.Value.Basic

namespace Roster

/-- The name of a class of failures. No class is without one. -/
structure FailureName where
  text : String
  nonempty : text ≠ "" := by decide
deriving DecidableEq, Repr

instance : Inhabited FailureName := ⟨{ text := "Exception" }⟩

/-- The general name of a failure of the database. -/
def FailureName.database : FailureName := { text := "SQLAlchemyError" }

/-- The kinds of failure that a collaborator can report. They are dealt with alike within a kind, whatever
the class is called. -/
inductive ReportedKind where
  /-- A failure of neither of the other kinds. -/
  | ordinary (name : FailureName)
  /-- The database failed, but no rule of the store was broken. -/
  | database (name : FailureName)
  /-- The request to stop at once. -/
  | interrupt
deriving DecidableEq, Repr, Inhabited

namespace ReportedKind

/-- The name of the class of a reported failure. -/
def name : ReportedKind → String
  | ordinary name => name.text
  | database name => name.text
  | interrupt => "KeyboardInterrupt"

theorem name_ne_empty (kind : ReportedKind) : kind.name ≠ "" := by
  cases kind with
  | ordinary name => exact name.nonempty
  | database name => exact name.nonempty
  | interrupt => decide

end ReportedKind

/-- What can go wrong. -/
inductive Failure where
  /-- A collaborator or the database reported a failure, perhaps in no words. -/
  | reported (kind : ReportedKind) (wording : String)
  /-- A statement would break a rule of the store. -/
  | constraint
  /-- Several rows answer a question that has at most one answer. -/
  | severalRows
  /-- An earlier failure spoiled the transaction. -/
  | spoiled (cause : String)
  /-- A time or a span leaves its range. -/
  | time (error : TimeError)
  /-- An event asks for something that cannot be relayed. -/
  | unknownEventKind (label : Value)
  /-- An event could not be put into the outbox. -/
  | notEnqueued (cause : String)
  /-- A version is agreed to only once. -/
  | alreadyConsented (user version : Uuid)
  /-- Teams of this kind have no rule for their members. -/
  | noRule (kind : TeamKind)
  /-- There is no job of this name. -/
  | unknownJob (name : String)
  /-- The result of a job has no fields. -/
  | noFields (result : Value)
  /-- The text of a setting is no data value. -/
  | unreadableSetting (field : String)
  /-- Something is to be entered with a user who has no entry. -/
  | noEntry (user : Uuid)
deriving Repr, Inhabited, BEq

namespace Failure

/-- The wording of a failure. -/
def message : Failure → String
  | .reported _ wording => wording
  | .constraint => "a rule of the store is broken"
  | .severalRows => "Multiple rows were found when one or none was required"
  | .spoiled cause =>
    "This Session's transaction has been rolled back due to a previous exception during flush. To begin"
      ++ " a new transaction with this Session, first issue Session.rollback(). Original exception was: "
      ++ cause ++ " (Background on this error at: https://sqlalche.me/e/21/7s2a)"
  | .time error => error.message
  | .unknownEventKind label => "Unknown outbox event type: " ++ label.line
  | .notEnqueued cause => "Failed to enqueue outbox event: " ++ cause
  | .alreadyConsented user version =>
    "User " ++ user.text ++ " already has a consent record for version " ++ version.text
  | .noRule kind => "No eligibility rule for team kind " ++ kind.label
  | .unknownJob name => Text.Quoted.encode name
  | .noFields result => "\x27" ++ result.kindName ++ "\x27 object has no attribute \x27get\x27"
  | .unreadableSetting field =>
    "error parsing value for field \"" ++ field ++ "\" from source \"EnvSettingsSource\""
  | .noEntry user => "UUID(" ++ Text.Quoted.encode user.text ++ ")"

/-- The name of the class of a failure. -/
def name : Failure → String
  | .reported kind _ => kind.name
  | .constraint => "IntegrityError"
  | .severalRows => "MultipleResultsFound"
  | .spoiled _ => "PendingRollbackError"
  | .time .undefined => "ValueError"
  | .time _ => "OverflowError"
  | .unknownEventKind _ => "UnknownOutboxEventTypeError"
  | .notEnqueued _ => "OutboxError"
  | .alreadyConsented _ _ => "ConsentAlreadyRecordedError"
  | .noRule _ => "ValueError"
  | .unknownJob _ => "KeyError"
  | .noFields _ => "AttributeError"
  | .unreadableSetting _ => "SettingsError"
  | .noEntry _ => "KeyError"

theorem name_ne_empty (failure : Failure) : failure.name ≠ "" := by
  cases failure with
  | reported kind wording => exact kind.name_ne_empty
  | time error => cases error <;> simp [name]
  | _ => simp [name]

/-- The request to stop at once, which passes through every job. -/
def isInterrupt : Failure → Bool
  | .reported .interrupt _ => true
  | _ => false

/-- The failure comes from the database. -/
def isDatabase : Failure → Bool
  | .reported (.database _) _ | .constraint | .severalRows | .spoiled _ => true
  | _ => false

end Failure

end Roster
