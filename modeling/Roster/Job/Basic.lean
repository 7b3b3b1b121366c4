/-
**The jobs.**

Three jobs run again and again: events are relayed to the groupware, the derived teams are brought
up to date, and members whose consents have lapsed are reported.

* `Job` — the jobs, with the names under which they are switched on.
-/

namespace Roster

/-- A job that runs again and again. -/
inductive Job where
  | processOutbox
  | systemTeamSync
  | complianceCheck
deriving DecidableEq, Repr, Inhabited

namespace Job

/-- The name of a job. -/
def label : Job → String
  | processOutbox => "process_outbox"
  | systemTeamSync => "system_team_sync"
  | complianceCheck => "compliance_check"

/-- All jobs, in the order of their schedules. -/
def all : List Job := [.processOutbox, .systemTeamSync, .complianceCheck]

/-- The job of a name. -/
def ofName? (name : String) : Option Job := all.find? (·.label = name)

end Job

end Roster
