/-
**What members have to agree to.**

Of each document the current version is required: the one with the latest effective time that is not
in the future. Who does not agree to it within the days of grace loses their standing.

* `Requirement.current` — the current versions among the versions of several documents, in the order
  of the documents' names.
* `Requirement.missing` — the requirements that somebody has not agreed to.
* `Requirement.anyExpired` — whether one of them is past its days of grace.
-/

import Roster.Store.Record

namespace Roster

/-- The current version of a required document. -/
structure Requirement where
  version : Uuid
  document : Uuid
  documentName : String
  effectiveFrom : Instant
  graceDays : Int
deriving DecidableEq, Repr, Inhabited

namespace Requirement

/-- The requirement that a version of a document makes. -/
def ofVersion (version : DocumentVersion) (document : LegalDocument) : Requirement where
  version := version.id
  document := document.id
  documentName := document.name
  effectiveFrom := version.effectiveFrom
  graceDays := document.graceDays

/-- The end of the days of grace. -/
def deadline (requirement : Requirement) : Except TimeError Instant := do
  requirement.effectiveFrom.plus (← Span.ofDays requirement.graceDays)

/-- The days of grace are over. -/
def isExpired (requirement : Requirement) (now : Instant) : Except TimeError Bool := do
  return decide ((← requirement.deadline) ≤ now)

/-- Keeps the later version of each document, at the place where the document first came up. -/
def keepLatest (later : Requirement) : List Requirement → List Requirement
  | [] => [later]
  | kept :: rest =>
    if kept.document = later.document then
      (if kept.effectiveFrom < later.effectiveFrom then later else kept) :: rest
    else kept :: keepLatest later rest

/-- Requirements are ordered by the name of the document, then by the version. -/
def comesFirst (a b : Requirement) : Bool :=
  a.documentName < b.documentName || (a.documentName == b.documentName && decide (a.version ≤ b.version))

/-- The latest version of each document that is in force, in order. -/
def current (rows : List (DocumentVersion × LegalDocument)) (now : Instant) : List Requirement :=
  let inForce := rows.filter fun row => row.1.effectiveFrom ≤ now
  let latest := inForce.foldl (fun kept row => keepLatest (ofVersion row.1 row.2) kept) []
  latest.mergeSort comesFirst

/-- The requirements whose versions are not among those agreed to. -/
def missing (required : List Requirement) (consented : List Uuid) : List Requirement :=
  required.filter fun requirement => !consented.contains requirement.version

/-- Whether the days of grace of some requirement are over; the first that is settles it. -/
def anyExpired (now : Instant) : List Requirement → Except TimeError Bool
  | [] => return false
  | requirement :: rest => do
    if ← requirement.isExpired now then return true else anyExpired now rest

/-- Whether some requirement that is not agreed to is past its days of grace. -/
def hasExpired (required : List Requirement) (consented : List Uuid) (now : Instant) :
    Except TimeError Bool :=
  anyExpired now (missing required consented)

end Requirement

end Roster
