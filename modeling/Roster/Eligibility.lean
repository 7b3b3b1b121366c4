/-
**Who belongs to a derived team.**

Three teams get their members by a rule: the volunteers are those with an approved profile that is
not suspended who agreed to everything required of everybody; the metaleads lead some ordinary team;
the board holds a board role that is in force.

* `Eligibility.builtIn?` — the rule of a kind of team.
-/

import Roster.Standing.Loader

namespace Roster

/-- A rule that says who belongs to a team at an instant. -/
abbrev Eligibility := Instant → Transaction (List Uuid)

namespace Eligibility

/-- The name of the role that makes a board member. -/
def boardRole : String := "Board"

/-- The users with an approved profile that is not suspended. -/
def candidatesIn (store : Store) : List Uuid :=
  distinct ((store.profiles.filter fun profile => profile.isApproved ∧ !profile.isSuspended).map
    Profile.user)

/-- The users who lead some team that has no rule. -/
def metaleadsIn (store : Store) : List Uuid :=
  distinct ((store.members.filter fun stay => stay.isOpen ∧ stay.role = .metalead
    ∧ store.teams.any fun team => team.id = stay.team ∧ team.kind = .none).map TeamMember.user)

/-- The users with a board role in force. -/
def boardIn (now : Instant) (store : Store) : List Uuid :=
  distinct ((store.grants.filter fun grant => grant.roleName = boardRole ∧ grant.isActive now).map
    RoleGrant.user)

/-- The volunteers: accepted members who agreed to everything required of everybody. -/
def volunteers : Eligibility := fun now => do
  let candidates ← Transaction.read candidatesIn
  Standing.withAllConsents candidates now none

/-- The metaleads: whoever leads an ordinary team. -/
def metaleads : Eligibility := fun _ => Transaction.read metaleadsIn

/-- The board: whoever holds a board role in force. -/
def board : Eligibility := fun now => Transaction.read (boardIn now)

/-- The rule of a kind of team; a team without a kind has none. -/
def builtIn? : TeamKind → Option Eligibility
  | .none => Option.none
  | .volunteers => some volunteers
  | .metaleads => some metaleads
  | .board => some board

end Eligibility

end Roster
