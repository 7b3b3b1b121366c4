/-
**The standing of a member.**

The standing follows from four facts at one instant, and the first rule that applies decides: without
a profile it is `none`, with a suspended one `suspended`, with an unapproved one `pending`; without a
role in force it is `none`; with a required version not agreed to in time it is `inactive`; otherwise
it is `active`.

* `Window.covers` — whether a role is in force.
* `Standing.ofFacts` — the rules.
-/

import Roster.Requirement

namespace Roster

/-- The standing of a member. -/
inductive Standing where
  | none
  | pending
  | active
  | inactive
  | suspended
deriving DecidableEq, Repr, Inhabited

/-- The word that reports show. -/
def Standing.label : Standing → String
  | .none => "none"
  | .pending => "pending"
  | .active => "active"
  | .inactive => "inactive"
  | .suspended => "suspended"

/-- A stretch of time, with its beginning and without its end. -/
structure Window where
  start : Instant
  finish : Option Instant
deriving DecidableEq, Repr, Inhabited

/-- The instant lies in the stretch. -/
def Window.covers (window : Window) (now : Instant) : Bool :=
  window.start ≤ now && window.finish.all (now < ·)

/-- The time for which a role is given. -/
def RoleGrant.window (grant : RoleGrant) : Window := ⟨grant.validFrom, grant.validTo⟩

/-- The role is in force. -/
def RoleGrant.isActive (grant : RoleGrant) (now : Instant) : Bool := grant.window.covers now

/-- The two facts that a profile decides by. -/
structure ProfileFlags where
  isApproved : Bool
  isSuspended : Bool
deriving DecidableEq, Repr, Inhabited

/-- The facts of a profile. -/
def Profile.flags (profile : Profile) : ProfileFlags := ⟨profile.isApproved, profile.isSuspended⟩

/-- The standing that follows from the facts. -/
def Standing.ofFacts (profile : Option ProfileFlags) (roles : List Window)
    (required : List Requirement) (consented : List Uuid) (now : Instant) :
    Except TimeError Standing :=
  match profile with
  | Option.none => return .none
  | some flags =>
    if flags.isSuspended then return .suspended
    else if !flags.isApproved then return .pending
    else if !(roles.any (·.covers now)) then return .none
    else do
      if ← Requirement.hasExpired required consented now then return .inactive else return .active

end Roster
