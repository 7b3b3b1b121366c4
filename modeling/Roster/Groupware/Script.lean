/-
**Groupware that follows a script.**

A script is a list of rules. Of each request the first rule that matches and is not used up decides;
a request without such a rule is granted at once. Granted requests are noted as a dry run would note
them.

* `Script.groupware` — the groupware that follows a script.
-/

import Roster.Surroundings

namespace Roster

/-- A rule of a script: which requests it is for, how often it applies, and what it does. -/
structure ScriptRule where
  access : Option Access := none
  team : Option Uuid := none
  user : Option Uuid := none
  times : Option Nat := none
  delay : Except TimeError Span := .ok ⟨0⟩
  stops : Bool := false
  failure : Option Failure := none
deriving Repr, Inhabited

namespace ScriptRule

/-- The rule is for a request and not used up. -/
def applies (rule : ScriptRule) (request : Request) : Bool :=
  rule.access.all (· = request.access) && rule.team.all (· = request.team)
    && rule.user.all (· = request.user) && rule.times.all (0 < ·)

/-- The rule after it has been applied once. -/
def used (rule : ScriptRule) : ScriptRule := { rule with times := rule.times.map (· - 1) }

/-- What the rule does. -/
def reply (rule : ScriptRule) (request : Request) : Reply where
  delay := rule.delay
  stops := rule.stops
  failure := rule.failure
  notices := if rule.failure.isNone then (Groupware.dryRun [] request).notices else []

end ScriptRule

/-- A list of rules. -/
abbrev Script := List ScriptRule

namespace Script

/-- What a script does with a request. -/
def reply (script : Script) (request : Request) : Reply :=
  match script.find? (·.applies request) with
  | some rule => rule.reply request
  | none => Groupware.dryRun [] request

/-- A script after a request: the rule that applied is used once. -/
def after (request : Request) : Script → Script
  | [] => []
  | rule :: rest =>
    if rule.applies request then rule.used :: rest else rule :: after request rest

/-- The groupware that follows a script from a request on, after so many requests that the script
does not count. -/
def groupware (script : Script) (uncounted : Nat) : Groupware := fun history request =>
  reply ((history.drop uncounted).foldl (fun script request => after request script) script) request

end Script

end Roster
