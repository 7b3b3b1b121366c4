/-
**Teams without a rule of their own.**

An ordinary team gets its members by hand. A pass finds its team by the kind alone, and whether there is a
rule for a kind is asked only where none is given: with a given rule a pass for the kind of ordinary teams
goes on, and where there is one such team it is reconciled.

* `ordinary_team_spared_iff` — **when an ordinary team is left alone**; `kitchen_reconciled` — one that is
  not.
-/

import Roster.Proofs.Reconcile.Imposed

namespace Roster

namespace Reconcile

open EStateM (Result)

variable {kind : TeamKind} {mode : Mode}

/-- **An ordinary team is left alone except by a pass for its kind that returns changes of it.** Without a
given rule such a pass fails for want of one and leaves the world as it was; with a given rule it goes on,
and where it changes the only ordinary team, the members are then the users whom the rule named. -/
theorem ordinary_team_spared_iff {given : Option Eligibility} {world : World} (valid : world.store.Valid)
    (asks : ∀ rule ∈ given, rule.OnlyAsks) :
    (kind = .none → given = none → pass kind given mode world = .error (.noRule .none) world)
      ∧ ∀ team ∈ world.store.teams, team.kind = .none →
        (world.store.Spares team.id (endOf (pass kind given mode world)).store ↔
          ¬ (kind = .none ∧ ∃ result after, pass kind given mode world = .ok result after
            ∧ result.team = some team.id ∧ result.changed = true))
        ∧ ∀ result after, pass kind given mode world = .ok result after →
          result.team = some team.id → result.changed = true →
            ∃ rule ∈ given, ∃ eligible, rule.Answers mode.now world.store eligible
              ∧ ∀ user, after.store.HasStay team.id user ↔ user ∈ eligible := by
  refine ⟨fun ordinary absent => ?_, fun team member ordinary => ?_⟩
  · rw [ordinary, absent]
    rfl
  rcases pass_cases valid asks with
    ⟨same, unchanged⟩ | ⟨result, after, rule, own, eligible, ran, chosen, answers, imposed⟩
  · refine ⟨iff_of_true ?_ ?_, fun result after ran _ changed => ?_⟩
    · rw [same]
      exact world.store.spares_self team.id
    · rintro ⟨_, result, after, ran, _, changed⟩
      exact Bool.false_ne_true ((unchanged result after ran).symm.trans changed)
    · exact absurd ((unchanged result after ran).symm.trans changed) Bool.false_ne_true
  obtain ⟨inside, ownKind⟩ := mem_of_teamsOfIn imposed.found
  have named : result.team = some own.id := by rw [imposed.result_eq]; rfl
  rw [ran]
  by_cases mine : team.id = own.id
  · obtain rfl : team = own := Store.eq_of_id_eq valid.teamIds member inside mine
    obtain rfl : kind = .none := ownKind.symm.trans ordinary
    refine ⟨iff_of_false (imposed.not_spares valid) (not_not_intro ?_), ?_⟩
    · exact ⟨rfl, result, after, rfl, named, imposed.changed⟩
    · rintro _ _ ⟨⟩ _ _
      refine ⟨rule, ?_, eligible, answers, fun user => imposed.stays⟩
      cases given with
      | none => cases chosen
      | some other => exact chosen
  · refine ⟨iff_of_true (imposed.spares mine) ?_, ?_⟩
    · rintro ⟨_, _, _, ⟨⟩, same, _⟩
      exact mine (Option.some.inj (same.symm.trans named))
    · rintro _ _ ⟨⟩ same _
      exact absurd (Option.some.inj (same.symm.trans named)) mine

/-- A user and an ordinary team in which nobody is. -/
def kitchen : World where
  surroundings := default
  store := { users := [default], teams := [default] }

/-- With a given rule a pass for the kind of ordinary teams returns, and the user is in the team then. -/
theorem kitchen_reconciled :
    ∃ result after, pass .none (some fun _ => pure [default]) default kitchen = .ok result after
      ∧ ¬ kitchen.store.Spares default after.store ∧ after.store.HasStay default default := by
  obtain ⟨result, after, ran, named, changed⟩ : ∃ result after,
      pass .none (some fun _ => pure [default]) default kitchen = .ok result after
        ∧ result.team = some default ∧ result.changed = true := by decide +kernel
  obtain ⟨spared, imposed⟩ := (@ordinary_team_spared_iff .none default
    (some fun _ => pure [default]) kitchen (by decide +kernel)
    (by rintro _ ⟨⟩; exact Eligibility.onlyAsks_pure _)).2 default List.mem_cons_self rfl
  rw [ran] at spared
  obtain ⟨rule, ⟨⟩, eligible, ⟨session, _, _, _, ⟨⟩⟩, stays⟩ := imposed result after ran named changed
  refine ⟨result, after, ran, fun unchanged => ?_, (stays default).mpr List.mem_cons_self⟩
  exact spared.mp unchanged ⟨rfl, result, after, rfl, named, changed⟩

end Reconcile

end Roster
