/-
**What a transaction leaves behind.**

The committed store changes only with a commit that succeeds; the surroundings keep whatever was done on
the way.

* `Application.transact_of_discard`, `Application.transact_of_keep` — a body that returns, with its ending.
* `Application.transact_ok`, `Application.transact_error` — what was run if a transaction returned, and
  **what a failed one leaves: the store as it was**.
* `Application.transact_eq_error` — when a transaction fails, and with which failure.
-/

import Roster.Proofs.Session.Statement

namespace Roster

open EStateM (Result)

/-- A session opened on the committed store. -/
def World.session (world : World) : Session where
  surroundings := world.surroundings
  store := world.store

/-- A session opened on a store that keeps its rules is settled. -/
theorem World.settled_session {world : World} (valid : world.store.Valid) : world.session.Settled :=
  ⟨rfl, rfl, valid⟩

/-- The world some time later. -/
def World.resumed (world : World) (now : Surroundings) : World :=
  { world with surroundings := world.surroundings.meanwhile now }

/-- Nobody asked the groupware between two states of the world. -/
def World.Calm (before after : World) : Prop := before.surroundings.Calm after.surroundings

instance : IsPreorder World World.Calm where
  refl world := refl_of Surroundings.Calm world.surroundings
  trans _ _ _ first second := trans_of Surroundings.Calm first second

namespace Application

variable {α β : Type} {body : Transaction (α × Ending)} {world after : World} {session : Session}
  {result : α} {failure : Failure}

theorem transact_apply (body : Transaction (α × Ending)) (world : World) :
    transact body world = match body world.session with
      | .error failure session => .error failure { world with surroundings := session.surroundings }
      | .ok (result, .discard) session =>
        .ok result { world with surroundings := session.surroundings }
      | .ok (result, .keep) session =>
        match Transaction.commit session with
        | .error failure session => .error failure { world with surroundings := session.surroundings }
        | .ok _ session =>
          .ok result { surroundings := session.surroundings, store := session.store } := rfl

theorem transact_of_discard (ran : body world.session = .ok (result, .discard) session) :
    transact body world = .ok result { world with surroundings := session.surroundings } := by
  rw [transact_apply, ran]

/-- **What a body wants kept is committed.** -/
theorem transact_of_keep {final : Session} (ran : body world.session = .ok (result, .keep) session)
    (committed : Transaction.commit session = .ok () final) :
    transact body world = .ok result { surroundings := final.surroundings, store := final.store } := by
  rw [transact_apply, ran]
  dsimp only
  rw [committed]

/-- A transaction that returned left the store alone, or it committed. -/
theorem transact_ok (ran : transact body world = .ok result after) :
    ∃ session, (body world.session = .ok (result, .discard) session
        ∧ after = { world with surroundings := session.surroundings })
      ∨ ∃ final, body world.session = .ok (result, .keep) session
        ∧ Transaction.commit session = .ok () final
        ∧ after = { surroundings := final.surroundings, store := final.store } := by
  rw [transact_apply] at ran
  cases outcome : body world.session with
  | error failure session =>
    rw [outcome] at ran
    cases ran
  | ok ended session =>
    obtain ⟨returned, ending⟩ := ended
    rw [outcome] at ran
    refine ⟨session, ?_⟩
    cases ending with
    | discard =>
      cases ran
      exact .inl ⟨rfl, rfl⟩
    | keep =>
      dsimp only at ran
      cases committed : Transaction.commit session with
      | error failure final =>
        rw [committed] at ran
        cases ran
      | ok _ final =>
        rw [committed] at ran
        cases ran
        exact .inr ⟨final, rfl, rfl, rfl⟩

/-- **A transaction that failed left the store as it was.** -/
theorem transact_error (ran : transact body world = .error failure after) :
    after.store = world.store ∧ ((∃ session, body world.session = .error failure session
        ∧ after.surroundings = session.surroundings)
      ∨ ∃ result session final, body world.session = .ok (result, .keep) session
        ∧ Transaction.commit session = .error failure final
        ∧ after.surroundings = final.surroundings) := by
  rw [transact_apply] at ran
  cases outcome : body world.session with
  | error failure session =>
    rw [outcome] at ran
    cases ran
    exact ⟨rfl, .inl ⟨session, rfl, rfl⟩⟩
  | ok ended session =>
    obtain ⟨result, ending⟩ := ended
    rw [outcome] at ran
    cases ending with
    | discard => cases ran
    | keep =>
      dsimp only at ran
      cases committed : Transaction.commit session with
      | error failure final =>
        rw [committed] at ran
        cases ran
        exact ⟨rfl, .inr ⟨result, session, final, rfl, committed, rfl⟩⟩
      | ok _ final =>
        rw [committed] at ran
        cases ran

/-- **A transaction fails exactly if its body does, or the commit that the body asks for**, and with that
failure. -/
theorem transact_eq_error : (∃ after, transact body world = .error failure after) ↔
    (∃ session, body world.session = .error failure session)
      ∨ ∃ result session final, body world.session = .ok (result, .keep) session
        ∧ Transaction.commit session = .error failure final := by
  constructor
  · rintro ⟨after, ran⟩
    obtain ⟨_, ⟨session, failed, _⟩ | ⟨result, session, final, kept, failed, _⟩⟩ := transact_error ran
    · exact .inl ⟨session, failed⟩
    · exact .inr ⟨result, session, final, kept, failed⟩
  · rintro (⟨session, failed⟩ | ⟨result, session, final, kept, failed⟩)
    · rw [transact_apply, failed]
      exact ⟨_, rfl⟩
    · rw [transact_apply, kept]
      dsimp only
      rw [failed]
      exact ⟨_, rfl⟩

/-- A relation between surroundings that a body and a commit keep is kept by the transaction. -/
theorem keeps_transact {R : Surroundings → Surroundings → Prop} [IsPreorder Surroundings R]
    (kept : Keeps (InvImage R Session.surroundings) body)
    (committed : Keeps (InvImage R Session.surroundings) Transaction.commit) :
    Keeps (InvImage R World.surroundings) (transact body) := by
  intro world
  have here := kept world.session
  rw [transact_apply]
  cases ran : body world.session with
  | error failure session =>
    rw [ran] at here
    exact here
  | ok ended session =>
    obtain ⟨result, ending⟩ := ended
    rw [ran] at here
    cases ending with
    | discard => exact here
    | keep =>
      have later := committed session
      dsimp only
      cases commits : Transaction.commit session with
      | error failure final =>
        rw [commits] at later
        exact trans_of R here later
      | ok _ final =>
        rw [commits] at later
        exact trans_of R here later

theorem act_note (notice : Notice) (world : World) :
    act (Act.note notice) world = .ok () { world with surroundings :=
      { world.surroundings with journal := world.surroundings.journal ++ [notice] } } := rfl

/-- Notices in a row are added to the journal in their order. -/
theorem forM_note (notices : β → Notice) (list : List β) (world : World) :
    list.forM (fun item => act (Act.note (notices item))) world = .ok () { world with surroundings :=
      { world.surroundings with
        journal := world.surroundings.journal ++ list.map notices } } := by
  induction list generalizing world with
  | nil => rw [forM_nil_apply, List.map_nil, List.append_nil]
  | cons first rest ih =>
    rw [forM_cons_apply, bind_of_ok (act_note _ _), ih]
    simp

end Application

end Roster
