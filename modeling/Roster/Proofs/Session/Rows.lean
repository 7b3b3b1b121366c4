/-
**What holds of every row.**

A property of rows holds throughout a session if it holds of the stored rows and of those that are staged: a
statement sends nothing but what is staged, and a question sees nothing but what is stored. So it is enough
that whatever is staged has the property.

* `Session.Carries` — a property of every row, stored or staged.
* `Upholds` — an action leaves the property in force, **whichever way it ends**, and returns only what a
  condition admits; there is one rule for each way to build an action.
* `Upholds.transact` — **what the body of a transaction upholds holds of the committed store**.
-/

import Roster.Outbox.Drain
import Roster.Proofs.Session.Flush
import Roster.Proofs.Session.Transact

namespace Roster

open EStateM (Result)

/-! ### The rows of a store -/

namespace Store

variable {store : Store} {row new : Row} {table : Table} {Q : Row → Prop}

theorem mem_rows_insert (member : row ∈ (store.insert new).rows table) :
    row ∈ store.rows table ∨ row = new := by
  cases new <;> cases table <;> simp_all [insert, rows]

theorem mem_rows_changeAt {id : Uuid} (member : row ∈ (store.changeAt id new).rows table) :
    row ∈ store.rows table ∨ row = new := by
  cases new <;> cases table <;> simp_all [changeAt, rows, replaced] <;> grind

/-- Every row of the store has the property. -/
def Every (Q : Row → Prop) (store : Store) : Prop := ∀ table, ∀ row ∈ store.rows table, Q row

theorem Every.mono {Q' : Row → Prop} (every : store.Every Q) (weaker : ∀ row, Q row → Q' row) :
    store.Every Q' := fun table row member => weaker row (every table row member)

theorem Every.apply {write : Write} (every : store.Every Q) (new : Q write.row) :
    (write.apply store).Every Q := by
  intro table row member
  have known : row ∈ store.rows table ∨ row = write.row := by
    cases write with
    | insert row => exact mem_rows_insert member
    | change row => exact mem_rows_changeAt member
  rcases known with here | rfl
  · exact every table row here
  · exact new

theorem Every.foldl_apply {writes : List Write} (every : store.Every Q)
    (new : ∀ write ∈ writes, Q write.row) : (writes.foldl Write.apply store).Every Q := by
  induction writes generalizing store with
  | nil => exact every
  | cons write rest ih =>
    exact ih (every.apply (new write List.mem_cons_self))
      fun later inside => new later (List.mem_cons_of_mem _ inside)

end Store

/-! ### Sessions that carry a property -/

variable {α β : Type} {groupware : Groupware} {Q : Row → Prop}

/-- **A property of every row, stored or staged**, in a session with some groupware on a store that keeps its
rules. -/
structure Session.Carries (groupware : Groupware) (Q : Row → Prop) (session : Session) : Prop where
  groupware : session.surroundings.groupware = groupware
  valid : session.store.Valid
  stored : session.store.Every Q
  staged : ∀ write ∈ session.staged, Q write.row

/-- **An action upholds a property of rows**: it leaves it in force, whichever way it ends, and what it returns
is as the condition says. -/
def Upholds (groupware : Groupware) (Q : Row → Prop) (x : Transaction α) (returns : α → Prop) : Prop :=
  ∀ session : Session, session.Carries groupware Q →
    (endOf (x session)).Carries groupware Q ∧ ∀ a after, x session = .ok a after → returns a

namespace Upholds

variable {x : Transaction α} {f : α → Transaction β} {returns condition : α → Prop}
  {returnsLater : β → Prop}

theorem mono (upholds : Upholds groupware Q x condition) (weaker : ∀ a, condition a → returns a) :
    Upholds groupware Q x returns := fun session carries =>
  ⟨(upholds session carries).1, fun a after ran => weaker a ((upholds session carries).2 a after ran)⟩

theorem of_ok (upholds : Upholds groupware Q x returns) {session after : Session} {a : α}
    (carries : session.Carries groupware Q) (ran : x session = .ok a after) : after.Carries groupware Q := by
  have here := (upholds session carries).1
  rw [ran] at here
  exact here

theorem pure {a : α} (holds : returns a) : Upholds groupware Q (pure a) returns := by
  refine fun session carries => ⟨carries, fun b after ran => ?_⟩
  cases ran
  exact holds

theorem throw (failure : Failure) : Upholds groupware Q (throw failure : Transaction α) returns :=
  fun _ carries => ⟨carries, fun _ _ ran => by cases ran⟩

theorem bind (first : Upholds groupware Q x condition)
    (later : ∀ a, condition a → Upholds groupware Q (f a) returnsLater) :
    Upholds groupware Q (x >>= f) returnsLater := by
  intro session carries
  obtain ⟨here, returned⟩ := first session carries
  rw [bind_apply]
  cases ran : x session with
  | ok a middle =>
    rw [ran] at here
    exact later a (returned a middle ran) middle here
  | error failure middle =>
    rw [ran] at here
    exact ⟨here, fun _ _ failed => by cases failed⟩

theorem ite {c : Prop} [Decidable c] {y : Transaction α} (yes : c → Upholds groupware Q x returns)
    (no : ¬ c → Upholds groupware Q y returns) : Upholds groupware Q (if c then x else y) returns := by
  split
  · exact yes ‹_›
  · exact no ‹_›

theorem forM {f : α → Transaction PUnit} {list : List α}
    (each : ∀ a ∈ list, Upholds groupware Q (f a) fun _ => True) :
    Upholds groupware Q (list.forM f) fun _ => True := by
  induction list with
  | nil => exact pure trivial
  | cons a rest ih =>
    rw [forM_cons_apply]
    exact bind (each a List.mem_cons_self) fun _ _ =>
      ih fun b inside => each b (List.mem_cons_of_mem _ inside)

theorem get : Upholds groupware Q (get : Transaction Session) (Session.Carries groupware Q) := by
  refine fun session carries => ⟨carries, ?_⟩
  rintro _ _ ⟨⟩
  exact carries

theorem modify {f : Session → Session}
    (kept : ∀ session : Session, session.Carries groupware Q → (f session).Carries groupware Q) :
    Upholds groupware Q (modify f : Transaction PUnit) fun _ => True :=
  fun session carries => ⟨kept session carries, fun _ _ _ => trivial⟩

/-- What an action on the surroundings returns, it returns in surroundings with the groupware. -/
theorem act {action : Act α} (same : ∀ now, (endOf (action now)).groupware = now.groupware) :
    Upholds groupware Q (Transaction.act action) fun a =>
      ∃ now later, now.groupware = groupware ∧ action now = .ok a later := by
  intro session carries
  have kept := same session.surroundings
  unfold Transaction.act
  cases ran : action session.surroundings with
  | ok a later =>
    rw [ran] at kept
    refine ⟨⟨kept.trans carries.groupware, carries.valid, carries.stored, carries.staged⟩, ?_⟩
    rintro b after ⟨⟩
    exact ⟨session.surroundings, later, carries.groupware, ran⟩
  | error failure later =>
    rw [ran] at kept
    exact ⟨⟨kept.trans carries.groupware, carries.valid, carries.stored, carries.staged⟩,
      fun _ _ failed => by cases failed⟩

/-- An action that asks nothing of the groupware. -/
theorem calm {action : Act α} (kept : Keeps Surroundings.Calm action) :
    Upholds groupware Q (Transaction.act action) fun _ => True :=
  (act fun now => (kept now).groupware).mono fun _ _ => trivial

theorem send (kind : StatementKind) :
    Upholds groupware Q (Transaction.act (Act.send kind)) fun _ => True :=
  calm fun now => (Act.keeps_send kind now).calm

theorem attempt (upholds : Upholds groupware Q x returns) :
    Upholds groupware Q (Transaction.attempt x) fun _ => True := by
  intro session carries
  have here := (upholds session carries).1
  refine ⟨?_, fun _ _ _ => trivial⟩
  unfold Transaction.attempt
  cases ran : x session with
  | ok a after =>
    rw [ran] at here
    exact here
  | error failure after =>
    rw [ran] at here
    exact here

/-! ### Statements -/

/-- Whatever is staged has to have the property. -/
theorem stage {write : Write} (new : Q write.row) :
    Upholds groupware Q (Transaction.stage write) fun _ => True := by
  refine fun session carries => ⟨⟨carries.groupware, carries.valid, carries.stored, ?_⟩,
    fun _ _ _ => trivial⟩
  intro other member
  rcases List.mem_append.mp member with here | last
  · exact carries.staged other here
  · rw [List.mem_singleton.mp last]
    exact new

/-- A statement that is refused changes no row, and one that gets through only what it was sent for. -/
theorem execute {writes : List Write} (new : ∀ write ∈ writes, Q write.row) :
    Upholds groupware Q (Transaction.execute writes) fun _ => True := by
  intro session carries
  refine ⟨?_, fun _ _ _ => trivial⟩
  have same := (Act.keeps_send .write session.surroundings).calm.groupware
  rw [Transaction.execute, Transaction.write_apply]
  cases sent : Act.send .write session.surroundings with
  | ok _ now =>
    rw [sent] at same
    dsimp only
    split
    case isTrue valid =>
      exact ⟨same.trans carries.groupware, valid, carries.stored.foldl_apply new, carries.staged⟩
    case isFalse =>
      exact ⟨same.trans carries.groupware, carries.valid, carries.stored, carries.staged⟩
  | error failure now =>
    rw [sent] at same
    exact ⟨same.trans carries.groupware, carries.valid, carries.stored, carries.staged⟩

/-- **Nothing is sent but what is staged.** -/
theorem flush : Upholds groupware Q Transaction.flush fun _ => True := by
  intro session carries
  refine ⟨?_, fun _ _ _ => trivial⟩
  cases spoiled : session.spoiled with
  | some cause =>
    rw [Transaction.flush_of_spoiled spoiled]
    exact carries
  | none =>
    have sent : Upholds groupware Q
        ((statements session.store session.staged).forM Transaction.execute) fun _ => True :=
      forM fun writes cut => execute fun write inside =>
        carries.staged write (mem_of_mem_statements (List.mem_flatten.mpr ⟨writes, cut, inside⟩))
    have here := (sent { session with staged := [] }
      ⟨carries.groupware, carries.valid, carries.stored, List.forall_mem_nil _⟩).1
    rw [Transaction.flush_of_sound spoiled]
    cases ran : (statements session.store session.staged).forM Transaction.execute
        { session with staged := [] } with
    | ok _ after =>
      rw [ran] at here
      exact here
    | error failure after =>
      rw [ran] at here
      exact ⟨here.groupware, here.valid, here.stored, here.staged⟩

/-- **A question sees nothing but what is stored.** -/
theorem read (query : Store → α) : Upholds groupware Q (Transaction.read query) fun answer =>
    ∃ store : Store, store.Valid ∧ store.Every Q ∧ answer = query store := by
  refine bind flush fun _ _ => bind (modify fun session carries => ?_) fun _ _ =>
    bind (send .read) fun _ _ => bind get fun session carries =>
      pure ⟨session.store, carries.valid, carries.stored, rfl⟩
  exact ⟨carries.groupware, carries.valid, carries.stored, carries.staged⟩

theorem readOne (query : Store → List α) : Upholds groupware Q (Transaction.readOne query) fun answer =>
    ∃ store : Store, store.Valid ∧ store.Every Q ∧ ∀ a ∈ answer, a ∈ query store := by
  refine bind (read query) fun answers ⟨store, valid, stored, seen⟩ => ?_
  match answers, seen with
  | [], _ => exact pure ⟨store, valid, stored, by simp⟩
  | [one], seen => exact pure ⟨store, valid, stored, by simp [← seen]⟩
  | _ :: _ :: _, _ => exact throw _

theorem insertSafely {row : Row} (new : Q row) :
    Upholds groupware Q (Transaction.insertSafely row) fun _ => True :=
  bind flush fun _ _ => execute fun write inside => by
    rw [List.mem_singleton.mp inside]
    exact new

theorem commit : Upholds groupware Q Transaction.commit fun _ => True :=
  bind flush fun _ _ => bind get fun _ _ => ite (fun _ => send .commit) fun _ => pure trivial

end Upholds

/-! ### Transactions -/

/-- The committed store has the property in every row, and keeps its rules. -/
def World.Carries (groupware : Groupware) (Q : Row → Prop) (world : World) : Prop :=
  world.session.Carries groupware Q

theorem World.carries_iff {world : World} : world.Carries groupware Q ↔
    world.surroundings.groupware = groupware ∧ world.store.Valid ∧ world.store.Every Q := by
  constructor
  · exact fun carries => ⟨carries.groupware, carries.valid, carries.stored⟩
  · exact fun ⟨same, valid, stored⟩ => ⟨same, valid, stored, List.forall_mem_nil _⟩

/-- **What the body of a transaction upholds holds of the committed store**, whichever way it ends. -/
theorem Upholds.transact {body : Transaction (α × Ending)} {returns : α × Ending → Prop} {world : World}
    (upholds : Upholds groupware Q body returns) (carries : world.Carries groupware Q) :
    (endOf (Application.transact body world)).Carries groupware Q := by
  have here := (upholds world.session carries).1
  rw [Application.transact_apply]
  cases ran : body world.session with
  | error failure session =>
    rw [ran] at here
    exact World.carries_iff.mpr ⟨here.groupware, carries.valid, carries.stored⟩
  | ok ended session =>
    rw [ran] at here
    match ended with
    | (result, .discard) => exact World.carries_iff.mpr ⟨here.groupware, carries.valid, carries.stored⟩
    | (result, .keep) =>
      have final := (Upholds.commit session here).1
      dsimp only
      cases committed : Transaction.commit session with
      | error failure after =>
        rw [committed] at final
        exact World.carries_iff.mpr ⟨final.groupware, carries.valid, carries.stored⟩
      | ok _ after =>
        rw [committed] at final
        exact World.carries_iff.mpr ⟨final.groupware, final.valid, final.stored⟩

end Roster
