/-
**Questions.**

A part of a transaction is a question if it leaves the store alone and its answer depends on nothing but
the store. Whatever it is built from, its answer is then a function of the store, and the rest of the
transaction can be read as if that function had been asked at once.

* `IsQuestion` — a transaction asks for what a function of the store says.
* `IsQuestion.bind`, `IsQuestion.read`, `IsQuestion.inTime` — questions are built from questions.
* `IsQuestion.ok` — **what a question that returns has done**; `IsQuestion.up` — without an outage it
  gives its answer, or fails as the answer does.
* `Replies` — the reply of a store to a question; `IsQuestion.of_store`, `Replies.unique` — there is
  exactly one; `Turns` — how it differs between two stores.
-/

import Roster.Proofs.Session.Statement

namespace Roster

open EStateM (Result)

variable {α β : Type}

/-- The reply to a question: its answer, or the failure to give one. -/
def reply (session : Session) : Except Failure α → Result Failure Session α
  | .ok answer => .ok answer session
  | .error failure => .error failure session

/-- **A question**: it leaves the store alone, and its answer depends on nothing but the store. -/
structure IsQuestion (x : Transaction α) (answer : Store → Except Failure α) : Prop where
  calm : Keeps Session.Calm x
  told : ∀ {session after : Session} {a : α}, session.Ready → x session = .ok a after →
    after.Ready ∧ after.store = session.store ∧ answer session.store = .ok a
  replies : ∀ {session : Session}, session.Ready → session.surroundings.IsUp →
    ∃ after, x session = reply after (answer session.store)

/-- **What a store replies to a question**, whoever asks: nobody is told anything else, and without an
outage everybody gets this reply. -/
structure Replies (x : Transaction α) (store : Store) (result : Except Failure α) : Prop where
  told : ∀ (session after : Session) (a : α), session.Ready → session.store = store →
    x session = .ok a after → result = .ok a
  given : ∀ session : Session, session.Ready → session.store = store → session.surroundings.IsUp →
    ∃ after, x session = reply after result

/-- **A store gives one reply to a question**, since there is somebody to ask it without an outage. -/
theorem Replies.unique {x : Transaction α} {store : Store} {result other : Except Failure α}
    (first : Replies x store result) (second : Replies x store other) : result = other := by
  let session : Session := { surroundings := default, store }
  obtain ⟨after, ran⟩ := first.given session ⟨rfl, rfl⟩ rfl rfl
  obtain ⟨afterOther, ranOther⟩ := second.given session ⟨rfl, rfl⟩ rfl rfl
  rw [ran] at ranOther
  cases result <;> cases other <;> cases ranOther <;> rfl

/-- **What a change of the store does to a question**: it is answered before and after, and so the answers are
related. -/
def Turns (x : Transaction α) (before after : Store) (related : α → α → Prop) : Prop :=
  ∃ was is, Replies x before (.ok was) ∧ Replies x after (.ok is) ∧ related was is

/-- The one answer among some, if there is no other. -/
def atMostOne : List α → Except Failure (Option α)
  | [] => .ok none
  | [answer] => .ok (some answer)
  | _ => .error .severalRows

theorem atMostOne_toList (answer : Option α) : atMostOne answer.toList = .ok answer := by
  cases answer <;> rfl

namespace IsQuestion

variable {x : Transaction α} {answer : Store → Except Failure α}

theorem ok (question : IsQuestion x answer) {session after : Session} {a : α}
    (settled : session.Settled) (ran : x session = .ok a after) :
    after.Settled ∧ after.store = session.store ∧ answer session.store = .ok a := by
  obtain ⟨ready, store, answered⟩ := question.told settled.ready ran
  exact ⟨ready.settled (store ▸ settled.valid), store, answered⟩

theorem up (question : IsQuestion x answer) {session : Session} (settled : session.Settled)
    (up : session.surroundings.IsUp) : ∃ after, x session = reply after (answer session.store) :=
  question.replies settled.ready up

/-- **A question has one reply for each store.** -/
theorem of_store (question : IsQuestion x answer) (store : Store) :
    Replies x store (answer store) where
  told session after a ready same ran := by
    rw [← same]
    exact (question.told ready ran).2.2
  given session ready same up := by
    rw [← same]
    exact question.replies ready up

/-- A question that is answered before and after. -/
theorem turns (question : IsQuestion x answer) {before after : Store} {was is : α}
    {related : α → α → Prop} (first : answer before = .ok was) (last : answer after = .ok is)
    (holds : related was is) : Turns x before after related :=
  ⟨was, is, first ▸ question.of_store before, last ▸ question.of_store after, holds⟩

theorem pure (a : α) : IsQuestion (pure a) fun _ => .ok a where
  calm := Keeps.pure a
  told ready ran := by
    cases ran
    exact ⟨ready, rfl, rfl⟩
  replies {session} _ _ := ⟨session, rfl⟩

theorem throw (failure : Failure) :
    IsQuestion (throw failure : Transaction α) fun _ => .error failure where
  calm := Keeps.throw failure
  told _ ran := by cases ran
  replies {session} _ _ := ⟨session, rfl⟩

theorem ofExcept (result : Except Failure α) :
    IsQuestion (MonadExcept.ofExcept result) fun _ => result := by
  cases result with
  | ok a => exact pure a
  | error failure => exact throw failure

theorem read (query : Store → α) : IsQuestion (Transaction.read query) fun store => .ok (query store) where
  calm := (Transaction.keeps_read query).calm
  told ready ran := by
    obtain ⟨after, store, answered⟩ := Transaction.ready_of_read ran ready
    exact ⟨after, store, congrArg _ answered.symm⟩
  replies ready up := ⟨_, Transaction.read_of_ready ready up⟩

/-- A part that changes nothing of a session but its surroundings, and does not fail. -/
theorem note (notice : Notice) : IsQuestion (Transaction.act (Act.note notice)) fun _ => .ok () where
  calm := Transaction.keeps_act (Act.keeps_note notice)
  told ready ran := by
    cases ran
    exact ⟨⟨ready.staged, ready.sound⟩, rfl, rfl⟩
  replies _ _ := ⟨_, rfl⟩

/-- A result that depends on times in range. -/
theorem inTime (result : Except TimeError α) :
    IsQuestion (Transaction.act (Act.inTime result)) fun _ => result.mapError Failure.time := by
  cases result with
  | ok value => exact pure value
  | error error => exact throw (.time error)

/-- **Questions in a row are a question.** -/
theorem bind {f : α → Transaction β} (rest : α → Store → Except Failure β)
    (first : IsQuestion x answer) (later : ∀ a, IsQuestion (f a) (rest a)) :
    IsQuestion (x >>= f) fun store => answer store >>= fun a => rest a store where
  calm := Keeps.bind first.calm fun a => (later a).calm
  told {session after b} ready ran := by
    obtain ⟨a, middle, ran, ranLater⟩ := bind_eq_ok.mp ran
    obtain ⟨readyMiddle, store, answered⟩ := first.told ready ran
    obtain ⟨readyAfter, storeAfter, answeredLater⟩ := (later a).told readyMiddle ranLater
    refine ⟨readyAfter, storeAfter.trans store, ?_⟩
    rw [answered]
    exact store ▸ answeredLater
  replies {session} ready up := by
    obtain ⟨middle, ran⟩ := first.replies ready up
    cases answered : answer session.store with
    | error failure =>
      rw [answered] at ran
      exact ⟨middle, by rw [bind_apply, ran]; rfl⟩
    | ok a =>
      rw [answered] at ran
      obtain ⟨readyMiddle, store, _⟩ := first.told ready ran
      obtain ⟨after, ranLater⟩ := (later a).replies readyMiddle ((first.calm.of_ok ran).up up)
      rw [store] at ranLater
      exact ⟨after, (bind_of_ok ran).trans ranLater⟩

theorem ite {c : Prop} [Decidable c] {y : Transaction α} {other : Store → Except Failure α}
    (yes : IsQuestion x answer) (no : IsQuestion y other) :
    IsQuestion (if c then x else y) fun store => if c then answer store else other store := by
  by_cases holds : c
  · simpa only [if_pos holds] using yes
  · simpa only [if_neg holds] using no

theorem congr {other : Store → Except Failure α} (question : IsQuestion x answer)
    (same : ∀ store, answer store = other store) : IsQuestion x other :=
  (funext same : answer = other) ▸ question

/-- A look-up first, then a question about what was found. -/
theorem bind_read {query : Store → α} {f : α → Transaction β} (rest : α → Store → Except Failure β)
    (later : ∀ a, IsQuestion (f a) (rest a)) :
    IsQuestion (Transaction.read query >>= f) fun store => rest (query store) store :=
  bind rest (read query) later

/-- A question with at most one answer. -/
theorem readOne (query : Store → List α) :
    IsQuestion (Transaction.readOne query) fun store => atMostOne (query store) := by
  refine bind_read (fun answers _ => atMostOne answers) fun answers => ?_
  match answers with
  | [] => exact pure none
  | [answer] => exact pure (some answer)
  | _ :: _ :: _ => exact throw _

end IsQuestion

end Roster
