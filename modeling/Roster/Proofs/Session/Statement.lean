/-
**What the statements of a session do.**

A session that is *settled* has nothing staged, is not spoiled and sees a store that keeps its rules. A
statement that gets through leaves it settled; which one gets through is decided by an outage and by
the rules of the store alone.

* `write_eq_ok`, `read_eq_ok`, `flush_eq_ok` — when a write, a question and a flush return.
* `forM_execute_ok` — **statements that all get through apply their writes in order**.
* `Surroundings.Quiet` — the relation kept by statements: they change nothing of the surroundings but
  the outage that may stop them.
* `Surroundings.Calm` — the relation kept by whatever does not ask the groupware: the requests made so
  far stay the same, and identifiers are issued in ascending order.
-/

import Roster.Proofs.Run

namespace Roster

open EStateM (Result)

/-! ### The surroundings while nobody asks the groupware -/

/-- No counter of issued identifiers goes back. -/
structure Issued.Ascends (before after : Issued) : Prop where
  entries : before.entries ≤ after.entries
  members : before.members ≤ after.members
  consents : before.consents ≤ after.consents
  events : before.events ≤ after.events
  rows : before.rows ≤ after.rows

instance : IsPreorder Issued Issued.Ascends where
  refl _ := ⟨Nat.le_refl _, Nat.le_refl _, Nat.le_refl _, Nat.le_refl _, Nat.le_refl _⟩
  trans _ _ _ first second := ⟨Nat.le_trans first.entries second.entries,
    Nat.le_trans first.members second.members, Nat.le_trans first.consents second.consents,
    Nat.le_trans first.events second.events, Nat.le_trans first.rows second.rows⟩

/-- The database answers: no outage is about to strike. -/
def Surroundings.IsUp (now : Surroundings) : Prop := now.outage = none

/-- **Nobody asked the groupware**: identifiers were at most issued, and no outage came up. -/
structure Surroundings.Calm (before after : Surroundings) : Prop where
  requests : after.requests = before.requests
  groupware : after.groupware = before.groupware
  issued : before.issued.Ascends after.issued
  up : before.IsUp → after.IsUp

instance : IsPreorder Surroundings Surroundings.Calm where
  refl now := ⟨rfl, rfl, refl_of _ now.issued, id⟩
  trans _ _ _ first second := ⟨second.requests.trans first.requests,
    second.groupware.trans first.groupware, trans_of _ first.issued second.issued,
    fun up => second.up (first.up up)⟩

/-- **Only a statement went by**: nothing changed but the outage that it may have met. -/
structure Surroundings.Quiet (before after : Surroundings) : Prop where
  same : after = { before with outage := after.outage }
  up : before.IsUp → after.IsUp

instance : IsPreorder Surroundings Surroundings.Quiet where
  refl _ := ⟨rfl, id⟩
  trans _ _ _ first second := ⟨second.same.trans (first.same ▸ rfl), fun up => second.up (first.up up)⟩

theorem Surroundings.Quiet.issued {before after : Surroundings} (quiet : before.Quiet after) :
    after.issued = before.issued := by rw [quiet.same]

theorem Surroundings.Quiet.calm {before after : Surroundings} (quiet : before.Quiet after) :
    before.Calm after := by
  refine ⟨?_, ?_, ?_, quiet.up⟩
  · rw [quiet.same]
  · rw [quiet.same]
  · rw [quiet.issued]
    exact refl_of _ before.issued

theorem Surroundings.calm_journal (now : Surroundings) (journal : List Notice) :
    now.Calm { now with journal } := ⟨rfl, rfl, refl_of _ now.issued, id⟩

/-- The surroundings some time after a moment: what was requested and issued is remembered, and
everything else may have changed. -/
def Surroundings.meanwhile (before later : Surroundings) : Surroundings :=
  { later with requests := before.requests, issued := before.issued }

namespace Act

theorem keeps_note (notice : Notice) : Keeps Surroundings.Calm (note notice) :=
  fun now => now.calm_journal _

theorem keeps_readClock : Keeps Surroundings.Calm readClock := fun now => refl_of _ now

theorem keeps_isCancelled : Keeps Surroundings.Calm isCancelled := fun now => refl_of _ now

theorem keeps_inTime {α : Type} (result : Except TimeError α) :
    Keeps Surroundings.Calm (inTime result) := by
  cases result with
  | ok value => exact Keeps.pure value
  | error error => exact Keeps.throw (Failure.time error)

theorem keeps_issueEntry : Keeps Surroundings.Calm issueEntry :=
  fun _ => ⟨rfl, rfl, ⟨Nat.le_succ _, Nat.le_refl _, Nat.le_refl _, Nat.le_refl _, Nat.le_refl _⟩, id⟩

theorem keeps_issueMember : Keeps Surroundings.Calm issueMember :=
  fun _ => ⟨rfl, rfl, ⟨Nat.le_refl _, Nat.le_succ _, Nat.le_refl _, Nat.le_refl _, Nat.le_refl _⟩, id⟩

theorem keeps_issueConsent : Keeps Surroundings.Calm issueConsent :=
  fun _ => ⟨rfl, rfl, ⟨Nat.le_refl _, Nat.le_refl _, Nat.le_succ _, Nat.le_refl _, Nat.le_refl _⟩, id⟩

theorem keeps_issueEvent : Keeps Surroundings.Calm issueEvent :=
  fun _ => ⟨rfl, rfl, ⟨Nat.le_refl _, Nat.le_refl _, Nat.le_refl _, Nat.le_succ _, Nat.le_refl _⟩, id⟩

/-- A statement on its way touches nothing but the outage that may stop it, and the database reports
what stops it. -/
theorem send_cases (kind : StatementKind) (now : Surroundings) :
    ∃ outage, (now.IsUp → outage = none) ∧
      (send kind now = .ok () { now with outage }
        ∨ ∃ name message,
          send kind now = .error (.reported (.database name) message) { now with outage }) := by
  unfold send
  rw [bind_apply, get_apply]
  dsimp only
  cases struck : now.outage with
  | none => exact ⟨now.outage, fun _ => struck, .inl rfl⟩
  | some outage =>
    have down (other : Option Outage) (up : now.IsUp) : other = none :=
      absurd (struck.symm.trans up) (Option.some_ne_none outage)
    dsimp only
    by_cases same : outage.stops = kind
    · rw [if_pos same]
      cases outage.passes with
      | zero => exact ⟨none, down _, .inr ⟨outage.name, outage.message, rfl⟩⟩
      | succ passes => exact ⟨some { outage with passes }, down _, .inl rfl⟩
    · rw [if_neg same]
      exact ⟨now.outage, down _, .inl rfl⟩

theorem keeps_send (kind : StatementKind) : Keeps Surroundings.Quiet (send kind) := by
  intro now
  obtain ⟨outage, up, ends⟩ := send_cases kind now
  rcases ends with through | ⟨name, message, stopped⟩
  · rw [through]
    exact ⟨rfl, up⟩
  · rw [stopped]
    exact ⟨rfl, up⟩

/-- **Without an outage every statement gets through**, and nothing changes on its way. -/
theorem send_of_isUp {now : Surroundings} (up : now.IsUp) (kind : StatementKind) :
    send kind now = .ok () now := by
  unfold send
  rw [bind_apply, get_apply]
  dsimp only
  rw [show now.outage = none from up]
  rfl

end Act

/-! ### Statements -/

/-- Nobody asked the groupware from within the session. -/
def Session.Calm (before after : Session) : Prop := before.surroundings.Calm after.surroundings

instance : IsPreorder Session Session.Calm where
  refl session := refl_of Surroundings.Calm session.surroundings
  trans _ _ _ first second := trans_of Surroundings.Calm first second

/-- Only statements were sent from within the session. -/
def Session.Quiet (before after : Session) : Prop := before.surroundings.Quiet after.surroundings

instance : IsPreorder Session Session.Quiet where
  refl session := refl_of Surroundings.Quiet session.surroundings
  trans _ _ _ first second := trans_of Surroundings.Quiet first second

theorem Keeps.calm {α : Type} {x : Transaction α} (kept : Keeps Session.Quiet x) :
    Keeps Session.Calm x := fun session => Surroundings.Quiet.calm (kept session)

/-- No identifier issued before was taken back. -/
def Surroundings.Ascends (before after : Surroundings) : Prop := before.issued.Ascends after.issued

instance : IsPreorder Surroundings Surroundings.Ascends where
  refl now := refl_of Issued.Ascends now.issued
  trans _ _ _ first second := trans_of Issued.Ascends first second

/-- No identifier issued before was taken back within the session. -/
def Session.Ascends (before after : Session) : Prop :=
  before.surroundings.Ascends after.surroundings

instance : IsPreorder Session Session.Ascends where
  refl session := refl_of Surroundings.Ascends session.surroundings
  trans _ _ _ first second := trans_of Surroundings.Ascends first second

theorem Keeps.ascends {α : Type} {x : Transaction α} (kept : Keeps Session.Calm x) :
    Keeps Session.Ascends x := kept.mono fun _ _ calm => calm.issued

/-- **A session between two steps**: nothing is staged, nothing went wrong, and the store that it sees
keeps its rules. -/
structure Session.Settled (session : Session) : Prop where
  staged : session.staged = []
  sound : session.spoiled = none
  valid : session.store.Valid

/-- A session between two steps on any store, whether or not it keeps its rules. -/
structure Session.Ready (session : Session) : Prop where
  staged : session.staged = []
  sound : session.spoiled = none

theorem Session.Settled.ready {session : Session} (settled : session.Settled) : session.Ready :=
  ⟨settled.staged, settled.sound⟩

theorem Session.Ready.settled {session : Session} (ready : session.Ready)
    (valid : session.store.Valid) : session.Settled :=
  ⟨ready.staged, ready.sound, valid⟩

/-- **Nothing was written** on the way to a session: it sees the store as it was, and has nothing to send. -/
structure Session.Unwritten (before after : Session) : Prop where
  store : after.store = before.store
  staged : after.staged = []

/-- The store keeps its rules after each of some statements, sent one after another. -/
def Store.ValidAlong (store : Store) : List (List Write) → Prop
  | [] => True
  | writes :: rest => (writes.foldl Write.apply store).Valid
      ∧ (writes.foldl Write.apply store).ValidAlong rest

namespace Transaction

variable {α : Type}

@[simp] theorem liftM_eq_act (action : Act α) : (liftM action : Transaction α) = act action := rfl

theorem act_eq_ok {action : Act α} {session after : Session} {a : α} :
    act action session = .ok a after ↔
      ∃ now, action session.surroundings = .ok a now ∧ after = { session with surroundings := now } := by
  unfold act
  cases action session.surroundings with
  | ok b now =>
    constructor
    · rintro ⟨⟩
      exact ⟨now, rfl, rfl⟩
    · rintro ⟨_, ⟨⟩, rfl⟩
      rfl
  | error failure now => simp

theorem act_of_ok {action : Act α} {session : Session} {now : Surroundings} {a : α}
    (ran : action session.surroundings = .ok a now) :
    act action session = .ok a { session with surroundings := now } :=
  act_eq_ok.mpr ⟨now, ran, rfl⟩

theorem act_readClock (session : Session) :
    act Act.readClock session = .ok session.surroundings.clock session := rfl

/-- A relation that an action keeps is kept by the sessions in which it runs. -/
theorem keeps_act {R : Surroundings → Surroundings → Prop} {action : Act α} (kept : Keeps R action) :
    Keeps (InvImage R Session.surroundings) (act action) := by
  intro session
  have here := kept session.surroundings
  unfold act
  cases ran : action session.surroundings with
  | ok a now =>
    rw [ran] at here
    exact here
  | error failure now =>
    rw [ran] at here
    exact here

theorem keeps_stage (staged : Write) : Keeps Session.Quiet (stage staged) :=
  Keeps.modify fun session => refl_of Surroundings.Quiet session.surroundings

theorem write_apply (change : Store → Store) (session : Session) :
    write change session = match Act.send .write session.surroundings with
      | .ok _ now =>
        if (change session.store).Valid then .ok () { session with
          surroundings := now, store := change session.store, opened := true }
        else .error .constraint { session with surroundings := now, opened := true }
      | .error failure now => .error failure { session with surroundings := now, opened := true } := by
  refine (bind_of_ok (modify_apply _ session)).trans ((bind_apply _ _ _).trans ?_)
  dsimp only [liftM_eq_act, act]
  cases Act.send .write session.surroundings with
  | ok _ now =>
    refine (bind_of_ok (get_apply _)).trans ?_
    dsimp only
    split <;> rfl
  | error failure now => rfl

/-- **A write returns** if it gets through and the store then keeps its rules. -/
theorem write_eq_ok {change : Store → Store} {session after : Session} {result : Unit} :
    write change session = .ok result after ↔
      (change session.store).Valid ∧ ∃ now, Act.send .write session.surroundings = .ok () now ∧
        after = { session with
          surroundings := now, store := change session.store, opened := true } := by
  rw [write_apply]
  cases Act.send .write session.surroundings with
  | ok _ now =>
    by_cases valid : (change session.store).Valid
    · simp [valid, eq_comm]
    · simp [valid]
  | error failure now => simp

/-- A write fails because an outage stops it, or because the store would break its rules. -/
theorem write_error {change : Store → Store} {session after : Session} {failure : Failure}
    (ran : write change session = .error failure after) :
    (∃ name message, failure = .reported (.database name) message)
      ∨ failure = .constraint ∧ ¬ (change session.store).Valid
        ∧ ∃ now, after = { session with surroundings := now, opened := true } := by
  rw [write_apply] at ran
  obtain ⟨outage, _, through | ⟨name, message, stopped⟩⟩ := Act.send_cases .write session.surroundings
  · rw [through] at ran
    dsimp only at ran
    by_cases valid : (change session.store).Valid
    · rw [if_pos valid] at ran
      cases ran
    · rw [if_neg valid] at ran
      cases ran
      exact .inr ⟨rfl, valid, _, rfl⟩
  · rw [stopped] at ran
    cases ran
    exact .inl ⟨name, message, rfl⟩

theorem keeps_write (change : Store → Store) : Keeps Session.Quiet (write change) := by
  unfold write
  refine Keeps.bind (Keeps.modify fun session => refl_of Surroundings.Quiet session.surroundings)
    fun _ => Keeps.bind (keeps_act (Act.keeps_send _)) fun _ => Keeps.bind Keeps.get fun _ => ?_
  exact Keeps.ite (Keeps.modify fun session => refl_of Surroundings.Quiet session.surroundings)
    (Keeps.throw _)

/-! ### What is staged goes out -/

/-- **Statements that all get through apply their writes in order**, and change nothing else of the
session but what it knows of its surroundings. -/
theorem forM_execute_ok {list : List (List Write)} {session after : Session}
    (ran : list.forM execute session = .ok () after) :
    after.store = list.flatten.foldl Write.apply session.store
      ∧ (session.store.Valid → after.store.Valid)
      ∧ after.staged = session.staged ∧ after.spoiled = session.spoiled := by
  induction list generalizing session with
  | nil =>
    cases ran
    exact ⟨rfl, id, rfl, rfl⟩
  | cons writes rest ih =>
    obtain ⟨_, middle, first, later⟩ := bind_eq_ok.mp ran
    obtain ⟨valid, now, _, rfl⟩ := write_eq_ok.mp first
    obtain ⟨store, keeps, staged, spoiled⟩ := ih later
    refine ⟨?_, fun _ => keeps valid, staged, spoiled⟩
    rw [store, List.flatten_cons, List.foldl_append]

theorem forM_execute_of_isUp {list : List (List Write)} {session : Session}
    (up : session.surroundings.IsUp) (valid : session.store.ValidAlong list) :
    ∃ opened, list.forM execute session = .ok () { session with
      store := list.flatten.foldl Write.apply session.store, opened } := by
  induction list generalizing session with
  | nil => exact ⟨session.opened, rfl⟩
  | cons writes rest ih =>
    have first : execute writes session = .ok () { session with
        store := writes.foldl Write.apply session.store, opened := true } :=
      write_eq_ok.mpr ⟨valid.1, session.surroundings, Act.send_of_isUp up .write, rfl⟩
    obtain ⟨opened, later⟩ := @ih { session with
      store := writes.foldl Write.apply session.store, opened := true } up valid.2
    refine ⟨opened, bind_eq_ok.mpr ⟨(), _, first, ?_⟩⟩
    rw [List.flatten_cons, List.foldl_append]
    exact later

/-- Statements after which the store keeps its rules fail only if an outage stops one. -/
theorem forM_execute_error {list : List (List Write)} {session after : Session} {failure : Failure}
    (ran : list.forM execute session = .error failure after) (valid : session.store.ValidAlong list) :
    ∃ name message, failure = .reported (.database name) message := by
  induction list generalizing session with
  | nil => cases ran
  | cons writes rest ih =>
    rw [forM_cons_apply, bind_apply] at ran
    cases first : execute writes session with
    | ok _ middle =>
      rw [first] at ran
      obtain ⟨_, now, _, rfl⟩ := write_eq_ok.mp first
      exact ih ran valid.2
    | error failed middle =>
      rw [first] at ran
      cases ran
      rcases write_error first with stopped | ⟨_, broken, _⟩
      · exact stopped
      · exact absurd valid.1 broken

theorem requireSound_of_none {session : Session} (sound : session.spoiled = none) :
    requireSound session = .ok () session := by
  refine bind_eq_ok.mpr ⟨session, session, rfl, ?_⟩
  rw [sound]
  rfl

theorem flush_of_sound {session : Session} (sound : session.spoiled = none) :
    flush session =
      match (statements session.store session.staged).forM execute { session with staged := [] } with
      | .ok _ after => .ok () after
      | .error failure after => .error failure { after with spoiled := some failure.message } := by
  refine (bind_of_ok (requireSound_of_none sound)).trans ((tryCatch_apply _ _ _).trans ?_)
  cases (statements session.store session.staged).forM execute { session with staged := [] } <;> rfl

theorem flush_of_spoiled {session : Session} {cause : String} (spoiled : session.spoiled = some cause) :
    flush session = .error (.spoiled cause) session := by
  unfold flush requireSound
  rw [bind_apply, bind_apply, get_apply]
  dsimp only
  rw [spoiled]
  rfl

/-- **A flush returns** if nothing went wrong before and all statements get through. -/
theorem flush_eq_ok {session after : Session} :
    flush session = .ok () after ↔
      session.spoiled = none ∧ (statements session.store session.staged).forM execute
        { session with staged := [] } = .ok () after := by
  by_cases sound : session.spoiled = none
  · rw [flush_of_sound sound, and_iff_right sound]
    cases (statements session.store session.staged).forM execute { session with staged := [] } with
    | ok _ final => rfl
    | error failure final => exact ⟨nofun, nofun⟩
  · obtain ⟨cause, spoiled⟩ := Option.ne_none_iff_exists'.mp sound
    rw [flush_of_spoiled spoiled]
    exact ⟨nofun, fun both => absurd both.1 sound⟩

/-- **After a flush nothing is left to send**; the store is the old one with the writes of all statements
applied, and it keeps its rules if it did before. -/
theorem ready_of_flush {session after : Session} (ran : flush session = .ok () after) :
    after.Ready ∧ (session.store.Valid → after.store.Valid) ∧ after.store
      = (statements session.store session.staged).flatten.foldl Write.apply session.store := by
  obtain ⟨sound, sent⟩ := flush_eq_ok.mp ran
  obtain ⟨store, keeps, staged, spoiled⟩ := forM_execute_ok sent
  exact ⟨⟨staged, spoiled.trans sound⟩, keeps, store⟩

/-- **After a flush the session is settled**, and its store is the old one with the writes of all
statements applied. -/
theorem flush_ok {session after : Session} (ran : flush session = .ok () after)
    (valid : session.store.Valid) :
    after.Settled ∧ after.store
      = (statements session.store session.staged).flatten.foldl Write.apply session.store := by
  obtain ⟨ready, keeps, store⟩ := ready_of_flush ran
  exact ⟨ready.settled (keeps valid), store⟩

theorem flush_of_isUp {session : Session} (up : session.surroundings.IsUp)
    (sound : session.spoiled = none)
    (valid : session.store.ValidAlong (statements session.store session.staged)) :
    ∃ opened, flush session = .ok () { session with
      store := (statements session.store session.staged).flatten.foldl Write.apply session.store
      staged := []
      opened } := by
  obtain ⟨opened, sent⟩ := @forM_execute_of_isUp _ { session with staged := [] } up valid
  exact ⟨opened, flush_eq_ok.mpr ⟨sound, sent⟩⟩

/-- A flush after which the store keeps its rules fails only if an outage stops it. -/
theorem flush_error {session after : Session} {failure : Failure}
    (ran : flush session = .error failure after) (sound : session.spoiled = none)
    (valid : session.store.ValidAlong (statements session.store session.staged)) :
    ∃ name message, failure = .reported (.database name) message := by
  rw [flush_of_sound sound] at ran
  cases sent : (statements session.store session.staged).forM execute
      { session with staged := [] } with
  | ok _ flushed =>
    rw [sent] at ran
    cases ran
  | error failed flushed =>
    rw [sent] at ran
    cases ran
    exact forM_execute_error sent valid

/-- A session without anything staged is flushed already. -/
theorem flush_of_ready {session : Session} (ready : session.Ready) :
    flush session = .ok () session := by
  refine flush_eq_ok.mpr ⟨ready.sound, ?_⟩
  obtain ⟨surroundings, store, staged, opened, spoiled⟩ := session
  obtain rfl : staged = [] := ready.staged
  rfl

theorem flush_of_settled {session : Session} (settled : session.Settled) :
    flush session = .ok () session := flush_of_ready settled.ready

/-- **A question is answered** from the flushed store, if it gets through. -/
theorem read_eq_ok {query : Store → α} {session after : Session} {answer : α} :
    read query session = .ok answer after ↔
      ∃ flushed now, flush session = .ok () flushed
        ∧ Act.send .read flushed.surroundings = .ok () now ∧ answer = query flushed.store
        ∧ after = { flushed with surroundings := now, opened := true } := by
  unfold read
  constructor
  · intro ran
    obtain ⟨_, flushed, flushes, ran⟩ := bind_eq_ok.mp ran
    obtain ⟨_, _, ⟨⟩, ran⟩ := bind_eq_ok.mp ran
    obtain ⟨_, _, sent, ran⟩ := bind_eq_ok.mp ran
    obtain ⟨now, through, rfl⟩ := act_eq_ok.mp sent
    cases ran
    exact ⟨flushed, now, flushes, through, rfl, rfl⟩
  · rintro ⟨flushed, now, flushes, through, rfl, rfl⟩
    exact bind_eq_ok.mpr ⟨(), flushed, flushes, bind_eq_ok.mpr ⟨(), _, rfl,
      bind_eq_ok.mpr ⟨(), _, act_of_ok through, rfl⟩⟩⟩

/-- Where nothing is staged the answer comes from the store as it is. -/
theorem read_of_ready {query : Store → α} {session : Session} (ready : session.Ready)
    (up : session.surroundings.IsUp) :
    read query session = .ok (query session.store) { session with opened := true } :=
  read_eq_ok.mpr ⟨session, session.surroundings, flush_of_ready ready,
    Act.send_of_isUp up .read, rfl, rfl⟩

theorem read_of_settled {query : Store → α} {session : Session} (settled : session.Settled)
    (up : session.surroundings.IsUp) :
    read query session = .ok (query session.store) { session with opened := true } :=
  read_of_ready settled.ready up

/-- A question sees what is staged. -/
theorem read_of_flush {query : Store → α} {session flushed : Session}
    (flushes : flush session = .ok () flushed) (settled : flushed.Settled) :
    read query session = read query flushed := by
  unfold read
  rw [bind_of_ok flushes, bind_of_ok (flush_of_settled settled)]

/-- A question leaves nothing to send and answers from the store. -/
theorem ready_of_read {query : Store → α} {session after : Session} {answer : α}
    (ran : read query session = .ok answer after) (ready : session.Ready) :
    after.Ready ∧ after.store = session.store ∧ answer = query session.store := by
  obtain ⟨flushed, now, flushes, _, rfl, rfl⟩ := read_eq_ok.mp ran
  rw [flush_of_ready ready] at flushes
  cases flushes
  exact ⟨⟨ready.staged, ready.sound⟩, rfl, rfl⟩

/-- A question leaves a session settled and answers from its store. -/
theorem read_ok {query : Store → α} {session after : Session} {answer : α}
    (ran : read query session = .ok answer after) (settled : session.Settled) :
    after.Settled ∧ after.store = session.store ∧ answer = query session.store := by
  obtain ⟨ready, store, answered⟩ := ready_of_read ran settled.ready
  exact ⟨ready.settled (store ▸ settled.valid), store, answered⟩

/-- A question that fails was stopped by an outage, and nothing was written. -/
theorem read_error {query : Store → α} {session after : Session} {failure : Failure}
    (ready : session.Ready) (ran : read query session = .error failure after) :
    failure.isDatabase = true ∧ session.Unwritten after := by
  unfold read at ran
  rw [bind_of_ok (flush_of_ready ready), bind_of_ok (modify_apply _ session)] at ran
  rcases bind_eq_error.mp ran with stopped | ⟨_, _, _, ⟨⟩⟩
  obtain ⟨outage, _, through | ⟨name, message, stops⟩⟩ := Act.send_cases .read session.surroundings
  · cases stopped.symm.trans (act_of_ok through)
  · rw [act, stops] at stopped
    cases stopped
    exact ⟨rfl, rfl, ready.staged⟩

/-- A statement that fails wrote nothing. -/
theorem execute_error {writes : List Write} {session after : Session} {failure : Failure}
    (ran : execute writes session = .error failure after) : failure.isDatabase = true
      ∧ after.store = session.store ∧ after.staged = session.staged := by
  rw [execute, write_apply] at ran
  obtain ⟨outage, _, through | ⟨name, message, stopped⟩⟩ := Act.send_cases .write session.surroundings
  · rw [through] at ran
    dsimp only at ran
    split at ran
    · cases ran
    · cases ran
      exact ⟨rfl, rfl, rfl⟩
  · rw [stopped] at ran
    cases ran
    exact ⟨rfl, rfl, rfl⟩

/-! ### Statements do not ask the groupware -/

theorem keeps_execute (writes : List Write) : Keeps Session.Quiet (execute writes) := keeps_write _

theorem keeps_flush : Keeps Session.Quiet flush := by
  intro session
  have sent := Keeps.forM (fun writes => keeps_execute writes)
    (statements session.store session.staged) { session with staged := [] }
  cases spoiled : session.spoiled with
  | some cause =>
    rw [flush_of_spoiled spoiled]
    exact refl_of _ session
  | none =>
    rw [flush_of_sound spoiled]
    cases ran : (statements session.store session.staged).forM execute
        { session with staged := [] } with
    | ok _ after =>
      rw [ran] at sent
      exact sent
    | error failure after =>
      rw [ran] at sent
      exact sent

theorem keeps_read (query : Store → α) : Keeps Session.Quiet (read query) := by
  refine Keeps.bind keeps_flush fun _ => Keeps.bind ?_ fun _ =>
    Keeps.bind (keeps_act (Act.keeps_send _)) fun _ => Keeps.bind Keeps.get fun _ => Keeps.pure _
  exact Keeps.modify fun session => refl_of Surroundings.Quiet session.surroundings

theorem keeps_readOne (query : Store → List α) : Keeps Session.Quiet (readOne query) := by
  refine Keeps.bind (keeps_read query) fun answers => ?_
  match answers with
  | [] => exact Keeps.pure _
  | [answer] => exact Keeps.pure _
  | _ :: _ :: _ => exact Keeps.throw _

theorem keeps_insertSafely (row : Row) : Keeps Session.Quiet (insertSafely row) :=
  Keeps.bind keeps_flush fun _ => keeps_execute _

theorem keeps_commit : Keeps Session.Quiet commit := by
  refine Keeps.bind keeps_flush fun _ => Keeps.bind Keeps.get fun _ => ?_
  exact Keeps.ite (keeps_act (Act.keeps_send _)) (Keeps.pure _)

/-! ### Questions with one answer, and the commit -/

theorem readOne_ok {query : Store → List α} {session after : Session} {answer : Option α}
    (ran : readOne query session = .ok answer after) (settled : session.Settled) :
    after.Settled ∧ after.store = session.store ∧ query session.store = answer.toList := by
  obtain ⟨answers, asked, reads, ran⟩ := bind_eq_ok.mp ran
  obtain ⟨settled, store, rfl⟩ := read_ok reads settled
  match found : query session.store, ran with
  | [], ran =>
    cases ran
    exact ⟨settled, store, rfl⟩
  | [one], ran =>
    cases ran
    exact ⟨settled, store, rfl⟩

theorem readOne_error {query : Store → List α} {session after : Session} {failure : Failure}
    (ready : session.Ready) (ran : readOne query session = .error failure after) :
    failure.isDatabase = true ∧ session.Unwritten after := by
  rcases bind_eq_error.mp ran with stopped | ⟨answers, asked, reads, ran⟩
  · exact read_error ready stopped
  · obtain ⟨readyAsked, store, _⟩ := ready_of_read reads ready
    match answers, ran with
    | [], ran => cases ran
    | [_], ran => cases ran
    | _ :: _ :: _, ran =>
      cases ran
      exact ⟨rfl, store, readyAsked.staged⟩

theorem readOne_of_settled {query : Store → List α} {session : Session} {answer : Option α}
    (settled : session.Settled) (up : session.surroundings.IsUp)
    (found : query session.store = answer.toList) :
    readOne query session = .ok answer { session with opened := true } := by
  refine bind_eq_ok.mpr ⟨_, _, read_of_settled settled up, ?_⟩
  rw [found]
  cases answer <;> rfl

/-- **A commit that succeeds leaves what a flush leaves.** -/
theorem commit_ok {session after : Session} (ran : commit session = .ok () after) :
    ∃ flushed, flush session = .ok () flushed ∧ after.store = flushed.store := by
  obtain ⟨_, flushed, flushes, ran⟩ := bind_eq_ok.mp ran
  obtain ⟨_, _, ⟨⟩, ran⟩ := bind_eq_ok.mp ran
  refine ⟨flushed, flushes, ?_⟩
  split at ran
  · obtain ⟨now, _, rfl⟩ := act_eq_ok.mp ran
    rfl
  · cases ran
    rfl

/-- **Where nothing was written, a commit writes nothing.** -/
theorem commit_of_unwritten {session unwritten after : Session} (same : session.Unwritten unwritten)
    (ran : commit unwritten = .ok () after) : after.store = session.store := by
  obtain ⟨flushed, flushes, store⟩ := commit_ok ran
  obtain ⟨_, _, applied⟩ := ready_of_flush flushes
  rw [same.staged] at applied
  exact store.trans (applied.trans same.store)

/-- **Without an outage a commit leaves what a flush leaves.** -/
theorem commit_of_flush {session flushed : Session} (flushes : flush session = .ok () flushed)
    (up : flushed.surroundings.IsUp) : commit session = .ok () flushed := by
  refine (bind_of_ok flushes).trans ((bind_of_ok (get_apply flushed)).trans ?_)
  by_cases opened : flushed.opened = true
  · exact (congrFun (if_pos opened) flushed).trans (act_of_ok (Act.send_of_isUp up .commit))
  · exact congrFun (if_neg opened) flushed

end Transaction

end Roster
