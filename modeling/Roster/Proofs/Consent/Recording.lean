/-
**What recording a consent does.**

A user has at most one record for a version, whether it was explicit or not. Recording a consent looks for it
first: if there is one nothing is written, and if there is none the new record comes behind the others.

* `Store.HasRecord` — the user has a record for the version.
* `Given.record` — the record that a consent becomes; `Store.withConsent` — the store with one more.
* `give_ok` — **what a recording that returns has done**.
* `commitAfter_give_of_record`, `commitAfter_give_of_free` — without an outage a recording is refused if
  there is a record, and returns if there is none.
* `Recording` — somebody asked to record a consent, whatever came of it; `valid_of_recordings` — the rules
  of the store are kept.
-/

import Roster.Consent
import Roster.Proofs.Session.Flush
import Roster.Proofs.Session.Question
import Roster.Proofs.Session.Transact
import Mathlib.Logic.Relation

namespace Roster

namespace Store

/-- The user has a record for the version, explicit or not. -/
def HasRecord (store : Store) (user version : Uuid) : Prop :=
  ∃ record ∈ store.consents, record.user = user ∧ record.version = version

instance (store : Store) (user version : Uuid) : Decidable (store.HasRecord user version) := by
  unfold HasRecord
  infer_instance

/-- The store with one more consent. -/
def withConsent (store : Store) (record : ConsentRecord) : Store :=
  { store with consents := store.consents ++ [record] }

theorem hasRecord_withConsent_iff {store : Store} {record : ConsentRecord} {user version : Uuid} :
    (store.withConsent record).HasRecord user version
      ↔ store.HasRecord user version ∨ record.user = user ∧ record.version = version := by
  simp only [HasRecord, withConsent, List.mem_append, List.mem_singleton, or_and_right, exists_or,
    exists_eq_left]

end Store

namespace Consent

/-- The record that a consent becomes. -/
def Given.record (given : Given) (id : Uuid) (clock : Instant) : ConsentRecord where
  id := id
  user := given.user
  version := given.version
  consentedAt := given.consentedAt.getD clock
  isExplicit := given.isExplicit
  ipAddress := given.ipAddress
  userAgent := Text.clip maxAgentLength given.userAgent
  contentHash := given.contentHash
  notes := none

/-- The record that a consent becomes in some surroundings. -/
def Given.recordIn (given : Given) (now : Surroundings) : ConsentRecord :=
  given.record (.numbered 12 (now.issued.consents + 1)) now.clock

/-- The surroundings once an identifier of a consent was issued. -/
def numbering (now : Surroundings) : Surroundings :=
  { now with issued := { now.issued with consents := now.issued.consents + 1 } }

/-- The surroundings after a consent was recorded. -/
def afterRecording (given : Given) (now : Surroundings) : Surroundings :=
  { numbering now with
    journal := now.journal ++ [.consentRecorded given.user given.version given.isExplicit] }

variable {given : Given} {session after : Session} {store : Store}

/-! ### The look-up -/

theorem exists_recordsIn_eq_toList (valid : store.Valid) (user version : Uuid) :
    ∃ record : Option ConsentRecord, recordsIn user version store = record.toList := by
  obtain ⟨record, found⟩ := Store.exists_filter_eq_toList valid.agreements (user, version)
  refine ⟨record, Eq.trans (List.filter_congr fun other _ => decide_eq_decide.mpr ?_) found⟩
  rw [Prod.mk.injEq]

/-- The look-up finds the record if there is one. -/
theorem isSome_iff_hasRecord {user version : Uuid} {record : Option ConsentRecord}
    (found : recordsIn user version store = record.toList) :
    record.isSome = true ↔ store.HasRecord user version := by
  have inside : ∀ other, record = some other ↔ other ∈ store.consents
      ∧ other.user = user ∧ other.version = version := fun other => by
    rw [← Option.mem_toList, ← found, recordsIn, List.mem_filter, decide_eq_true_eq]
  simp only [Option.isSome_iff_exists, inside, Store.HasRecord]

/-! ### Recording in a session -/

/-- What recording a consent does once the look-up found nothing. -/
def append (given : Given) : Transaction ConsentRecord := do
  let id ← Act.issueConsent
  let clock ← Act.readClock
  Transaction.stage (.insert (.consent (given.record id clock)))
  Transaction.flush
  Act.note (.consentRecorded given.user given.version given.isExplicit)
  return given.record id clock

theorem give_eq (given : Given) : give given = (Transaction.readOne (recordsIn given.user given.version)
    >>= fun found => if found.isSome then throw (.alreadyConsented given.user given.version)
      else append given) := by
  refine congrArg (Transaction.readOne _ >>= ·) (funext fun found => ?_)
  cases found <;> rfl

/-- The new record is staged and sent, and noted if that succeeds. -/
theorem append_apply (settled : session.Settled) : append given session
    = (Transaction.flush >>= fun _ =>
        Transaction.act (Act.note (.consentRecorded given.user given.version given.isExplicit))
          >>= fun _ => pure (given.recordIn session.surroundings)) { session with
        staged := [.insert (.consent (given.recordIn session.surroundings))]
        surroundings := numbering session.surroundings } := by
  obtain ⟨surroundings, store, staged, opened, spoiled⟩ := session
  obtain rfl : staged = [] := settled.staged
  rfl

/-- **What a recording that returns has done**: there was no record, and now there is one. -/
theorem give_ok {record : ConsentRecord} (settled : session.Settled)
    (ran : give given session = .ok record after) :
    ¬ session.store.HasRecord given.user given.version
      ∧ record = given.recordIn session.surroundings
      ∧ after.Settled ∧ after.store = session.store.withConsent record := by
  rw [give_eq] at ran
  obtain ⟨found, asked, reads, ran⟩ := bind_eq_ok.mp ran
  obtain ⟨settledAsked, sameStore, answer⟩ := Transaction.readOne_ok reads settled
  have quiet := (Transaction.keeps_readOne _).of_ok reads
  have has := isSome_iff_hasRecord answer
  cases isSome : found.isSome with
  | true =>
    rw [isSome] at ran
    cases ran
  | false =>
    rw [isSome] at ran has
    change append given asked = _ at ran
    rw [append_apply settledAsked] at ran
    obtain ⟨_, flushed, flushes, ran⟩ := bind_eq_ok.mp ran
    cases ran
    obtain ⟨settledAfter, store⟩ := Transaction.flush_ok flushes settledAsked.valid
    have surroundings : given.recordIn asked.surroundings = given.recordIn session.surroundings := by
      rw [show asked.surroundings = _ from quiet.same]
      rfl
    refine ⟨fun inside => Bool.false_ne_true (has.mpr inside), surroundings,
      ⟨settledAfter.staged, settledAfter.sound, settledAfter.valid⟩, ?_⟩
    rw [store, statements_insert, sameStore]
    rfl

/-- **A record stands in the way of another.** -/
theorem give_of_record (settled : session.Settled) (up : session.surroundings.IsUp)
    (has : session.store.HasRecord given.user given.version) :
    give given session
      = .error (.alreadyConsented given.user given.version) { session with opened := true } := by
  obtain ⟨found, same⟩ := exists_recordsIn_eq_toList settled.valid given.user given.version
  rw [give_eq, bind_of_ok (Transaction.readOne_of_settled settled up same),
    (isSome_iff_hasRecord same).mpr has]
  rfl

/-- **Without a record and without an outage a consent is recorded**, if the rules of the store allow it. -/
theorem give_of_free (settled : session.Settled) (up : session.surroundings.IsUp)
    (free : ¬ session.store.HasRecord given.user given.version)
    (fits : (session.store.withConsent (given.recordIn session.surroundings)).Valid) :
    ∃ opened, give given session = .ok (given.recordIn session.surroundings) { session with
      surroundings := afterRecording given session.surroundings
      store := session.store.withConsent (given.recordIn session.surroundings)
      staged := []
      opened } := by
  obtain ⟨found, same⟩ := exists_recordsIn_eq_toList settled.valid given.user given.version
  have none : found.isSome = false :=
    eq_false_of_ne_true fun some => free ((isSome_iff_hasRecord same).mp some)
  have settledOpened : ({ session with opened := true } : Session).Settled :=
    ⟨settled.staged, settled.sound, settled.valid⟩
  have along : session.store.ValidAlong
      (statements session.store [.insert (.consent (given.recordIn session.surroundings))]) := by
    rw [statements_insert]
    exact ⟨fits, trivial⟩
  obtain ⟨opened, flushes⟩ := @Transaction.flush_of_isUp { session with
    staged := [.insert (.consent (given.recordIn session.surroundings))]
    surroundings := numbering session.surroundings
    opened := true } up settled.sound along
  rw [statements_insert] at flushes
  refine ⟨opened, ?_⟩
  rw [give_eq, bind_of_ok (Transaction.readOne_of_settled settled up same), none]
  change append given { session with opened := true } = _
  rw [append_apply settledOpened, bind_of_ok flushes]
  rfl

/-! ### Recording in a transaction of its own -/

variable {world : World}

/-- A transaction that records a consent and returns has committed it. -/
theorem commitAfter_give_ok {record : ConsentRecord} {after : World} (valid : world.store.Valid)
    (ran : Application.commitAfter (give given) world = .ok record after) :
    ¬ world.store.HasRecord given.user given.version
      ∧ record = given.recordIn world.surroundings
      ∧ after.store.Valid ∧ after.store = world.store.withConsent record := by
  obtain ⟨session, ⟨body, _⟩ | ⟨final, body, commits, rfl⟩⟩ := Application.transact_ok ran
  · obtain ⟨_, _, _, ⟨⟩⟩ := bind_eq_ok.mp body
  · obtain ⟨_, _, gives, ⟨⟩⟩ := bind_eq_ok.mp body
    obtain ⟨free, recorded, settled, store⟩ := give_ok (World.settled_session valid) gives
    obtain ⟨flushed, flushes, same⟩ := Transaction.commit_ok commits
    rw [Transaction.flush_of_settled settled] at flushes
    cases flushes
    rw [same]
    exact ⟨free, recorded, settled.valid, store⟩

/-- **A record stands in the way of another**, and nothing changes. -/
theorem commitAfter_give_of_record (valid : world.store.Valid) (up : world.surroundings.IsUp)
    (has : world.store.HasRecord given.user given.version) :
    Application.commitAfter (give given) world
      = .error (.alreadyConsented given.user given.version) world := by
  have refused := @give_of_record given world.session (World.settled_session valid) up has
  unfold Application.commitAfter
  rw [Application.transact_apply, bind_apply, refused]
  rfl

/-- **Without a record and without an outage a consent is recorded**, if the user and the version exist. -/
theorem commitAfter_give_of_free (valid : world.store.Valid) (up : world.surroundings.IsUp)
    (free : ¬ world.store.HasRecord given.user given.version)
    (fresh : .numbered 12 (world.surroundings.issued.consents + 1)
      ∉ world.store.consents.map ConsentRecord.id)
    (known : world.store.enforcesReferences = true → given.user ∈ world.store.users.map User.id
      ∧ given.version ∈ world.store.versions.map DocumentVersion.id) :
    Application.commitAfter (give given) world = .ok (given.recordIn world.surroundings) {
      surroundings := afterRecording given world.surroundings
      store := world.store.withConsent (given.recordIn world.surroundings) } := by
  have fits : (world.store.withConsent (given.recordIn world.surroundings)).Valid :=
    valid.withConsent fresh (fun other inside same => free ⟨other, inside, same⟩) known
  obtain ⟨opened, gives⟩ := @give_of_free given world.session (World.settled_session valid) up free fits
  have flushes : Transaction.flush { world.session with
      surroundings := afterRecording given world.surroundings
      store := world.store.withConsent (given.recordIn world.surroundings)
      opened } = .ok () _ := Transaction.flush_of_settled ⟨rfl, rfl, fits⟩
  exact Application.transact_of_keep ((bind_of_ok gives).trans rfl)
    (Transaction.commit_of_flush flushes up)

/-! ### Recordings one after another -/

/-- **Somebody asked to record a consent**, whatever the surroundings were and whatever came of it. -/
inductive Recording (before : Store) : Store → Prop where
  | asked (surroundings : Surroundings) (given : Given) :
      Recording before (endOf (Application.commitAfter (give given) ⟨surroundings, before⟩)).store

/-- A recording leaves the store as it was or adds a record where there was none. -/
theorem Recording.cases {before after : Store} (valid : before.Valid) (recording : Recording before after) :
    after = before ∨ after.Valid ∧ ∃ record, after = before.withConsent record
      ∧ ¬ before.HasRecord record.user record.version := by
  obtain ⟨surroundings, given⟩ := recording
  cases ran : Application.commitAfter (give given) ⟨surroundings, before⟩ with
  | ok record world =>
    obtain ⟨free, rfl, validAfter, store⟩ := commitAfter_give_ok valid ran
    exact .inr ⟨validAfter, _, store, free⟩
  | error failure world => exact .inl (Application.transact_error ran).1

/-- **Recordings keep the rules of the store.** -/
theorem valid_of_recordings {start store : Store} (valid : start.Valid)
    (recordings : Relation.ReflTransGen Recording start store) : store.Valid := by
  induction recordings with
  | refl => exact valid
  | tail _ recording ih =>
    rcases recording.cases ih with rfl | ⟨valid, _⟩
    · exact ih
    · exact valid

end Consent

end Roster
