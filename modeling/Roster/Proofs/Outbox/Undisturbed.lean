/-
**A drain that nobody disturbs.**

While the database answers and nobody interrupts it, a drain returns, whatever the groupware replies: each
failure is kept by its own event. Only the signal to stop ends it early, where it is heeded, and then before
an event, never in the middle of one.

* `Surroundings.Undisturbed` — the database answers and nobody stops the drain; the groupware answers as it
  likes. Where the signal is not heeded, or may be raised, `Undisturbed false` is what is left of this.
* `OneByOne` — **attempts one after another**, each with the time it was made at and what came of it.
* `relay_of_undisturbed` — one event is relayed; `relayAll_of_undisturbed` — a whole batch is, up to the
  signal.
* `drain_oneByOne` — **a drain returns after such attempts**; `drain_of_undisturbed` — and uncancelled, if
  nobody raises the signal.
-/

import Roster.Proofs.Outbox.Drain

namespace Roster

open EStateM (Result)

/-! ### Nobody disturbs a drain -/

/-- **Nobody disturbs a drain**: the database answers, and nobody stops it, neither by an interrupt nor, where
it is heeded, by the signal. The groupware may grant and refuse as it likes. -/
structure Surroundings.Undisturbed (heeds : Bool) (now : Surroundings) : Prop where
  up : now.IsUp
  uninterrupted : ∀ earlier request, ∀ failure ∈ (now.groupware earlier request).failure,
    failure.isInterrupt = false
  unstopped : heeds = true →
    now.cancelled = false ∧ ∀ earlier request, (now.groupware earlier request).stops = false

theorem Surroundings.Undisturbed.of_same {heeds : Bool} {before after : Surroundings}
    (undisturbed : before.Undisturbed heeds) (groupware : after.groupware = before.groupware)
    (up : after.IsUp) (signal : heeds = true → after.cancelled = before.cancelled) :
    after.Undisturbed heeds := by
  refine ⟨up, ?_, fun heeded => ⟨(signal heeded).trans (undisturbed.unstopped heeded).1, ?_⟩⟩
  · rw [groupware]
    exact undisturbed.uninterrupted
  · rw [groupware]
    exact (undisturbed.unstopped heeded).2

/-- The signal to stop is as it was. -/
def Surroundings.SameSignal (before after : Surroundings) : Prop := after.cancelled = before.cancelled

instance : IsPreorder Surroundings Surroundings.SameSignal where
  refl _ := rfl
  trans _ _ _ first second := Eq.trans second first

namespace Act

theorem inTime_error {α : Type} {result : Except TimeError α} {now after : Surroundings}
    {failure : Failure} (ran : inTime result now = .error failure after) :
    ∃ error, failure = .time error := by
  cases result with
  | ok value => cases ran
  | error error =>
    cases ran
    exact ⟨error, rfl⟩

theorem wait_error {delay : Except TimeError Span} {now after : Surroundings} {failure : Failure}
    (ran : wait delay now = .error failure after) : ∃ error, failure = .time error := by
  have reads : readClock now = .ok now.clock now := rfl
  rw [wait, bind_of_ok reads] at ran
  obtain unread | ⟨span, _, _, ran⟩ := bind_eq_error.mp ran
  · exact inTime_error unread
  · obtain late | ⟨later, _, _, moves⟩ := bind_eq_error.mp ran
    · exact inTime_error late
    · cases moves

/-- **A reply fails as it says**, or because it takes too long. -/
theorem takeReply_error {reply : Reply} {now after : Surroundings} {failure : Failure}
    (ran : takeReply reply now = .error failure after) :
    reply.failure = some failure ∨ ∃ error, failure = .time error := by
  obtain noted | ⟨_, _, _, ran⟩ := bind_eq_error.mp ran
  · obtain ⟨_, _, _, _, _, _, ⟨⟩⟩ := forM_eq_error.mp noted
  obtain waited | ⟨_, later, _, ran⟩ := bind_eq_error.mp ran
  · exact .inr (wait_error waited)
  · cases refused : reply.failure with
    | none =>
      rw [refused] at ran
      cases stops : reply.stops <;> rw [stops] at ran <;> cases ran
    | some refusal =>
      rw [refused] at ran
      cases stops : reply.stops <;> rw [stops] at ran <;> cases ran <;> exact .inl rfl

/-- A reply that does not raise the signal to stop leaves it as it was. -/
theorem keeps_signal_takeReply {reply : Reply} (silent : reply.stops = false) :
    Keeps Surroundings.SameSignal (takeReply reply) := by
  have notes : ∀ notice, Keeps Surroundings.SameSignal (note notice) := fun _ _ => rfl
  have reads : Keeps Surroundings.SameSignal readClock := fun _ => rfl
  have inTimes : ∀ {α : Type} (result : Except TimeError α),
      Keeps Surroundings.SameSignal (inTime result) := fun result => by
    cases result with
    | ok value => exact Keeps.pure value
    | error error => exact Keeps.throw (Failure.time error)
  have waits : Keeps Surroundings.SameSignal (wait reply.delay) :=
    Keeps.bind reads fun _ => Keeps.bind (inTimes _) fun _ => Keeps.bind (inTimes _) fun _ =>
      Keeps.modify fun _ => rfl
  refine Keeps.bind (Keeps.forM notes _) fun _ => Keeps.bind waits fun _ => ?_
  rw [silent]
  cases reply.failure with
  | some failure => exact Keeps.throw failure
  | none => exact Keeps.pure ()

/-- **A request to groupware that disturbs nobody** is answered, granted or not, and the next one will be. -/
theorem ask_of_undisturbed {heeds : Bool} {now : Surroundings} (request : Request)
    (undisturbed : now.Undisturbed heeds) : (endOf (ask request now)).Undisturbed heeds
      ∧ ∀ failure after, ask request now = .error failure after → failure.isInterrupt = false := by
  have took := keeps_takeReply (now.groupware (now.requests.map (·.1)) request) now
  have signal : heeds = true →
      (endOf (takeReply (now.groupware (now.requests.map (·.1)) request) now)).cancelled
        = now.cancelled := fun heeded =>
    keeps_signal_takeReply ((undisturbed.unstopped heeded).2 _ _) now
  rw [ask_apply]
  cases ran : takeReply (now.groupware (now.requests.map (·.1)) request) now with
  | ok _ after =>
    rw [ran] at took signal
    refine ⟨undisturbed.of_same took.groupware (took.up undisturbed.up) signal, ?_⟩
    rintro _ _ ⟨⟩
  | error failure after =>
    rw [ran] at took signal
    refine ⟨undisturbed.of_same took.groupware (took.up undisturbed.up) signal, ?_⟩
    rintro _ _ ⟨⟩
    rcases takeReply_error ran with refused | ⟨error, rfl⟩
    · exact undisturbed.uninterrupted _ _ failure refused
    · rfl

end Act

/-- Between two moments nothing happened but that notes were taken. -/
def Surroundings.Noted (before after : Surroundings) : Prop :=
  after = { before with journal := after.journal }

theorem Surroundings.noted_journal (now : Surroundings) (journal : List Notice) :
    now.Noted { now with journal } := rfl

theorem Surroundings.Undisturbed.of_noted {heeds : Bool} {before after : Surroundings}
    (undisturbed : before.Undisturbed heeds) (noted : before.Noted after) : after.Undisturbed heeds := by
  rw [noted]
  exact ⟨undisturbed.up, undisturbed.uninterrupted, undisturbed.unstopped⟩

namespace Outbox

variable {policy : Policy} {mode : DrainMode} {session : Session} {heeds : Bool}

theorem dispatch_of_undisturbed {heeds : Bool} {now : Surroundings} (event : OutboxEvent)
    (undisturbed : now.Undisturbed heeds) : (endOf (dispatch event now)).Undisturbed heeds
      ∧ ∀ failure after, dispatch event now = .error failure after → failure.isInterrupt = false := by
  unfold dispatch
  cases event.kind with
  | add => exact Act.ask_of_undisturbed _ undisturbed
  | remove => exact Act.ask_of_undisturbed _ undisturbed
  | other label =>
    refine ⟨undisturbed, ?_⟩
    rintro _ _ ⟨⟩
    rfl

/-- **Every event is relayed**, granted or not: then it was attempted, and the failure that came of it was
noted at most. -/
theorem relay_of_undisturbed (event : OutboxEvent) (moment : Instant) (report : DrainReport)
    (undisturbed : session.surroundings.Undisturbed heeds) :
    ∃ attempt now, attempt = attemptAt event moment session.surroundings ∧ now.Undisturbed heeds
      ∧ (endOf (dispatch event session.surroundings)).Noted now
      ∧ session.surroundings.Asked attempt.calls now
      ∧ relay policy event moment report session = .ok (report.add policy attempt) { session with
          surroundings := now
          staged := session.staged ++ [.change (.event (attempt.outcome policy))] } := by
  obtain ⟨dispatched, patient⟩ := dispatch_of_undisturbed event undisturbed
  obtain ⟨attempt, now, made, _, asked, noted, relays | ⟨failure, interrupt, refused, _⟩⟩ :=
    relay_cases policy event moment report session
  · exact ⟨attempt, now, made, dispatched.of_noted noted, noted, asked, relays⟩
  · rw [patient _ _ refused] at interrupt
    cases interrupt

/-- A drain stops here: the signal is raised and heeded. -/
def DrainMode.isStopped (mode : DrainMode) (now : Surroundings) : Bool :=
  mode.heedsCancel && now.cancelled

/-- **Attempts one after another**, from one moment to another. Each was made at the given time, or else at the
time on the clock, and not after the signal to stop; what came of it came of dispatching its event there and
then, and between the attempts nothing happened but that notes were taken. -/
inductive OneByOne (mode : DrainMode) : Surroundings → List Attempt → Surroundings → Prop where
  | none {now final : Surroundings} (noted : now.Noted final) : OneByOne mode now [] final
  | cons {now next final : Surroundings} {attempts : List Attempt} (event : OutboxEvent)
      (goes : mode.isStopped now = false) (noted : (endOf (dispatch event now)).Noted next)
      (later : OneByOne mode next attempts final) :
      OneByOne mode now (attemptAt event (mode.now.getD now.clock) now :: attempts) final

theorem OneByOne.noted {attempts : List Attempt} {now final last : Surroundings}
    (made : OneByOne mode now attempts final) (noted : final.Noted last) :
    OneByOne mode now attempts last := by
  induction made with
  | none before => exact .none (noted.trans (before ▸ rfl))
  | cons event goes between later ih => exact .cons event goes between (ih noted)

/-- **An event of an unknown kind fails**, whatever the groupware does. -/
theorem OneByOne.failure_of_unknown {attempts : List Attempt} {now final : Surroundings}
    (made : OneByOne mode now attempts final) {attempt : Attempt} (member : attempt ∈ attempts)
    {label : String} (unknown : attempt.event.kind = .other label) :
    attempt.failure = some (.unknownEventKind (.text label)) := by
  induction made with
  | none => cases member
  | cons event goes noted later ih =>
    rcases List.mem_cons.mp member with rfl | rest
    · have kind : event.kind = .other label := unknown
      simp only [attemptAt, dispatch, kind]
      rfl
    · exact ih rest

/-- **Every batch is relayed**, to its end or up to the signal. -/
theorem relayAll_of_undisturbed (batch : List OutboxEvent) (report : DrainReport)
    (undisturbed : session.surroundings.Undisturbed heeds) (unstopped : report.cancelled = false) :
    ∃ attempts final, OneByOne mode session.surroundings attempts final ∧ final.Undisturbed heeds
      ∧ attempts.map Attempt.event <+: batch
      ∧ (attempts.length < batch.length → mode.isStopped final = true)
      ∧ session.surroundings.Asked (attempts.flatMap Attempt.calls) final
      ∧ relayAll policy mode batch report session
        = .ok { attempts.foldl (DrainReport.add policy) report with
            cancelled := decide (attempts.length < batch.length) } { session with
            surroundings := final
            staged := session.staged ++ eventChanges (attempts.map (Attempt.outcome policy)) } := by
  -- While the batch lasts the report is not cancelled; the induction carries that along.
  induction batch generalizing report session with
  | nil =>
    refine ⟨[], session.surroundings, .none rfl, undisturbed, List.prefix_rfl,
      fun fewer => absurd fewer (Nat.lt_irrefl _),
      (refl_of Surroundings.Calm session.surroundings).asked, ?_⟩
    simp [relayAll, eventChanges, ← unstopped]
  | cons event rest ih =>
    rw [relayAll_cons]
    by_cases stopped : (mode.heedsCancel && session.surroundings.cancelled) = true
    · rw [if_pos stopped]
      let journal : List Notice := session.surroundings.journal
        ++ [.drainCancelled report.processed.length report.failed.length
          (report.selected - report.processed.length - report.failed.length)]
      have noted := session.surroundings.noted_journal journal
      refine ⟨[], _, .none noted, undisturbed.of_noted noted, List.nil_prefix, fun _ => stopped,
        (session.surroundings.calm_journal journal).asked, ?_⟩
      simp [eventChanges, journal]
    · rw [if_neg stopped]
      obtain ⟨attempt, next, here, undisturbedThen, noted, asked, relays⟩ :=
        @relay_of_undisturbed policy session _ event (mode.now.getD session.surroundings.clock) report
          undisturbed
      have still : (report.add policy attempt).cancelled = false := by
        rw [← unstopped, DrainReport.add]
        cases attempt.failure <;> rfl
      obtain ⟨attempts, final, later, undisturbedLast, first, stops, more, rests⟩ := @ih
        { session with
          surroundings := next
          staged := session.staged ++ [.change (.event (attempt.outcome policy))] }
        (report.add policy attempt) undisturbedThen still
      have same : attempt.event = event := here ▸ rfl
      have goes : mode.isStopped session.surroundings = false := Bool.eq_false_iff.mpr stopped
      refine ⟨attempt :: attempts, final, here ▸ .cons event goes noted later, undisturbedLast, ?_,
        fun fewer => stops (Nat.lt_of_succ_lt_succ fewer), asked.trans more, ?_⟩
      · rw [List.map_cons, same]
        exact (List.prefix_cons_inj event).mpr first
      · rw [relays]
        dsimp only
        rw [rests]
        simp [eventChanges]

/-- What some attempts left staged can be sent. -/
theorem exists_flush_attempts {attempts : List Attempt} {store : Store} (valid : store.Valid)
    (whole : IsBatch store (attempts.map Attempt.event)) {staging : Session}
    (same : staging.store = store) (up : staging.surroundings.IsUp) (sound : staging.spoiled = none)
    (staged : staging.staged = eventChanges (attempts.map (Attempt.outcome policy))) :
    ∃ sent, Transaction.flush staging = .ok () sent
      ∧ sent.surroundings = staging.surroundings := by
  obtain rfl := same
  have along : staging.store.ValidAlong (statements staging.store staging.staged) := by
    rw [staged]
    refine valid.along_statements ?_ (fun change member => alteredColumns_outcome valid whole member)
      (fun change member => keepsKey_outcome valid whole member)
    rw [map_id_outcome]
    exact whole.ids
  obtain ⟨opened, flushes⟩ := Transaction.flush_of_isUp up sound along
  exact ⟨_, flushes, rfl⟩

/-- The report of a drain that made some attempts at a batch. -/
def reportOf (policy : Policy) (batch : List OutboxEvent) (attempts : List Attempt) : DrainReport :=
  { attempts.foldl (DrainReport.add policy) { selected := batch.length } with
    cancelled := decide (attempts.length < batch.length) }

theorem reportOf_tells (policy : Policy) (batch : List OutboxEvent) (attempts : List Attempt) :
    (reportOf policy batch attempts).Tells batch attempts := by
  obtain ⟨selected, _, processed, failed⟩ := foldl_add policy attempts { selected := batch.length }
  exact ⟨selected, processed, failed, decide_eq_true_iff⟩

/-- **A drain returns after attempts at the first events of its batch**, one after another. It stops before
the end of the batch only where the signal is raised and heeded. -/
theorem drain_oneByOne (settled : session.Settled) (undisturbed : session.surroundings.Undisturbed heeds) :
    let batch := pendingIn policy.batchSize policy.maxRetry session.store
    ∃ attempts after, drain policy mode session = .ok (reportOf policy batch attempts) after
      ∧ OneByOne mode session.surroundings attempts after.surroundings
      ∧ after.surroundings.Undisturbed heeds
      ∧ Drained policy batch session after (reportOf policy batch attempts) attempts
      ∧ (attempts.length < batch.length → mode.isStopped after.surroundings = true) := by
  intro batch
  let asked : Session := { session with opened := true }
  have reads : pending policy.batchSize policy.maxRetry session = .ok batch asked :=
    Transaction.read_of_settled settled undisturbed.up
  have whole : IsBatch session.store batch := isBatch_pendingIn settled.valid _ _
  rw [drain, bind_of_ok reads, drainBatch]
  clear_value batch
  by_cases idle : batch.isEmpty = true
  · obtain rfl := List.isEmpty_iff.mp idle
    rw [if_pos idle]
    refine ⟨[], _, rfl, .none (session.surroundings.noted_journal _),
      undisturbed.of_noted (session.surroundings.noted_journal _),
      ⟨⟨settled.staged, settled.sound, settled.valid⟩, List.prefix_rfl, reportOf_tells policy [] [],
        (session.surroundings.calm_journal _).asked, ?_⟩, fun fewer => absurd fewer (Nat.lt_irrefl _)⟩
    rw [attemptedAll, List.map_nil, Store.updated_nil]
  · obtain ⟨attempts, final, made, undisturbedLast, first, stops, calls, relays⟩ :=
      @relayAll_of_undisturbed policy mode asked heeds batch { selected := batch.length } undisturbed rfl
    have tried := whole.of_first first
    have staged : asked.staged ++ eventChanges (attempts.map (Attempt.outcome policy))
        = eventChanges (attempts.map (Attempt.outcome policy)) := by
      rw [settled.staged, List.nil_append]
    obtain ⟨sent, flushes, same⟩ := @exists_flush_attempts policy attempts _ settled.valid tried
      { asked with surroundings := final, staged := _ } rfl undisturbedLast.up settled.sound staged
    replace same : sent.surroundings = final := same
    obtain ⟨settledAfter, store⟩ := flush_attempts_ok flushes settled.valid tried staged
    rw [if_neg idle, bind_of_ok relays, bind_of_ok flushes]
    have noted (journal : List Notice) : final.Noted { sent.surroundings with journal } := by
      rw [same]
      rfl
    refine ⟨attempts, _, rfl, made.noted (noted _), undisturbedLast.of_noted (noted _),
      ⟨⟨settledAfter.staged, settledAfter.sound, settledAfter.valid⟩, first,
        reportOf_tells policy batch attempts, ?_, store⟩, fun fewer => ?_⟩
    · exact calls.trans_calm (same ▸ sent.surroundings.calm_journal _)
    · rw [← stops fewer, ← same]
      rfl

/-- **A drain that nobody disturbs returns**, uncancelled. -/
theorem drain_of_undisturbed (settled : session.Settled)
    (undisturbed : session.surroundings.Undisturbed mode.heedsCancel) :
    ∃ report after, drain policy mode session = .ok report after ∧ report.cancelled = false := by
  obtain ⟨attempts, after, ran, _, undisturbedAfter, drained, stops⟩ :=
    @drain_oneByOne policy mode session _ settled undisturbed
  refine ⟨_, after, ran, Bool.eq_false_iff.mpr fun cancelled => ?_⟩
  -- It would have been cancelled at the end, by a signal that is heeded and yet never raised.
  have stopped := stops (drained.tells.cancelled.mp cancelled)
  rw [DrainMode.isStopped, Bool.and_eq_true] at stopped
  rw [(undisturbedAfter.unstopped stopped.1).1] at stopped
  exact Bool.false_ne_true stopped.2

end Outbox

end Roster
