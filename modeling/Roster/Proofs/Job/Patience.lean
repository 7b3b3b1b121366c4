/-
**Only the groupware can ask a job to stop at once.**

The request to stop at once is the one failure that no job absorbs. The database never makes it, and neither do the
jobs themselves: it comes from the groupware or not at all. So the jobs are ordinary as long as the groupware is
patient, and none of them replaces the groupware or touches the pool of connections.

* `Groupware.IsPatient` — the groupware never asks to stop at once.
* `Patient` — an action that does not either, whatever else it fails with; what is built from such actions is patient.
* `Act.patient_ask`, `Transaction.patient_flush`, `Transaction.patient_read` — a request to patient groupware is
  patient, and **so is every statement**.
* `Standing.patient_requiringUpdate`, `Outbox.patient_drain`, `Reconcile.patient_all` — what the jobs do.
* `Job.exists_table`, `Job.isOrdinaryIn` — **a job reports in a table, or it fails and does not ask to stop at once**.
-/

import Roster.Proofs.Consent.Lookup
import Roster.Proofs.Job.Relay
import Roster.Proofs.Outbox.Enqueue
import Roster.Proofs.Schedule.Once

namespace Roster

open EStateM (Result)

/-- The groupware never asks to stop at once. -/
def Groupware.IsPatient (groupware : Groupware) : Prop :=
  ∀ earlier request, ∀ failure ∈ (groupware earlier request).failure, failure.isInterrupt = false

/-! ### Patient actions -/

/-- **A patient action** keeps what is said of its state, whichever way it ends, and never asks to stop at once. -/
structure Patient {σ α : Type} (tame : σ → Prop) (x : EStateM Failure σ α) : Prop where
  keeps : ∀ s, tame s → tame (endOf (x s))
  fails : ∀ s, tame s → ∀ failure t, x s = .error failure t → failure.isInterrupt = false

namespace Patient

variable {σ α β : Type} {tame : σ → Prop} {x : EStateM Failure σ α}

/-- An action that does not fail. -/
theorem of_ok {a : σ → α} {f : σ → σ} (runs : ∀ s, x s = .ok (a s) (f s)) (kept : ∀ s, tame s → tame (f s)) :
    Patient tame x where
  keeps s behaves := by
    rw [runs]
    exact kept s behaves
  fails s _ failure t ran := by
    rw [runs] at ran
    cases ran

theorem pure (a : α) : Patient tame (pure a : EStateM Failure σ α) := .of_ok (fun _ => rfl) fun _ behaves => behaves

theorem get : Patient tame (get : EStateM Failure σ σ) := .of_ok (fun _ => rfl) fun _ behaves => behaves

theorem modify {f : σ → σ} (kept : ∀ s, tame s → tame (f s)) :
    Patient tame (modify f : EStateM Failure σ PUnit) := .of_ok (fun _ => rfl) kept

theorem throw {failure : Failure} (patient : failure.isInterrupt = false) :
    Patient tame (throw failure : EStateM Failure σ α) where
  keeps _ behaves := behaves
  fails _ _ _ _ ran := by
    cases ran
    exact patient

theorem ofExcept {result : Except Failure α}
    (patient : ∀ failure, result = .error failure → failure.isInterrupt = false) :
    Patient tame (MonadExcept.ofExcept result : EStateM Failure σ α) := by
  cases result with
  | ok a => exact pure a
  | error failure => exact throw (patient failure rfl)

theorem bind {f : α → EStateM Failure σ β} (first : Patient tame x) (rest : ∀ a, Patient tame (f a)) :
    Patient tame (x >>= f) where
  keeps s behaves := by
    have here := first.keeps s behaves
    rw [bind_apply]
    cases ran : x s with
    | ok a t =>
      rw [ran] at here
      exact (rest a).keeps t here
    | error e t =>
      rw [ran] at here
      exact here
  fails s behaves failure t ran := by
    have here := first.keeps s behaves
    rcases bind_eq_error.mp ran with failed | ⟨a, u, first, later⟩
    · exact ‹Patient tame x›.fails s behaves failure t failed
    · rw [first] at here
      exact (rest a).fails u here failure t later

/-- What is read of the state is tame. -/
theorem bind_get {f : σ → EStateM Failure σ β} (rest : ∀ s, tame s → Patient tame (f s)) :
    Patient tame (MonadState.get >>= f) where
  keeps s behaves := (rest s behaves).keeps s behaves
  fails s behaves := (rest s behaves).fails s behaves

theorem ite {c : Prop} [Decidable c] {y : EStateM Failure σ α} (yes : c → Patient tame x)
    (no : ¬ c → Patient tame y) : Patient tame (if c then x else y) := by
  split
  · exact yes ‹c›
  · exact no ‹¬ c›

/-- A handler has to be patient with the failures that can come. -/
theorem tryCatch {handle : Failure → EStateM Failure σ α} (body : Patient tame x)
    (handler : ∀ failure, failure.isInterrupt = false → Patient tame (handle failure)) :
    Patient tame (tryCatch x handle) where
  keeps s behaves := by
    have here := body.keeps s behaves
    rw [tryCatch_apply]
    cases ran : x s with
    | ok a t =>
      rw [ran] at here
      exact here
    | error e t =>
      rw [ran] at here
      exact (handler e (body.fails s behaves e t ran)).keeps t here
  fails s behaves failure t ran := by
    have here := body.keeps s behaves
    rw [tryCatch_apply] at ran
    cases tried : x s with
    | ok a u =>
      rw [tried] at ran
      cases ran
    | error e u =>
      rw [tried] at ran here
      exact (handler e (body.fails s behaves e u tried)).fails u here failure t ran

/-- An action that does nothing but a patient action on a part of its state. -/
theorem of_part {τ : Type} {part : σ → τ} {tame : τ → Prop} {inner : EStateM Failure τ α}
    (patient : Patient tame inner)
    (runs : ∀ s, ∃ t, part t = endOf (inner (part s)) ∧ x s = match inner (part s) with
      | .ok a _ => .ok a t
      | .error failure _ => .error failure t) : Patient (fun s => tame (part s)) x where
  keeps s behaves := by
    obtain ⟨t, same, ran⟩ := runs s
    have ends : endOf (x s) = t := by
      rw [ran]
      cases inner (part s) <;> rfl
    rw [ends, same]
    exact patient.keeps (part s) behaves
  fails s behaves failure t ran := by
    obtain ⟨_, _, runs⟩ := runs s
    rw [runs] at ran
    cases acts : inner (part s) with
    | ok a now =>
      rw [acts] at ran
      cases ran
    | error failed now =>
      rw [acts] at ran
      cases ran
      exact patient.fails (part s) behaves _ _ acts

theorem forM {f : α → EStateM Failure σ PUnit} (each : ∀ a, Patient tame (f a)) (list : List α) :
    Patient tame (list.forM f) := by
  induction list with
  | nil => exact pure PUnit.unit
  | cons a rest ih => exact bind (each a) fun _ => ih

end Patient

/-! ### Among which surroundings -/

section Amid

variable {groupware : Groupware} {pool : Pool} {α β : Type}

/-- The groupware and the pool of connections are these. -/
structure Surroundings.Amid (groupware : Groupware) (pool : Pool) (now : Surroundings) : Prop where
  groupware : now.groupware = groupware
  pool : now.pool = pool

/-- A session runs amid this groupware and this pool. -/
def Session.Amid (groupware : Groupware) (pool : Pool) (session : Session) : Prop :=
  session.surroundings.Amid groupware pool

/-- The world is amid this groupware and this pool. -/
def World.Amid (groupware : Groupware) (pool : Pool) (world : World) : Prop :=
  world.surroundings.Amid groupware pool

namespace Act

theorem patient_note (notice : Notice) : Patient (Surroundings.Amid groupware pool) (note notice) :=
  .modify fun _ amid => ⟨amid.groupware, amid.pool⟩

theorem patient_readClock : Patient (Surroundings.Amid groupware pool) readClock :=
  .bind .get fun _ => .pure _

theorem patient_isCancelled : Patient (Surroundings.Amid groupware pool) isCancelled :=
  .bind .get fun _ => .pure _

theorem patient_cancel : Patient (Surroundings.Amid groupware pool) cancel :=
  .modify fun _ amid => ⟨amid.groupware, amid.pool⟩

theorem patient_inTime (result : Except TimeError α) :
    Patient (Surroundings.Amid groupware pool) (inTime result) := by
  cases result with
  | ok value => exact .pure value
  | error error => exact .throw rfl

theorem patient_issueEntry : Patient (Surroundings.Amid groupware pool) issueEntry :=
  .bind .get fun _ => .bind (.modify fun _ amid => ⟨amid.groupware, amid.pool⟩) fun _ => .pure _

theorem patient_issueMember : Patient (Surroundings.Amid groupware pool) issueMember :=
  .bind .get fun _ => .bind (.modify fun _ amid => ⟨amid.groupware, amid.pool⟩) fun _ => .pure _

theorem patient_issueEvent : Patient (Surroundings.Amid groupware pool) issueEvent :=
  .bind .get fun _ => .bind (.modify fun _ amid => ⟨amid.groupware, amid.pool⟩) fun _ => .pure _

theorem patient_wait (delay : Except TimeError Span) :
    Patient (Surroundings.Amid groupware pool) (wait delay) :=
  .bind patient_readClock fun _ => .bind (patient_inTime _) fun _ => .bind (patient_inTime _) fun _ =>
    .modify fun _ amid => ⟨amid.groupware, amid.pool⟩

/-- An outage is told by the database. -/
theorem patient_send (kind : StatementKind) : Patient (Surroundings.Amid groupware pool) (send kind) where
  keeps now amid := by
    obtain ⟨outage, _, through | ⟨name, message, stopped⟩⟩ := send_cases kind now
    · rw [through]
      exact ⟨amid.groupware, amid.pool⟩
    · rw [stopped]
      exact ⟨amid.groupware, amid.pool⟩
  fails now _ failure after ran := by
    obtain ⟨outage, _, through | ⟨name, message, stopped⟩⟩ := send_cases kind now
    · rw [through] at ran
      cases ran
    · rw [stopped] at ran
      cases ran
      rfl

/-- **A request to patient groupware** is granted or refused, and it does not make the job stop at once. -/
theorem patient_ask (patient : groupware.IsPatient) (request : Request) :
    Patient (Surroundings.Amid groupware pool) (ask request) := by
  have took : ∀ reply : Reply, (∀ failure ∈ reply.failure, failure.isInterrupt = false) →
      Patient (Surroundings.Amid groupware pool) (takeReply reply) := fun reply refuses => by
    refine .bind (.forM patient_note _) fun _ => .bind (patient_wait _) fun _ => ?_
    cases refused : reply.failure with
    | none => exact .ite (fun _ => .bind patient_cancel fun _ => .pure ()) fun _ => .pure ()
    | some failure =>
      have gently := refuses failure refused
      exact .ite (fun _ => .bind patient_cancel fun _ => .throw gently) fun _ => .throw gently
  refine .bind_get fun now amid => ?_
  have reply := took (now.groupware (now.requests.map (·.1)) request)
    (amid.groupware ▸ patient (now.requests.map (·.1)) request)
  have remembers : ∀ granted, Patient (Surroundings.Amid groupware pool)
      (modify fun now => { now with requests := now.requests ++ [(request, granted)] } : Act Unit) :=
    fun _ => .modify fun _ amid => ⟨amid.groupware, amid.pool⟩
  exact .tryCatch (.bind reply fun _ => remembers true) fun failure gently =>
    .bind (remembers false) fun _ => .throw gently

end Act

namespace Transaction

theorem patient_act {action : Act α} (patient : Patient (Surroundings.Amid groupware pool) action) :
    Patient (Session.Amid groupware pool) (act action) :=
  patient.of_part fun session => ⟨{ session with surroundings := endOf (action session.surroundings) }, rfl, by
    unfold act
    cases action session.surroundings <;> rfl⟩

theorem patient_stage (staged : Write) : Patient (Session.Amid groupware pool) (stage staged) :=
  .modify fun _ amid => amid

theorem patient_write (change : Store → Store) : Patient (Session.Amid groupware pool) (write change) :=
  .bind (.modify fun _ amid => amid) fun _ => .bind (patient_act (Act.patient_send _)) fun _ =>
    .bind .get fun _ => .ite (fun _ => .modify fun _ amid => amid) fun _ => .throw rfl

theorem patient_requireSound : Patient (Session.Amid groupware pool) requireSound := by
  refine .bind .get fun session => ?_
  cases session.spoiled with
  | none => exact .pure ()
  | some cause => exact .throw rfl

/-- **What is staged goes out, or the database tells why not.** -/
theorem patient_flush : Patient (Session.Amid groupware pool) flush := by
  refine .bind patient_requireSound fun _ => .bind_get fun session amid =>
    .bind (.of_ok (fun _ => rfl) fun _ _ => amid) fun _ => ?_
  exact .tryCatch (.forM (fun _ => patient_write _) _) fun failure gently =>
    .bind (.modify fun _ amid => amid) fun _ => .throw gently

theorem patient_read (query : Store → α) : Patient (Session.Amid groupware pool) (read query) :=
  .bind patient_flush fun _ => .bind (.modify fun _ amid => amid) fun _ =>
    .bind (patient_act (Act.patient_send _)) fun _ => .bind .get fun _ => .pure _

theorem patient_readOne (query : Store → List α) : Patient (Session.Amid groupware pool) (readOne query) := by
  refine .bind (patient_read query) fun answers => ?_
  match answers with
  | [] => exact .pure _
  | [_] => exact .pure _
  | _ :: _ :: _ => exact .throw rfl

theorem patient_insertSafely (row : Row) : Patient (Session.Amid groupware pool) (insertSafely row) :=
  .bind patient_flush fun _ => patient_write _

theorem patient_commit : Patient (Session.Amid groupware pool) commit :=
  .bind patient_flush fun _ => .bind .get fun _ =>
    .ite (fun _ => patient_act (Act.patient_send _)) fun _ => .pure _

/-- What came of a patient part may be dealt with in any patient way. -/
theorem patient_bind_attempt {body : Transaction α} {f : Except Failure α → Transaction β}
    (patient : Patient (Session.Amid groupware pool) body)
    (granted : ∀ a, Patient (Session.Amid groupware pool) (f (.ok a)))
    (refused : ∀ failure, failure.isInterrupt = false → Patient (Session.Amid groupware pool) (f (.error failure))) :
    Patient (Session.Amid groupware pool) (attempt body >>= f) := by
  have ends : ∀ session, session.Amid groupware pool → ∃ outcome reached, reached.Amid groupware pool
      ∧ Patient (Session.Amid groupware pool) (f outcome) ∧ (attempt body >>= f) session = f outcome reached := by
    intro session amid
    have here := patient.keeps session amid
    rw [bind_apply, attempt]
    cases ran : body session with
    | ok a reached =>
      rw [ran] at here
      exact ⟨.ok a, reached, here, granted a, rfl⟩
    | error failure reached =>
      rw [ran] at here
      exact ⟨.error failure, reached, here, refused failure (patient.fails session amid failure reached ran), rfl⟩
  constructor
  · intro session amid
    obtain ⟨outcome, reached, amidThen, later, runs⟩ := ends session amid
    rw [runs]
    exact later.keeps reached amidThen
  · intro session amid failure after ran
    obtain ⟨outcome, reached, amidThen, later, runs⟩ := ends session amid
    rw [runs] at ran
    exact later.fails reached amidThen failure after ran

end Transaction

namespace Application

theorem patient_act {action : Act α} (patient : Patient (Surroundings.Amid groupware pool) action) :
    Patient (World.Amid groupware pool) (act action) :=
  patient.of_part fun world => ⟨{ world with surroundings := endOf (action world.surroundings) }, rfl, by
    unfold act
    cases action world.surroundings <;> rfl⟩

/-- **A transaction is patient if its body is.** -/
theorem patient_transact {body : Transaction (α × Ending)}
    (patient : Patient (Session.Amid groupware pool) body) :
    Patient (World.Amid groupware pool) (transact body) where
  keeps world amid := by
    have here := patient.keeps world.session amid
    rw [transact_apply]
    cases ran : body world.session with
    | error failure session =>
      rw [ran] at here
      exact here
    | ok ended session =>
      rw [ran] at here
      obtain ⟨result, ending⟩ := ended
      cases ending with
      | discard => exact here
      | keep =>
        have later := Transaction.patient_commit.keeps session here
        dsimp only
        cases commits : Transaction.commit session with
        | error failure final =>
          rw [commits] at later
          exact later
        | ok _ final =>
          rw [commits] at later
          exact later
  fails world amid failure after ran := by
    obtain ⟨_, ⟨session, failed, _⟩ | ⟨result, session, final, kept, failed, _⟩⟩ := transact_error ran
    · exact patient.fails world.session amid failure session failed
    · have here := patient.keeps world.session amid
      rw [kept] at here
      exact Transaction.patient_commit.fails session here failure final failed

end Application

/-! ### What the jobs do -/

namespace Consent

/-- Somebody without an entry is no reason to stop at once. -/
theorem patient_versionsOfAll (users : List Uuid) (among : Option (List Uuid)) :
    Patient (Session.Amid groupware pool) (versionsOfAll users among) := by
  refine .ite (fun _ => .pure _) fun _ => .ite (fun _ => .pure _) fun _ =>
    .bind (Transaction.patient_read _) fun agreements => ?_
  refine .ofExcept fun failure failed => ?_
  obtain ⟨user, rfl⟩ := foldlM_enter_error failed
  rfl

end Consent

namespace Standing

theorem patient_withAllConsents (users : List Uuid) (now : Instant) (scope : Option Uuid) :
    Patient (Session.Amid groupware pool) (withAllConsents users now scope) :=
  .ite (fun _ => .pure _) fun _ => .bind (Transaction.patient_read _) fun _ => .ite (fun _ => .pure _) fun _ =>
    .bind (Consent.patient_versionsOfAll _ _) fun _ => .pure _

theorem patient_withExpiredConsent (users : List Uuid) (now : Instant) (scope : Option Uuid) :
    Patient (Session.Amid groupware pool) (withExpiredConsent users now scope) :=
  .ite (fun _ => .pure _) fun _ => .bind (Transaction.patient_read _) fun _ =>
    .bind (Transaction.patient_act (Act.patient_inTime _)) fun _ => .ite (fun _ => .pure _) fun _ =>
      .bind (Consent.patient_versionsOfAll _ _) fun _ => .pure _

theorem patient_requiringUpdate (now : Instant) :
    Patient (Session.Amid groupware pool) (requiringUpdate now) :=
  .bind (Transaction.patient_read _) fun _ => .bind (patient_withExpiredConsent _ _ _) fun _ =>
    .ite (fun _ => .bind (Transaction.patient_act (Act.patient_note _)) fun _ => .pure _) fun _ => .pure _

end Standing

theorem Eligibility.patient_builtIn {kind : TeamKind} {rule : Eligibility} (builtIn : builtIn? kind = some rule)
    (now : Instant) : Patient (Session.Amid groupware pool) (rule now) := by
  cases kind with
  | none => cases builtIn
  | volunteers =>
    cases builtIn
    exact .bind (Transaction.patient_read _) fun _ => Standing.patient_withAllConsents _ _ _
  | metaleads =>
    cases builtIn
    exact Transaction.patient_read _
  | board =>
    cases builtIn
    exact Transaction.patient_read _

theorem Audit.patient_append (report : Report) : Patient (Session.Amid groupware pool) (append report) :=
  .bind (Transaction.patient_act Act.patient_issueEntry) fun _ =>
    .bind (Transaction.patient_act Act.patient_readClock) fun _ => .bind (Transaction.patient_stage _) fun _ =>
      .bind (Transaction.patient_act (Act.patient_note _)) fun _ => .pure _

namespace Outbox

theorem patient_supersedeOpposite (order : Order) (moment : Instant) :
    Patient (Session.Amid groupware pool) (supersedeOpposite order moment) := by
  unfold supersedeOpposite
  cases order.kind.opposite? with
  | none => exact .pure ()
  | some opposite =>
    exact .bind (Transaction.patient_read _) fun _ => .forM (fun event =>
      .bind (Transaction.patient_stage _) fun _ => Transaction.patient_act (Act.patient_note _)) _

theorem patient_insertEvent (event : OutboxEvent) :
    Patient (Session.Amid groupware pool) (insertEvent event) := by
  have notes : ∀ notice, Patient (Session.Amid groupware pool) (Transaction.act (Act.note notice)) :=
    fun notice => Transaction.patient_act (Act.patient_note notice)
  refine .bind (.tryCatch (.bind (Transaction.patient_insertSafely _) fun _ => .bind (notes _) fun _ => .pure _)
    fun failure gently => ?_) fun ended => ?_
  · refine .ite (fun _ => .bind (notes _) fun _ => .pure _) fun _ =>
      .ite (fun _ => .bind (notes _) fun _ => .bind (.throw ?_) fun _ => .pure _) fun _ =>
        .bind (.throw gently) fun _ => .pure _
    rfl
  · cases ended <;> exact .pure _

theorem patient_enqueue (order : Order) : Patient (Session.Amid groupware pool) (enqueue order) := by
  have placed : ∀ isPending, Patient (Session.Amid groupware pool) (placeUnless order isPending) := fun _ =>
    .ite (fun _ => .bind (Transaction.patient_act (Act.patient_note _)) fun _ => .pure none) fun _ =>
      .bind (Transaction.patient_act Act.patient_readClock) fun _ => .bind (patient_supersedeOpposite _ _) fun _ =>
        .bind (Transaction.patient_act Act.patient_issueEvent) fun _ => patient_insertEvent _
  cases race : order.isRace with
  | true =>
    rw [enqueue_of_race race]
    exact placed false
  | false =>
    rw [enqueue_of_not_race race]
    exact .bind (Transaction.patient_read _) placed

variable (patient : groupware.IsPatient)

include patient

theorem patient_dispatch (event : OutboxEvent) : Patient (Surroundings.Amid groupware pool) (dispatch event) := by
  unfold dispatch
  cases event.kind with
  | add => exact Act.patient_ask patient _
  | remove => exact Act.patient_ask patient _
  | other label => exact .throw rfl

/-- A failure of the groupware stays with its event. -/
theorem patient_relay (policy : Policy) (event : OutboxEvent) (moment : Instant) (report : DrainReport) :
    Patient (Session.Amid groupware pool) (relay policy event moment report) := by
  refine Transaction.patient_bind_attempt (Transaction.patient_act (patient_dispatch patient event)) ?_ ?_
  · exact fun _ => .bind (Transaction.patient_stage _) fun _ => .pure _
  · intro failure gently
    refine .ite (fun interrupt => ?_) fun _ => .bind (Transaction.patient_stage _) fun _ =>
      .bind (Transaction.patient_act ?_) fun _ => .pure _
    · rw [gently] at interrupt
      cases interrupt
    · exact .ite (fun _ => Act.patient_note _) fun _ => Act.patient_note _

theorem patient_relayAll (policy : Policy) (mode : DrainMode) (batch : List OutboxEvent) (report : DrainReport) :
    Patient (Session.Amid groupware pool) (relayAll policy mode batch report) := by
  induction batch generalizing report with
  | nil => exact .pure report
  | cons event rest ih =>
    exact .bind (Transaction.patient_act Act.patient_isCancelled) fun _ =>
      .ite (fun _ => .bind (Transaction.patient_act (Act.patient_note _)) fun _ => .pure _) fun _ =>
        .bind (Transaction.patient_act Act.patient_readClock) fun _ =>
          .bind (patient_relay patient _ _ _ _) fun relayed => ih relayed

theorem patient_drain (policy : Policy) (mode : DrainMode) :
    Patient (Session.Amid groupware pool) (drain policy mode) := by
  have notes : ∀ notice, Patient (Session.Amid groupware pool) (Transaction.act (Act.note notice)) :=
    fun notice => Transaction.patient_act (Act.patient_note notice)
  exact .bind (Transaction.patient_read _) fun _ => .ite (fun _ => .bind (notes _) fun _ => .pure _) fun _ =>
    .bind (patient_relayAll patient _ _ _ _) fun _ => .bind Transaction.patient_flush fun _ =>
      .bind (notes _) fun _ => .pure _

end Outbox

namespace Reconcile

theorem patient_add (mode : Mode) (team : Team) (names : List (Uuid × String)) (user : Uuid) :
    Patient (Session.Amid groupware pool) (add mode team names user) :=
  .bind (Transaction.patient_act Act.patient_issueMember) fun _ => .bind (Transaction.patient_stage _) fun _ =>
    .bind (Audit.patient_append _) fun _ => .bind (Outbox.patient_enqueue _) fun _ => .pure _

theorem patient_remove (mode : Mode) (team : Team) (names : List (Uuid × String)) (stay : TeamMember) :
    Patient (Session.Amid groupware pool) (remove mode team names stay) :=
  .bind (Transaction.patient_stage _) fun _ => .bind (Audit.patient_append _) fun _ =>
    .bind (Outbox.patient_enqueue _) fun _ => .pure _

theorem patient_applyDifference (mode : Mode) (team : Team) (stays : List TeamMember) (added removed : List Uuid) :
    Patient (Session.Amid groupware pool) (applyDifference mode team stays added removed) := by
  refine .bind (Transaction.patient_read _) fun names => .bind (.forM (patient_add mode team names) _) fun _ =>
    .bind (.forM (fun user => ?_) _) fun _ => Transaction.patient_stage _
  cases stays.find? (·.user = user) with
  | none => exact .pure ()
  | some stay => exact patient_remove _ _ _ _

theorem patient_body {kind : TeamKind} {rule : Eligibility} (mode : Mode)
    (patient : Patient (Session.Amid groupware pool) (rule mode.now)) :
    Patient (Session.Amid groupware pool) (body kind rule mode) := by
  have notes : ∀ notice, Patient (Session.Amid groupware pool) (Transaction.act (Act.note notice)) :=
    fun notice => Transaction.patient_act (Act.patient_note notice)
  refine .bind (Transaction.patient_readOne _) fun found => ?_
  cases found with
  | none => exact .bind (notes _) fun _ => .pure _
  | some team =>
    exact .bind (Transaction.patient_read _) fun _ => .bind patient fun _ =>
      .ite (fun _ => .bind (notes _) fun _ => .pure _) fun _ =>
        .bind (patient_applyDifference _ _ _ _ _) fun _ => .pure _

theorem patient_pass (kind : TeamKind) (mode : Mode) :
    Patient (World.Amid groupware pool) (pass kind none mode) := by
  have notes : ∀ notice, Patient (World.Amid groupware pool) (Application.act (Act.note notice)) :=
    fun notice => Application.patient_act (Act.patient_note notice)
  unfold pass
  cases builtIn : Eligibility.builtIn? kind with
  | none => exact .throw rfl
  | some rule =>
    have transacts := Application.patient_transact
      (@patient_body groupware pool kind rule mode (Eligibility.patient_builtIn builtIn _))
    refine .bind (.tryCatch transacts fun failure gently =>
      .ite (fun _ => .bind (notes _) fun _ => .throw gently) fun _ => .throw gently) fun outcome => ?_
    obtain ⟨result, synced⟩ := outcome
    cases synced with
    | none => exact .pure _
    | some name => exact .bind (notes _) fun _ => .pure _

theorem patient_passes (mode : Mode) (kinds : List TeamKind) :
    Patient (World.Amid groupware pool) (passes mode kinds) := by
  induction kinds with
  | nil => exact .pure _
  | cons kind rest ih =>
    exact .bind (Application.patient_act Act.patient_isCancelled) fun _ =>
      .ite (fun _ => .bind (Application.patient_act (Act.patient_note _)) fun _ => .pure _) fun _ =>
        .bind (patient_pass _ _) fun _ => .bind ih fun _ => .pure _

theorem patient_all (mode : Mode) : Patient (World.Amid groupware pool) (all mode) :=
  .bind (Application.patient_act (Act.patient_note _)) fun _ => .bind (patient_passes _ _) fun _ =>
    .bind (Application.patient_act (Act.patient_note _)) fun _ => .pure _

end Reconcile

namespace Job

/-- **No job asks to stop at once of its own accord**, and none exchanges the groupware or the pool. -/
theorem patient_perform (patient : groupware.IsPatient) (job : Job) (settings : Settings) (now : Instant) :
    Patient (World.Amid groupware pool) (job.perform settings now) := by
  have notes : ∀ notice, Patient (World.Amid groupware pool) (Application.act (Act.note notice)) :=
    fun notice => Application.patient_act (Act.patient_note notice)
  cases job with
  | processOutbox =>
    exact .bind (Application.patient_transact (.bind (Outbox.patient_drain patient _ _) fun _ => .pure _)) fun _ =>
      .ite (fun _ => .bind (notes _) fun _ => .pure _) fun _ => .pure _
  | systemTeamSync => exact .bind (Reconcile.patient_all _) fun _ => .pure _
  | complianceCheck =>
    exact .bind (Application.patient_transact (.bind (Standing.patient_requiringUpdate now) fun _ => .pure _))
      fun _ => .bind (.forM (fun _ => notes _) _) fun _ => .pure _

/-- **A job reports in a table.** -/
theorem exists_table {job : Job} {settings : Settings} {now : Instant} {world after : World} {report : Value}
    (ran : job.perform settings now world = .ok report after) : ∃ fields, report = .table fields := by
  cases job with
  | processOutbox =>
    obtain ⟨_, _, _, _, rfl, _⟩ := relayEvents_ok ran
    exact ⟨_, rfl⟩
  | systemTeamSync =>
    obtain ⟨run, _, _, ⟨⟩⟩ := bind_eq_ok.mp ran
    exact ⟨_, rfl⟩
  | complianceCheck =>
    obtain ⟨_, _, _, ran⟩ := bind_eq_ok.mp ran
    obtain ⟨_, _, _, ⟨⟩⟩ := bind_eq_ok.mp ran
    exact ⟨_, rfl⟩

/-- **Among patient groupware every schedule of a job is ordinary.** -/
theorem isOrdinaryIn (patient : groupware.IsPatient) {job : Job} {settings : Settings} {schedule : Schedule}
    (performs : schedule.work = job.perform settings) : schedule.IsOrdinaryIn (World.Amid groupware pool) where
  reports now world report after _ ran _ := by
    rw [performs] at ran
    exact exists_table ran
  patient now world failure after amid ran := by
    rw [performs] at ran
    exact (patient_perform patient job settings now).fails world amid failure after ran
  keeps now world amid := by
    rw [performs]
    exact (patient_perform patient job settings now).keeps world amid

end Job

end Amid

end Roster
