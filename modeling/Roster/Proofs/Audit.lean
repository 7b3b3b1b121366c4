/-
**Reading the audit log.**

A read picks the entries that are asked for, puts the newest first and shows as many as are wanted. What was asked for
is decided before anything is left out, so an entry is left out only for newer ones, or for those of the same instant
that were written before it. Whatever a pass over a derived team changed can therefore be found under the team and
under the user, as soon as the limit is as large as the log.

* `IsNewestFirst`, `isNewestFirst_newestFirst`, `IsNewestFirst.unique` — **the one order** in which entries are shown.
* `Shows`, `shows_newestIn` — what a read shows.
* `IsTrace`, `exists_trace` — the entry that a pass leaves of each change.
* `reads_are_complete_and_newest_first` — **what all three reads show**, and that they show each change of a pass;
  `turnover_is_found` — a pass in which one user joins and another one leaves.
-/

import Roster.Proofs.Reconcile.Atomicity
import Roster.Proofs.Reconcile.Imposed
import Roster.Proofs.Sorting

namespace Roster.Audit

variable {entries ordered other shown : List AuditEntry} {store : Store} {limit : Nat}

/-! ### The newest first -/

/-- The entries of one instant, as they stand. -/
def ofInstant (micros : Int) (entries : List AuditEntry) : List AuditEntry :=
  entries.filter fun entry => entry.occurredAt.micros = micros

theorem ofInstant_cons_of_eq {micros : Int} {entry : AuditEntry} (same : entry.occurredAt.micros = micros) :
    ofInstant micros (entry :: entries) = entry :: ofInstant micros entries :=
  List.filter_cons_of_pos (decide_eq_true same)

theorem ofInstant_cons_of_ne {micros : Int} {entry : AuditEntry} (apart : entry.occurredAt.micros ≠ micros) :
    ofInstant micros (entry :: entries) = ofInstant micros entries :=
  List.filter_cons_of_neg (mt of_decide_eq_true apart)

/-- **Entries in the order in which they are shown**: the newest first, and those of one instant as they were
written. -/
structure IsNewestFirst (entries ordered : List AuditEntry) : Prop where
  perm : ordered.Perm entries
  sorted : ordered.Pairwise fun earlier later => later.occurredAt ≤ earlier.occurredAt
  written : ∀ micros, ofInstant micros ordered = ofInstant micros entries

/-- Entries, the newest first. -/
def newestFirst (entries : List AuditEntry) : List AuditEntry :=
  entries.mergeSort fun a b => decide (b.occurredAt ≤ a.occurredAt)

theorem newest_trans (a b c : AuditEntry) (first : decide (b.occurredAt ≤ a.occurredAt) = true)
    (next : decide (c.occurredAt ≤ b.occurredAt) = true) : decide (c.occurredAt ≤ a.occurredAt) = true :=
  decide_eq_true (Int.le_trans (of_decide_eq_true next) (of_decide_eq_true first))

theorem newest_total (a b : AuditEntry) :
    (decide (b.occurredAt ≤ a.occurredAt) || decide (a.occurredAt ≤ b.occurredAt)) = true := by
  rw [Bool.or_eq_true, decide_eq_true_eq, decide_eq_true_eq]
  exact Int.le_total _ _

theorem isNewestFirst_newestFirst (entries : List AuditEntry) : IsNewestFirst entries (newestFirst entries) where
  perm := List.mergeSort_perm _ _
  sorted := (List.pairwise_mergeSort newest_trans newest_total entries).imp of_decide_eq_true
  written micros := by
    refine filter_mergeSort_of_level newest_trans newest_total (fun a b startA startB => ?_) entries
    exact decide_eq_true (Int.le_of_eq ((of_decide_eq_true startB).trans (of_decide_eq_true startA).symm))

theorem mem_of_ofInstant_eq {entry : AuditEntry}
    (same : ∀ micros, ofInstant micros entries = ofInstant micros other) (inside : entry ∈ entries) :
    entry ∈ other := by
  have kept : entry ∈ ofInstant entry.occurredAt.micros entries := List.mem_filter.mpr ⟨inside, decide_eq_true rfl⟩
  rw [same] at kept
  exact (List.mem_filter.mp kept).1

/-- What comes first is not older than anything else. -/
theorem le_of_sorted_cons {entry later : AuditEntry} {rest : List AuditEntry}
    (sorted : (entry :: rest).Pairwise fun earlier later => later.occurredAt ≤ earlier.occurredAt)
    (inside : later ∈ entry :: rest) : later.occurredAt ≤ entry.occurredAt := by
  rcases List.mem_cons.mp inside with rfl | inside
  · exact Int.le_refl _
  · exact (List.pairwise_cons.mp sorted).1 later inside

/-- Entries in the order in which they are shown are told by those of each instant. -/
theorem eq_of_ofInstant_eq (sorted : ordered.Pairwise fun earlier later => later.occurredAt ≤ earlier.occurredAt)
    (sortedToo : other.Pairwise fun earlier later => later.occurredAt ≤ earlier.occurredAt)
    (same : ∀ micros, ofInstant micros ordered = ofInstant micros other) : ordered = other := by
  induction ordered generalizing other with
  | nil =>
    cases other with
    | nil => rfl
    | cons entry rest => cases mem_of_ofInstant_eq (fun micros => (same micros).symm) List.mem_cons_self
  | cons entry rest ih =>
    cases other with
    | nil => cases mem_of_ofInstant_eq same List.mem_cons_self
    | cons otherEntry otherRest =>
      -- Each of the first entries is in the other list, so they are of one instant, and there they are first, too.
      have up := le_of_sorted_cons sortedToo (mem_of_ofInstant_eq same List.mem_cons_self)
      have down := le_of_sorted_cons sorted
        (mem_of_ofInstant_eq (fun micros => (same micros).symm) List.mem_cons_self)
      have level : otherEntry.occurredAt.micros = entry.occurredAt.micros := Int.le_antisymm down up
      have first := same entry.occurredAt.micros
      rw [ofInstant_cons_of_eq rfl, ofInstant_cons_of_eq level] at first
      obtain ⟨rfl, _⟩ := List.cons.inj first
      refine congrArg _ (ih sorted.of_cons sortedToo.of_cons fun micros => ?_)
      have alike := same micros
      by_cases now : entry.occurredAt.micros = micros
      · rw [ofInstant_cons_of_eq now, ofInstant_cons_of_eq now] at alike
        exact (List.cons.inj alike).2
      · rwa [ofInstant_cons_of_ne now, ofInstant_cons_of_ne now] at alike

/-- **There is one such order.** -/
theorem IsNewestFirst.unique (first : IsNewestFirst entries ordered) (second : IsNewestFirst entries other) :
    ordered = other :=
  eq_of_ofInstant_eq first.sorted second.sorted fun micros =>
    (first.written micros).trans (second.written micros).symm

/-! ### What is shown -/

/-- **What is shown of the entries that are wanted**: the first of them in their order, up to a limit. So whatever is
shown is wanted, whatever is left out is not newer, and nothing is shown more often than it was written. -/
structure Shows (wanted : AuditEntry → Prop) [DecidablePred wanted] (limit : Nat) (store : Store)
    (shown : List AuditEntry) : Prop where
  first : ∃ ordered, IsNewestFirst (store.audit.filter fun entry => wanted entry) ordered
    ∧ shown = ordered.take limit
  fits : ∀ entry ∈ shown, entry ∈ store.audit ∧ wanted entry
  newest : ∀ entry ∈ store.audit, wanted entry → entry ∉ shown →
    ∀ before ∈ shown, entry.occurredAt ≤ before.occurredAt
  once : ∀ entry, shown.count entry ≤ store.audit.count entry
  length : shown.length = min limit (store.audit.filter fun entry => wanted entry).length

section Shows

variable {wanted : AuditEntry → Prop} [DecidablePred wanted]

theorem newestIn_eq (wanted : AuditEntry → Bool) :
    newestIn wanted limit store = (newestFirst (store.audit.filter wanted)).take limit := rfl

/-- **A read shows what is wanted.** -/
theorem shows_newestIn : Shows wanted limit store (newestIn (fun entry => wanted entry) limit store) := by
  rw [newestIn_eq]
  generalize whole : store.audit.filter (fun entry => decide (wanted entry)) = entries
  have placed := isNewestFirst_newestFirst entries
  have split : (newestFirst entries).take limit ++ (newestFirst entries).drop limit = newestFirst entries :=
    List.take_append_drop limit _
  refine {
    first := ⟨newestFirst entries, whole.symm ▸ placed, rfl⟩
    fits := ?_
    newest := ?_
    once := ?_
    length := ?_ }
  · intro entry inside
    have kept := placed.perm.subset (List.mem_of_mem_take inside)
    rw [← whole, List.mem_filter, decide_eq_true_eq] at kept
    exact kept
  · intro entry inside wants omitted before front
    have kept : entry ∈ newestFirst entries := by
      rw [placed.perm.mem_iff, ← whole, List.mem_filter, decide_eq_true_eq]
      exact ⟨inside, wants⟩
    have sorted := placed.sorted
    rw [← split, List.pairwise_append] at sorted
    rw [← split, List.mem_append] at kept
    exact sorted.2.2 before front entry (kept.resolve_left omitted)
  · intro entry
    calc ((newestFirst entries).take limit).count entry
        ≤ (newestFirst entries).count entry := (List.take_sublist _ _).count_le entry
      _ = entries.count entry := placed.perm.count_eq entry
      _ ≤ store.audit.count entry := whole ▸ List.filter_sublist.count_le entry
  · rw [List.length_take, placed.perm.length_eq, whole]

/-- **Nothing that is wanted is left out** if the limit is as large as the log. -/
theorem Shows.complete (displays : Shows wanted limit store shown) (large : store.audit.length ≤ limit)
    {entry : AuditEntry} (inside : entry ∈ store.audit) (wants : wanted entry) : entry ∈ shown := by
  obtain ⟨ordered, placed, rfl⟩ := displays.first
  have short : ordered.length ≤ limit := by
    rw [placed.perm.length_eq]
    exact Nat.le_trans (List.length_filter_le _ _) large
  rw [List.take_of_length_le short, placed.perm.mem_iff, List.mem_filter, decide_eq_true_eq]
  exact ⟨inside, wants⟩

end Shows

/-! ### The three reads -/

/-- What is read about an entity. -/
theorem isAbout_eq (entityType : String) (entity : Uuid) :
    isAbout entityType entity = fun entry => decide (entry.entityType = entityType ∧ entry.entity = entity) := rfl

/-- What is read about a user. -/
theorem concerns_eq (user : Uuid) : concerns user = fun entry => decide
    (entry.entityType = "User" ∧ entry.entity = user
      ∨ entry.relatedType = some "User" ∧ entry.relatedEntity = some user) := by
  funext entry
  unfold concerns
  rw [isAbout_eq, Bool.decide_or]

/-- What is read about an action, or about all of them. -/
theorem all_action_eq (action : Option AuditAction) :
    (fun entry : AuditEntry => action.all (entry.action = ·))
      = fun entry => decide (∀ wanted ∈ action, entry.action = wanted) := by
  funext entry
  cases action with
  | none => simp
  | some action => simp

/-! ### The traces of a pass -/

open Reconcile

/-- **The trace of a change**: the entry about a user that a pass wrote about their team. -/
structure IsTrace (before after : Store) (action : AuditAction) (team user : Uuid) (entry : AuditEntry) : Prop where
  written : ∃ entries, after.audit = before.audit ++ entries ∧ entry ∈ entries
  action : entry.action = action
  entityType : entry.entityType = "Team"
  entity : entry.entity = team
  relatedType : entry.relatedType = some "User"
  relatedEntity : entry.relatedEntity = some user

section Trace

variable {kind : TeamKind} {mode : Mode} {team : Team} {eligible : List Uuid} {before after : Store}
  {result : PassResult} {user : Uuid} (imposed : Imposed kind mode team eligible before result after)

include imposed

theorem exists_trace_of_change {change : Change} {action : AuditAction}
    (made : change ∈ changesIn team.id eligible before) (tells : told change.kind change.user = (action, some user)) :
    ∃ entry, IsTrace before after action team.id user entry := by
  obtain ⟨issued, audit⟩ := imposed.audit
  have entered := List.mem_map_of_mem (f := fun change : Change => told change.kind change.user) made
  rw [tells, ← map_told_entriesOf (namesIn (result.added ++ result.removed) before) issued, List.mem_map] at entered
  obtain ⟨entry, inside, same⟩ := entered
  obtain ⟨action, relatedEntity⟩ := Prod.mk.inj same
  have documents := documents_entriesOf inside
  exact ⟨entry, ⟨_, audit, inside⟩, action, documents.entityType, documents.entity, documents.relatedType,
    relatedEntity⟩

/-- **A pass leaves a trace of each user who joins or leaves.** -/
theorem exists_trace (valid : before.Valid) :
    (user ∈ result.added → ∃ entry, IsTrace before after .teamMemberAdded team.id user entry)
      ∧ (user ∈ result.removed → ∃ entry, IsTrace before after .teamMemberRemoved team.id user entry) := by
  rw [imposed.added_eq, imposed.removed_eq]
  constructor
  · intro added
    exact exists_trace_of_change imposed (mem_changesIn_of_added added) rfl
  · intro removed
    obtain ⟨stay, rfl, left⟩ := mem_changesIn_of_removed valid removed
    exact exists_trace_of_change imposed left rfl

end Trace

/-- **An entry is found**: it is shown under the team and under the user, from any log that begins with the one after
the change, if the limit is as large as that log. -/
def IsFound (after : Store) (team user : Uuid) (entry : AuditEntry) : Prop :=
  ∀ store limit, after.audit <+: store.audit → store.audit.length ≤ limit →
    (∃ shown, Replies (ofEntity "Team" team limit) store (.ok shown) ∧ entry ∈ shown)
      ∧ ∃ shown, Replies (ofUser user limit) store (.ok shown) ∧ entry ∈ shown

theorem IsTrace.isFound {before after : Store} {action : AuditAction} {team user : Uuid} {entry : AuditEntry}
    (trace : IsTrace before after action team user entry) : IsFound after team user entry := by
  intro store limit later large
  obtain ⟨entries, written, inside⟩ := trace.written
  have logged : entry ∈ store.audit := later.subset (written ▸ List.mem_append_right _ inside)
  refine ⟨⟨_, (IsQuestion.read _).of_store store, ?_⟩, ⟨_, (IsQuestion.read _).of_store store, ?_⟩⟩
  · rw [isAbout_eq]
    exact shows_newestIn.complete large logged ⟨trace.entityType, trace.entity⟩
  · rw [concerns_eq]
    exact shows_newestIn.complete large logged (.inr ⟨trace.relatedType, trace.relatedEntity⟩)

/-- **Reads of the audit log are complete, and the newest entries come first.** Whatever the log is, the entries about
an entity, those about a user or related to them, and the latest ones of an action or of all are shown as `Shows`
says. After a pass that returns, with a rule that only asks, each change it made has its entry, which is found under
the team and under the user. -/
theorem reads_are_complete_and_newest_first (store : Store) (limit : Nat) :
    (∀ entityType entity, ∃ shown, Replies (ofEntity entityType entity limit) store (.ok shown)
        ∧ Shows (fun entry => entry.entityType = entityType ∧ entry.entity = entity) limit store shown)
      ∧ (∀ user, ∃ shown, Replies (ofUser user limit) store (.ok shown)
        ∧ Shows (fun entry => entry.entityType = "User" ∧ entry.entity = user
          ∨ entry.relatedType = some "User" ∧ entry.relatedEntity = some user) limit store shown)
      ∧ (∀ action, ∃ shown, Replies (recent limit action) store (.ok shown)
        ∧ Shows (fun entry => ∀ wanted ∈ action, entry.action = wanted) limit store shown)
      ∧ ∀ kind given mode (world after : World) result, world.store.Valid → (∀ rule ∈ given, rule.OnlyAsks) →
        pass kind given mode world = .ok result after →
        (∀ user ∈ result.added, ∃ team entry, result.team = some team
          ∧ IsTrace world.store after.store .teamMemberAdded team user entry ∧ IsFound after.store team user entry)
        ∧ ∀ user ∈ result.removed, ∃ team entry, result.team = some team
          ∧ IsTrace world.store after.store .teamMemberRemoved team user entry
          ∧ IsFound after.store team user entry := by
  refine ⟨fun entityType entity => ⟨_, (IsQuestion.read _).of_store store, shows_newestIn⟩, fun user => ?_,
    fun action => ?_, fun kind given mode world after result valid asks ran => ?_⟩
  · refine ⟨_, (IsQuestion.read _).of_store store, ?_⟩
    rw [concerns_eq]
    exact shows_newestIn
  · refine ⟨_, (IsQuestion.read _).of_store store, ?_⟩
    rw [all_action_eq]
    exact shows_newestIn
  · rcases pass_imposes valid asks ran with ⟨_, unchanged⟩ | ⟨rule, team, eligible, _, _, imposed⟩
    · obtain ⟨noneAdded, noneRemoved⟩ := changed_eq_false_iff.mp unchanged
      rw [noneAdded, noneRemoved]
      exact ⟨List.forall_mem_nil _, List.forall_mem_nil _⟩
    · have named : result.team = some team.id := by rw [imposed.result_eq]; rfl
      constructor
      · intro user added
        obtain ⟨entry, trace⟩ := (exists_trace imposed valid).1 added
        exact ⟨team.id, entry, named, trace, trace.isFound⟩
      · intro user removed
        obtain ⟨entry, trace⟩ := (exists_trace imposed valid).2 removed
        exact ⟨team.id, entry, named, trace, trace.isFound⟩

/-- A newcomer joins the volunteers and another user leaves them: both changes are found in the log after the pass. -/
theorem turnover_is_found : ∃ result after, pass .volunteers none default turnover = .ok result after
    ∧ result.added = [.numbered 1 1] ∧ result.removed = [.numbered 1 2] ∧ after.store.audit.length = 2
    ∧ (∃ team entry, result.team = some team
      ∧ IsTrace turnover.store after.store .teamMemberAdded team (.numbered 1 1) entry
      ∧ ∃ shown, Replies (ofEntity "Team" team 2) after.store (.ok shown) ∧ entry ∈ shown)
    ∧ ∃ team entry, result.team = some team
      ∧ IsTrace turnover.store after.store .teamMemberRemoved team (.numbered 1 2) entry
      ∧ ∃ shown, Replies (ofUser (.numbered 1 2) 2) after.store (.ok shown) ∧ entry ∈ shown := by
  have valid : turnover.store.Valid := by decide +kernel
  have runs : ∃ result after, pass .volunteers none default turnover = .ok result after
      ∧ result.added = [.numbered 1 1] ∧ result.removed = [.numbered 1 2] ∧ after.store.audit.length = 2 := by
    decide +kernel
  obtain ⟨result, after, ran, added, removed, length⟩ := runs
  obtain ⟨_, _, _, traces⟩ := reads_are_complete_and_newest_first after.store 2
  obtain ⟨ofAdded, ofRemoved⟩ :=
    traces .volunteers none default turnover after result valid Eligibility.onlyAsks_none ran
  obtain ⟨team, entry, named, trace, found⟩ := ofAdded (.numbered 1 1) (added ▸ List.mem_cons_self)
  obtain ⟨teamToo, entryToo, namedToo, traceToo, foundToo⟩ :=
    ofRemoved (.numbered 1 2) (removed ▸ List.mem_cons_self)
  have large : after.store.audit.length ≤ 2 := Nat.le_of_eq length
  exact ⟨result, after, ran, added, removed, length,
    ⟨team, entry, named, trace, (found after.store 2 (List.prefix_refl _) large).1⟩,
    ⟨teamToo, entryToo, namedToo, traceToo, (foundToo after.store 2 (List.prefix_refl _) large).2⟩⟩

end Roster.Audit
