/-
**What a flush sends.**

A flush sends the changes of a table in the order of their identifiers, one statement for each run of
equal columns, and then all its new rows; a change that alters no column is not sent at all. What is
staged here is either a few rows of different tables or changes of different events, and then **the
flushed store does not depend on how the statements are cut**.

* `alteredColumns_event_ne_nil`, `alteredColumns_member_ne_nil`, `alteredColumns_team_eq_nil` — which
  changes are sent.
* `flush_eventChanges_ok` — changes of different events all take effect; `mem_of_flush_eventChanges` — a flush
  of changed events puts no other event into the store.
* `statements_join`, `statements_leave`, `statements_team` — what goes out for a stay that begins or ends
  and for a team.
-/

import Roster.Proofs.Session.Statement
import Roster.Proofs.Store.Rows

namespace Roster

/-! ### Rows and their tables -/

@[simp] theorem Write.row_insert (row : Row) : (Write.insert row).row = row := rfl

@[simp] theorem Write.row_change (row : Row) : (Write.change row).row = row := rfl

@[simp] theorem Write.isInsert_insert (row : Row) : (Write.insert row).isInsert = true := rfl

@[simp] theorem Write.isInsert_change (row : Row) : (Write.change row).isInsert = false := rfl

@[simp] theorem Row.table_member (row : TeamMember) : (Row.member row).table = .members := rfl

@[simp] theorem Row.table_entry (row : AuditEntry) : (Row.entry row).table = .audit := rfl

@[simp] theorem Row.table_team (row : Team) : (Row.team row).table = .teams := rfl

@[simp] theorem Row.table_event (row : OutboxEvent) : (Row.event row).table = .events := rfl

/-! ### Which changes are sent -/

namespace Store

variable {store : Store}

theorem find?_map_of_nodup {α : Type} {idOf : α → Uuid} {wrap : α → Row} {table : List α} {row : α}
    (wrapped : ∀ row, (wrap row).id = idOf row) (ids : (table.map idOf).Nodup) (member : row ∈ table) :
    (table.map wrap).find? (fun other => other.id = idOf row) = some (wrap row) := by
  rw [List.find?_map]
  simp only [Function.comp_def, wrapped]
  exact congrArg (Option.map wrap) (find?_of_nodup ids member)

theorem alteredColumns_of_find? {before row : Row} (found : store.find? row.table row.id = some before) :
    store.alteredColumns row = (before.changedColumns row).map fun column => column.1 := by
  unfold alteredColumns
  rw [found]

/-- **A change of an event is sent** if it settles when the event was processed or counts an attempt. -/
theorem alteredColumns_event_ne_nil {event change : OutboxEvent}
    (ids : (store.events.map OutboxEvent.id).Nodup) (member : event ∈ store.events)
    (same : change.id = event.id)
    (altered : event.processedAt.isNone ∧ change.processedAt.isSome
      ∨ event.retryCount ≠ change.retryCount) :
    store.alteredColumns (.event change) ≠ [] := by
  have found : store.find? .events change.id = some (.event event) := by
    rw [same]
    exact find?_map_of_nodup (fun _ => rfl) ids member
  rw [alteredColumns_of_find? found]
  rcases altered with ⟨before, after⟩ | counted
  · obtain ⟨moment, processed⟩ := Option.isSome_iff_exists.mp after
    rw [Option.isNone_iff_eq_none] at before
    simp [Row.changedColumns, Row.columns, OutboxEvent.columns, before, processed, Value.ofOption,
      Value.ofInstant]
  · simp [Row.changedColumns, Row.columns, OutboxEvent.columns, counted]

/-- **The end of a stay is sent** if the stay is open. -/
theorem alteredColumns_member_ne_nil {stay change : TeamMember}
    (ids : (store.members.map TeamMember.id).Nodup) (member : stay ∈ store.members)
    (same : change.id = stay.id) (opened : stay.isOpen) (closed : change.leftAt.isSome) :
    store.alteredColumns (.member change) ≠ [] := by
  have found : store.find? .members change.id = some (.member stay) := by
    rw [same]
    exact find?_map_of_nodup (fun _ => rfl) ids member
  obtain ⟨moment, left⟩ := Option.isSome_iff_exists.mp closed
  rw [TeamMember.isOpen, Option.isNone_iff_eq_none] at opened
  rw [alteredColumns_of_find? found]
  simp [Row.changedColumns, Row.columns, TeamMember.columns, opened, left, Value.ofOption,
    Value.ofInstant]

/-- **A new time of change is not sent** exactly if it is shown like the old one. -/
theorem alteredColumns_team_eq_nil {team : Team} {moment : Instant}
    (ids : (store.teams.map Team.id).Nodup) (member : team ∈ store.teams) :
    store.alteredColumns (.team { team with updatedAt := moment }) = []
      ↔ team.updatedAt.universalText = moment.universalText := by
  have found : store.find? .teams team.id = some (.team team) :=
    find?_map_of_nodup (fun _ => rfl) ids member
  rw [alteredColumns_of_find? found]
  by_cases same : team.updatedAt.universalText = moment.universalText
  · simp [Row.changedColumns, Row.columns, Team.columns, Value.ofInstant, same]
  · simp [Row.changedColumns, Row.columns, Team.columns, Value.ofInstant, same]

end Store

/-! ### Statements -/

theorem runs_cons_cons {α : Type} {change next : α} {columns others : List String}
    {rest : List (α × List String)} {run : List α} {later : List (List α)}
    (cut : runs ((next, others) :: rest) = run :: later) :
    runs ((change, columns) :: (next, others) :: rest)
      = if columns = others then (change :: run) :: later else [change] :: run :: later := by
  rw [runs.eq_def]
  dsimp only
  rw [cut]

/-- Cutting changes into runs loses none of them and keeps their order. -/
theorem flatten_runs {α : Type} (changes : List (α × List String)) :
    (runs changes).flatten = changes.map (·.1) := by
  induction changes with
  | nil => rfl
  | cons first rest ih =>
    match rest, ih with
    | [], _ => rfl
    | next :: rest, ih =>
      cases cut : runs (next :: rest) with
      | nil =>
        rw [cut] at ih
        cases ih
      | cons run later =>
        rw [cut, List.flatten_cons] at ih
        rw [runs_cons_cons cut, List.map_cons, ← ih]
        split
        · rw [List.flatten_cons, List.cons_append]
        · rw [List.flatten_cons, List.flatten_cons, List.singleton_append]

variable (store : Store)

/-- One new row goes out in a statement of its own. -/
theorem statements_insert (row : Row) : statements store [.insert row] = [[.insert row]] := by
  simp [List.filter_cons, statements, distinct, tableStatements, runs]

theorem statements_join (stay : TeamMember) (entry : AuditEntry) :
    statements store [.insert (.member stay), .insert (.entry entry)]
      = [[.insert (.member stay)], [.insert (.entry entry)]] := by
  simp [List.filter_cons, statements, distinct, tableStatements, runs]

variable {store} in
theorem statements_leave {stay : TeamMember} {entry : AuditEntry}
    (altered : store.alteredColumns (.member stay) ≠ []) :
    statements store [.change (.member stay), .insert (.entry entry)]
      = [[.insert (.entry entry)], [.change (.member stay)]] := by
  simp [List.filter_cons, statements, distinct, tableStatements, runs, altered]

theorem statements_team (team : Team) :
    statements store [.change (.team team)]
      = if store.alteredColumns (.team team) = [] then [] else [[.change (.team team)]] := by
  by_cases altered : store.alteredColumns (.team team) = [] <;>
    simp [statements, distinct, tableStatements, runs, altered]

variable {store} in
/-- **Nothing is sent but what is staged.** -/
theorem mem_of_mem_statements {staged : List Write} {write : Write}
    (sent : write ∈ (statements store staged).flatten) : write ∈ staged := by
  obtain ⟨statement, cut, inside⟩ := List.mem_flatten.mp sent
  obtain ⟨table, _, here⟩ := List.mem_flatMap.mp cut
  rw [tableStatements, List.mem_append] at here
  rcases here with changed | inserted
  · obtain ⟨run, isRun, rfl⟩ := List.mem_map.mp changed
    obtain ⟨row, ofRun, rfl⟩ := List.mem_map.mp inside
    have listed := List.mem_flatten.mpr ⟨run, isRun, ofRun⟩
    rw [flatten_runs, List.mem_map] at listed
    obtain ⟨change, listed, rfl⟩ := listed
    have altered := (List.mem_filter.mp (List.mem_mergeSort.mp listed)).1
    obtain ⟨original, kept, rfl⟩ := List.mem_map.mp altered
    obtain ⟨kept, isChange⟩ := List.mem_filter.mp kept
    cases original with
    | insert row => cases isChange
    | change row => exact (List.mem_filter.mp kept).1
  · split at inserted
    · cases inserted
    · rw [List.mem_singleton.mp inserted] at inside
      exact (List.mem_filter.mp (List.mem_filter.mp inside).1).1

variable {store} in
/-- An event that is there after a write was there before, or the write put it there. -/
theorem Store.mem_events_apply {write : Write} {event : OutboxEvent}
    (member : event ∈ (write.apply store).events) :
    event ∈ store.events ∨ write.row = .event event := by
  cases write with
  | insert row =>
    cases row with
    | event row =>
      rcases List.mem_append.mp member with here | new
      · exact .inl here
      · exact .inr (congrArg Row.event (List.mem_singleton.mp new).symm)
    | _ => exact .inl member
  | change row =>
    cases row with
    | event row =>
      obtain ⟨other, here, same⟩ := List.mem_map.mp member
      split at same
      · exact .inr (congrArg Row.event same)
      · exact .inl (same ▸ here)
    | _ => exact .inl member

theorem Store.mem_events_foldl_apply {writes : List Write} {event : OutboxEvent}
    (member : event ∈ (writes.foldl Write.apply store).events) :
    event ∈ store.events ∨ ∃ write ∈ writes, write.row = .event event := by
  induction writes generalizing store with
  | nil => exact .inl member
  | cons write rest ih =>
    rcases ih _ member with here | ⟨later, inside, put⟩
    · exact (Store.mem_events_apply here).imp_right fun put => ⟨write, List.mem_cons_self, put⟩
    · exact .inr ⟨later, List.mem_cons_of_mem _ inside, put⟩

/-- The staged form of changed events. -/
def eventChanges (changes : List OutboxEvent) : List Write :=
  changes.map fun event => .change (.event event)

/-- **Changed events go out in the order of their identifiers**, each of them once. -/
theorem flatten_statements_eventChanges {changes : List OutboxEvent}
    (altered : ∀ change ∈ changes, store.alteredColumns (.event change) ≠ []) :
    (statements store (eventChanges changes)).flatten
      = eventChanges (changes.mergeSort fun a b => decide (a.id ≤ b.id)) := by
  match changes, altered with
  | [], _ => simp [eventChanges, statements, distinct]
  | first :: rest, altered =>
    let changes := first :: rest
    have here : (eventChanges changes).filter (fun write => write.row.table = .events)
        = eventChanges changes := by
      rw [eventChanges, List.filter_map, List.filter_eq_self.mpr]
      exact fun change _ => rfl
    have inserts : (eventChanges changes).filter Write.isInsert = [] := by
      rw [eventChanges, List.filter_map, List.filter_eq_nil_iff.mpr, List.map_nil]
      exact fun change _ => by simp
    have kept : (eventChanges changes).filter (fun write => !write.isInsert)
        = eventChanges changes := by
      rw [eventChanges, List.filter_map, List.filter_eq_self.mpr]
      exact fun change _ => rfl
    have tables : distinct (((eventChanges changes).filter Write.isInsert ++ eventChanges changes).map
        fun write => write.row.table) = [.events] := by
      rw [inserts, List.nil_append, eventChanges, List.map_map]
      refine distinct_of_const (fun table member => ?_) (by simp [changes])
      obtain ⟨change, _, rfl⟩ := List.mem_map.mp member
      rfl
    have sent : ((eventChanges changes).map fun write =>
          (write.row, store.alteredColumns write.row)).filter (fun change => !change.2.isEmpty)
        = changes.map fun change => (Row.event change, store.alteredColumns (.event change)) := by
      rw [eventChanges, List.map_map, List.filter_eq_self.mpr]
      · rfl
      · intro pair member
        obtain ⟨change, inside, rfl⟩ := List.mem_map.mp member
        simpa using altered change inside
    show (List.flatMap (tableStatements store (eventChanges changes)) (distinct _)).flatten = _
    rw [tables, List.flatMap_singleton, tableStatements]
    rw [here, inserts, kept, sent, ← List.map_mergeSort (r := fun a b => decide (a.id ≤ b.id))
      (fun _ _ _ _ => rfl)]
    simp [← List.map_flatten, flatten_runs, eventChanges, changes]

theorem foldl_apply_eventChanges (changes : List OutboxEvent) :
    (eventChanges changes).foldl Write.apply store = { store with
      events := changes.foldl (fun table change => Store.replaced OutboxEvent.id change.id change table)
        store.events } := by
  induction changes generalizing store with
  | nil => rfl
  | cons first rest ih => exact ih _

variable {store}

/-- **Changes of different events all take effect**, each in its place. -/
theorem foldl_apply_statements_eventChanges {changes : List OutboxEvent}
    (ids : (changes.map OutboxEvent.id).Nodup)
    (altered : ∀ change ∈ changes, store.alteredColumns (.event change) ≠ []) :
    (statements store (eventChanges changes)).flatten.foldl Write.apply store
      = { store with events := Store.updated OutboxEvent.id changes store.events } := by
  have perm := List.mergeSort_perm changes fun a b => decide (a.id ≤ b.id)
  rw [flatten_statements_eventChanges store altered, foldl_apply_eventChanges,
    Store.foldl_replaced_eq_updated ((perm.map _).nodup_iff.mpr ids),
    Store.updated_perm perm ((perm.map _).nodup_iff.mpr ids)]

/-! ### Changed events and the rules -/

/-- A change of an event keeps its key and makes nothing pending. -/
def Store.KeepsKey (store : Store) (change : OutboxEvent) : Prop :=
  ∀ event ∈ store.events, event.id = change.id →
    change.key = event.key ∧ (change.isPending = true → event.isPending = true)

/-- The pending keys after some changes are among those before. -/
theorem Store.pendingKeys_updated_sublist {changes : List OutboxEvent}
    (keeps : ∀ change ∈ changes, store.KeepsKey change) :
    (((Store.updated OutboxEvent.id changes store.events).filter OutboxEvent.isPending).map
      OutboxEvent.key).Sublist ((store.events.filter OutboxEvent.isPending).map OutboxEvent.key) := by
  unfold Store.KeepsKey at keeps
  generalize store.events = events at keeps
  induction events with
  | nil => exact List.Sublist.slnil
  | cons event rest ih =>
    have later := ih fun change inside other member => keeps change inside other
      (List.mem_cons_of_mem _ member)
    rw [Store.updated, List.map_cons, ← Store.updated]
    have same : ∀ after, after = (changes.find? fun change => change.id = event.id).getD event →
        after.key = event.key ∧ (after.isPending = true → event.isPending = true) := by
      rintro after rfl
      cases found : changes.find? fun change => change.id = event.id with
      | none => exact ⟨rfl, id⟩
      | some change =>
        have equal : change.id = event.id := by simpa using List.find?_some found
        exact keeps change (List.mem_of_find?_eq_some found) event List.mem_cons_self equal.symm
    obtain ⟨key, was⟩ := same _ rfl
    rw [List.filter_cons, List.filter_cons]
    by_cases pending : ((changes.find? fun change => change.id = event.id).getD event).isPending = true
    · rw [if_pos pending, if_pos (was pending), List.map_cons, List.map_cons, key]
      exact later.cons_cons _
    · rw [if_neg pending]
      split
      · exact later.cons _
      · exact later

/-- **Changes of different events keep the rules**, wherever they are cut into statements. -/
theorem Store.Valid.along_eventChanges {list : List (List Write)} {changes : List OutboxEvent}
    (valid : store.Valid) (cut : list.flatten = eventChanges changes)
    (ids : (changes.map OutboxEvent.id).Nodup) (keeps : ∀ change ∈ changes, store.KeepsKey change) :
    store.ValidAlong list := by
  induction list generalizing store changes with
  | nil => trivial
  | cons writes rest ih =>
    rw [List.flatten_cons, eventChanges, List.append_eq_map_iff] at cut
    obtain ⟨first, later, rfl, rfl, cut⟩ := cut
    rw [List.map_append, List.nodup_append] at ids
    obtain ⟨idsFirst, idsLater, apart⟩ := ids
    have applied : (eventChanges first).foldl Write.apply store
        = { store with events := Store.updated OutboxEvent.id first store.events } := by
      rw [foldl_apply_eventChanges, Store.foldl_replaced_eq_updated idsFirst]
    have validFirst : { store with
        events := Store.updated OutboxEvent.id first store.events }.Valid := by
      refine valid.withEvents ?_ ?_
      · rw [Store.map_updated]
        exact valid.eventIds
      · exact valid.pendingKeys.sublist (Store.pendingKeys_updated_sublist fun change inside =>
          keeps change (List.mem_append_left _ inside))
    refine ⟨applied ▸ validFirst, applied ▸ ih validFirst cut.symm idsLater ?_⟩
    intro change inside event member same
    refine keeps change (List.mem_append_right _ inside) event
      (Store.mem_of_mem_updated member fun earlier was => ?_) same
    exact fun equal => apart _ (List.mem_map_of_mem was) _ (List.mem_map_of_mem inside)
      (equal.trans same)

/-- **Staged changes of different events can be sent** whatever the order. -/
theorem Store.Valid.along_statements {changes : List OutboxEvent} (valid : store.Valid)
    (ids : (changes.map OutboxEvent.id).Nodup)
    (altered : ∀ change ∈ changes, store.alteredColumns (.event change) ≠ [])
    (keeps : ∀ change ∈ changes, store.KeepsKey change) :
    store.ValidAlong (statements store (eventChanges changes)) := by
  have perm := List.mergeSort_perm changes fun a b => decide (a.id ≤ b.id)
  exact valid.along_eventChanges (flatten_statements_eventChanges store altered)
    ((perm.map _).nodup_iff.mpr ids) fun change inside => keeps change (perm.mem_iff.mp inside)

namespace Transaction

/-- **A new row that is refused** is not written, and nothing is left to send. -/
theorem flush_insert_error {row : Row} {session after : Session} {failure : Failure}
    (staged : session.staged = [.insert row]) (sound : session.spoiled = none)
    (ran : flush session = .error failure after) :
    failure.isDatabase = true ∧ session.Unwritten after := by
  rw [flush_of_sound sound, staged, statements_insert] at ran
  cases sent : [[Write.insert row]].forM execute { session with staged := [] } with
  | ok _ flushed =>
    rw [sent] at ran
    cases ran
  | error failed flushed =>
    rw [sent] at ran
    cases ran
    rcases bind_eq_error.mp sent with refused | ⟨_, _, _, ⟨⟩⟩
    obtain ⟨database, store, nothing⟩ := execute_error refused
    exact ⟨database, store, nothing⟩

/-- **A flush of changed events** puts each of them into its place and changes nothing else. -/
theorem flush_eventChanges_ok {changes : List OutboxEvent} {session after : Session}
    (staged : session.staged = eventChanges changes) (ids : (changes.map OutboxEvent.id).Nodup)
    (altered : ∀ change ∈ changes, session.store.alteredColumns (.event change) ≠ [])
    (valid : session.store.Valid) (ran : flush session = .ok () after) :
    after.Settled ∧ after.store = { session.store with
      events := Store.updated OutboxEvent.id changes session.store.events } := by
  obtain ⟨settled, store⟩ := flush_ok ran valid
  rw [staged, foldl_apply_statements_eventChanges ids altered] at store
  exact ⟨settled, store⟩

/-- **After a flush of changed events** every event was there before or is one of them, whatever the store. -/
theorem mem_of_flush_eventChanges {changes : List OutboxEvent} {session after : Session}
    (staged : session.staged = eventChanges changes) (ran : flush session = .ok () after)
    {event : OutboxEvent} (member : event ∈ after.store.events) :
    event ∈ session.store.events ∨ event ∈ changes := by
  obtain ⟨_, _, store⟩ := ready_of_flush ran
  rw [store] at member
  refine (Store.mem_events_foldl_apply _ member).imp_right fun ⟨write, sent, put⟩ => ?_
  have wasStaged := mem_of_mem_statements sent
  rw [staged] at wasStaged
  obtain ⟨change, inside, rfl⟩ := List.mem_map.mp wasStaged
  cases put
  exact inside

end Transaction

end Roster
