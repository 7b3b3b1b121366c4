/-
**The changes of a pass one after another.**

After a part of its changes a pass has put the new stays at the end of their table, ended the stays that
end in their places, added one entry for each change to the log, and made the orders for the events.

* `Moved` — what a part of the changes leaves behind, apart from the log and the events, whatever
  identifiers were issued.
* `Progress` — **what a part of the changes leaves behind**; `Progress.step` — one more change.
* `Progress.of_ok`, `progress_of_isUp` — all changes, if they return, and that they do.
-/

import Roster.Proofs.Outbox.Orders
import Roster.Proofs.Reconcile.Change

namespace Roster.Reconcile

open EStateM (Result)

/-! ### What changes add up to -/

/-- Who joins. -/
def joins (changes : List Change) : List Uuid :=
  changes.filterMap fun
    | .join user => some user
    | .leave _ => none

/-- The stays that begin, if so many identifiers of stays have been issued before. -/
def begun (mode : Mode) (team : Team) (issued : Nat) (users : List Uuid) : List TeamMember :=
  users.mapIdx fun index user => joining mode team user (.numbered 11 (issued + index + 1))

/-- A stay after some changes. -/
def leftBy (mode : Mode) (changes : List Change) (stay : TeamMember) : TeamMember :=
  if .leave stay ∈ changes then leaving mode stay else stay

/-- The entries of changes, if so many identifiers of entries have been issued before. -/
def entriesOf (mode : Mode) (team : Team) (names : List (Uuid × String)) (issued : Nat)
    (changes : List Change) : List AuditEntry :=
  changes.mapIdx fun index change => change.entry mode team names (.numbered 10 (issued + index + 1))

variable {mode : Mode} {team : Team} {names : List (Uuid × String)}

theorem joins_concat (changes : List Change) (change : Change) :
    (joins (changes ++ [change])).length = (joins changes).length + change.begins := by
  cases change <;> simp [joins, Change.begins]

theorem leftBy_id (changes : List Change) (stay : TeamMember) :
    (leftBy mode changes stay).id = stay.id := by
  unfold leftBy
  split <;> rfl

/-- Stays that end keep their identifiers. -/
theorem map_id_leftBy (changes : List Change) (members : List TeamMember) :
    (members.map (leftBy mode changes)).map TeamMember.id = members.map TeamMember.id := by
  rw [List.map_map]
  exact List.map_congr_left fun stay _ => leftBy_id changes stay

theorem map_leftBy_nil (members : List TeamMember) : members.map (leftBy mode []) = members :=
  List.map_id' _

theorem leftBy_join (changes : List Change) (user : Uuid) :
    leftBy mode (changes ++ [.join user]) = leftBy mode changes := by
  funext stay
  simp [leftBy]

theorem leftBy_leave_of_ne {changes : List Change} {stay other : TeamMember} (different : other ≠ stay) :
    leftBy mode (changes ++ [.leave stay]) other = leftBy mode changes other := by
  simp [leftBy, different]

theorem leftBy_leave_self (changes : List Change) (stay : TeamMember) :
    leftBy mode (changes ++ [.leave stay]) stay = leaving mode stay := by
  simp [leftBy]

theorem entriesOf_concat (issued : Nat) (changes : List Change) (change : Change) :
    entriesOf mode team names issued (changes ++ [change])
      = entriesOf mode team names issued changes
        ++ [change.entry mode team names (.numbered 10 (issued + changes.length + 1))] := by
  simp [entriesOf, List.mapIdx_append]

theorem begun_concat (issued : Nat) (users : List Uuid) (user : Uuid) :
    begun mode team issued (users ++ [user])
      = begun mode team issued users
        ++ [joining mode team user (.numbered 11 (issued + users.length + 1))] := by
  simp [begun, List.mapIdx_append]

/-- The stays after some changes, if so many identifiers of stays have been issued before. -/
def membersAfter (mode : Mode) (team : Team) (issued : Nat) (members : List TeamMember)
    (changes : List Change) : List TeamMember :=
  members.map (leftBy mode changes) ++ begun mode team issued (joins changes)

/-- **One more change**, said of the stays. -/
theorem membersAfter_concat {issued : Nat} {members : List TeamMember} {changes : List Change}
    {change : Change} (ids : ((membersAfter mode team issued members changes).map TeamMember.id).Nodup)
    (fits : ∀ stay, change = .leave stay → stay ∈ members) :
    membersAfter mode team issued members (changes ++ [change])
      = change.members mode team (issued + (joins changes).length)
        (membersAfter mode team issued members changes) := by
  cases change with
  | join user =>
    have added : joins (changes ++ [.join user]) = joins changes ++ [user] := by simp [joins]
    rw [membersAfter, added, begun_concat, ← List.append_assoc, leftBy_join]
    rfl
  | leave stay =>
    have same : joins (changes ++ [.leave stay]) = joins changes := by simp [joins]
    have inside := fits stay rfl
    rw [membersAfter, List.map_append, map_id_leftBy] at ids
    obtain ⟨idsBefore, _, apart⟩ := List.nodup_append.mp ids
    rw [membersAfter, same, Change.members, membersAfter, Store.replaced, List.map_append,
      List.map_map]
    refine congrArg₂ _ (List.map_congr_left fun other member => ?_) ?_
    · rw [Function.comp_apply, leftBy_id]
      by_cases equal : other = stay
      · rw [equal, if_pos rfl, leftBy_leave_self]
      · rw [leftBy_leave_of_ne equal, if_neg]
        exact fun sameId => equal (Store.eq_of_id_eq idsBefore member inside sameId)
    · refine ((List.map_congr_left fun new member => if_neg fun sameId => ?_).trans
        (List.map_id' _)).symm
      exact apart _ (List.mem_map_of_mem inside) _ (List.mem_map_of_mem member) sameId.symm

/-! ### A part of the changes -/

/-- The stays that end in some changes are open ones of a store, each of them once. -/
structure Leaves (store : Store) (changes : List Change) : Prop where
  once : changes.Nodup
  inside : ∀ stay, .leave stay ∈ changes → stay ∈ store.members ∧ stay.isOpen = true

/-- **A part of the changes was written**: the session is settled, the stays began and ended, and of the
rest at most the log and the events changed. -/
structure Moved (mode : Mode) (team : Team) (first : Session) (done : List Change) (session : Session) :
    Prop where
  settled : session.Settled
  members : session.store.members
    = membersAfter mode team first.surroundings.issued.members first.store.members done
  rest : session.store = { first.store with
    members := session.store.members
    audit := session.store.audit
    events := session.store.events }
  issuedMembers : session.surroundings.issued.members
    = first.surroundings.issued.members + (joins done).length

theorem moved_nil {first : Session} (settled : first.Settled) : Moved mode team first [] first where
  settled := settled
  members := by
    rw [membersAfter, map_leftBy_nil]
    exact (List.append_nil _).symm
  rest := rfl
  issuedMembers := rfl

namespace Moved

variable {first session after : Session} {done rest : List Change} {change : Change}

/-- A stay that is to end is still open. -/
theorem fits (moved : Moved mode team first done session)
    (leaves : Leaves first.store (done ++ change :: rest)) : change.Fits session.store := by
  cases change with
  | join user => trivial
  | leave stay =>
    obtain ⟨inside, opened⟩ := leaves.inside stay (List.mem_append_right _ List.mem_cons_self)
    have ahead : .leave stay ∉ done := fun member =>
      (List.nodup_append.mp leaves.once).2.2 _ member _ List.mem_cons_self rfl
    refine ⟨?_, opened⟩
    rw [moved.members]
    refine List.mem_append_left _ (List.mem_map.mpr ⟨stay, inside, ?_⟩)
    rw [leftBy, if_neg ahead]

/-- **One more change**, whatever became of its event. -/
theorem step (moved : Moved mode team first done session)
    (leaves : Leaves first.store (done ++ change :: rest))
    (written : Written mode team names change session after) :
    Moved mode team first (done ++ [change]) after := by
  have members : after.store.members = change.members mode team session.surroundings.issued.members
      session.store.members := by
    rw [written.store]
    rfl
  refine ⟨written.settled, ?_, ?_, ?_⟩
  · have ids := moved.settled.valid.memberIds
    rw [moved.members] at ids
    rw [members, moved.issuedMembers, moved.members]
    refine (membersAfter_concat ids fun stay same => ?_).symm
    exact (leaves.inside stay (same ▸ List.mem_append_right _ List.mem_cons_self)).1
  · rw [written.store, moved.rest]
    rfl
  · rw [written.issued, joins_concat, ← Nat.add_assoc, ← moved.issuedMembers]
    rfl

/-- **All changes were written**, if they return. -/
theorem of_ok {changes : List Change} (settled : first.Settled) (leaves : Leaves first.store changes)
    (ran : changes.forM (Change.make mode team names) first = .ok () after) :
    Moved mode team first changes after := by
  refine forM_ok (moved_nil settled) (fun done change rest before later split moved made _ => ?_) ran
  subst split
  exact moved.step leaves (change.make_written moved.settled (moved.fits leaves) made)

end Moved

/-- **A part of the changes was made**: the session is settled, the new stays, their entries and the
events are in the store, and nothing else changed. -/
structure Progress (mode : Mode) (team : Team) (names : List (Uuid × String)) (first : Session)
    (done : List Change) (session : Session) : Prop where
  settled : session.Settled
  calm : first.Calm session
  members : session.store.members
    = membersAfter mode team first.surroundings.issued.members first.store.members done
  audit : session.store.audit = first.store.audit
    ++ entriesOf mode team names first.surroundings.issued.entries done
  events : Outbox.EnqueuedAll mode.now first.surroundings.issued.events first.store.events
    (done.map (Change.order mode team)) session.surroundings.issued.events session.store.events
  rest : session.store = { first.store with
    members := session.store.members
    audit := session.store.audit
    events := session.store.events }
  issuedMembers : session.surroundings.issued.members
    = first.surroundings.issued.members + (joins done).length
  issuedEntries : session.surroundings.issued.entries
    = first.surroundings.issued.entries + done.length

theorem progress_nil {first : Session} (settled : first.Settled) :
    Progress mode team names first [] first where
  settled := settled
  calm := refl_of Session.Calm first
  members := (moved_nil settled).members
  audit := by simp [entriesOf]
  events := .nil
  rest := rfl
  issuedMembers := rfl
  issuedEntries := rfl

/-- Statements that change nothing may go first. -/
theorem Progress.of_quiet {session first after : Session} {done : List Change}
    (progress : Progress mode team names first done after) (quiet : session.Quiet first)
    (store : first.store = session.store) : Progress mode team names session done after := by
  have issued : first.surroundings.issued = session.surroundings.issued :=
    Surroundings.Quiet.issued quiet
  obtain ⟨settled, calm, members, audit, events, rest, issuedMembers, issuedEntries⟩ := progress
  rw [store, issued] at members audit events
  rw [store] at rest
  rw [issued] at issuedMembers issuedEntries
  exact ⟨settled, trans_of Session.Calm (Surroundings.Quiet.calm quiet) calm, members, audit, events,
    rest, issuedMembers, issuedEntries⟩

namespace Progress

variable {first session after : Session} {done rest : List Change} {change : Change}
  (progress : Progress mode team names first done session)

include progress

theorem moved : Moved mode team first done session :=
  ⟨progress.settled, progress.members, progress.rest, progress.issuedMembers⟩

/-- A stay that is to end is still open. -/
theorem fits (leaves : Leaves first.store (done ++ change :: rest)) : change.Fits session.store :=
  progress.moved.fits leaves

/-- **One more change.** -/
theorem step (leaves : Leaves first.store (done ++ change :: rest))
    (changed : Changed mode team names change session after) (calm : session.Calm after) :
    Progress mode team names first (done ++ [change]) after := by
  have moved := progress.moved.step leaves changed.written
  have audit : after.store.audit = session.store.audit
      ++ [change.entry mode team names (.numbered 10 (session.surroundings.issued.entries + 1))] := by
    rw [changed.store]
    rfl
  obtain ⟨result, became, plain⟩ := changed.became
  refine ⟨changed.settled, trans_of Session.Calm progress.calm calm, moved.members, ?_, ?_, moved.rest,
    moved.issuedMembers, ?_⟩
  · rw [audit, progress.audit, progress.issuedEntries, entriesOf_concat, List.append_assoc]
  · rw [List.map_append, List.map_singleton]
    exact .concat progress.events became plain
  · rw [changed.issued, List.length_append, ← Nat.add_assoc, ← progress.issuedEntries]
    rfl

omit progress in
/-- **All changes were made**, if they return. -/
theorem of_ok {changes : List Change} {last : Nat} (settled : first.Settled)
    (leaves : Leaves first.store changes)
    (free : Uuid.FreeBetween 14 first.surroundings.issued.events last
      (first.store.events.map OutboxEvent.id))
    (ran : changes.forM (Change.make mode team names) first = .ok () after)
    (below : after.surroundings.issued.events ≤ last) :
    Progress mode team names first changes after := by
  refine forM_ok (progress_nil settled)
    (fun done change rest before later split progress made more => ?_) ran
  subst split
  have calm := (Change.keeps_make change).of_ok made
  have ascends := ((Keeps.forM Change.keeps_make rest).of_ok more).issued.events
  refine progress.step leaves (change.make_ok progress.settled (progress.fits leaves) (fun issues => ?_)
    made) calm
  exact progress.events.not_taken free (by omega)

end Progress

/-! ### Changes that are possible -/

/-- Those who join in some changes are outside of the team, each of them once, and they exist if that is
enforced. -/
structure Enters (team : Team) (store : Store) (changes : List Change) : Prop where
  once : (joins changes).Nodup
  outside : ∀ user ∈ joins changes, ∀ stay ∈ store.members, stay.isOpen = true →
    stay.team = team.id → stay.user ≠ user
  known : store.enforcesReferences = true → team.id ∈ store.teams.map Team.id
    ∧ ∀ user ∈ joins changes, user ∈ store.users.map User.id

/-- So many identifiers of stays, entries and events are free. -/
structure HasFree (issued : Issued) (store : Store) (count : Nat) : Prop where
  members : Uuid.FreeBetween 11 issued.members (issued.members + count)
    (store.members.map TeamMember.id)
  entries : Uuid.FreeBetween 10 issued.entries (issued.entries + count)
    (store.audit.map AuditEntry.id)
  events : Uuid.FreeBetween 14 issued.events (issued.events + count)
    (store.events.map OutboxEvent.id)

theorem HasFree.mono {issued : Issued} {store : Store} {count fewer : Nat}
    (free : HasFree issued store count) (le : fewer ≤ count) : HasFree issued store fewer where
  members := free.members.mono (Nat.add_le_add_left le _)
  entries := free.entries.mono (Nat.add_le_add_left le _)
  events := free.events.mono (Nat.add_le_add_left le _)

theorem hasFree_zero {issued : Issued} {store : Store} : HasFree issued store 0 :=
  ⟨Uuid.freeBetween_self, Uuid.freeBetween_self, Uuid.freeBetween_self⟩

theorem length_joins_le (changes : List Change) : (joins changes).length ≤ changes.length :=
  List.length_filterMap_le _ _

theorem mem_begun {issued : Nat} {users : List Uuid} {stay : TeamMember}
    (member : stay ∈ begun mode team issued users) :
    ∃ number, issued < number ∧ number ≤ issued + users.length
      ∧ ∃ user ∈ users, stay = joining mode team user (.numbered 11 number) := by
  obtain ⟨index, bound, rfl⟩ := List.mem_mapIdx.mp member
  exact ⟨issued + index + 1, by omega, by omega, users[index], List.getElem_mem _, rfl⟩

theorem mem_entriesOf {issued : Nat} {changes : List Change} {entry : AuditEntry}
    (member : entry ∈ entriesOf mode team names issued changes) :
    ∃ number, issued < number ∧ number ≤ issued + changes.length ∧ entry.id = .numbered 10 number := by
  obtain ⟨index, bound, rfl⟩ := List.mem_mapIdx.mp member
  refine ⟨issued + index + 1, by omega, by omega, ?_⟩
  cases changes[index] <;> rfl

theorem mem_of_mem_map_leftBy {members : List TeamMember} {changes : List Change} {stay : TeamMember}
    (member : stay ∈ members.map (leftBy mode changes)) (opened : stay.isOpen = true) :
    stay ∈ members := by
  obtain ⟨before, was, rfl⟩ := List.mem_map.mp member
  unfold leftBy at opened ⊢
  split at opened
  · cases opened
  · rename_i stays
    rwa [if_neg stays]

namespace Progress

variable {first session : Session} {done rest : List Change} {change : Change}

/-- **The next change is possible.** -/
theorem possible (progress : Progress mode team names first done session)
    (leaves : Leaves first.store (done ++ change :: rest))
    (enters : Enters team first.store (done ++ change :: rest))
    (free : HasFree first.surroundings.issued first.store (done ++ change :: rest).length) :
    change.Possible team session.surroundings.issued session.store := by
  have room : (done ++ change :: rest).length = done.length + (rest.length + 1) := by simp
  rw [room] at free
  refine ⟨?_, progress.fits leaves, ?_⟩
  · rw [progress.issuedEntries, progress.audit, List.map_append, List.mem_append]
    rintro (old | new)
    · exact free.entries.unused _ (by omega) (by omega) old
    · obtain ⟨entry, member, same⟩ := List.mem_map.mp new
      obtain ⟨number, after, before, id⟩ := mem_entriesOf member
      have equal := free.entries.fresh number _ after (by omega) (by omega) (by omega)
        (id.symm.trans same)
      omega
  · rintro user rfl
    have split : joins (done ++ .join user :: rest) = joins done ++ user :: joins rest := by
      simp [joins]
    have mine : user ∈ joins (done ++ .join user :: rest) :=
      split ▸ List.mem_append_right _ List.mem_cons_self
    have few := length_joins_le done
    refine ⟨?_, fun stay member opened sameTeam sameUser => ?_, fun enforced => ?_⟩
    · rw [progress.issuedMembers, progress.members, membersAfter, List.map_append, List.mem_append]
      rintro (old | new)
      · rw [map_id_leftBy] at old
        exact free.members.unused _ (by omega) (by omega) old
      · obtain ⟨stay, member, same⟩ := List.mem_map.mp new
        obtain ⟨number, after, before, other, _, rfl⟩ := mem_begun member
        have equal := free.members.fresh number _ after (by omega) (by omega) (by omega) same
        omega
    · rw [progress.members, membersAfter] at member
      rcases List.mem_append.mp member with old | new
      · exact enters.outside user mine stay (mem_of_mem_map_leftBy old opened) opened sameTeam sameUser
      · obtain ⟨_, _, _, other, joined, rfl⟩ := mem_begun new
        have once := enters.once
        rw [split] at once
        exact (List.nodup_append.mp once).2.2 other joined user List.mem_cons_self sameUser
    · rw [progress.rest] at enforced ⊢
      exact ⟨(enters.known enforced).1, (enters.known enforced).2 user mine⟩

end Progress

/-- **Without an outage all changes are made** if they are possible. -/
theorem progress_of_isUp {first : Session} {changes : List Change} (settled : first.Settled)
    (up : first.surroundings.IsUp) (leaves : Leaves first.store changes)
    (enters : Enters team first.store changes)
    (free : HasFree first.surroundings.issued first.store changes.length) :
    ∃ after, changes.forM (Change.make mode team names) first = .ok () after
      ∧ Progress mode team names first changes after := by
  refine forM_of_step (progress_nil settled) fun done change rest session split progress => ?_
  subst split
  obtain ⟨after, made⟩ := @Change.make_of_isUp mode team names change session progress.settled
    (progress.calm.up up) (progress.possible leaves enters free)
  refine ⟨after, made, progress.step leaves (change.make_ok progress.settled (progress.fits leaves)
    (fun _ => progress.events.not_taken free.events ?_) made) ((Change.keeps_make change).of_ok made)⟩
  have few := progress.events.issued_le
  rw [List.length_map] at few
  rw [List.length_append, List.length_cons]
  omega

end Roster.Reconcile
