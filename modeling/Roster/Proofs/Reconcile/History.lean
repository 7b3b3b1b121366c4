/-
**Memberships are history: they are never rewritten.**

A row of the members is never taken out, and of what it says only its end is filled in, once. Whoever comes
back gets a new row behind the others. Where the stays of a user in a team can be laid out in the order in
which they began, without overlaps and with at most the last one open, they can be after every pass.

* `TeamMember.Continues` — a row later on; `TeamMember.Grows` — **rows go on, and new ones come behind them**.
* `TeamMember.Covers`, `TeamMember.Apart` — the moments of a stay, and stays without a common moment.
* `Orderly` — the stays of a user in a team are such a layout; `Turn.orderly` — a pass keeps it.
* `membership_is_never_rewritten` — every call of the reconciliation, whether it returns or fails;
  `volunteer_rejoins` — somebody who left comes back.
-/

import Roster.Proofs.Reconcile.Rounds
import Roster.Proofs.Reconcile.Turn

namespace Roster

namespace TeamMember

/-! ### Rows later on -/

/-- A row later on: it is the same, or its stay has ended in between. -/
def Continues (before after : TeamMember) : Prop :=
  after = before ∨ before.leftAt = none ∧ ∃ moment, after = { before with leftAt := some moment }

theorem Continues.trans {before between after : TeamMember} (first : before.Continues between)
    (second : between.Continues after) : before.Continues after := by
  rcases first with rfl | ⟨opened, moment, rfl⟩
  · exact second
  · rcases second with rfl | ⟨⟨⟩, _⟩
    exact .inr ⟨opened, moment, rfl⟩

theorem Continues.id_eq {before after : TeamMember} (continues : before.Continues after) :
    after.id = before.id := by
  rcases continues with rfl | ⟨_, _, rfl⟩
  · rfl
  · rfl

theorem Continues.eq_of_isOpen {before after : TeamMember} (continues : before.Continues after)
    (opened : after.isOpen = true) : after = before := by
  rcases continues with rfl | ⟨_, _, rfl⟩
  · rfl
  · cases opened

/-- **Rows go on, and so many new ones come behind them.** -/
inductive Grows : Nat → List TeamMember → List TeamMember → Prop where
  | joined (stays : List TeamMember) : Grows stays.length [] stays
  | cons {count : Nat} {stay later : TeamMember} {before after : List TeamMember}
      (continues : stay.Continues later) (rest : Grows count before after) :
      Grows count (stay :: before) (later :: after)

namespace Grows

variable {count more : Nat} {before between after : List TeamMember}

theorem length_eq (grows : Grows count before after) : after.length = before.length + count := by
  induction grows with
  | joined stays => exact (Nat.zero_add _).symm
  | cons continues rest ih =>
    rw [List.length_cons, List.length_cons, ih]
    omega

/-- Rows of which some are replaced by later ones, with new ones behind them. -/
theorem of_map {change : TeamMember → TeamMember}
    (continues : ∀ stay : TeamMember, stay.Continues (change stay)) (stays joined : List TeamMember) :
    Grows joined.length stays (stays.map change ++ joined) := by
  induction stays with
  | nil => exact .joined joined
  | cons stay rest ih => exact .cons (continues stay) ih

theorem concat (stays : List TeamMember) (stay : TeamMember) : Grows 1 stays (stays ++ [stay]) := by
  have grows := @of_map (fun stay => stay) (fun stay => .inl rfl) stays [stay]
  rwa [List.map_id'] at grows

theorem refl (stays : List TeamMember) : Grows 0 stays stays := by
  have grows := @of_map (fun stay => stay) (fun stay => .inl rfl) stays []
  rwa [List.map_id', List.append_nil] at grows

theorem trans (first : Grows count before between) (second : Grows more between after) :
    Grows (count + more) before after := by
  induction first generalizing after with
  | joined stays =>
    rw [← second.length_eq]
    exact .joined after
  | cons continues rest ih =>
    cases second with
    | cons goesOn others => exact .cons (continues.trans goesOn) (ih others)

/-- **Whoever is in a team later was so before, or has a new row.** -/
theorem mem_or_new (grows : Grows count before after) (ids : (after.map TeamMember.id).Nodup)
    {stay : TeamMember} (member : stay ∈ after) (opened : stay.isOpen = true) :
    stay ∈ before ∨ stay.id ∉ before.map TeamMember.id := by
  induction grows with
  | joined stays => exact .inr List.not_mem_nil
  | @cons count first later before after continues rest ih =>
    rw [List.map_cons, List.nodup_cons] at ids
    rcases List.mem_cons.mp member with rfl | behind
    · exact .inl (continues.eq_of_isOpen opened ▸ List.mem_cons_self)
    · refine (ih ids.2 behind).imp (List.mem_cons_of_mem _) fun new taken => ?_
      rcases List.mem_cons.mp taken with same | old
      · exact ids.1 (continues.id_eq.trans same.symm ▸ List.mem_map_of_mem behind)
      · exact new old

end Grows

/-! ### The moments of a stay -/

/-- The stay covers a moment: it began by then, and it had not ended. -/
def Covers (stay : TeamMember) (moment : Instant) : Prop :=
  stay.joinedAt ≤ moment ∧ ∀ left ∈ stay.leftAt, moment < left

/-- Two stays have no moment in common. -/
def Apart (stay other : TeamMember) : Prop := ∀ moment, ¬ (stay.Covers moment ∧ other.Covers moment)

end TeamMember

namespace Reconcile

open Relation (ReflTransGen)

/-- **The stays of a user in a team are orderly**: at most one of them is open, and they can be laid out in
the order in which they began, without a common moment and with at most the last one open. -/
structure Orderly (stays : List TeamMember) : Prop where
  once : (stays.filter TeamMember.isOpen).length ≤ 1
  laidOut : ∃ layout : List TeamMember, layout.Perm stays
    ∧ layout.Pairwise (fun stay later => stay.joinedAt ≤ later.joinedAt ∧ stay.Apart later)
    ∧ ∀ stay ∈ layout.dropLast, stay.isOpen = false

/-- The stays began and ended by a time. -/
def RecordedBy (moment : Instant) (stays : List TeamMember) : Prop :=
  ∀ stay ∈ stays, stay.joinedAt ≤ moment ∧ ∀ left ∈ stay.leftAt, left ≤ moment

variable {mode : Mode} {kind : TeamKind} {team : Team}

theorem RecordedBy.mono {moment later : Instant} {stays : List TeamMember}
    (recorded : RecordedBy moment stays) (onward : moment ≤ later) : RecordedBy later stays :=
  fun stay inside => ⟨Int.le_trans (recorded stay inside).1 onward, fun left past =>
    Int.le_trans ((recorded stay inside).2 left past) onward⟩

/-! ### One pass -/

theorem continues_leaving {stay : TeamMember} (opened : stay.isOpen = true) :
    stay.Continues (leaving mode stay) :=
  .inr ⟨Option.isNone_iff_eq_none.mp opened, mode.now, rfl⟩

theorem continues_ended (stay : TeamMember) : stay.Continues (ended mode stay) := by
  unfold ended
  split
  · rename_i opened
    exact continues_leaving opened
  · exact .inl rfl

theorem continues_endedIn {team : Uuid} {removed : List Uuid} (stay : TeamMember) :
    stay.Continues (endedIn mode team removed stay) := by
  unfold endedIn
  split
  · rename_i ends
    exact continues_leaving ends.2.1
  · exact .inl rfl

/-- **A pass with changes only fills in ends and adds rows.** -/
theorem Imposed.grows {eligible : List Uuid} {before after : Store} {result : PassResult}
    (imposed : Imposed kind mode team eligible before result after) :
    ∃ count, TeamMember.Grows count before.members after.members := by
  obtain ⟨issued, members⟩ := imposed.members
  rw [members]
  exact ⟨_, .of_map continues_endedIn _ _⟩

/-- A pass records its changes at its own time. -/
theorem Imposed.recordedBy {eligible : List Uuid} {before after : Store} {result : PassResult}
    (imposed : Imposed kind mode team eligible before result after)
    (recorded : RecordedBy mode.now before.members) : RecordedBy mode.now after.members := by
  obtain ⟨issued, members⟩ := imposed.members
  rw [members]
  intro stay inside
  rcases List.mem_append.mp inside with old | new
  · obtain ⟨was, here, rfl⟩ := List.mem_map.mp old
    obtain ⟨joined, left⟩ := recorded was here
    unfold endedIn
    split
    · exact ⟨joined, fun moment past => Option.some.inj past ▸ Int.le_refl _⟩
    · exact ⟨joined, left⟩
  · obtain ⟨_, _, joinedAt, opened⟩ := mem_begun_fields new
    rw [joinedAt, opened]
    refine ⟨Int.le_refl _, ?_⟩
    rintro left ⟨⟩

theorem ended_joinedAt (stay : TeamMember) : (ended mode stay).joinedAt = stay.joinedAt := by
  unfold ended
  split <;> rfl

theorem isOpen_ended (stay : TeamMember) : (ended mode stay).isOpen = false := by
  unfold ended
  split
  · rfl
  · rename_i past
    exact Bool.eq_false_iff.mpr past

/-- A stay that is ended covers no other moments than before. -/
theorem covers_of_ended {stay : TeamMember} {moment : Instant}
    (covers : (ended mode stay).Covers moment) : stay.Covers moment := by
  unfold ended at covers
  split at covers
  · rename_i opened
    rw [TeamMember.isOpen, Option.isNone_iff_eq_none] at opened
    refine ⟨covers.1, fun left past => ?_⟩
    rw [opened] at past
    cases past
  · exact covers

/-- A stay that was over by a time has no moment in common with one that begins then. -/
theorem apart_of_over {stay later : TeamMember} {moment : Instant} (past : stay.isOpen = false)
    (recorded : ∀ left ∈ stay.leftAt, left ≤ moment) (begins : later.joinedAt = moment) :
    stay.Apart later := by
  rintro now ⟨⟨_, before⟩, ⟨after, _⟩⟩
  cases left : stay.leftAt with
  | none =>
    rw [TeamMember.isOpen, left] at past
    cases past
  | some finish =>
    have first : now.micros < finish.micros := before finish left
    have second : finish.micros ≤ moment.micros := recorded finish left
    have third : moment.micros ≤ now.micros := begins ▸ after
    omega

/-- **A pass keeps the stays of a user in a team orderly** if it is made for a time by which they are
recorded. -/
theorem Turn.orderly {stays after : List TeamMember} {action : Option AuditAction}
    (turn : Turn mode stays action after) (orderly : Orderly stays)
    (recorded : RecordedBy mode.now stays) : Orderly after := by
  obtain ⟨once, layout, perm, apart, closed⟩ := orderly
  cases turn with
  | rests => exact ⟨once, layout, perm, apart, closed⟩
  | @joins stay outside joinedAt opened =>
    refine ⟨?_, layout ++ [stay], perm.append_right [stay], ?_, fun other early => ?_⟩
    · rw [List.filter_append, List.filter_eq_nil_iff.mpr fun other inside => ?_, List.nil_append]
      · exact List.length_filter_le _ _
      · rw [outside other inside]
        exact Bool.false_ne_true
    · refine List.pairwise_append.mpr ⟨apart, List.pairwise_singleton _ _, fun other early last here => ?_⟩
      obtain rfl := List.mem_singleton.mp here
      have inside := perm.mem_iff.mp early
      obtain ⟨joined, left⟩ := recorded other inside
      exact ⟨joinedAt ▸ joined, apart_of_over (outside other inside) left joinedAt⟩
    · rw [List.dropLast_concat] at early
      exact outside other (perm.mem_iff.mp early)
  | leaves inside =>
    have past : ∀ other ∈ stays.map (ended mode), other.isOpen = false := fun other inside => by
      obtain ⟨was, _, rfl⟩ := List.mem_map.mp inside
      exact isOpen_ended was
    refine ⟨?_, layout.map (ended mode), perm.map _, ?_, fun other early => ?_⟩
    · rw [List.filter_eq_nil_iff.mpr fun other inside => ?_]
      · exact Nat.zero_le 1
      · rw [past other inside]
        exact Bool.false_ne_true
    · refine List.pairwise_map.mpr (apart.imp fun {first later} both => ?_)
      rw [ended_joinedAt, ended_joinedAt]
      refine ⟨both.1, fun moment covered => both.2 moment ?_⟩
      exact ⟨covers_of_ended covered.1, covers_of_ended covered.2⟩
    · exact past other ((perm.map _).mem_iff.mp (List.dropLast_subset _ early))

/-! ### All calls -/

/-- The members are orderly, and recorded by a time. -/
structure Chronological (moment : Instant) (store : Store) : Prop where
  orderly : ∀ team user, Orderly (store.staysOf team user)
  recorded : RecordedBy moment store.members

theorem Chronological.imposes {before after : Store} (valid : before.Valid)
    (imposes : Imposes mode before after) (chronological : Chronological mode.now before) :
    Chronological mode.now after := by
  obtain ⟨kind, team, eligible, result, imposed⟩ := imposes
  obtain ⟨entries, _, turns⟩ := imposed.turn valid
  refine ⟨fun other user => ?_, imposed.recordedBy chronological.recorded⟩
  obtain ⟨action, turn, _⟩ := turns other user
  refine turn.orderly (chronological.orderly other user) fun stay inside => ?_
  exact chronological.recorded stay (Store.mem_staysOf.mp inside).1

/-- **Membership is never rewritten.** From a store whose members are orderly and recorded by the time of the
first call, whatever calls are made for later and later times, whether they return or fail: between any two
states that are committed on the way, every row goes on and new ones come behind; somebody who is in a team
in the later one was so in the earlier one, by the same row, or has a new row; and the stays of every user in
every team are orderly. -/
theorem membership_is_never_rewritten {start world last : World} {first now later : Instant}
    (valid : start.store.Valid) (orderly : ∀ team user, Orderly (start.store.staysOf team user))
    (recorded : RecordedBy first start.store.members) (reached : Rounds first start now world)
    (onward : Rounds now world later last) :
    (∃ count, TeamMember.Grows count world.store.members last.store.members)
      ∧ (∀ stay ∈ last.store.members, stay.isOpen = true →
        stay ∈ world.store.members ∨ stay.id ∉ world.store.members.map TeamMember.id)
      ∧ ∀ team user, Orderly (last.store.staysOf team user) := by
  obtain ⟨validNow, chronological⟩ := reached.induct Chronological valid ⟨orderly, recorded⟩
    (fun now later store wait here => ⟨here.orderly, here.recorded.mono wait⟩)
    fun mode before after valid imposes here => here.imposes valid imposes
  obtain ⟨_, grows⟩ := onward.induct
    (fun _ store => ∃ count, TeamMember.Grows count world.store.members store.members) validNow
    ⟨0, .refl _⟩ (fun _ _ _ _ here => here) fun mode before after _ imposes here => by
      obtain ⟨count, grows⟩ := here
      obtain ⟨kind, team, eligible, result, imposed⟩ := imposes
      obtain ⟨more, further⟩ := imposed.grows
      exact ⟨count + more, grows.trans further⟩
  obtain ⟨validLast, ordered⟩ := onward.induct Chronological validNow chronological
    (fun now later store wait here => ⟨here.orderly, here.recorded.mono wait⟩)
    fun mode before after valid imposes here => here.imposes valid imposes
  obtain ⟨count, grows⟩ := grows
  exact ⟨⟨count, grows⟩, fun stay member opened => grows.mem_or_new validLast.memberIds member opened,
    ordered.orderly⟩

/-- A single stay is orderly. -/
theorem orderly_of_length_le_one {stays : List TeamMember} (single : stays.length ≤ 1) : Orderly stays := by
  rcases stays with _ | ⟨stay, _ | ⟨other, rest⟩⟩
  · exact ⟨Nat.zero_le 1, [], .refl _, .nil, List.forall_mem_nil _⟩
  · exact ⟨List.length_filter_le _ _, [stay], .refl _, List.pairwise_singleton _ _, List.forall_mem_nil _⟩
  · exact absurd (Nat.le_of_succ_le_succ single) (Nat.not_succ_le_zero _)

/-- The volunteer who was removed comes back with a new row. -/
theorem volunteer_rejoins : Rounds default turnover default emptied
    ∧ Rounds default emptied nextMoment rejoined
    ∧ ∃ stay ∈ rejoined.store.members, stay.user = .numbered 1 2 ∧ stay.isOpen = true
      ∧ stay.id ∉ emptied.store.members.map TeamMember.id := by
  have reached : Rounds default turnover default emptied :=
    @Rounds.next default turnover _ _ _ default .begin (Int.le_refl _) round_emptied
  have onward : Rounds default emptied nextMoment rejoined :=
    @Rounds.next default emptied _ _ _ { now := nextMoment } .begin (by decide) round_rejoined
  have recorded : RecordedBy default turnover.store.members := by
    intro stay inside
    obtain rfl := List.mem_singleton.mp inside
    exact ⟨Int.le_refl _, by rintro left ⟨⟩⟩
  have few : ∀ team user, (turnover.store.staysOf team user).length ≤ 1 := fun team user =>
    Nat.le_trans (List.length_filter_le _ _) (List.length_filter_le _ _)
  obtain ⟨stay, member, user, opened, new⟩ : ∃ stay ∈ rejoined.store.members,
      stay.user = .numbered 1 2 ∧ stay.isOpen = true ∧ stay ∉ emptied.store.members := by
    decide +kernel
  obtain ⟨_, fresh, _⟩ := membership_is_never_rewritten (by decide +kernel)
    (fun team user => orderly_of_length_le_one (few team user)) recorded reached onward
  exact ⟨reached, onward, stay, member, user, opened, (fresh stay member opened).resolve_left new⟩

end Reconcile

end Roster
