/-
**How actions run.**

An action takes the state it starts in to a result, or to a failure, and in both cases to a state that
it ends in. What an action that is built from others does is read off its parts.

* `bind_eq_ok`, `bind_eq_error` — a chain returns if its first part does and the rest does from where that
  ended, and it fails if one of both fails.
* `forM_ok`, `forM_of_step`, `forM_eq_error` — what the rounds of a loop keep, when it returns, and **in
  which round it fails**.
* `Keeps` — an action never breaks a relation between its start and its end, **whichever way it ends**;
  the relation is a preorder, so chains, choices and repetitions keep it if their parts do.
-/

import Roster.Session
import Mathlib.Order.Defs.Unbundled

namespace Roster

open EStateM (Result)

/-! ### Results of composed actions -/

section Results

variable {ε σ α β : Type}

/-- The state in which an action ends. -/
def endOf : Result ε σ α → σ
  | .ok _ state => state
  | .error _ state => state

/-- The failure that an action ended with, if it failed. -/
def failureOf : Result ε σ α → Option ε
  | .ok _ _ => none
  | .error failure _ => some failure

/-- Whether an action returned, and as a property says, is read off its result. -/
instance decidableReturned {P : α → σ → Prop} [∀ a s, Decidable (P a s)] (result : Result ε σ α) :
    Decidable (∃ a s, result = .ok a s ∧ P a s) :=
  match result with
  | .ok a s => decidable_of_iff (P a s)
    ⟨fun holds => ⟨a, s, rfl, holds⟩, fun ⟨_, _, same, holds⟩ => by cases same; exact holds⟩
  | .error _ _ => isFalse fun ⟨_, _, same, _⟩ => by cases same

/-- Whether an action failed is read off its result. -/
instance decidableFailed (result : Result ε σ α) : Decidable (∃ e s, result = .error e s) :=
  match result with
  | .ok _ _ => isFalse fun ⟨_, _, same⟩ => by cases same
  | .error e s => isTrue ⟨e, s, rfl⟩

theorem bind_apply (x : EStateM ε σ α) (f : α → EStateM ε σ β) (s : σ) :
    (x >>= f) s = match x s with
      | .ok a t => f a t
      | .error e t => .error e t := rfl

/-- **A chain returns exactly if both parts do.** -/
theorem bind_eq_ok {x : EStateM ε σ α} {f : α → EStateM ε σ β} {s t : σ} {b : β} :
    (x >>= f) s = .ok b t ↔ ∃ a u, x s = .ok a u ∧ f a u = .ok b t := by
  rw [bind_apply]
  cases x s with
  | ok a u => simp [and_assoc]
  | error e u => simp

/-- **A chain fails exactly if one of its parts does**, and with the failure of that part. -/
theorem bind_eq_error {x : EStateM ε σ α} {f : α → EStateM ε σ β} {s t : σ} {e : ε} :
    (x >>= f) s = .error e t ↔ x s = .error e t ∨ ∃ a u, x s = .ok a u ∧ f a u = .error e t := by
  rw [bind_apply]
  cases x s with
  | ok a u => simp [and_assoc]
  | error d u => simp

theorem bind_of_ok {x : EStateM ε σ α} {f : α → EStateM ε σ β} {s u : σ} {a : α}
    (ran : x s = .ok a u) : (x >>= f) s = f a u := by
  rw [bind_apply, ran]

@[simp] theorem pure_apply (a : α) (s : σ) : (pure a : EStateM ε σ α) s = .ok a s := rfl

@[simp] theorem get_apply (s : σ) : (get : EStateM ε σ σ) s = .ok s s := rfl

@[simp] theorem modify_apply (f : σ → σ) (s : σ) :
    (modify f : EStateM ε σ PUnit) s = .ok ⟨⟩ (f s) := rfl

theorem tryCatch_apply (x : EStateM ε σ α) (handle : ε → EStateM ε σ α) (s : σ) :
    (tryCatch x handle) s = match x s with
      | .ok a t => .ok a t
      | .error e t => handle e t := by
  show EStateM.tryCatch x handle s = _
  unfold EStateM.tryCatch
  cases x s <;> rfl

/-- What is to be done at last is done whichever way an action ends. -/
theorem tryFinally_apply (x : EStateM ε σ α) (finish : EStateM ε σ β) (s : σ) :
    (tryFinally x finish : EStateM ε σ α) s = match x s with
      | .ok a t => match finish t with
        | .ok _ u => .ok a u
        | .error e u => .error e u
      | .error e t => match finish t with
        | .ok _ u => .error e u
        | .error d u => .error d u := by
  show EStateM.map Prod.fst (tryFinally' x fun _ => finish) s = _
  unfold EStateM.map tryFinally' EStateM.instMonadFinally
  dsimp only
  cases x s with
  | ok a t => dsimp only; cases finish t <;> rfl
  | error e t => dsimp only; cases finish t <;> rfl

theorem forM_nil_apply (f : α → EStateM ε σ PUnit) (s : σ) :
    ([] : List α).forM f s = .ok ⟨⟩ s := rfl

theorem forM_cons_apply (f : α → EStateM ε σ PUnit) (a : α) (rest : List α) :
    (a :: rest).forM f = (f a >>= fun _ => rest.forM f) := rfl

/-- **What each round of a loop keeps, the whole loop keeps**, said of the part of the list that is done;
what is left is known to return. -/
theorem forM_ok {f : α → EStateM ε σ PUnit} {list : List α} {s t : σ} {motive : List α → σ → Prop}
    (start : motive [] s)
    (step : ∀ done a rest u v, done ++ a :: rest = list → motive done u → f a u = .ok ⟨⟩ v →
      rest.forM f v = .ok ⟨⟩ t → motive (done ++ [a]) v)
    (ran : list.forM f s = .ok ⟨⟩ t) : motive list t := by
  suffices rounds : ∀ rest done u, done ++ rest = list → motive done u → rest.forM f u = .ok ⟨⟩ t →
      motive list t from rounds list [] s rfl start ran
  intro rest
  induction rest with
  | nil =>
    rintro done u rfl kept ran
    cases ran
    rwa [List.append_nil]
  | cons a rest ih =>
    intro done u split kept ran
    obtain ⟨_, v, first, later⟩ := bind_eq_ok.mp ran
    refine ih (done ++ [a]) v ?_ (step done a rest u v split kept first later) later
    rw [List.append_assoc, List.singleton_append, split]

/-- **A loop fails exactly if one of its rounds does** after the earlier ones returned, and with the failure
of that round. -/
theorem forM_eq_error {f : α → EStateM ε σ PUnit} {list : List α} {s t : σ} {e : ε} :
    list.forM f s = .error e t ↔ ∃ done a rest u, list = done ++ a :: rest
      ∧ done.forM f s = .ok ⟨⟩ u ∧ f a u = .error e t := by
  induction list generalizing s with
  | nil =>
    rw [forM_nil_apply]
    simp
  | cons first later ih =>
    rw [forM_cons_apply, bind_eq_error]
    constructor
    · rintro (failed | ⟨_, u, returned, failed⟩)
      · exact ⟨[], first, later, s, rfl, rfl, failed⟩
      · obtain ⟨done, a, rest, v, split, earlier, here⟩ := ih.mp failed
        refine ⟨first :: done, a, rest, v, ?_, bind_eq_ok.mpr ⟨_, u, returned, earlier⟩, here⟩
        rw [split, List.cons_append]
    · rintro ⟨done, a, rest, u, split, earlier, failed⟩
      cases done with
      | nil =>
        cases earlier
        obtain ⟨rfl, rfl⟩ := List.cons.inj split
        exact .inl failed
      | cons next done =>
        obtain ⟨rfl, rfl⟩ := List.cons.inj split
        obtain ⟨_, v, returned, earlier⟩ := bind_eq_ok.mp earlier
        exact .inr ⟨_, v, returned, ih.mpr ⟨done, a, rest, u, rfl, earlier, failed⟩⟩

/-- **A loop returns** if each of its rounds does. -/
theorem forM_of_step {f : α → EStateM ε σ PUnit} {list : List α} {s : σ}
    {motive : List α → σ → Prop} (start : motive [] s)
    (step : ∀ done a rest u, done ++ a :: rest = list → motive done u →
      ∃ v, f a u = .ok ⟨⟩ v ∧ motive (done ++ [a]) v) :
    ∃ t, list.forM f s = .ok ⟨⟩ t ∧ motive list t := by
  suffices rounds : ∀ rest done u, done ++ rest = list → motive done u →
      ∃ t, rest.forM f u = .ok ⟨⟩ t ∧ motive list t from rounds list [] s rfl start
  intro rest
  induction rest with
  | nil =>
    rintro done u rfl kept
    exact ⟨u, rfl, by rwa [List.append_nil]⟩
  | cons a rest ih =>
    intro done u split kept
    obtain ⟨v, first, keptLater⟩ := step done a rest u split kept
    obtain ⟨t, later, keptLast⟩ := ih (done ++ [a]) v
      (by rw [List.append_assoc, List.singleton_append, split]) keptLater
    exact ⟨t, bind_eq_ok.mpr ⟨⟨⟩, v, first, later⟩, keptLast⟩

/-- Two lists in a row are gone through one after the other. -/
theorem forM_append_apply (f : α → EStateM ε σ PUnit) (first later : List α) :
    (first ++ later).forM f = (first.forM f >>= fun _ => later.forM f) := by
  induction first with
  | nil => rfl
  | cons a rest ih =>
    rw [List.cons_append, forM_cons_apply, ih, forM_cons_apply, bind_assoc]

end Results

/-! ### Relations that actions keep -/

section Keeps

variable {ε σ α β : Type} {R : σ → σ → Prop}

/-- **An action keeps a relation**: its start is so related to its end, whichever way it ends. -/
def Keeps (R : σ → σ → Prop) (x : EStateM ε σ α) : Prop := ∀ s, R s (endOf (x s))

theorem Keeps.of_ok {x : EStateM ε σ α} (kept : Keeps R x) {s t : σ} {a : α} (ran : x s = .ok a t) :
    R s t := by
  have here := kept s
  rw [ran] at here
  exact here

theorem Keeps.of_error {x : EStateM ε σ α} (kept : Keeps R x) {s t : σ} {e : ε}
    (ran : x s = .error e t) : R s t := by
  have here := kept s
  rw [ran] at here
  exact here

theorem Keeps.modify {f : σ → σ} (kept : ∀ s, R s (f s)) :
    Keeps R (modify f : EStateM ε σ PUnit) := kept

theorem Keeps.ite {c : Prop} [Decidable c] {x y : EStateM ε σ α} (yes : Keeps R x)
    (no : Keeps R y) : Keeps R (if c then x else y) := by
  split
  · exact yes
  · exact no

theorem Keeps.mono {S : σ → σ → Prop} {x : EStateM ε σ α} (kept : Keeps R x)
    (weaker : ∀ s t, R s t → S s t) : Keeps S x := fun s => weaker _ _ (kept s)

variable [IsPreorder σ R]

theorem Keeps.pure (a : α) : Keeps R (pure a : EStateM ε σ α) := fun s => refl_of R s

theorem Keeps.throw (e : ε) : Keeps R (throw e : EStateM ε σ α) := fun s => refl_of R s

theorem Keeps.ofExcept (result : Except ε α) :
    Keeps R (MonadExcept.ofExcept result : EStateM ε σ α) := by
  cases result with
  | ok a => exact Keeps.pure a
  | error e => exact Keeps.throw e

theorem Keeps.get : Keeps R (get : EStateM ε σ σ) := fun s => refl_of R s

theorem Keeps.bind {x : EStateM ε σ α} {f : α → EStateM ε σ β} (first : Keeps R x)
    (rest : ∀ a, Keeps R (f a)) : Keeps R (x >>= f) := by
  intro s
  have here := first s
  rw [bind_apply]
  cases ran : x s with
  | ok a t =>
    rw [ran] at here
    exact trans_of R here (rest a t)
  | error e t =>
    rw [ran] at here
    exact here

theorem Keeps.forM {f : α → EStateM ε σ PUnit} (each : ∀ a, Keeps R (f a)) (list : List α) :
    Keeps R (list.forM f) := by
  induction list with
  | nil => exact Keeps.pure PUnit.unit
  | cons a rest ih => exact Keeps.bind (each a) fun _ => ih

end Keeps

end Roster
