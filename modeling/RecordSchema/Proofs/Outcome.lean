import Mathlib

/-!
# Steps that may fail

Chains of steps of which the first failure counts, and steps that are taken for each member of a
list. Main statements: `mapM_eq_ok_iff`, such steps succeed when each of them does, `mapM_eq_error_iff`,
they fail with the first failure, and `mapM_map`, what is true of each step is true of all of them
together.
-/

namespace RecordSchema

variable {ε α β : Type}

/-- A chain of two steps succeeds when both do. -/
lemma bind_eq_ok_iff {x : Except ε α} {f : α → Except ε β} {b : β} :
    (x >>= f) = .ok b ↔ ∃ a, x = .ok a ∧ f a = .ok b := by
  cases x <;> simp [bind, Except.bind]

/-- A chain of two steps fails when the first one does or the second one after it. -/
lemma bind_eq_error_iff {x : Except ε α} {f : α → Except ε β} {e : ε} :
    (x >>= f) = .error e ↔ x = .error e ∨ ∃ a, x = .ok a ∧ f a = .error e := by
  cases x <;> simp [bind, Except.bind]

/-- Wording a failure differently changes no success. -/
lemma mapError_eq_ok_iff {ε' : Type} {x : Except ε α} {f : ε → ε'} {a : α} :
    x.mapError f = .ok a ↔ x = .ok a := by
  cases x <;> simp [Except.mapError]

/-- A changed error comes from an error. -/
lemma mapError_eq_error_iff {ε' : Type} {x : Except ε α} {f : ε → ε'} {e' : ε'} :
    x.mapError f = .error e' ↔ ∃ e, x = .error e ∧ e' = f e := by
  cases x <;> simp [Except.mapError, eq_comm]

/-- Steps that give something only for some members, and then always the same, give it for all of
a list when all of it is among these members. -/
lemma mapM_eq_ok_iff {f : α → Except ε β} {good : α → Prop} {result : α → β}
    (step : ∀ x y, f x = .ok y ↔ good x ∧ y = result x) {xs : List α} {ys : List β} :
    xs.mapM f = .ok ys ↔ (∀ x ∈ xs, good x) ∧ ys = xs.map result := by
  induction xs generalizing ys with
  | nil => simp [pure, Except.pure, eq_comm]
  | cons x rest ih =>
    simp only [List.mapM_cons, bind_eq_ok_iff, step, ih, pure, Except.pure, Except.ok.injEq,
      List.forall_mem_cons, List.map_cons]
    constructor
    · rintro ⟨_, ⟨first, rfl⟩, _, ⟨others, rfl⟩, rfl⟩
      exact ⟨⟨first, others⟩, rfl⟩
    · rintro ⟨⟨first, others⟩, rfl⟩
      exact ⟨_, ⟨first, rfl⟩, _, ⟨others, rfl⟩, rfl⟩

/-- Steps that are taken for the members of a list succeed when each of them does, in the order of the
list. -/
lemma mapM_eq_ok_iff_forall₂ {f : α → Except ε β} {xs : List α} {ys : List β} :
    xs.mapM f = .ok ys ↔ List.Forall₂ (fun x y => f x = .ok y) xs ys := by
  induction xs generalizing ys with
  | nil => simp [pure, Except.pure, eq_comm]
  | cons x rest ih =>
    simp only [List.mapM_cons, bind_eq_ok_iff, ih, pure, Except.pure, Except.ok.injEq,
      List.forall₂_cons_left_iff]
    constructor
    · rintro ⟨y, first, others, later, rfl⟩
      exact ⟨y, others, first, later, rfl⟩
    · rintro ⟨y, others, first, later, rfl⟩
      exact ⟨y, first, others, later, rfl⟩

/-- All goes well exactly when each goes well. -/
lemma exists_mapM_eq_ok_iff {f : α → Except ε β} {xs : List α} :
    (∃ ys, xs.mapM f = .ok ys) ↔ ∀ x ∈ xs, ∃ y, f x = .ok y := by
  induction xs with
  | nil => simp [pure, Except.pure]
  | cons x rest ih =>
    simp only [List.mapM_cons, bind_eq_ok_iff, pure, Except.pure, Except.ok.injEq,
      List.forall_mem_cons, ← ih]
    constructor
    · rintro ⟨_, y, first, ys, others, _⟩
      exact ⟨⟨y, first⟩, ys, others⟩
    · rintro ⟨⟨y, first⟩, ys, others⟩
      exact ⟨_, y, first, ys, others, rfl⟩

/-- Steps that are taken for the members of a list fail with the first failure: all members before it
are without one. -/
lemma mapM_eq_error_iff {f : α → Except ε β} {xs : List α} {e : ε} :
    xs.mapM f = .error e ↔
      ∃ before x after, xs = before ++ x :: after ∧ (∀ y ∈ before, ∃ b, f y = .ok b) ∧
        f x = .error e := by
  induction xs with
  | nil => simp [pure, Except.pure]
  | cons x rest ih =>
    simp only [List.mapM_cons, bind_eq_error_iff, ih, pure, Except.pure, reduceCtorEq, and_false,
      exists_false, or_false]
    constructor
    · rintro (failed | ⟨b, ok, before, y, after, rfl, earlier, failed⟩)
      · exact ⟨[], x, rest, rfl, nofun, failed⟩
      · exact ⟨x :: before, y, after, rfl, List.forall_mem_cons.2 ⟨⟨b, ok⟩, earlier⟩, failed⟩
    · rintro ⟨before, y, after, split, earlier, failed⟩
      cases before with
      | nil =>
        cases split
        exact .inl failed
      | cons first before =>
        cases split
        obtain ⟨⟨b, ok⟩, earlier⟩ := List.forall_mem_cons.1 earlier
        exact .inr ⟨b, ok, before, y, after, rfl, earlier, failed⟩

/-- If each step commutes with a change of its argument and its result, so do the steps for the
members of a list. -/
lemma mapM_map {α' β' : Type} {f : α → Except ε β} {f' : α' → Except ε β'} {change : α → α'}
    {change' : β → β'} (step : ∀ x, f' (change x) = (f x).map change') (xs : List α) :
    (xs.map change).mapM f' = (xs.mapM f).map (List.map change') := by
  induction xs with
  | nil => rfl
  | cons x rest ih =>
    rw [List.map_cons, List.mapM_cons, List.mapM_cons, step, ih]
    cases f x with
    | error e => rfl
    | ok y => cases rest.mapM f <;> rfl

end RecordSchema
