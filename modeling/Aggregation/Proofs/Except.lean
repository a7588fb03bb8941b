import Mathlib.Data.List.Forall2

/-!
This module contains the conditions under which computations that may fail succeed, and those under
which they fail with a given error.
-/

namespace Aggregation

namespace Except

variable {ε α β : Type}

@[simp]
theorem pure_eq_ok {a b : α} : (pure a : Except ε α) = .ok b ↔ a = b := by
  simp [pure, Except.pure]

@[simp]
theorem throw_eq_ok {e : ε} {b : α} : ¬ (throw e : Except ε α) = .ok b := by
  simp [throw, throwThe, MonadExceptOf.throw]

@[simp]
theorem throw_bind {e : ε} {f : α → Except ε β} : (throw e : Except ε α) >>= f = throw e := by
  rfl

@[simp]
theorem bind_eq_ok {x : Except ε α} {f : α → Except ε β} {b : β}
    : x >>= f = .ok b ↔ ∃ a, x = .ok a ∧ f a = .ok b := by
  cases x with
  | error => simp [bind, Except.bind]
  | ok => simp [bind, Except.bind]

@[simp]
theorem pure_eq_error {a : α} {e : ε} : ¬ (pure a : Except ε α) = .error e := by
  simp [pure, Except.pure]

@[simp]
theorem throw_eq_error {e e' : ε} : (throw e : Except ε α) = .error e' ↔ e = e' := by
  simp [throw, throwThe, MonadExceptOf.throw]

@[simp]
theorem bind_eq_error {x : Except ε α} {f : α → Except ε β} {e : ε}
    : x >>= f = .error e ↔ x = .error e ∨ ∃ a, x = .ok a ∧ f a = .error e := by
  cases x with
  | error => simp [bind, Except.bind]
  | ok => simp [bind, Except.bind]

@[simp]
theorem map_eq_ok {x : Except ε α} {f : α → β} {b : β}
    : f <$> x = .ok b ↔ ∃ a, x = .ok a ∧ f a = b := by
  cases x with
  | error => simp [Functor.map, Except.map]
  | ok => simp [Functor.map, Except.map]

@[simp]
theorem map_eq_error {x : Except ε α} {f : α → β} {e : ε}
    : f <$> x = .error e ↔ x = .error e := by
  cases x with
  | error => simp [Functor.map, Except.map]
  | ok => simp [Functor.map, Except.map]

theorem exists_eq_ok {x : Except ε α} : (∃ a, x = .ok a) ↔ ∀ e, ¬ x = .error e := by
  cases x with
  | error e => simp
  | ok a => simp

/--
A traversal succeeds if it does at every item.
-/
theorem mapM_eq_ok {f : α → Except ε β} {xs : List α} {ys : List β}
    : xs.mapM f = .ok ys ↔ List.Forall₂ (fun x y => f x = .ok y) xs ys := by
  induction xs generalizing ys with
  | nil => cases ys <;> simp
  | cons x xs ih =>
    rw [List.mapM_cons]
    cases ys with
    | nil => simp
    | cons y ys =>
      rw [List.forall₂_cons, ← ih]
      simp

theorem exists_mapM_eq_ok {f : α → Except ε β} {xs : List α}
    : (∃ ys, xs.mapM f = .ok ys) ↔ ∀ x ∈ xs, ∃ y, f x = .ok y := by
  induction xs with
  | nil => simp
  | cons x xs ih =>
    rw [List.forall_mem_cons, ← ih]
    simp

theorem exists_mem_of_mapM {f : α → Except ε β} {xs : List α} {ys : List β}
    (h : xs.mapM f = .ok ys) {x : α} (hx : x ∈ xs) : ∃ y ∈ ys, f x = .ok y := by
  rw [mapM_eq_ok] at h
  induction h with
  | nil => cases hx
  | cons head _ ih =>
    rcases List.mem_cons.mp hx with rfl | hx
    . exact ⟨_, List.mem_cons_self, head⟩
    . rcases ih hx with ⟨y, hy, heq⟩
      exact ⟨y, List.mem_cons_of_mem _ hy, heq⟩

theorem getElem?_of_mapM {f : α → Except ε β} {before after : List α} {x : α} {ys : List β}
    (h : (before ++ x :: after).mapM f = .ok ys)
    : ∃ y, f x = .ok y ∧ ys[before.length]? = some y := by
  simp only [List.mapM_append, List.mapM_cons, bind_eq_ok, pure_eq_ok] at h
  rcases h with ⟨zs, hzs, _, ⟨y, hy, ws, _, rfl⟩, rfl⟩
  rw [mapM_eq_ok] at hzs
  refine ⟨y, hy, ?_⟩
  simp [hzs.length_eq]

/--
A traversal fails at the first item at which it does.
-/
theorem mapM_eq_error {f : α → Except ε β} {xs : List α} {e : ε}
    : xs.mapM f = .error e ↔
        ∃ before x after, xs = before ++ x :: after ∧ (∀ y ∈ before, ∃ b, f y = .ok b) ∧
          f x = .error e := by
  induction xs with
  | nil => simp
  | cons x xs ih =>
    simp only [List.mapM_cons, bind_eq_error, pure_eq_error, and_false, exists_false, or_false, ih]
    constructor
    . rintro (hx | ⟨b, hx, before, y, after, rfl, hbefore, hy⟩)
      . exact ⟨[], x, xs, rfl, by simp, hx⟩
      . refine ⟨x :: before, y, after, rfl, ?_, hy⟩
        rw [List.forall_mem_cons]
        exact ⟨⟨b, hx⟩, hbefore⟩
    . rintro ⟨before, y, after, h, hbefore, hy⟩
      cases before with
      | nil =>
        rw [List.nil_append, List.cons.injEq] at h
        rw [h.left]
        exact .inl hy
      | cons z before =>
        rw [List.cons_append, List.cons.injEq] at h
        rw [List.forall_mem_cons, ← h.left] at hbefore
        rcases hbefore with ⟨⟨b, hx⟩, hbefore⟩
        exact .inr ⟨b, hx, before, y, after, h.right, hbefore, hy⟩

end Except

namespace Option

variable {α : Type u} {β : Type v}

theorem mapM_eq_some {f : α → Option β} {xs : List α} {ys : List β}
    : xs.mapM f = some ys ↔ List.Forall₂ (fun x y => f x = some y) xs ys := by
  induction xs generalizing ys with
  | nil => cases ys <;> simp
  | cons x xs ih =>
    rw [List.mapM_cons]
    cases ys with
    | nil => simp [Option.bind_eq_some_iff]
    | cons y ys =>
      rw [List.forall₂_cons, ← ih]
      simp [Option.bind_eq_some_iff]

theorem mapM_eq_none {f : α → Option β} {xs : List α}
    : xs.mapM f = none ↔ ∃ x ∈ xs, f x = none := by
  induction xs with
  | nil => simp
  | cons x xs ih =>
    rw [List.mapM_cons, List.exists_mem_cons_iff, ← ih]
    cases f x <;> cases xs.mapM f <;> simp

end Option

end Aggregation
