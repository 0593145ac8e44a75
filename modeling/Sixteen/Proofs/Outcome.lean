import Mathlib.Data.List.Forall2

/-!
# Computations that may fail

When a computation that is put together from others ends well: exactly when each of its parts does.
It fails as the first of its parts that fails.

* `Except.bind_eq_ok_iff`, `Except.map_eq_ok_iff`, `Except.mapError_eq_ok_iff` : two parts, or one;
* `Except.mapM_eq_ok_iff` : one part for each element of a list;
* `Except.bind_eq_error_iff`, `Except.map_eq_error_iff`, `Except.mapM_eq_error_iff` : which part
  fails;
* `Except.Related` : two computations end alike, which they do if their parts do.
-/

namespace Except

variable {ε δ α β : Type}

theorem bind_eq_ok_iff {x : Except ε α} {f : α → Except ε β} {b : β} :
    x >>= f = .ok b ↔ ∃ a, x = .ok a ∧ f a = .ok b := by
  cases x <;> simp [bind, Except.bind]

theorem map_eq_ok_iff {x : Except ε α} {f : α → β} {b : β} :
    x.map f = .ok b ↔ ∃ a, x = .ok a ∧ f a = b := by
  cases x <;> simp [Except.map]

/-- If the values of `x` are known by something that they are made of, so are those of its image. -/
theorem map_eq_ok_iff_of_exists {x : Except ε α} {P : δ → Prop} {g : δ → α}
    (hx : ∀ a, x = .ok a ↔ ∃ d, P d ∧ a = g d) {f : α → β} {b : β} :
    x.map f = .ok b ↔ ∃ d, P d ∧ b = f (g d) := by
  simp only [map_eq_ok_iff, hx]
  constructor
  · rintro ⟨_, ⟨d, hd, rfl⟩, rfl⟩
    exact ⟨d, hd, rfl⟩
  · rintro ⟨d, hd, rfl⟩
    exact ⟨_, ⟨d, hd, rfl⟩, rfl⟩

theorem mapError_eq_ok_iff {x : Except ε α} {f : ε → δ} {a : α} :
    x.mapError f = .ok a ↔ x = .ok a := by
  cases x with
  | error e => exact ⟨nofun, nofun⟩
  | ok a' =>
    constructor <;> rintro ⟨⟩ <;> rfl

/-- If each part ends well under a condition of its own and with a known value, then all of them do
under all conditions and with all values. -/
theorem mapM_eq_ok_iff {f : α → Except ε β} {P : α → Prop} {g : α → β} {xs : List α}
    (hf : ∀ x ∈ xs, ∀ y, f x = .ok y ↔ P x ∧ y = g x) {ys : List β} :
    xs.mapM f = .ok ys ↔ (∀ x ∈ xs, P x) ∧ ys = xs.map g := by
  induction xs generalizing ys with
  | nil => simp [pure, Except.pure, eq_comm]
  | cons x xs ih =>
    have head := hf x List.mem_cons_self
    have tail := @ih fun y hy => hf y (List.mem_cons_of_mem x hy)
    rw [List.mapM_cons, bind_eq_ok_iff]
    simp only [bind_eq_ok_iff, head, tail, pure, Except.pure, Except.ok.injEq, List.map_cons,
      List.forall_mem_cons]
    constructor
    · rintro ⟨_, ⟨hx, rfl⟩, _, ⟨hxs, rfl⟩, rfl⟩
      exact ⟨⟨hx, hxs⟩, rfl⟩
    · rintro ⟨⟨hx, hxs⟩, rfl⟩
      exact ⟨_, ⟨hx, rfl⟩, _, ⟨hxs, rfl⟩, rfl⟩

/-! ## Failing -/

theorem bind_eq_error_iff {x : Except ε α} {f : α → Except ε β} {e : ε} :
    x >>= f = .error e ↔ x = .error e ∨ ∃ a, x = .ok a ∧ f a = .error e := by
  cases x <;> simp [bind, Except.bind]

theorem map_eq_error_iff {x : Except ε α} {f : α → β} {e : ε} :
    x.map f = .error e ↔ x = .error e := by
  cases x <;> simp [Except.map]

theorem mapError_eq_error_iff {x : Except ε α} {f : ε → δ} {e : δ} :
    x.mapError f = .error e ↔ ∃ d, x = .error d ∧ f d = e := by
  cases x with
  | ok a => exact ⟨nofun, nofun⟩
  | error d =>
    constructor
    · rintro ⟨⟩
      exact ⟨d, rfl, rfl⟩
    · rintro ⟨_, ⟨⟩, rfl⟩
      rfl

/-- The first part that fails decides; those before it end well. -/
theorem mapM_eq_error_iff {f : α → Except ε β} {xs : List α} {e : ε} :
    xs.mapM f = .error e ↔
      ∃ done x rest, xs = done ++ x :: rest ∧ (∀ y ∈ done, ∃ b, f y = .ok b) ∧ f x = .error e := by
  induction xs with
  | nil => simp [pure, Except.pure]
  | cons x xs ih =>
    rw [List.mapM_cons, bind_eq_error_iff]
    constructor
    · rintro (first | ⟨b, first, later⟩)
      · exact ⟨[], x, xs, rfl, nofun, first⟩
      · simp only [bind_eq_error_iff, ih, pure, Except.pure] at later
        obtain ⟨done, y, rest, rfl, well, fails⟩ | ⟨_, _, ⟨⟩⟩ := later
        exact ⟨x :: done, y, rest, rfl, List.forall_mem_cons.2 ⟨⟨b, first⟩, well⟩, fails⟩
    · rintro ⟨_ | ⟨y, done⟩, z, rest, same, well, fails⟩
      · cases same
        exact .inl fails
      · cases same
        obtain ⟨⟨b, first⟩, others⟩ := List.forall_mem_cons.1 well
        refine .inr ⟨b, first, ?_⟩
        rw [bind_eq_error_iff]
        exact .inl (ih.2 ⟨done, z, rest, rfl, others, fails⟩)

/-! ## Two computations -/

section
variable {ε' α' β' : Type}

/-- Two computations end alike: both well, with values that are related, or both badly, with errors
that are. -/
inductive Related (E : ε → ε' → Prop) (A : α → α' → Prop) : Except ε α → Except ε' α' → Prop
  | ok {a : α} {a' : α'} (values : A a a') : Related E A (.ok a) (.ok a')
  | error {e : ε} {e' : ε'} (errors : E e e') : Related E A (.error e) (.error e')

variable {E : ε → ε' → Prop} {A : α → α' → Prop} {B : β → β' → Prop}

theorem Related.refl (x : Except ε α) : Related Eq Eq x x := by
  cases x with
  | ok a => exact .ok rfl
  | error e => exact .error rfl

theorem Related.ok_iff {x : Except ε α} {x' : Except ε' α} (h : Related E Eq x x') {a : α} :
    x = .ok a ↔ x' = .ok a := by
  cases h with
  | ok values => rw [values, Except.ok.injEq, Except.ok.injEq]
  | error errors => exact ⟨nofun, nofun⟩

theorem Related.bind {x : Except ε α} {x' : Except ε' α'} {f : α → Except ε β}
    {f' : α' → Except ε' β'} (hx : Related E A x x')
    (hf : ∀ a a', A a a' → Related E B (f a) (f' a')) : Related E B (x >>= f) (x' >>= f') := by
  cases hx with
  | ok values => exact hf _ _ values
  | error errors => exact .error errors

theorem Related.map {x : Except ε α} {x' : Except ε' α'} {f : α → β} {f' : α' → β'}
    (hx : Related E A x x') (hf : ∀ a a', A a a' → B (f a) (f' a')) :
    Related E B (x.map f) (x'.map f') := by
  cases hx with
  | ok values => exact .ok (hf _ _ values)
  | error errors => exact .error errors

theorem Related.mapError {δ δ' : Type} {D : δ → δ' → Prop} {x : Except ε α} {x' : Except ε' α'}
    {f : ε → δ} {f' : ε' → δ'} (hx : Related E A x x') (hf : ∀ e e', E e e' → D (f e) (f' e')) :
    Related D A (x.mapError f) (x'.mapError f') := by
  cases hx with
  | ok values => exact .ok values
  | error errors => exact .error (hf _ _ errors)

theorem Related.mapM {R : α → α' → Prop} {xs : List α} {xs' : List α'} {f : α → Except ε β}
    {f' : α' → Except ε' β'} (h : List.Forall₂ R xs xs')
    (hf : ∀ x x', R x x' → Related E B (f x) (f' x')) :
    Related E (List.Forall₂ B) (xs.mapM f) (xs'.mapM f') := by
  induction h with
  | nil => exact .ok .nil
  | cons head tail ih =>
    rw [List.mapM_cons, List.mapM_cons]
    exact (hf _ _ head).bind fun b b' first => ih.bind fun bs bs' others => .ok (.cons first others)

theorem Related.foldlM {R : β → β' → Prop} {xs : List β} {xs' : List β'} {f : α → β → Except ε α}
    {f' : α' → β' → Except ε' α'} (h : List.Forall₂ R xs xs')
    (hf : ∀ a a' x x', A a a' → R x x' → Related E A (f a x) (f' a' x')) {a : α} {a' : α'}
    (start : A a a') : Related E A (xs.foldlM f a) (xs'.foldlM f' a') := by
  induction h generalizing a a' with
  | nil => exact .ok start
  | cons head tail ih =>
    rw [List.foldlM_cons, List.foldlM_cons]
    exact (hf _ _ _ _ start head).bind fun b b' next => ih next

end

end Except
