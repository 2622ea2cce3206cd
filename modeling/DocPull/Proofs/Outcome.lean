import Mathlib.Tactic

/-!
# Outcomes

What the outcome of a computation that may fail says about the steps it was made of, and how the
outcomes of two computations compare.
-/
namespace DocPull.Outcome

variable {ε ε' α β : Type}

theorem bind_eq_ok {x : Except ε α} {f : α → Except ε β} {b : β} :
    (x >>= f) = .ok b ↔ ∃ a, x = .ok a ∧ f a = .ok b := by
  cases x <;> simp [bind, Except.bind]

theorem map_eq_ok {x : Except ε α} {f : α → β} {b : β} :
    x.map f = .ok b ↔ ∃ a, x = .ok a ∧ f a = b := by
  cases x <;> simp [Except.map]

theorem mapError_eq_ok {x : Except ε α} {f : ε → ε'} {a : α} :
    x.mapError f = .ok a ↔ x = .ok a := by
  cases x <;> simp [Except.mapError]

theorem mapError_eq_error {x : Except ε α} {f : ε → ε'} {e' : ε'} :
    x.mapError f = .error e' ↔ ∃ e, x = .error e ∧ f e = e' := by
  cases x <;> simp [Except.mapError]

theorem toOption_eq_some {x : Except ε α} {a : α} : x.toOption = some a ↔ x = .ok a := by
  cases x <;> simp [Except.toOption]

/-- What a computation failed with. -/
def error? : Except ε α → Option ε
  | .error e => some e
  | .ok _ => none

theorem error?_eq_some {x : Except ε α} {e : ε} : error? x = some e ↔ x = .error e := by
  cases x <;> simp [error?]

section Same

variable {R : α → β → Prop} {x : Except ε α} {y : Except ε β}

/-- Two outcomes that fail in the same way, or succeed with related values. -/
inductive Same (R : α → β → Prop) : Except ε α → Except ε β → Prop
  | ok {a : α} {b : β} (h : R a b) : Same R (.ok a) (.ok b)
  | error (e : ε) : Same R (.error e) (.error e)

theorem Same.of_ok {a : α} (h : Same R (.ok a : Except ε α) y) : ∃ b, y = .ok b ∧ R a b := by
  cases h with
  | ok h => exact ⟨_, rfl, h⟩

theorem Same.of_error {e : ε} (h : Same R (.error e : Except ε α) y) : y = .error e := by
  cases h
  rfl

theorem Same.of_eq {R : α → α → Prop} (hrefl : ∀ a, R a a) {x y : Except ε α} (h : y = x) :
    Same R x y := by
  subst h
  cases y with
  | error e => exact .error e
  | ok a => exact .ok (hrefl a)

theorem Same.map {α' β' : Type} {S : α' → β' → Prop} {f : α → α'} {g : β → β'} (h : Same R x y)
    (hfg : ∀ a b, R a b → S (f a) (g b)) : Same S (x.map f) (y.map g) := by
  cases h with
  | ok h => exact .ok (hfg _ _ h)
  | error e => exact .error e

theorem Same.mapError (h : Same R x y) (f : ε → ε') : Same R (x.mapError f) (y.mapError f) := by
  cases h with
  | ok h => exact .ok h
  | error e => exact .error (f e)

theorem rel_map {α' β' : Type} {S : α' → β' → Prop} {f : α → α'} {g : β → β'} {x : Option α}
    {y : Option β} (h : Option.Rel R x y) (hfg : ∀ a b, R a b → S (f a) (g b)) :
    Option.Rel S (x.map f) (y.map g) := by
  cases h with
  | some h => exact .some (hfg _ _ h)
  | none => exact .none

theorem rel_bind {α' β' : Type} {S : α' → β' → Prop} {f : α → Option α'} {g : β → Option β'}
    {x : Option α} {y : Option β} (h : Option.Rel R x y)
    (hfg : ∀ a b, R a b → Option.Rel S (f a) (g b)) : Option.Rel S (x.bind f) (y.bind g) := by
  cases h with
  | some h => exact hfg _ _ h
  | none => exact .none

/-- One value, seen in two ways that are related. -/
theorem rel_map_self {α' β' : Type} {S : α' → β' → Prop} {f : α → α'} {g : α → β'} (x : Option α)
    (hfg : ∀ a, S (f a) (g a)) : Option.Rel S (x.map f) (x.map g) := by
  cases x with
  | none => exact .none
  | some a => exact .some (hfg a)

theorem rel_refl {R : α → α → Prop} (hrefl : ∀ a, R a a) (x : Option α) : Option.Rel R x x := by
  cases x with
  | none => exact .none
  | some a => exact .some (hrefl a)

end Same

end DocPull.Outcome
