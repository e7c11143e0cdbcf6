/-
# Computations that leave a trace

A traced computation returns a value or fails, and leaves the list of the events of its run,
also when it fails. `All` states a property of every event; `all_bind` takes it apart along
the way the computation is built, so that a property of a long run becomes one condition for
each of its steps.
-/

import Mathlib.Logic.Basic

namespace FalconGpon.Lib

/-- A computation that may fail, with the events of its run. -/
structure Traced (E α : Type) where
  result : Option α
  trace : List E

namespace Traced

variable {E α β : Type}

instance : Monad (Traced E) where
  pure a := ⟨some a, []⟩
  bind x f :=
    match x.result with
    | some a => ⟨(f a).result, x.trace ++ (f a).trace⟩
    | none => ⟨none, x.trace⟩

def fail : Traced E α :=
  ⟨none, []⟩

def emit (e : E) (a : α) : Traced E α :=
  ⟨some a, [e]⟩

def All (P : E → Prop) (x : Traced E α) : Prop :=
  ∀ e ∈ x.trace, P e

instance {P : E → Prop} [DecidablePred P] {x : Traced E α} : Decidable (x.All P) :=
  inferInstanceAs (Decidable (∀ e ∈ x.trace, P e))

variable {P : E → Prop} {x : Traced E α} {f : α → Traced E β} {e : E} {a : α}

@[simp] theorem result_pure : (pure a : Traced E α).result = some a :=
  rfl

@[simp] theorem result_fail : (fail : Traced E α).result = none :=
  rfl

@[simp] theorem result_emit : (emit e a).result = some a :=
  rfl

@[simp] theorem result_bind : (x >>= f).result = x.result.bind fun a => (f a).result := by
  change (match x.result with
    | some a => (⟨(f a).result, x.trace ++ (f a).trace⟩ : Traced E β)
    | none => ⟨none, x.trace⟩).result = _
  cases x.result <;> rfl

@[simp] theorem all_pure : (pure a : Traced E α).All P ↔ True := by
  constructor
  · intro _
    trivial
  · intro _ e he
    cases he

@[simp] theorem all_fail : (fail : Traced E α).All P ↔ True := by
  constructor
  · intro _
    trivial
  · intro _ e he
    cases he

@[simp] theorem all_emit : (emit e a).All P ↔ P e := by
  constructor
  · intro h
    exact h e (List.mem_singleton.mpr rfl)
  · intro h e' he'
    rw [List.mem_singleton.mp he']
    exact h

/-- The events of a run in two parts: the second part runs only if the first returns. -/
@[simp] theorem all_bind : (x >>= f).All P ↔ x.All P ∧ ∀ a, x.result = some a → (f a).All P := by
  change (∀ e ∈ (match x.result with
    | some a => (⟨(f a).result, x.trace ++ (f a).trace⟩ : Traced E β)
    | none => ⟨none, x.trace⟩).trace, P e) ↔ _
  cases hx : x.result with
  | none =>
      constructor
      · intro h
        exact ⟨h, fun _ ha => nomatch ha⟩
      · intro h
        exact h.1
  | some a =>
      constructor
      · intro h
        have hfirst : x.All P := fun e he => h e (List.mem_append_left _ he)
        have hrest : (f a).All P := fun e he => h e (List.mem_append_right _ he)
        exact ⟨hfirst, fun _ ha => Option.some.inj ha ▸ hrest⟩
      · intro h e he
        cases List.mem_append.mp he with
        | inl he => exact h.1 e he
        | inr he => exact h.2 a rfl e he

theorem bind_congr {g : α → Traced E β} (h : ∀ a, x.result = some a → f a = g a) :
    x >>= f = x >>= g := by
  change (match x.result with
    | some a => (⟨(f a).result, x.trace ++ (f a).trace⟩ : Traced E β)
    | none => ⟨none, x.trace⟩) = match x.result with
    | some a => ⟨(g a).result, x.trace ++ (g a).trace⟩
    | none => ⟨none, x.trace⟩
  cases hx : x.result with
  | none => rfl
  | some a =>
      dsimp only
      rw [h a hx]

def Yields (P : E → Prop) (Q : α → Prop) (x : Traced E α) : Prop :=
  x.All P ∧ ∀ a, x.result = some a → Q a

variable {Q : α → Prop} {R : β → Prop}

@[simp] theorem yields_pure : (pure a : Traced E α).Yields P Q ↔ Q a := by
  simp [Yields]

@[simp] theorem yields_fail : (fail : Traced E α).Yields P Q ↔ True := by
  simp [Yields]

@[simp] theorem yields_emit : (emit e a).Yields P Q ↔ P e ∧ Q a := by
  simp [Yields]

theorem yields_bind : (x >>= f).Yields P R ↔ x.Yields P fun a => (f a).Yields P R := by
  simp only [Yields, all_bind, result_bind, Option.bind_eq_some_iff]
  constructor
  · intro h
    exact ⟨h.1.1, fun a ha => ⟨h.1.2 a ha, fun b hb => h.2 b ⟨a, ha, hb⟩⟩⟩
  · intro h
    refine ⟨⟨h.1, fun a ha => (h.2 a ha).1⟩, ?_⟩
    intro b hb
    obtain ⟨a, ha, hab⟩ := hb
    exact (h.2 a ha).2 b hab

theorem yields_bind_of_forall (h : ∀ a, (f a).Yields (fun _ => True) R) :
    (x >>= f).Yields (fun _ => True) R :=
  yields_bind.mpr ⟨fun _ _ => trivial, fun a _ => h a⟩

theorem all_iff_yields : x.All P ↔ x.Yields P fun _ => True := by
  simp [Yields]

theorem yields_congr {Q' : α → Prop} (h : ∀ a, Q a ↔ Q' a) : x.Yields P Q ↔ x.Yields P Q' := by
  rw [funext fun a => propext (h a)]

end Traced

end FalconGpon.Lib
