/-
# Programs that may fail

A program works on a state and returns a value or fails; what it has done to the state until it
fails stays done. `Returns` is the relation of its successful runs, taken apart by one lemma
for each way to build a program; `Keeps` is a relation between the states before and after any
run.
-/

import Mathlib.Logic.Basic

namespace FalconGpon.Lib

def Program (S α : Type) :=
  S → Option α × S

namespace Program

variable {S α β : Type}

instance : Monad (Program S) where
  pure a := fun s => (some a, s)
  bind x f := fun s =>
    match x s with
    | (some a, s') => f a s'
    | (none, s') => (none, s')

def fail : Program S α :=
  fun s => (none, s)

def read : Program S S :=
  fun s => (some s, s)

def modify (f : S → S) : Program S Unit :=
  fun s => (some (), f s)

def attempt (x : Program S α) : Program S Unit :=
  fun s => (some (), (x s).2)

def succeeds (x : Program S α) : Program S Bool :=
  fun s => (some (x s).1.isSome, (x s).2)

/-- The run from `s` succeeds with `a` and leaves `s'`. -/
def Returns (x : Program S α) (s : S) (a : α) (s' : S) : Prop :=
  x s = (some a, s')

variable {x : Program S α} {f : α → Program S β} {s s' : S} {a : α} {b : β}

theorem returns_pure {a' : α} : (pure a : Program S α).Returns s a' s' ↔ a' = a ∧ s' = s := by
  change (some a, s) = (some a', s') ↔ _
  rw [Prod.mk.injEq, Option.some_inj, eq_comm, @eq_comm _ s]

theorem returns_bind :
    (x >>= f).Returns s b s' ↔ ∃ a s₁, x.Returns s a s₁ ∧ (f a).Returns s₁ b s' := by
  change (match x s with
    | (some a, s₁) => f a s₁
    | (none, s₁) => (none, s₁)) = (some b, s') ↔ ∃ a s₁, x s = (some a, s₁) ∧ _
  cases hx : x s with
  | mk result s₁ =>
      cases result with
      | none => simp
      | some a =>
          constructor
          · exact fun h => ⟨a, s₁, rfl, h⟩
          · intro h
            obtain ⟨a', s₂, hsame, hrest⟩ := h
            cases hsame
            exact hrest

theorem bind_apply (h : x s = (some a, s')) : (x >>= f) s = f a s' := by
  change (match x s with
    | (some a, s₁) => f a s₁
    | (none, s₁) => (none, s₁)) = f a s'
  rw [h]

theorem bind_apply_none (h : x s = (none, s')) : (x >>= f) s = (none, s') := by
  change (match x s with
    | (some a, s₁) => f a s₁
    | (none, s₁) => (none, s₁)) = (none, s')
  rw [h]

/-- A first step that succeeds or fails, and changes the state in either case. -/
theorem bind_apply_ite {x : Program S Unit} {f : Unit → Program S β} {p : Prop} [Decidable p]
    (h : x s = (if p then some () else none, s')) :
    (x >>= f) s = if p then f () s' else (none, s') := by
  by_cases hp : p
  · rw [if_pos hp] at h ⊢
    exact bind_apply h
  · rw [if_neg hp] at h ⊢
    exact bind_apply_none h

theorem bind_pure_apply (x : Program S α) (b : β) (s : S) :
    (x >>= fun _ => pure b) s = ((x s).1.map fun _ => b, (x s).2) := by
  cases hx : x s with
  | mk result s' =>
      cases result with
      | none => exact bind_apply_none hx
      | some a => exact bind_apply hx

theorem not_returns_fail : ¬(fail : Program S α).Returns s a s' :=
  nofun

theorem returns_read {t : S} : (read : Program S S).Returns s t s' ↔ t = s ∧ s' = s := by
  change (some s, s) = (some t, s') ↔ _
  rw [Prod.mk.injEq, Option.some_inj, eq_comm, @eq_comm _ s s']

theorem returns_modify {g : S → S} {u : Unit} : (modify g).Returns s u s' ↔ s' = g s := by
  change (some (), g s) = (some u, s') ↔ _
  rw [Prod.mk.injEq, eq_comm (a := g s)]
  exact and_iff_right rfl

theorem returns_attempt {u : Unit} : x.attempt.Returns s u s' ↔ s' = (x s).2 := by
  change (some (), (x s).2) = (some u, s') ↔ _
  rw [Prod.mk.injEq, eq_comm (a := (x s).2)]
  exact and_iff_right rfl

theorem returns_of_isSome {x : Program S Unit} (h : (x s).1.isSome) : x.Returns s () (x s).2 := by
  cases hx : x s with
  | mk result s₁ =>
      rw [hx] at h
      cases result with
      | none => exact absurd h Bool.false_ne_true
      | some u => exact hx

def Keeps (R : S → S → Prop) (x : Program S α) : Prop :=
  ∀ s, R s (x s).2

variable {R : S → S → Prop}

theorem keeps_pure (hrefl : ∀ s, R s s) (a : α) : Keeps R (pure a : Program S α) :=
  hrefl

theorem keeps_fail (hrefl : ∀ s, R s s) : Keeps R (fail : Program S α) :=
  hrefl

theorem keeps_read (hrefl : ∀ s, R s s) : Keeps R (read : Program S S) :=
  hrefl

theorem Keeps.attempt (h : Keeps R x) : Keeps R x.attempt :=
  h

theorem Keeps.succeeds (h : Keeps R x) : Keeps R x.succeeds :=
  h

theorem Keeps.bind (htrans : ∀ {s₁ s₂ s₃}, R s₁ s₂ → R s₂ s₃ → R s₁ s₃) (h : Keeps R x)
    (hf : ∀ a, Keeps R (f a)) : Keeps R (x >>= f) := by
  intro s
  change R s (match x s with
    | (some a, s₁) => f a s₁
    | (none, s₁) => (none, s₁)).2
  have hx := h s
  cases hrun : x s with
  | mk result s₁ =>
      rw [hrun] at hx
      cases result with
      | none => exact hx
      | some a => exact htrans hx (hf a s₁)

end Program

end FalconGpon.Lib
