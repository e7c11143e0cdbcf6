/-
# Filling a limited space

`fitting` takes elements from the front of a list as long as their sizes add up to no more
than a limit, and stops at the first that does not fit. It is the longest such prefix.
-/

import Mathlib.Algebra.GroupWithZero.Nat
import Mathlib.Data.List.Basic

namespace FalconGpon.Lib

variable {α : Type*} {size : α → Nat} {limit : Nat}

/-- The elements that fit behind those that use some of the space. -/
def fitting (size : α → Nat) (limit : Nat) : List α → Nat → List α
  | [], _ => []
  | x :: xs, used =>
      if limit < used + size x then [] else x :: fitting size limit xs (used + size x)

theorem fitting_prefix (xs : List α) (used : Nat) : fitting size limit xs used <+: xs := by
  induction xs generalizing used with
  | nil => exact List.prefix_refl []
  | cons x xs ih =>
      rw [fitting]
      split
      · exact List.nil_prefix
      · exact List.cons_prefix_cons.mpr ⟨rfl, ih _⟩

theorem fitting_le (xs : List α) {used : Nat} (hused : used ≤ limit) :
    used + ((fitting size limit xs used).map size).sum ≤ limit := by
  induction xs generalizing used with
  | nil => exact hused
  | cons x xs ih =>
      rw [fitting]
      split
      · exact hused
      · rename_i hfit
        have hrest := ih (Nat.not_lt.mp hfit)
        rw [List.map_cons, List.sum_cons, ← Nat.add_assoc]
        exact hrest

/-- Every prefix that fits is taken. -/
theorem prefix_fitting {xs ys : List α} {used : Nat} (hfront : ys <+: xs)
    (hfit : used + (ys.map size).sum ≤ limit) : ys <+: fitting size limit xs used := by
  induction xs generalizing ys used with
  | nil =>
      rw [List.prefix_nil.mp hfront]
      exact List.nil_prefix
  | cons x xs ih =>
      cases ys with
      | nil => exact List.nil_prefix
      | cons y ys =>
          obtain ⟨rfl, hrest⟩ := List.cons_prefix_cons.mp hfront
          rw [List.map_cons, List.sum_cons, ← Nat.add_assoc] at hfit
          have hroom : ¬ limit < used + size y := by omega
          rw [fitting, if_neg hroom]
          exact List.cons_prefix_cons.mpr ⟨rfl, ih hrest hfit⟩

end FalconGpon.Lib
