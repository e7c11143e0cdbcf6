/-
# Tables written element by element

A table is often allocated for a number of elements that one walk has counted, and filled by a
second walk. If both walks see elements of one width, nothing is written beyond the table, and
it holds the elements one behind the other.

`takeWhile_eq_filter_iff` says when a walk that stops at the first gap has seen everything.
-/

import Mathlib.Data.List.Basic
import Mathlib.Order.Lattice

namespace FalconGpon.Lib

/-- A table with the number of elements written to it; `beyond` tells that one of them did not
fit. -/
structure Filling (β : Type*) where
  data : List β
  count : Nat
  beyond : Bool

variable {α β : Type*}

/-- Write the next element. -/
def Filling.push (filling : Filling β) (element : List β) : Filling β :=
  let start := filling.count * element.length
  let stop := start + element.length
  if stop ≤ filling.data.length then
    { filling with
      data := filling.data.take start ++ element ++ filling.data.drop stop
      count := filling.count + 1 }
  else { filling with count := filling.count + 1, beyond := true }

theorem Filling.push_next {done rest element : List β} {count : Nat}
    (hdone : done.length = count * element.length) (hrest : element.length ≤ rest.length) :
    Filling.push ⟨done ++ rest, count, false⟩ element =
      ⟨done ++ element ++ rest.drop element.length, count + 1, false⟩ := by
  have hfits : done.length + element.length ≤ (done ++ rest).length := by
    rw [List.length_append]
    exact Nat.add_le_add_left hrest _
  rw [Filling.push]
  dsimp only
  rw [← hdone, if_pos hfits, List.take_left', List.drop_append, List.drop_of_length_le,
    Nat.add_sub_cancel_left, List.nil_append]
  · exact Nat.le_add_right _ _
  · rfl

theorem foldl_push_append {width : Nat} {elements : List (List β)}
    (hwidth : ∀ element ∈ elements, element.length = width) {done rest : List β} {count : Nat}
    (hdone : done.length = count * width) (hrest : rest.length = elements.length * width) :
    elements.foldl Filling.push ⟨done ++ rest, count, false⟩ =
      ⟨done ++ elements.flatten, count + elements.length, false⟩ := by
  induction elements generalizing done rest count with
  | nil =>
      rw [List.length_nil, Nat.zero_mul, List.length_eq_zero_iff] at hrest
      rw [hrest]
      rfl
  | cons element elements ih =>
      have ⟨helement, helements⟩ := List.forall_mem_cons.mp hwidth
      rw [List.length_cons, Nat.succ_mul] at hrest
      rw [List.foldl_cons, Filling.push_next (helement ▸ hdone)
        (helement ▸ hrest ▸ Nat.le_add_left _ _), helement, ih helements]
      · rw [List.flatten_cons, List.append_assoc, List.length_cons, Nat.add_right_comm,
          Nat.add_assoc]
      · rw [List.length_append, helement, hdone, Nat.succ_mul]
      · rw [List.length_drop, hrest, Nat.add_sub_cancel]

theorem foldl_push {width : Nat} {elements : List (List β)}
    (hwidth : ∀ element ∈ elements, element.length = width) {data : List β}
    (hdata : data.length = elements.length * width) :
    elements.foldl Filling.push ⟨data, 0, false⟩ =
      ⟨elements.flatten, elements.length, false⟩ := by
  have hfill := foldl_push_append hwidth (show ([] : List β).length = 0 * width from (Nat.zero_mul _).symm) hdata
  rwa [List.nil_append, List.nil_append, Nat.zero_add] at hfill

theorem length_flatten_of_width {width : Nat} {elements : List (List β)}
    (hwidth : ∀ element ∈ elements, element.length = width) :
    elements.flatten.length = elements.length * width := by
  rw [List.length_flatten, List.map_congr_left hwidth, List.map_const', List.sum_replicate_nat]

/-! ## Elements of two -/

theorem flatMap_pair_injective {f g : α → β} (hinj : ∀ x y, f x = f y → g x = g y → x = y)
    {xs ys : List α} (h : xs.flatMap (fun x => [f x, g x]) = ys.flatMap fun y => [f y, g y]) :
    xs = ys := by
  induction xs generalizing ys with
  | nil =>
      cases ys with
      | nil => rfl
      | cons y ys => exact absurd h (List.cons_ne_nil _ _).symm
  | cons x xs ih =>
      cases ys with
      | nil => exact absurd h (List.cons_ne_nil _ _)
      | cons y ys =>
          rw [List.flatMap_cons, List.flatMap_cons] at h
          injection h with hfirst h
          injection h with hsecond h
          rw [hinj x y hfirst hsecond, ih h]

/-! ## Gaps -/

theorem takeWhile_eq_filter_iff [LinearOrder α] {p : α → Bool} {xs : List α}
    (hsorted : xs.Pairwise (· < ·)) :
    xs.takeWhile p = xs.filter p ↔ ∀ x ∈ xs, ∀ y ∈ xs, x < y → p y = true → p x = true := by
  induction xs with
  | nil => exact iff_of_true rfl fun x hx => absurd hx List.not_mem_nil
  | cons head xs ih =>
      obtain ⟨hhead, hsorted⟩ := List.pairwise_cons.mp hsorted
      by_cases hp : p head = true
      · rw [List.takeWhile_cons_of_pos hp, List.filter_cons_of_pos hp, List.cons_inj_right,
          ih hsorted]
        apply Iff.intro
        · intro hclosed x hx y hy hlt hpy
          cases List.mem_cons.mp hx with
          | inl hx => exact hx ▸ hp
          | inr hx =>
              cases List.mem_cons.mp hy with
              | inl hy =>
                  rw [hy] at hlt
                  exact absurd (hhead x hx) (lt_asymm hlt)
              | inr hy => exact hclosed x hx y hy hlt hpy
        · exact fun hclosed x hx y hy =>
            hclosed x (List.mem_cons_of_mem _ hx) y (List.mem_cons_of_mem _ hy)
      · rw [List.takeWhile_cons_of_neg hp, List.filter_cons_of_neg hp, eq_comm,
          List.filter_eq_nil_iff]
        apply Iff.intro
        · intro hnone x _ y hy hlt hpy
          cases List.mem_cons.mp hy with
          | inl hy => exact absurd (hy ▸ hpy) hp
          | inr hy => exact absurd hpy (hnone y hy)
        · exact fun hclosed y hy hpy =>
            hp (hclosed head List.mem_cons_self y (List.mem_cons_of_mem _ hy) (hhead y hy) hpy)

end FalconGpon.Lib
