/-
# Unions of lists with a capacity

`unionUpTo` appends the elements of one list to another, each unless it is there already, until
the capacity is reached. It goes through to the end if and only if the union fits.
-/

import Mathlib.Data.Finset.Card
import Mathlib.Data.Finset.Dedup

namespace FalconGpon.Lib

variable {α : Type*} [DecidableEq α] {cap : Nat}

/-- Append what is not there yet; stop at the first element for which there is no room. -/
def unionUpTo (cap : Nat) : List α → List α → Bool × List α
  | [], u => (true, u)
  | x :: xs, u =>
      if x ∈ u then unionUpTo cap xs u
      else if cap ≤ u.length then (false, u)
      else unionUpTo cap xs (u ++ [x])

theorem prefix_unionUpTo (xs u : List α) : u <+: (unionUpTo cap xs u).2 := by
  induction xs generalizing u with
  | nil => exact List.prefix_refl u
  | cons x xs ih =>
      rw [unionUpTo]
      split_ifs
      · exact ih u
      · exact List.prefix_refl u
      · exact (List.prefix_append u [x]).trans (ih (u ++ [x]))

theorem unionUpTo_subset (xs u : List α) : (unionUpTo cap xs u).2 ⊆ u ++ xs := by
  induction xs generalizing u with
  | nil => exact List.subset_append_left u []
  | cons x xs ih =>
      rw [unionUpTo]
      split_ifs
      · intro y hy
        rw [List.append_cons]
        rcases List.mem_append.mp (ih u hy) with hu | hxs
        · exact List.mem_append_left _ (List.mem_append_left _ hu)
        · exact List.mem_append_right _ hxs
      · exact List.subset_append_left u (x :: xs)
      · rw [List.append_cons u x xs]
        exact ih (u ++ [x])

theorem nodup_unionUpTo (xs u : List α) : (unionUpTo cap xs u).2.Nodup ↔ u.Nodup := by
  induction xs generalizing u with
  | nil => exact Iff.rfl
  | cons x xs ih =>
      rw [unionUpTo]
      split_ifs with hmem
      · exact ih u
      · exact Iff.rfl
      · rw [ih, ← List.concat_eq_append, List.nodup_concat]
        exact and_iff_right hmem

variable {u : List α}

theorem length_unionUpTo_le (xs : List α) (hu : u.length ≤ cap) :
    (unionUpTo cap xs u).2.length ≤ cap := by
  induction xs generalizing u with
  | nil => exact hu
  | cons x xs ih =>
      rw [unionUpTo]
      split_ifs with _ hfull
      · exact ih hu
      · exact hu
      · apply ih
        rw [List.length_append]
        exact Nat.not_le.mp hfull

variable {xs : List α}

theorem subset_unionUpTo (h : (unionUpTo cap xs u).1 = true) : xs ⊆ (unionUpTo cap xs u).2 := by
  induction xs generalizing u with
  | nil => exact List.nil_subset _
  | cons x xs ih =>
      rw [unionUpTo] at h ⊢
      split_ifs at h ⊢ with hmem
      · exact List.cons_subset.mpr ⟨(prefix_unionUpTo xs u).subset hmem, ih h⟩
      · have hx : x ∈ u ++ [x] := List.mem_append_right u List.mem_cons_self
        exact List.cons_subset.mpr ⟨(prefix_unionUpTo xs (u ++ [x])).subset hx, ih h⟩

theorem unionUpTo_stopped (h : (unionUpTo cap xs u).1 = false) :
    cap ≤ (unionUpTo cap xs u).2.length ∧ ∃ x ∈ xs, x ∉ (unionUpTo cap xs u).2 := by
  induction xs generalizing u with
  | nil => exact Bool.noConfusion h
  | cons x xs ih =>
      rw [unionUpTo] at h ⊢
      split_ifs at h ⊢ with hmem hfull
      · have ⟨hlength, y, hy, hnot⟩ := ih h
        exact ⟨hlength, y, List.mem_cons_of_mem x hy, hnot⟩
      · exact ⟨hfull, x, List.mem_cons_self, hmem⟩
      · have ⟨hlength, y, hy, hnot⟩ := ih h
        exact ⟨hlength, y, List.mem_cons_of_mem x hy, hnot⟩

theorem mem_unionUpTo (h : (unionUpTo cap xs u).1 = true) (x : α) :
    x ∈ (unionUpTo cap xs u).2 ↔ x ∈ u ∨ x ∈ xs := by
  constructor
  · intro hx
    exact List.mem_append.mp (unionUpTo_subset xs u hx)
  · intro hx
    rcases hx with hu | hxs
    · exact (prefix_unionUpTo xs u).subset hu
    · exact subset_unionUpTo h hxs

theorem card_le_of_unionUpTo (hu : u.length ≤ cap)
    (h : (unionUpTo cap xs u).1 = true) : (u ++ xs).toFinset.card ≤ cap := by
  have hsame : (u ++ xs).toFinset = (unionUpTo cap xs u).2.toFinset := by
    ext x
    rw [List.mem_toFinset, List.mem_toFinset, mem_unionUpTo h, List.mem_append]
  rw [hsame]
  exact (List.toFinset_card_le _).trans (length_unionUpTo_le xs hu)

/-- The walk goes to the end if and only if the union fits. -/
theorem unionUpTo_iff (hnodup : u.Nodup) (hu : u.length ≤ cap) :
    (unionUpTo cap xs u).1 = true ↔ (u ++ xs).toFinset.card ≤ cap := by
  constructor
  · exact card_le_of_unionUpTo hu
  · intro hcard
    by_contra h
    have ⟨hlength, x, hx, hnot⟩ := unionUpTo_stopped (Bool.eq_false_iff.mpr h)
    have hres : (unionUpTo cap xs u).2.toFinset.card = (unionUpTo cap xs u).2.length :=
      List.toFinset_card_of_nodup ((nodup_unionUpTo xs u).mpr hnodup)
    have hlarger : insert x (unionUpTo cap xs u).2.toFinset ⊆ (u ++ xs).toFinset := by
      apply Finset.insert_subset
      · exact List.mem_toFinset.mpr (List.mem_append_right u hx)
      · intro y hy
        exact List.mem_toFinset.mpr (unionUpTo_subset xs u (List.mem_toFinset.mp hy))
    have hmore := Finset.card_le_card hlarger
    have hnew : x ∉ (unionUpTo cap xs u).2.toFinset := fun hx' => hnot (List.mem_toFinset.mp hx')
    rw [Finset.card_insert_of_notMem hnew, hres] at hmore
    omega

/-- A walk that stops has changed nothing if and only if there was no room from the start. -/
theorem unionUpTo_eq_self_iff (h : (unionUpTo cap xs u).1 = false) :
    (unionUpTo cap xs u).2 = u ↔ cap ≤ u.length := by
  constructor
  · intro hsame
    have hlength := (unionUpTo_stopped h).1
    rwa [hsame] at hlength
  · intro hfull
    clear h
    induction xs with
    | nil => rfl
    | cons x xs ih =>
        rw [unionUpTo]
        split_ifs
        · exact ih
        · rfl

end FalconGpon.Lib
