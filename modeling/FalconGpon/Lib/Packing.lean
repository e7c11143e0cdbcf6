/-
# Packing items into bins, in order

Items are put into the current bin one after the other; one that does not fit closes
the bin and opens a new one. An item larger than the room of a bin is passed over,
but only by an empty bin: after something has been put in, it gets a bin of its own
and overfills it. `packBins_le_iff` says when that does not happen.
-/

import Mathlib.Algebra.GroupWithZero.Nat
import Mathlib.Data.List.Nodup
import Mathlib.Data.List.Flatten
import Mathlib.Algebra.BigOperators.Group.List.Basic

namespace FalconGpon.Lib

variable {α : Type*} (size : α → Nat) (room : Nat)

def filled (bin : List α) : Nat := (bin.map size).sum

/-- Pack the items behind the current bin. -/
def packBins : List α → List α → List (List α)
  | [], bin => [bin]
  | x :: xs, bin =>
      if room < filled size bin + size x then
        if filled size bin = 0 then packBins xs bin
        else bin :: packBins xs [x]
      else packBins xs (bin ++ [x])

def OversizeFirst (xs : List α) : Prop :=
  xs.Pairwise fun x y => 0 < size x → size x ≤ room → size y ≤ room

instance (xs : List α) : Decidable (OversizeFirst size room xs) :=
  inferInstanceAs (Decidable (List.Pairwise _ _))

variable {size room}

@[simp]
theorem filled_nil : filled size ([] : List α) = 0 := rfl

@[simp]
theorem filled_append (bin bin' : List α) :
    filled size (bin ++ bin') = filled size bin + filled size bin' := by
  simp [filled]

@[simp]
theorem filled_singleton (x : α) : filled size [x] = size x := by
  simp [filled]

theorem flatten_packBins_sublist (xs bin : List α) :
    (packBins size room xs bin).flatten.Sublist (bin ++ xs) := by
  induction xs generalizing bin with
  | nil => simp [packBins]
  | cons x xs ih =>
      rw [packBins]
      split
      · split
        · exact (ih bin).trans ((List.sublist_cons_self x xs).append_left bin)
        · rw [List.flatten_cons]
          exact (ih [x]).append_left bin
      · simpa using ih (bin ++ [x])

theorem mem_flatten_packBins_of_mem {xs bin : List α} {x : α} (h : x ∈ bin) :
    x ∈ (packBins size room xs bin).flatten := by
  induction xs generalizing bin with
  | nil => simpa [packBins] using h
  | cons y ys ih =>
      rw [packBins]
      split
      · split
        · exact ih h
        · rw [List.flatten_cons]
          exact List.mem_append_left _ h
      · exact ih (List.mem_append_left _ h)

/-- Every item that fits into a bin is put into one. -/
theorem mem_flatten_packBins_of_le {xs bin : List α} {x : α} (h : x ∈ xs)
    (hfits : size x ≤ room) : x ∈ (packBins size room xs bin).flatten := by
  induction xs generalizing bin with
  | nil => cases h
  | cons y ys ih =>
      rw [packBins]
      rcases List.mem_cons.mp h with rfl | hys
      · split
        · rename_i hroom
          split
          · omega
          · rw [List.flatten_cons]
            exact List.mem_append_right _ (mem_flatten_packBins_of_mem List.mem_cons_self)
        · exact mem_flatten_packBins_of_mem (List.mem_append_right _ List.mem_cons_self)
      · split
        · split
          · exact ih hys
          · rw [List.flatten_cons]
            exact List.mem_append_right _ (ih hys)
        · exact ih hys

theorem packBins_le_iff_of_bin {xs bin : List α} (hbin : ∀ x ∈ bin, size x ≤ room)
    (hfilled : filled size bin ≤ room) :
    (∀ x ∈ (packBins size room xs bin).flatten, size x ≤ room) ↔
      (0 < filled size bin → ∀ x ∈ xs, size x ≤ room) ∧ OversizeFirst size room xs := by
  induction xs generalizing bin with
  | nil => simpa [packBins, OversizeFirst] using hbin
  | cons x xs ih =>
      rw [packBins, OversizeFirst, List.pairwise_cons]
      by_cases hroom : room < filled size bin + size x
      · rw [if_pos hroom]
        by_cases hempty : filled size bin = 0
        · rw [if_pos hempty, ih hbin hfilled]
          have hlarge : ¬ size x ≤ room := by omega
          simp [hempty, hlarge, OversizeFirst]
        · rw [if_neg hempty, List.flatten_cons]
          have hsize : 0 < size x := by omega
          by_cases hfits : size x ≤ room
          · have hbin' : ∀ y ∈ [x], size y ≤ room := by simpa using hfits
            have hnew := ih hbin' (by simpa using hfits)
            constructor
            · intro hall
              obtain ⟨hxs, hfirst⟩ := hnew.mp fun y hy => hall y (List.mem_append_right _ hy)
              have hxs' := hxs (by simpa using hsize)
              exact ⟨fun _ => List.forall_mem_cons.mpr ⟨hfits, hxs'⟩,
                fun y hy _ _ => hxs' y hy, hfirst⟩
            · rintro ⟨hxs, _, hfirst⟩ y hy
              have hxs' := List.forall_mem_cons.mp (hxs (by omega))
              rcases List.mem_append.mp hy with hy' | hy'
              · exact hbin y hy'
              · exact hnew.mpr ⟨fun _ => hxs'.2, hfirst⟩ y hy'
          · constructor
            · intro hall
              have hx := hall x (List.mem_append_right _
                (mem_flatten_packBins_of_mem List.mem_cons_self))
              exact absurd hx hfits
            · rintro ⟨hxs, _⟩
              exact absurd (hxs (by omega) x List.mem_cons_self) hfits
      · rw [if_neg hroom]
        have hfits : size x ≤ room := by omega
        rw [ih (by simpa [or_imp, forall_and, hfits] using hbin) (by simp; omega)]
        simp only [filled_append, filled_singleton, List.forall_mem_cons]
        constructor
        · rintro ⟨hxs, hfirst⟩
          exact ⟨fun hpos => ⟨hfits, hxs (by omega)⟩, fun y hy hpos _ => hxs (by omega) y hy,
            hfirst⟩
        · rintro ⟨hxs, hx, hfirst⟩
          refine ⟨fun hpos y hy => ?_, hfirst⟩
          by_cases hsize : 0 < size x
          · exact hx y hy hsize hfits
          · exact (hxs (by omega)).2 y hy

/-- No bin gets an item larger than its room exactly when all such items come before
those that take some of it. -/
theorem packBins_le_iff (xs : List α) :
    (∀ x ∈ (packBins size room xs []).flatten, size x ≤ room) ↔ OversizeFirst size room xs := by
  rw [packBins_le_iff_of_bin (by simp) (by simp)]
  simp

/-- Without such items no bin is overfilled. -/
theorem filled_le_of_mem_packBins {xs bin : List α} (hfilled : filled size bin ≤ room)
    (hall : ∀ x ∈ (packBins size room xs bin).flatten, size x ≤ room) :
    ∀ b ∈ packBins size room xs bin, filled size b ≤ room := by
  induction xs generalizing bin with
  | nil => simpa [packBins] using hfilled
  | cons x xs ih =>
      rw [packBins] at hall ⊢
      by_cases hroom : room < filled size bin + size x
      · rw [if_pos hroom] at hall ⊢
        by_cases hempty : filled size bin = 0
        · rw [if_pos hempty] at hall ⊢
          exact ih hfilled hall
        · rw [if_neg hempty] at hall ⊢
          rw [List.flatten_cons] at hall
          have hx := hall x (List.mem_append_right _
            (mem_flatten_packBins_of_mem List.mem_cons_self))
          intro b hb
          rcases List.mem_cons.mp hb with rfl | hb'
          · exact hfilled
          · exact ih (by simpa using hx) (fun y hy => hall y (List.mem_append_right _ hy)) b hb'
      · rw [if_neg hroom] at hall ⊢
        exact ih (by simp; omega) hall

theorem packBins_ne_nil (xs bin : List α) : packBins size room xs bin ≠ [] := by
  induction xs generalizing bin with
  | nil => simp [packBins]
  | cons x xs ih =>
      rw [packBins]
      split
      · split
        · exact ih bin
        · exact List.cons_ne_nil _ _
      · exact ih _

/-- Without duplicates an item is in exactly one bin. -/
theorem countP_mem_eq_one [DecidableEq α] {bins : List (List α)} (hnodup : bins.flatten.Nodup)
    {x : α} (h : x ∈ bins.flatten) : bins.countP (fun bin => decide (x ∈ bin)) = 1 := by
  induction bins with
  | nil => cases h
  | cons bin bins ih =>
      rw [List.flatten_cons] at hnodup h
      obtain ⟨_, hrest, hdisjoint⟩ := List.nodup_append.mp hnodup
      rw [List.countP_cons]
      by_cases hbin : x ∈ bin
      · have hnone : bins.countP (fun bin => decide (x ∈ bin)) = 0 := by
          apply List.countP_eq_zero.mpr
          intro other hother hx
          have hflat : x ∈ bins.flatten := List.mem_flatten.mpr ⟨other, hother, by simpa using hx⟩
          exact hdisjoint x hbin x hflat rfl
        simp [hnone, hbin]
      · have hrest' := (List.mem_append.mp h).resolve_left hbin
        simp [ih hrest hrest', hbin]

end FalconGpon.Lib
