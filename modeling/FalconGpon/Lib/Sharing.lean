/-
# Counting who shares a slot

Finitely many users each hold one of some slots or none, and a count is kept for each slot.
`Counted` says that every count is the number of its users; whether it still is when one user
changes slots depends on how the counts have changed (`Counted.update_iff`).
-/

import Mathlib.Data.Fintype.Card
import Mathlib.Data.Fintype.Basic
import Mathlib.Logic.Function.Basic

namespace FalconGpon.Lib

variable {κ ι : Type*} [Fintype κ] [DecidableEq ι]

def users (slot : κ → Option ι) (i : ι) : Finset κ := Finset.univ.filter fun k => slot k = some i

@[simp]
theorem mem_users {slot : κ → Option ι} {i : ι} {k : κ} : k ∈ users slot i ↔ slot k = some i := by
  simp [users]

def Counted (slot : κ → Option ι) (count : ι → Nat) : Prop := ∀ i, count i = (users slot i).card

/-- The users of a slot after one user has changed slots. -/
theorem card_users_update [DecidableEq κ] (slot : κ → Option ι) (k : κ) (now : Option ι) (i : ι) :
    (users (Function.update slot k now) i).card + (if slot k = some i then 1 else 0) =
      (users slot i).card + if now = some i then 1 else 0 := by
  -- the other users
  have hothers : ∀ slot' : κ → Option ι, (users slot' i).card =
      ((users slot' i).erase k).card + if slot' k = some i then 1 else 0 := by
    intro slot'
    split
    · rename_i hk
      exact (Finset.card_erase_add_one (mem_users.mpr hk)).symm
    · rename_i hk
      rw [Finset.erase_eq_of_notMem fun hmem => hk (mem_users.mp hmem), Nat.add_zero]
  have hsame : (users (Function.update slot k now) i).erase k = (users slot i).erase k := by
    ext other
    simp only [Finset.mem_erase, mem_users, ne_eq, and_congr_right_iff]
    intro hother
    rw [Function.update_of_ne hother]
  rw [hothers (Function.update slot k now), hsame, hothers slot, Function.update_self]
  omega

namespace Counted

variable {slot : κ → Option ι} {count : ι → Nat}

theorem update_iff [DecidableEq κ] (h : Counted slot count) (k : κ) (now : Option ι)
    (count' : ι → Nat) :
    Counted (Function.update slot k now) count' ↔
      ∀ i, count' i + (if slot k = some i then 1 else 0) =
        count i + if now = some i then 1 else 0 := by
  refine forall_congr' fun i => ?_
  rw [h i, ← card_users_update slot k now i]
  exact Nat.add_right_cancel_iff.symm

/-- The counts stay right as they are exactly if the user stays. -/
theorem update_same_iff [DecidableEq κ] (h : Counted slot count) (k : κ) (now : Option ι) :
    Counted (Function.update slot k now) count ↔ slot k = now := by
  rw [h.update_iff]
  constructor
  · intro hsame
    apply Option.ext
    intro i
    have hi := hsame i
    by_cases hslot : slot k = some i
    · rw [if_pos hslot] at hi
      by_cases hnow : now = some i
      · exact iff_of_true hslot hnow
      · rw [if_neg hnow] at hi
        omega
    · rw [if_neg hslot] at hi
      by_cases hnow : now = some i
      · rw [if_pos hnow] at hi
        omega
      · exact iff_of_false hslot hnow
  · rintro rfl i
    rfl

/-- Counting a user for a slot is right exactly if it had none. -/
theorem update_take_iff [DecidableEq κ] (h : Counted slot count) (k : κ) {i : ι}
    {count' : ι → Nat} (hcount : ∀ j, count' j = count j + if i = j then 1 else 0) :
    Counted (Function.update slot k (some i)) count' ↔ slot k = none := by
  rw [h.update_iff]
  constructor
  · intro hsame
    rw [Option.eq_none_iff_forall_ne_some]
    intro j hslot
    have hj := hsame j
    rw [if_pos hslot, hcount] at hj
    simp only [Option.some.injEq] at hj
    omega
  · intro hnone j
    have hsome : ¬slot k = some j := by simp [hnone]
    rw [hcount, if_neg hsome]
    simp only [Option.some.injEq]
    rfl

/-- Uncounting a slot when its user leaves is right unless a user without a slot left and the slot
has a count. -/
theorem update_drop_iff [DecidableEq κ] (h : Counted slot count) (k : κ) {i : ι}
    {count' : ι → Nat} (hcount : ∀ j, count' j = count j - if i = j then 1 else 0)
    (hslot : ∀ j, slot k = some j → i = j) :
    Counted (Function.update slot k none) count' ↔ (slot k = none → count i = 0) := by
  rw [h.update_iff]
  constructor
  · intro hsame hnone
    have hi := hsame i
    rw [hcount, hnone] at hi
    simp only [if_true, reduceCtorEq, if_false] at hi
    omega
  · intro hzero j
    rw [hcount]
    simp only [reduceCtorEq, if_false, Nat.add_zero]
    by_cases hj : slot k = some j
    · have hpos : count j ≠ 0 := by
        rw [h j, ← Nat.pos_iff_ne_zero, Finset.card_pos]
        exact ⟨k, mem_users.mpr hj⟩
      rw [if_pos hj, if_pos (hslot j hj)]
      omega
    · rw [if_neg hj, Nat.add_zero]
      by_cases hi : i = j
      · subst hi
        have hnone : slot k = none := by
          rw [Option.eq_none_iff_forall_ne_some]
          intro other hother
          obtain rfl := hslot other hother
          exact hj hother
        rw [hzero hnone, Nat.zero_sub]
      · rw [if_neg hi, Nat.sub_zero]

theorem ne_zero_iff (h : Counted slot count) {i : ι} : count i ≠ 0 ↔ ∃ k, slot k = some i := by
  rw [h i, ← Nat.pos_iff_ne_zero, Finset.card_pos]
  exact exists_congr fun k => mem_users

theorem le_card (h : Counted slot count) (i : ι) : count i ≤ Fintype.card κ := by
  rw [h i]
  exact Finset.card_le_univ _

end Counted

end FalconGpon.Lib
