/-
# Resources that several users share

Each user needs something of some resources, and a resource is set to the join of what its users
need; one without user is idle. A step that changes users, needs and settings keeps this if it
sets the resources it touches right and leaves what concerns the others (`Provisioned.of_frame`).
-/

import Mathlib.Data.Finset.Lattice.Fold
import Mathlib.Data.Fintype.Basic
import Mathlib.Data.Fintype.List

namespace FalconGpon.Lib

section Loops

variable {κ ι α β : Type*} [DecidableEq ι]

/-- A loop that sets resources, of which some refuse. -/
theorem foldl_update_if (accepts : ι → Bool) (value setting : ι → β) (is : List ι) (i : ι) :
    is.foldl (fun setting j => if accepts j then Function.update setting j (value j) else setting)
      setting i = if i ∈ is ∧ accepts i = true then value i else setting i := by
  induction is generalizing setting with
  | nil => exact (if_neg fun h => List.not_mem_nil h.1).symm
  | cons j is ih =>
      rw [List.foldl_cons, ih]
      by_cases hlater : i ∈ is ∧ accepts i = true
      · rw [if_pos hlater, if_pos ⟨List.mem_cons_of_mem _ hlater.1, hlater.2⟩]
      · rw [if_neg hlater]
        by_cases hnow : i = j ∧ accepts i = true
        · rw [if_pos (hnow.1 ▸ hnow.2), hnow.1, Function.update_self, if_pos]
          exact ⟨List.mem_cons_self, hnow.1 ▸ hnow.2⟩
        · have hnone : ¬ (i ∈ j :: is ∧ accepts i = true) := by
            intro hmem
            cases List.mem_cons.mp hmem.1 with
            | inl heq => exact hnow ⟨heq, hmem.2⟩
            | inr hin => exact hlater ⟨hin, hmem.2⟩
          rw [if_neg hnone]
          split
          · rename_i haccepts
            refine Function.update_of_ne (fun heq => hnow ⟨heq, ?_⟩) _ _
            exact heq ▸ haccepts
          · rfl

theorem foldl_sup_if [DecidableEq κ] [SemilatticeSup α] [OrderBot α] (uses : κ → Finset ι) (need : κ → α) (i : ι) (ks : List κ)
    (start : α) :
    ks.foldl (fun joined k => if i ∈ uses k then need k ⊔ joined else joined) start =
      start ⊔ (ks.toFinset.filter fun k => i ∈ uses k).sup need := by
  induction ks generalizing start with
  | nil => exact sup_bot_eq start |>.symm
  | cons k ks ih =>
      rw [List.foldl_cons, ih, List.toFinset_cons, Finset.filter_insert]
      split
      · rw [Finset.sup_insert, sup_comm (need k), sup_assoc]
      · rfl

end Loops

section Provision

variable {κ ι α : Type*} [Fintype κ] [DecidableEq ι] [SemilatticeSup α] [OrderBot α]

def sharers (uses : κ → Finset ι) (i : ι) : Finset κ :=
  Finset.univ.filter fun k => i ∈ uses k

variable {uses : κ → Finset ι}

@[simp]
theorem mem_sharers {i : ι} {k : κ} : k ∈ sharers uses i ↔ i ∈ uses k := by
  rw [sharers, Finset.mem_filter]
  exact and_iff_right (Finset.mem_univ k)

def provision (uses : κ → Finset ι) (need : κ → α) (idle : α) (i : ι) : α :=
  if (sharers uses i).Nonempty then (sharers uses i).sup need else idle

theorem provision_eq_idle {need : κ → α} {idle : α} {i : ι}
    (h : ∀ k, i ∉ uses k) : provision uses need idle i = idle := by
  rw [provision, if_neg]
  intro hsome
  have ⟨k, hk⟩ := hsome
  exact h k (mem_sharers.mp hk)

theorem provision_eq_sup {need : κ → α} {idle : α} {i : ι} {k : κ}
    (h : i ∈ uses k) : provision uses need idle i = (sharers uses i).sup need := by
  rw [provision, if_pos ⟨k, mem_sharers.mpr h⟩]

theorem provision_congr {uses' : κ → Finset ι} {need need' : κ → α} {idle : α} {i : ι}
    (huses : ∀ k, i ∈ uses' k ↔ i ∈ uses k) (hneed : ∀ k, i ∈ uses k → need' k = need k) :
    provision uses' need' idle i = provision uses need idle i := by
  have hsame : sharers uses' i = sharers uses i := by
    ext k
    rw [mem_sharers, mem_sharers, huses]
  rw [provision, provision, hsame]
  split
  · exact Finset.sup_congr rfl fun k hk => hneed k (mem_sharers.mp hk)
  · rfl

def Provisioned (uses : κ → Finset ι) (need : κ → α) (idle : α) (setting : ι → α) : Prop :=
  ∀ i, setting i = provision uses need idle i

theorem Provisioned.of_frame {uses' : κ → Finset ι} {need need' : κ → α} {idle : α}
    {setting setting' : ι → α} (h : Provisioned uses need idle setting)
    (hframe : ∀ i, setting' i = provision uses' need' idle i ∨
      setting' i = setting i ∧ (∀ k, i ∈ uses' k ↔ i ∈ uses k) ∧
        ∀ k, i ∈ uses k → need' k = need k) : Provisioned uses' need' idle setting' := by
  intro i
  cases hframe i with
  | inl hset => exact hset
  | inr hleft => rw [hleft.1, h i, provision_congr hleft.2.1 hleft.2.2]

end Provision

end FalconGpon.Lib
