/-
# Keeping the first of each kind

`keepFirst` goes through a list and leaves out what is related to something that is kept already;
it is `List.pwFilter` from the other end. Nothing is left out exactly if no element is related
to an earlier one, and nothing is missing from the result exactly if related elements are equal.
-/

import Mathlib.Data.List.Induction
import Mathlib.Data.List.Pairwise

namespace FalconGpon.Lib

variable {α : Type*} {R : α → α → Prop} [DecidableRel R] {l : List α} {a : α}

def keepNew (R : α → α → Prop) [DecidableRel R] (kept : List α) (a : α) : List α :=
  if ∃ b ∈ kept, R a b then kept else kept ++ [a]

def keepFirst (R : α → α → Prop) [DecidableRel R] (l : List α) : List α :=
  l.foldl (keepNew R) []

theorem keepFirst_concat : keepFirst R (l ++ [a]) = keepNew R (keepFirst R l) a := by
  rw [keepFirst, List.foldl_append]
  rfl

theorem keepFirst_eq_pwFilter :
    keepFirst R l = (l.reverse.pwFilter fun a b => ¬R a b).reverse := by
  induction l using List.reverseRecOn with
  | nil => rfl
  | append_singleton l a ih =>
      rw [keepFirst_concat, ih, keepNew, List.reverse_concat]
      by_cases hold : ∃ b ∈ l.reverse.pwFilter fun a b => ¬R a b, R a b
      · have hblocked : ¬∀ b ∈ l.reverse.pwFilter fun a b => ¬R a b, ¬R a b :=
          fun hfree => hold.elim fun b hb => hfree b hb.1 hb.2
        rw [if_pos (by simpa only [List.mem_reverse] using hold),
          List.pwFilter_cons_of_neg hblocked]
      · have hfree : ∀ b ∈ l.reverse.pwFilter fun a b => ¬R a b, ¬R a b :=
          fun b hb hrel => hold ⟨b, hb, hrel⟩
        rw [if_neg (by simpa only [List.mem_reverse] using hold),
          List.pwFilter_cons_of_pos hfree, List.reverse_cons]

theorem keepFirst_subset : keepFirst R l ⊆ l := by
  intro a ha
  rw [keepFirst_eq_pwFilter, List.mem_reverse] at ha
  exact List.mem_reverse.mp (List.pwFilter_subset _ ha)

theorem keepFirst_eq_self_iff : keepFirst R l = l ↔ l.Pairwise fun a b => ¬R b a := by
  rw [keepFirst_eq_pwFilter, List.reverse_eq_iff, List.pwFilter_eq_self, List.pairwise_reverse]

/-- What is not kept is related to something that is. -/
theorem mem_keepFirst_or (ha : a ∈ l) : a ∈ keepFirst R l ∨ ∃ b ∈ keepFirst R l, R a b := by
  induction l using List.reverseRecOn with
  | nil => exact absurd ha List.not_mem_nil
  | append_singleton l last ih =>
      rw [keepFirst_concat, keepNew]
      rcases List.mem_append.mp ha with hfront | hlast
      · split
        · exact ih hfront
        · rcases ih hfront with hkept | ⟨b, hb, hrel⟩
          · exact .inl (List.mem_append_left _ hkept)
          · exact .inr ⟨b, List.mem_append_left _ hb, hrel⟩
      · rw [List.mem_singleton.mp hlast]
        split
        · next hold => exact .inr hold
        · exact .inl (List.mem_append_right _ (List.mem_singleton_self _))

theorem eq_of_mem_keepFirst (hsymm : ∀ a ∈ l, ∀ b ∈ l, R a b → R b a) {b : α}
    (ha : a ∈ keepFirst R l) (hb : b ∈ keepFirst R l) (hrel : R a b) : a = b := by
  by_contra hne
  have hpair : (keepFirst R l).Pairwise fun a b => ¬R b a := by
    rw [keepFirst_eq_pwFilter, List.pairwise_reverse]
    exact List.pairwise_pwFilter _
  have hfree : (keepFirst R l).Pairwise fun a b => ¬R a b ∧ ¬R b a := by
    apply hpair.imp_of_mem
    intro a b ha hb hba
    exact ⟨fun hab => hba (hsymm a (keepFirst_subset ha) b (keepFirst_subset hb) hab), hba⟩
  have : Std.Symm fun a b => ¬R a b ∧ ¬R b a := ⟨fun _ _ h => h.symm⟩
  exact (hfree.forall ha hb hne).1 hrel

theorem forall_mem_keepFirst_iff (hsymm : ∀ a ∈ l, ∀ b ∈ l, R a b → R b a) :
    (∀ a ∈ l, a ∈ keepFirst R l) ↔ ∀ a ∈ l, ∀ b ∈ l, R a b → a = b := by
  constructor
  · intro h a ha b hb hrel
    exact eq_of_mem_keepFirst hsymm (h a ha) (h b hb) hrel
  · intro h a ha
    rcases mem_keepFirst_or (R := R) ha with hkept | ⟨b, hb, hrel⟩
    · exact hkept
    · rw [h a ha b (keepFirst_subset hb) hrel]
      exact hb

end FalconGpon.Lib
