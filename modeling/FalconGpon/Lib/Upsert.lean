/-
# Find or create

Lists whose elements are found by a key: an update goes to the first element with the key, or
to a new one at the end if there is none, and may remove what it is applied to.
-/

import Mathlib.Algebra.GroupWithZero.Nat
import Mathlib.Algebra.Order.BigOperators.Group.List
import Mathlib.Algebra.Order.Group.Nat
import Mathlib.Data.List.Nodup

namespace FalconGpon.Lib

variable {α κ : Type*} [DecidableEq κ]

def upsert (key : α → κ) (k : κ) (new : α) (update : α → Option α) : List α → List α
  | [] => (update new).toList
  | x :: xs => if key x = k then (update x).toList ++ xs else x :: upsert key k new update xs

def findKey (key : α → κ) (k : κ) (xs : List α) : Option α := xs.find? (key · = k)

variable {key : α → κ} {k : κ} {new x : α} {update : α → Option α} {xs : List α}

/-- The element that is updated. -/
theorem mem_upsert (hx : x ∈ upsert key k new update xs) :
    x ∈ xs ∨ update ((findKey key k xs).getD new) = some x := by
  induction xs with
  | nil => exact .inr (Option.mem_toList.mp hx)
  | cons y ys ih =>
      rw [upsert] at hx
      by_cases hy : key y = k
      · rw [if_pos hy] at hx
        rcases List.mem_append.mp hx with hnew | hold
        · refine .inr ?_
          simpa [findKey, List.find?_cons_of_pos, hy] using Option.mem_toList.mp hnew
        · exact .inl (List.mem_cons_of_mem _ hold)
      · rw [if_neg hy] at hx
        have hfind : findKey key k (y :: ys) = findKey key k ys :=
          List.find?_cons_of_neg (by simpa using hy)
        rw [hfind]
        rcases List.mem_cons.mp hx with rfl | hx
        · exact .inl List.mem_cons_self
        · exact (ih hx).imp_left (List.mem_cons_of_mem _)

theorem key_findKey (hfind : findKey key k xs = some x) : key x = k := by
  have hkey := List.find?_some hfind
  exact of_decide_eq_true hkey

theorem mem_findKey (hfind : findKey key k xs = some x) : x ∈ xs :=
  List.mem_of_find?_eq_some hfind

theorem findKey_cons :
    findKey key k (x :: xs) = if key x = k then some x else findKey key k xs := by
  by_cases hx : key x = k <;> simp [findKey, hx]

/-- What is found after an update that leaves the element. -/
theorem findKey_upsert {y : α} (hupdate : update ((findKey key k xs).getD new) = some y)
    (hy : key y = k) : findKey key k (upsert key k new update xs) = some y := by
  induction xs with
  | nil =>
      have hnew : update new = some y := hupdate
      rw [upsert, hnew, Option.toList_some, findKey_cons, if_pos hy]
  | cons x rest ih =>
      rw [findKey_cons] at hupdate
      rw [upsert]
      by_cases hx : key x = k
      · rw [if_pos hx] at hupdate
        have hfound : update x = some y := hupdate
        rw [if_pos hx, hfound, Option.toList_some, List.singleton_append, findKey_cons, if_pos hy]
      · rw [if_neg hx] at hupdate
        rw [if_neg hx, findKey_cons, if_neg hx]
        exact ih hupdate

theorem findKey_append_cons {before after : List α} (hbefore : ∀ y ∈ before, key y ≠ k)
    (hx : key x = k) : findKey key k (before ++ x :: after) = some x := by
  induction before with
  | nil => exact findKey_cons.trans (if_pos hx)
  | cons y ys ih =>
      have ⟨hy, hys⟩ := List.forall_mem_cons.mp hbefore
      rw [List.cons_append, findKey_cons, if_neg hy]
      exact ih hys

theorem findKey_eq_none (hne : ∀ y ∈ xs, key y ≠ k) : findKey key k xs = none := by
  apply List.find?_eq_none.mpr
  intro y hy hsame
  exact hne y hy (of_decide_eq_true hsame)

/-- Other keys are found as before. -/
theorem findKey_upsert_of_ne {other : κ} (hne : other ≠ k) (hnew : key new = k)
    (hkey : ∀ x y, update x = some y → key y = key x) :
    findKey key other (upsert key k new update xs) = findKey key other xs := by
  have hupdated : ∀ x, key x = k → ∀ ys,
      findKey key other ((update x).toList ++ ys) = findKey key other ys := by
    intro x hx ys
    cases hupdate : update x with
    | none => rfl
    | some y =>
        have hy : key y ≠ other := (hkey x y hupdate).trans hx ▸ hne.symm
        rw [Option.toList_some, List.singleton_append, findKey_cons, if_neg hy]
  induction xs with
  | nil =>
      rw [upsert, ← List.append_nil (update new).toList]
      exact hupdated new hnew []
  | cons x rest ih =>
      rw [upsert]
      by_cases hx : key x = k
      · rw [if_pos hx, findKey_cons, if_neg (hx ▸ hne.symm)]
        exact hupdated x hx rest
      · rw [if_neg hx, findKey_cons, findKey_cons, ih]

theorem findKey_eraseP_of_ne {other : κ} (hne : other ≠ k) :
    findKey key other (xs.eraseP (key · = k)) = findKey key other xs := by
  induction xs with
  | nil => rfl
  | cons x rest ih =>
      by_cases hx : key x = k
      · rw [List.eraseP_cons_of_pos (by simpa using hx), findKey_cons, if_neg (hx ▸ hne.symm)]
      · rw [List.eraseP_cons_of_neg (by simpa using hx), findKey_cons, findKey_cons, ih]

/-- Keys stay distinct. -/
theorem nodup_upsert (hnodup : (xs.map key).Nodup) (hnew : key new = k)
    (hkey : ∀ x y, update x = some y → key y = key x) :
    ((upsert key k new update xs).map key).Nodup := by
  induction xs with
  | nil =>
      rw [upsert]
      cases update new <;> simp
  | cons y ys ih =>
      obtain ⟨hy, hys⟩ := List.nodup_cons.mp hnodup
      rw [upsert]
      split
      · cases hupdate : update y with
        | none => exact hys
        | some z =>
            rw [Option.toList_some, List.singleton_append, List.map_cons, hkey y z hupdate]
            exact hnodup
      · rename_i hother
        rw [List.map_cons, List.nodup_cons]
        refine ⟨?_, ih hys⟩
        intro hmem
        obtain ⟨x, hx, hsame⟩ := List.mem_map.mp hmem
        rcases mem_upsert hx with hold | hupdated
        · exact hy (hsame ▸ List.mem_map_of_mem hold)
        · apply hother
          rw [← hsame, hkey _ _ hupdated]
          cases hfind : findKey key k ys with
          | none => exact hnew
          | some found => exact key_findKey hfind

/-- What is found after an update where no key comes twice. -/
theorem findKey_upsert_self (hnodup : (xs.map key).Nodup) (hnew : key new = k)
    (hkey : ∀ x y, update x = some y → key y = key x) :
    findKey key k (upsert key k new update xs) = update ((findKey key k xs).getD new) := by
  cases hupdate : update ((findKey key k xs).getD new) with
  | some y =>
      apply findKey_upsert hupdate
      rw [hkey _ y hupdate]
      cases hfind : findKey key k xs with
      | none => exact hnew
      | some found => exact key_findKey hfind
  | none =>
      induction xs with
      | nil =>
          have hnone : update new = none := hupdate
          rw [upsert, hnone]
          rfl
      | cons x rest ih =>
          obtain ⟨hx, hrest⟩ := List.nodup_cons.mp hnodup
          rw [findKey_cons] at hupdate
          rw [upsert]
          by_cases hkeyx : key x = k
          · rw [if_pos hkeyx] at hupdate
            have hnone : update x = none := hupdate
            rw [if_pos hkeyx, hnone, Option.toList_none, List.nil_append]
            apply List.find?_eq_none.mpr
            intro y hy hsame
            apply hx
            rw [hkeyx, ← of_decide_eq_true hsame]
            exact List.mem_map_of_mem hy
          · rw [if_neg hkeyx] at hupdate ⊢
            rw [findKey_cons, if_neg hkeyx]
            exact ih hrest hupdate

/-- A sum over the list changes by what the update changes. -/
theorem sum_upsert (key : α → κ) (k : κ) (new : α) (update : α → Option α) (xs : List α)
    {f : α → Nat} (hnew : f new = 0) :
    ((upsert key k new update xs).map f).sum + f ((findKey key k xs).getD new) =
      (xs.map f).sum + ((update ((findKey key k xs).getD new)).map f).getD 0 := by
  induction xs with
  | nil =>
      rw [upsert]
      cases hupdate : update new <;> simp [findKey, hnew, hupdate]
  | cons y ys ih =>
      rw [upsert]
      by_cases hy : key y = k
      · have hfind : findKey key k (y :: ys) = some y :=
          List.find?_cons_of_pos (by simpa using hy)
        rw [if_pos hy, hfind]
        cases hupdate : update y with
        | none => simp [hupdate, add_comm]
        | some z => simp [hupdate]; omega
      · have hfind : findKey key k (y :: ys) = findKey key k ys :=
          List.find?_cons_of_neg (by simpa using hy)
        rw [if_neg hy, hfind, List.map_cons, List.sum_cons, List.map_cons, List.sum_cons]
        omega

theorem sum_map_le_mul {β : Type*} {f g : β → Nat} {c : Nat} (h : ∀ y, f y ≤ c * g y)
    (ys : List β) : (ys.map f).sum ≤ c * (ys.map g).sum := by
  induction ys with
  | nil => simp
  | cons y rest ih =>
      rw [List.map_cons, List.map_cons, List.sum_cons, List.sum_cons, Nat.mul_add]
      exact Nat.add_le_add (h y) ih

theorem sum_le_of_subset {β : Type*} {w : β → Nat} {ys zs : List β} (hnodup : ys.Nodup)
    (hsub : ys ⊆ zs) : (ys.map w).sum ≤ (zs.map w).sum := by
  obtain ⟨kept, hperm, hsublist⟩ := List.subperm_of_subset hnodup hsub
  calc (ys.map w).sum = (kept.map w).sum := (hperm.map w).sum_eq.symm
    _ ≤ (zs.map w).sum := (hsublist.map w).sum_le_sum fun _ _ => Nat.zero_le _

/-- The same for a weight that depends on the key, if each key comes once. -/
theorem sum_le_of_keys (key : α → κ) (w : α → Nat) {pool ys zs : List α} (hys : ys ⊆ pool)
    (hzs : zs ⊆ pool) (hw : ∀ y ∈ pool, ∀ z ∈ pool, key y = key z → w y = w z) (hnodup : (ys.map key).Nodup)
    (hsub : ys.map key ⊆ zs.map key) : (ys.map w).sum ≤ (zs.map w).sum := by
  let price : κ → Nat := fun k => ((findKey key k pool).map w).getD 0
  have hprice : ∀ y ∈ pool, w y = price (key y) := by
    intro y hy
    cases hfind : findKey key (key y) pool with
    | none =>
        have hnone := List.find?_eq_none.mp hfind y hy
        simp at hnone
    | some z =>
        rw [show price (key y) = w z by simp only [price, hfind]; rfl]
        exact hw y hy z (mem_findKey hfind) (key_findKey hfind).symm
  have hmap : ∀ {list : List α}, list ⊆ pool → list.map w = (list.map key).map price := by
    intro list hlist
    rw [List.map_map]
    exact List.map_congr_left fun y hy => hprice y (hlist hy)
  rw [hmap hys, hmap hzs]
  exact sum_le_of_subset hnodup hsub

end FalconGpon.Lib
