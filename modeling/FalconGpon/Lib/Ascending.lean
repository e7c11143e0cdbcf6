/-
# Strictly ascending lists

Lists whose elements are strictly ascending in a key, as linked lists kept in
order without duplicates are. Insertion is Mathlib's `orderedInsert` by the
key; lookup stops at the first larger key.
-/

import Mathlib.Data.List.InsertIdx
import Mathlib.Data.List.Sort
import Mathlib.Order.Basic

namespace FalconGpon.Lib

variable {α κ : Type*} [LinearOrder κ]

def Ascending (key : α → κ) (xs : List α) : Prop :=
  xs.Pairwise fun x y => key x < key y

/-- Lookup in an ascending list: it gives up at the first larger key. -/
def findAscending (key : α → κ) (k : κ) : List α → Option α
  | [] => none
  | x :: xs =>
      if k < key x then none
      else if key x = k then some x
      else findAscending key k xs

/-- The place number `n` of a list lies between the keys smaller and larger than `k`. -/
structure Gap (key : α → κ) (k : κ) (xs : List α) (n : Nat) : Prop where
  le_length : n ≤ xs.length
  before : ∀ y ∈ xs.take n, key y < k
  after : ∀ y ∈ xs.drop n, k < key y

namespace Gap

variable {key : α → κ} {k : κ} {xs : List α} {n : Nat}

theorem front (hafter : ∀ y ∈ xs, k < key y) : Gap key k xs 0 where
  le_length := Nat.zero_le _
  before y hy := by simp at hy
  after y hy := hafter y (by simpa using hy)

theorem cons (h : Gap key k xs n) {x : α} (hx : key x < k) : Gap key k (x :: xs) (n + 1) where
  le_length := Nat.succ_le_succ h.le_length
  before y hy := by
    rcases List.mem_cons.mp hy with rfl | hrest
    · exact hx
    · exact h.before y hrest
  after y hy := h.after y hy

theorem ne (h : Gap key k xs n) {y : α} (hy : y ∈ xs) : key y ≠ k := by
  rw [← List.take_append_drop n xs, List.mem_append] at hy
  cases hy with
  | inl hbefore => exact (h.before y hbefore).ne
  | inr hafter => exact (h.after y hafter).ne'

end Gap

namespace Ascending

variable {key : α → κ} {xs : List α}

theorem nil : Ascending key ([] : List α) := List.Pairwise.nil

theorem eq_of_key_eq (h : Ascending key xs) {x y : α} (hx : x ∈ xs) (hy : y ∈ xs)
    (hkey : key x = key y) : x = y := by
  induction xs with
  | nil => cases hx
  | cons head rest ih =>
      obtain ⟨hhead, hrest⟩ := List.pairwise_cons.mp h
      rcases List.mem_cons.mp hx with rfl | hx' <;> rcases List.mem_cons.mp hy with rfl | hy'
      · rfl
      · exact absurd hkey (hhead y hy').ne
      · exact absurd hkey.symm (hhead x hx').ne
      · exact ih hrest hx' hy'

theorem nodup (h : Ascending key xs) : xs.Nodup :=
  h.imp fun hlt heq => absurd (congrArg key heq) hlt.ne

/-- Inserting a new key keeps the list ascending. -/
theorem orderedInsert (h : Ascending key xs) {x : α} (hnew : ∀ y ∈ xs, key y ≠ key x) :
    Ascending key (xs.orderedInsert (fun a b => key a ≤ key b) x) := by
  induction xs with
  | nil => exact List.pairwise_singleton _ _
  | cons head rest ih =>
      obtain ⟨hhead, hrest⟩ := List.pairwise_cons.mp h
      have hne : key head ≠ key x := hnew head List.mem_cons_self
      rw [List.orderedInsert_cons]
      by_cases hle : key x ≤ key head
      · rw [if_pos hle]
        have hlt : key x < key head := lt_of_le_of_ne hle hne.symm
        refine List.pairwise_cons.mpr ⟨?_, h⟩
        intro y hy
        rcases List.mem_cons.mp hy with rfl | hy'
        · exact hlt
        · exact hlt.trans (hhead y hy')
      · rw [if_neg hle]
        refine List.pairwise_cons.mpr ⟨?_, ih hrest fun y hy => hnew y (List.mem_cons_of_mem _ hy)⟩
        intro y hy
        rcases (List.mem_orderedInsert _).mp hy with rfl | hy'
        · exact not_le.mp hle
        · exact hhead y hy'

theorem insertIdx_eq_take_append_drop {n : Nat} (hn : n ≤ xs.length) (x : α) :
    xs.insertIdx n x = xs.take n ++ x :: xs.drop n := by
  induction xs generalizing n with
  | nil =>
      have hzero : n = 0 := by simpa using hn
      rw [hzero]
      rfl
  | cons head rest ih =>
      cases n with
      | zero => rfl
      | succ n =>
          rw [List.insertIdx_succ_cons, ih (Nat.le_of_succ_le_succ hn)]
          rfl

theorem insertIdx (h : Ascending key xs) {n : Nat} {x : α} (hgap : Gap key (key x) xs n) :
    Ascending key (xs.insertIdx n x) := by
  have hparts : Ascending key (xs.take n ++ xs.drop n) := by rwa [List.take_append_drop]
  have hsplit := List.pairwise_append.mp hparts
  rw [insertIdx_eq_take_append_drop hgap.le_length]
  apply List.pairwise_append.mpr
  refine ⟨hsplit.1, List.pairwise_cons.mpr ⟨hgap.after, hsplit.2.1⟩, ?_⟩
  intro y hy z hz
  cases List.mem_cons.mp hz with
  | inl hsame => exact hsame ▸ hgap.before y hy
  | inr hz => exact (hgap.before y hy).trans (hgap.after z hz)

theorem sublist (h : Ascending key xs) {ys : List α} (hsub : ys.Sublist xs) : Ascending key ys :=
  List.Pairwise.sublist hsub h

end Ascending

theorem findAscending_mem {key : α → κ} {k : κ} {xs : List α} {x : α}
    (h : findAscending key k xs = some x) : x ∈ xs ∧ key x = k := by
  induction xs with
  | nil => cases h
  | cons head rest ih =>
      rw [findAscending] at h
      split at h
      · cases h
      · split at h
        · cases h
          exact ⟨List.mem_cons_self, by assumption⟩
        · obtain ⟨hmem, hkey⟩ := ih h
          exact ⟨List.mem_cons_of_mem _ hmem, hkey⟩

/-- In an ascending list giving up early misses nothing. -/
theorem findAscending_eq_some_iff {key : α → κ} {k : κ} {xs : List α}
    (hasc : Ascending key xs) {x : α} : findAscending key k xs = some x ↔ x ∈ xs ∧ key x = k := by
  constructor
  · exact findAscending_mem
  · rintro ⟨hmem, hkey⟩
    induction xs with
    | nil => cases hmem
    | cons head rest ih =>
        obtain ⟨hhead, hrest⟩ := List.pairwise_cons.mp hasc
        rw [findAscending]
        rcases List.mem_cons.mp hmem with rfl | hrest'
        · rw [if_neg (by rw [hkey]; exact lt_irrefl k), if_pos hkey]
        · have hlt : key head < k := hkey ▸ hhead x hrest'
          rw [if_neg hlt.not_gt, if_neg hlt.ne]
          exact ih hrest hrest'

theorem findAscending_eq_none_iff {key : α → κ} {k : κ} {xs : List α} (hasc : Ascending key xs) :
    findAscending key k xs = none ↔ ∀ x ∈ xs, key x ≠ k := by
  constructor
  · intro hnone x hx hkey
    have hsome := (findAscending_eq_some_iff hasc).mpr ⟨hx, hkey⟩
    rw [hnone] at hsome
    cases hsome
  · intro habsent
    cases hfind : findAscending key k xs with
    | none => rfl
    | some x =>
        obtain ⟨hmem, hkey⟩ := findAscending_mem hfind
        exact absurd hkey (habsent x hmem)

end FalconGpon.Lib
