/-
# Ascending lists as tables

An ascending list holds at most one element for each key, so it is a map from keys to elements.
Insertion at the place of a key, overwriting and removal change this map at the one key.
-/

import FalconGpon.Lib.Ascending
import FalconGpon.Lib.Upsert

namespace FalconGpon.Lib

variable {α κ : Type*} [LinearOrder κ] {key : α → κ} {xs : List α} {x : α} {k : κ} {n : Nat}

theorem findKey_eq_some_iff (h : Ascending key xs) :
    findKey key k xs = some x ↔ x ∈ xs ∧ key x = k := by
  constructor
  · intro hfind
    exact ⟨mem_findKey hfind, key_findKey hfind⟩
  · intro ⟨hmem, hkey⟩
    cases hfind : findKey key k xs with
    | none =>
        rw [findKey, List.find?_eq_none] at hfind
        exact absurd (decide_eq_true hkey) (hfind x hmem)
    | some y =>
        have hsame := h.eq_of_key_eq (mem_findKey hfind) hmem ((key_findKey hfind).trans hkey.symm)
        rw [hsame]

theorem findKey_append (xs ys : List α) :
    findKey key k (xs ++ ys) = (findKey key k xs).or (findKey key k ys) :=
  List.find?_append

theorem Gap.append {before after : List α} (hbefore : ∀ y ∈ before, key y < k)
    (hafter : ∀ y ∈ after, k < key y) : Gap key k (before ++ after) before.length where
  le_length := by simp
  before y hy := hbefore y (by simpa using hy)
  after y hy := hafter y (by simpa using hy)

/-- The smaller elements, the one with the key, and the larger ones. -/
theorem Ascending.eq_parts (h : Ascending key xs) (k : κ) :
    xs = xs.filter (key · < k) ++ (findKey key k xs).toList ++ xs.filter (k < key ·) := by
  induction xs with
  | nil => rfl
  | cons y ys ih =>
      have ⟨hhead, hrest⟩ := List.pairwise_cons.mp h
      have hlarger : k ≤ key y → ys.filter (key · < k) = [] ∧ ys.filter (k < key ·) = ys := by
        intro hle
        rw [List.filter_eq_nil_iff, List.filter_eq_self]
        constructor
        · intro z hz
          simpa using (hle.trans_lt (hhead z hz)).le
        · intro z hz
          simpa using hle.trans_lt (hhead z hz)
      rcases lt_trichotomy (key y) k with hlt | heq | hgt
      · rw [List.filter_cons_of_pos (by simpa using hlt), findKey_cons, if_neg hlt.ne,
          List.filter_cons_of_neg (by simpa using hlt.le), List.cons_append, List.cons_append,
          ← ih hrest]
      · have ⟨hbelow, habove⟩ := hlarger heq.ge
        rw [List.filter_cons_of_neg (by simpa using heq.ge), findKey_cons, if_pos heq,
          List.filter_cons_of_neg (by simpa using heq.le), hbelow, habove]
        rfl
      · have ⟨hbelow, habove⟩ := hlarger hgt.le
        have hnone : findKey key k ys = none := findKey_eq_none fun z hz => (hgt.trans (hhead z hz)).ne'
        rw [List.filter_cons_of_neg (by simpa using hgt.le), findKey_cons, if_neg hgt.ne', hnone,
          List.filter_cons_of_pos (by simpa using hgt), hbelow, habove]
        rfl

theorem findKey_insertIdx (hgap : Gap key (key x) xs n) :
    findKey key k (xs.insertIdx n x) = if k = key x then some x else findKey key k xs := by
  rw [Ascending.insertIdx_eq_take_append_drop hgap.le_length, findKey_append, findKey_cons]
  split
  · rename_i hkey
    rw [if_pos hkey.symm, findKey_eq_none (fun y hy => hkey ▸ (hgap.before y hy).ne), Option.none_or]
  · rename_i hkey
    rw [if_neg (Ne.symm hkey), ← findKey_append, List.take_append_drop]

theorem Ascending.set (h : Ascending key xs) (hn : n < xs.length) (hkey : key xs[n] = key x) :
    Ascending key (xs.set n x) := by
  have hmap : (xs.set n x).map key = xs.map key := by
    rw [List.map_set, ← hkey, ← List.getElem_map key, List.set_getElem_self]
    rwa [List.length_map]
  have hkeys : (xs.map key).Pairwise (· < ·) := List.pairwise_map.mpr h
  rw [← hmap] at hkeys
  exact List.pairwise_map.mp hkeys

theorem findKey_set (h : Ascending key xs) (hn : n < xs.length) (hkey : key xs[n] = key x) :
    findKey key k (xs.set n x) = if k = key x then some x else findKey key k xs := by
  split
  · rename_i hsame
    rw [findKey_eq_some_iff (h.set hn hkey)]
    exact ⟨List.mem_set hn _, hsame.symm⟩
  · rename_i hother
    have hparts : xs = xs.take n ++ xs[n] :: xs.drop (n + 1) := by simp
    rw [List.set_eq_take_append_cons_drop, if_pos hn, findKey_append, findKey_cons,
      if_neg (Ne.symm hother)]
    conv_rhs => rw [hparts, findKey_append, findKey_cons, hkey, if_neg (Ne.symm hother)]

/-- An element that is removed. -/
theorem findKey_eraseP (h : Ascending key xs) {removed : κ} :
    findKey key k (xs.eraseP (key · = removed)) =
      if k = removed then none else findKey key k xs := by
  split
  · rename_i hsame
    rw [hsame]
    induction xs with
    | nil => rfl
    | cons y ys ih =>
        obtain ⟨hhead, hrest⟩ := List.pairwise_cons.mp h
        by_cases hy : key y = removed
        · rw [List.eraseP_cons_of_pos (by simpa using hy)]
          exact findKey_eq_none fun z hz => (hy ▸ hhead z hz).ne'
        · rw [List.eraseP_cons_of_neg (by simpa using hy), findKey_cons, if_neg hy]
          exact ih hrest
  · rename_i hother
    exact findKey_eraseP_of_ne hother

end FalconGpon.Lib
