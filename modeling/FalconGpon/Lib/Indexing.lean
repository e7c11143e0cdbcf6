/-
# Lists that carry their own positions

Elements may be kept in one order and carry the position they have in another one. `scatter`
writes them to their positions; it fills every slot once exactly if the positions are a
permutation of the numbers below the length.
-/

import Mathlib.Data.List.Perm.Basic
import Mathlib.Data.List.Nodup
import Mathlib.Data.List.Range
import Mathlib.Data.List.Count

namespace FalconGpon.Lib

variable {α : Type*}

/-- Taking one number away leaves the numbers below the length exactly if it was the last. -/
theorem perm_range_iff_of_cons {a n : Nat} {l : List Nat} (h : (a :: l).Perm (List.range n)) :
    l.Perm (List.range (n - 1)) ↔ a + 1 = n := by
  have hlength : l.length + 1 = n := by
    have hsame := h.length_eq
    rwa [List.length_cons, List.length_range] at hsame
  have hsplit : (List.range n).Perm ((n - 1) :: List.range (n - 1)) := by
    have hn : n = (n - 1) + 1 := by omega
    rw [hn, List.range_succ]
    exact List.perm_append_comm
  constructor
  · intro hrest
    have hmem : n - 1 ∈ a :: List.range (n - 1) := by
      apply (hrest.cons a).mem_iff.mp
      rw [h.mem_iff]
      exact List.mem_range.mpr (by omega)
    rcases List.mem_cons.mp hmem with hlast | hsmall
    · omega
    · exact absurd (List.mem_range.mp hsmall) (by omega)
  · intro hlast
    have ha : a = n - 1 := by omega
    exact (ha ▸ h.trans hsplit).cons_inv

theorem map_idxOf_self [DecidableEq α] {l : List α} (h : l.Nodup) :
    l.map (l.idxOf ·) = List.range l.length := by
  apply List.ext_getElem
  · rw [List.length_map, List.length_range]
  · intro i hi hi'
    rw [List.getElem_map, List.getElem_range]
    exact h.idxOf_getElem i _

theorem map_idxOf_perm [DecidableEq α] {l sorted : List α} (h : l.Perm sorted)
    (hsorted : sorted.Nodup) : (l.map (sorted.idxOf ·)).Perm (List.range l.length) := by
  have hmap := h.map (sorted.idxOf ·)
  rwa [map_idxOf_self hsorted, ← h.length_eq] at hmap

/-- Write each element to the slot it names; no result if there is no such slot. -/
def scatter : List (Nat × α) → List (Option α) → Option (List (Option α))
  | [], slots => some slots
  | (i, a) :: rest, slots =>
      if i < slots.length then scatter rest (slots.set i (some a)) else none

def forSlot (writes : List (Nat × α)) (i : Nat) : Option α :=
  (writes.find? (·.1 = i)).map Prod.snd

theorem scatter_eq (writes : List (Nat × α)) (slots : List (Option α))
    (hnodup : (writes.map Prod.fst).Nodup) (hinside : ∀ w ∈ writes, w.1 < slots.length) :
    scatter writes slots =
      some (slots.mapIdx fun i old => (forSlot writes i).elim old some) := by
  induction writes generalizing slots with
  | nil =>
      rw [scatter, Option.some_inj]
      apply List.ext_getElem
      · rw [List.length_mapIdx]
      · intro i hi hi'
        rw [List.getElem_mapIdx]
        rfl
  | cons write rest ih =>
      obtain ⟨n, a⟩ := write
      obtain ⟨hfresh, hrest⟩ := List.nodup_cons.mp hnodup
      have hn : n < slots.length := hinside (n, a) List.mem_cons_self
      rw [scatter, if_pos hn, ih _ hrest (fun w hw => by
        rw [List.length_set]
        exact hinside w (List.mem_cons_of_mem _ hw)), Option.some_inj]
      apply List.ext_getElem
      · rw [List.length_mapIdx, List.length_mapIdx, List.length_set]
      · intro i hi hi'
        rw [List.getElem_mapIdx, List.getElem_mapIdx, List.getElem_set]
        by_cases hsame : n = i
        · have hnone : forSlot rest i = none := by
            rw [forSlot, Option.map_eq_none_iff, List.find?_eq_none]
            intro w hw hwi
            have hwn : w.1 = n := (of_decide_eq_true hwi).trans hsame.symm
            exact hfresh (List.mem_map.mpr ⟨w, hw, hwn⟩)
          have hhead : forSlot ((n, a) :: rest) i = some a := by
            rw [forSlot, List.find?_cons_of_pos (by simpa using hsame)]
            rfl
          rw [hnone, hhead, if_pos hsame]
          rfl
        · have hskip : forSlot ((n, a) :: rest) i = forSlot rest i := by
            rw [forSlot, List.find?_cons_of_neg (by simpa using hsame), forSlot]
          rw [hskip, if_neg hsame]

theorem forSlot_eq_some_of_mem {writes : List (Nat × α)} (hnodup : (writes.map Prod.fst).Nodup)
    {w : Nat × α} (hw : w ∈ writes) : forSlot writes w.1 = some w.2 := by
  induction writes with
  | nil => cases hw
  | cons head rest ih =>
      obtain ⟨hfresh, hrest⟩ := List.nodup_cons.mp hnodup
      rcases List.mem_cons.mp hw with hhead | htail
      · rw [hhead, forSlot, List.find?_cons_of_pos (by simp)]
        rfl
      · have hne : head.1 ≠ w.1 := fun hsame => hfresh (hsame ▸ List.mem_map_of_mem htail)
        rw [forSlot, List.find?_cons_of_neg (by simpa using hne)]
        exact ih hrest htail

/-- Elements whose positions are the numbers below `n` fill `n` slots, each once. -/
theorem scatter_perm {writes : List (Nat × α)} {n : Nat}
    (h : (writes.map Prod.fst).Perm (List.range n)) :
    ∃ slots, scatter writes (List.replicate n none) = some slots ∧
      slots.Perm (writes.map fun w => some w.2) := by
  have hnodup : (writes.map Prod.fst).Nodup := h.nodup_iff.mpr List.nodup_range
  refine ⟨_, scatter_eq writes _ hnodup fun w hw => ?_, ?_⟩
  · rw [List.length_replicate]
    exact List.mem_range.mp (h.mem_iff.mp (List.mem_map_of_mem hw))
  · have hslots : ((List.replicate n none).mapIdx fun i old =>
        (forSlot writes i).elim old some) = (List.range n).map (forSlot writes) := by
      apply List.ext_getElem
      · rw [List.length_mapIdx, List.length_replicate, List.length_map, List.length_range]
      · intro i hi hi'
        rw [List.getElem_mapIdx, List.getElem_replicate, List.getElem_map, List.getElem_range]
        cases forSlot writes i <;> rfl
    have hwrites : (writes.map fun w => some w.2) =
        (writes.map Prod.fst).map (forSlot writes) := by
      rw [List.map_map]
      apply List.map_congr_left
      intro w hw
      exact (forSlot_eq_some_of_mem hnodup hw).symm
    rw [hslots, hwrites]
    exact (h.map _).symm

end FalconGpon.Lib
