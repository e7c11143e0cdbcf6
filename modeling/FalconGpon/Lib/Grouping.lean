/-
# Values by their key

Of a list of keys with values, each key has a list of its values, in the order in which they come
first. A key is shared if it has two different values. A list with room for some values keeps the
first ones.
-/

import Mathlib.Data.List.Nodup
import Mathlib.Data.List.Perm.Subperm

namespace FalconGpon.Lib

variable {α κ : Type*}

/-! ## The first ones of each value -/

section First

variable [DecidableEq α]

theorem nodup_eraseDups (l : List α) : l.eraseDups.Nodup := by
  match l with
  | [] => exact List.nodup_nil
  | a :: l =>
      have hshorter : (l.filter fun b => !b == a).length < l.length + 1 :=
        Nat.lt_succ_of_le (List.length_filter_le _ _)
      rw [List.eraseDups_cons, List.nodup_cons, List.mem_eraseDups]
      exact ⟨by simp, nodup_eraseDups _⟩
termination_by l.length

theorem eraseDups_eq_self {l : List α} (h : l.Nodup) : l.eraseDups = l := by
  induction l with
  | nil => rfl
  | cons a l ih =>
      rw [List.nodup_cons] at h
      have hothers : (l.filter fun b => !b == a) = l := by
        rw [List.filter_eq_self]
        intro b hb
        have hne : b ≠ a := fun heq => h.1 (heq ▸ hb)
        simpa using hne
      rw [List.eraseDups_cons, hothers, ih h.2]

theorem eraseDups_append_of_subset {l more : List α} (h : more ⊆ l) :
    (l ++ more).eraseDups = l.eraseDups := by
  have hnone : more.removeAll l = [] := by
    rw [List.removeAll, List.filter_eq_nil_iff]
    intro a ha
    simpa using h ha
  rw [List.eraseDups_append, hnone, List.eraseDups_nil, List.append_nil]

/-- Append a value unless it is there or there are `size` values. -/
def addUpTo (size : Nat) (kept : List α) (a : α) : List α :=
  if kept.length < size ∧ a ∉ kept then kept ++ [a] else kept

/-- The values that a list with room for `size` ones keeps. -/
theorem foldl_addUpTo {size : Nat} {kept l : List α} (hkept : kept.Nodup) :
    l.foldl (addUpTo size) (kept.take size) = (kept ++ l).eraseDups.take size := by
  induction l generalizing kept with
  | nil => rw [List.append_nil, eraseDups_eq_self hkept, List.foldl_nil]
  | cons a l ih =>
      rw [List.foldl_cons]
      by_cases ha : a ∈ kept
      · have hsame : addUpTo size (kept.take size) a = kept.take size := by
          rw [addUpTo, if_neg]
          intro hroom
          rw [List.length_take] at hroom
          rw [List.take_of_length_le (by omega)] at hroom
          exact hroom.2 ha
        have hold : (a :: l).removeAll kept = l.removeAll kept := by
          rw [List.removeAll, List.filter_cons_of_neg (by simpa using ha)]
          rfl
        rw [hsame, ih hkept, List.eraseDups_append, List.eraseDups_append, hold]
      · have hnext : addUpTo size (kept.take size) a = (kept ++ [a]).take size := by
          rw [addUpTo]
          by_cases hroom : kept.length < size
          · have hlength : (kept ++ [a]).length ≤ size := by
              rw [List.length_append, List.length_singleton]
              exact hroom
            rw [List.take_of_length_le (Nat.le_of_lt hroom), if_pos ⟨hroom, ha⟩,
              List.take_of_length_le hlength]
          · have hfull : size ≤ kept.length := Nat.le_of_not_lt hroom
            have hno : ¬ ((kept.take size).length < size ∧ a ∉ kept.take size) := by
              rw [List.length_take_of_le hfull]
              exact fun hlt => Nat.lt_irrefl _ hlt.1
            rw [if_neg hno, List.take_append_of_le_length hfull]
        have hnodup : (kept ++ [a]).Nodup := by
          rw [List.nodup_append_comm, List.singleton_append, List.nodup_cons]
          exact ⟨ha, hkept⟩
        rw [hnext, ih hnodup, List.append_assoc, List.singleton_append]

omit [DecidableEq α] in
theorem subset_take {size : Nat} {l few : List α} (hl : l.Nodup) (hfew : few.length ≤ size)
    (hsubset : few ⊆ l) (hfirst : l.take size ⊆ few) : few ⊆ l.take size := by
  by_cases hlength : l.length ≤ size
  · rw [List.take_of_length_le hlength]
    exact hsubset
  · have htake : (l.take size).length = size := List.length_take_of_le (by omega)
    have hsubperm := List.subperm_of_subset (hl.sublist (List.take_sublist _ _)) hfirst
    exact (hsubperm.perm_of_length_le (Nat.le_trans hfew (Nat.le_of_eq htake.symm))).symm.subset

end First

/-! ## The values of a key -/

variable [DecidableEq κ]

def valuesAt (l : List (κ × α)) (k : κ) : List α :=
  (l.filter (·.1 = k)).map (·.2)

def keysOf (l : List (κ × α)) : List κ :=
  (l.map (·.1)).eraseDups

variable {l : List (κ × α)} {k : κ} {a : α}

theorem mem_valuesAt : a ∈ valuesAt l k ↔ (k, a) ∈ l := by
  rw [valuesAt, List.mem_map]
  constructor
  · intro ⟨p, hp, hvalue⟩
    rw [List.mem_filter, decide_eq_true_iff] at hp
    rw [← hp.2, ← hvalue]
    exact hp.1
  · intro h
    exact ⟨(k, a), List.mem_filter.mpr ⟨h, decide_eq_true rfl⟩, rfl⟩

theorem mem_keysOf : k ∈ keysOf l ↔ ∃ a, (k, a) ∈ l := by
  rw [keysOf, List.mem_eraseDups, List.mem_map]
  constructor
  · intro ⟨p, hp, hkey⟩
    exact ⟨p.2, hkey ▸ hp⟩
  · intro ⟨a, h⟩
    exact ⟨(k, a), h, rfl⟩

theorem valuesAt_append (l more : List (κ × α)) (k : κ) :
    valuesAt (l ++ more) k = valuesAt l k ++ valuesAt more k := by
  rw [valuesAt, List.filter_append, List.map_append]
  rfl

theorem valuesAt_cons_self (l : List (κ × α)) (k : κ) (a : α) :
    valuesAt ((k, a) :: l) k = a :: valuesAt l k := by
  simp [valuesAt]

theorem valuesAt_eq_nil (h : k ∉ keysOf l) : valuesAt l k = [] := by
  rw [List.eq_nil_iff_forall_not_mem]
  intro a ha
  exact h (mem_keysOf.mpr ⟨a, mem_valuesAt.mp ha⟩)

theorem keysOf_concat (l : List (κ × α)) (p : κ × α) :
    keysOf (l ++ [p]) = if p.1 ∈ keysOf l then keysOf l else keysOf l ++ [p.1] := by
  rw [keysOf, List.map_append, List.map_singleton]
  split
  · rename_i hold
    rw [keysOf, List.mem_eraseDups] at hold
    exact eraseDups_append_of_subset (by simpa using hold)
  · rename_i hnew
    rw [keysOf, List.mem_eraseDups] at hnew
    have hkept : [p.1].removeAll (l.map (·.1)) = [p.1] := by
      rw [List.removeAll, List.filter_cons_of_pos (by simpa using hnew), List.filter_nil]
    rw [List.eraseDups_append, hkept]
    rfl

theorem keysOf_prefix_append (l more : List (κ × α)) : keysOf l <+: keysOf (l ++ more) := by
  rw [keysOf, keysOf, List.map_append, List.eraseDups_append]
  exact List.prefix_append _ _

/-! ## Shared keys -/

variable [DecidableEq α]

def Shared (l : List (κ × α)) (k : κ) : Prop :=
  ∃ a ∈ valuesAt l k, ∃ b ∈ valuesAt l k, a ≠ b

instance (l : List (κ × α)) : DecidablePred (Shared l) :=
  fun k => inferInstanceAs (Decidable (∃ a ∈ valuesAt l k, ∃ b ∈ valuesAt l k, a ≠ b))

def sharedKeys (l : List (κ × α)) : List κ :=
  (keysOf l).filter (Shared l)

theorem mem_sharedKeys : k ∈ sharedKeys l ↔ Shared l k := by
  rw [sharedKeys, List.mem_filter, decide_eq_true_iff, and_iff_right_iff_imp]
  intro ⟨a, ha, _⟩
  exact mem_keysOf.mpr ⟨a, mem_valuesAt.mp ha⟩

theorem nodup_sharedKeys : (sharedKeys l).Nodup :=
  (nodup_eraseDups _).filter _

omit [DecidableEq α] in
theorem Shared.mono {more : List (κ × α)} (h : Shared l k) (hsubset : l ⊆ more) :
    Shared more k := by
  have ⟨a, ha, b, hb, hne⟩ := h
  exact ⟨a, mem_valuesAt.mpr (hsubset (mem_valuesAt.mp ha)), b,
    mem_valuesAt.mpr (hsubset (mem_valuesAt.mp hb)), hne⟩

/-- Two values of a shared key are among its first ones. -/
theorem Shared.exists_take (h : Shared l k) {size : Nat} (hsize : 2 ≤ size) :
    ∃ a ∈ (valuesAt l k).eraseDups.take size, ∃ b ∈ (valuesAt l k).eraseDups.take size, a ≠ b := by
  have ⟨a, ha, b, hb, hne⟩ := h
  have hnodup := nodup_eraseDups (valuesAt l k)
  rw [← List.mem_eraseDups] at ha hb
  have ⟨rest, hrest⟩ : ∃ rest, size = rest + 2 := ⟨size - 2, by omega⟩
  subst hrest
  match hvalues : (valuesAt l k).eraseDups with
  | [] => exact absurd (hvalues ▸ ha) List.not_mem_nil
  | [c] =>
      rw [hvalues, List.mem_singleton] at ha hb
      exact absurd (ha.trans hb.symm) hne
  | c :: d :: values =>
      rw [hvalues, List.nodup_cons] at hnodup
      exact ⟨c, List.mem_cons_self, d, List.mem_cons_of_mem _ List.mem_cons_self,
        fun heq => hnodup.1 (heq ▸ List.mem_cons_self)⟩

end FalconGpon.Lib
