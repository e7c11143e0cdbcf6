/-
# Buffers

A buffer is a total function from positions to elements; how much of it is in use is
known to whoever uses it. `slice` reads a range and `patch` overwrites one, as
copying memory from and into a buffer does.
-/

import Mathlib.Data.List.Basic

namespace FalconGpon.Lib

variable {β : Type*}

def slice (buf : Nat → β) (offset size : Nat) : List β :=
  (List.range size).map fun i => buf (offset + i)

def patch (buf : Nat → β) (offset : Nat) (bytes : List β) : Nat → β := fun i =>
  if offset ≤ i then (bytes[i - offset]?).getD (buf i) else buf i

@[simp]
theorem length_slice (buf : Nat → β) (offset size : Nat) :
    (slice buf offset size).length = size := by
  simp [slice]

variable {size : Nat}

theorem slice_eq_iff {buf buf' : Nat → β} {offset offset' : Nat} :
    slice buf offset size = slice buf' offset' size ↔
      ∀ i < size, buf (offset + i) = buf' (offset' + i) := by
  simp [slice, List.map_inj_left]

theorem patch_of_lt {buf : Nat → β} {offset i : Nat} {bytes : List β} (h : i < offset) :
    patch buf offset bytes i = buf i := by
  rw [patch, if_neg (Nat.not_le.mpr h)]

theorem patch_of_le {buf : Nat → β} {offset i : Nat} {bytes : List β}
    (h : offset + bytes.length ≤ i) : patch buf offset bytes i = buf i := by
  have hlength : bytes.length ≤ i - offset := by omega
  rw [patch, if_pos (by omega), List.getElem?_eq_none hlength, Option.getD_none]

theorem slice_patch_self (buf : Nat → β) (offset : Nat) (bytes : List β)
    (hsize : bytes.length = size) : slice (patch buf offset bytes) offset size = bytes := by
  apply List.ext_getElem
  · rw [length_slice, hsize]
  · intro i _ hi
    simp [slice, patch, hi]

theorem slice_patch_of_disjoint (buf : Nat → β) {offset offset' : Nat} (bytes : List β)
    (h : offset' + size ≤ offset ∨ offset + bytes.length ≤ offset') :
    slice (patch buf offset bytes) offset' size = slice buf offset' size := by
  apply slice_eq_iff.mpr
  intro i hi
  rcases h with h | h
  · exact patch_of_lt (by omega)
  · exact patch_of_le (by omega)

theorem patch_slice (data : Nat → β) (found : Nat → Nat) (start offset size : Nat) :
    patch (fun pos => data (found pos)) start (slice data offset size) = fun pos =>
      data (if start ≤ pos ∧ pos < start + size then offset + (pos - start) else found pos) := by
  funext pos
  rw [patch]
  by_cases hstart : start ≤ pos
  · by_cases hend : pos < start + size
    · have hlt : pos - start < size := by omega
      simp [hstart, hend, slice, hlt]
    · have hlength : (slice data offset size).length ≤ pos - start := by
        rw [length_slice]
        omega
      rw [if_pos hstart, List.getElem?_eq_none hlength, Option.getD_none, if_neg fun h => hend h.2]
  · rw [if_neg hstart, if_neg fun h => hstart h.1]

theorem patch_append (buf : Nat → β) (offset : Nat) (first second : List β) :
    patch buf offset (first ++ second) =
      patch (patch buf offset first) (offset + first.length) second := by
  funext i
  rw [patch, patch]
  by_cases hfirst : i < offset + first.length
  · rw [if_neg (Nat.not_le.mpr hfirst), patch]
    by_cases hoffset : offset ≤ i
    · rw [if_pos hoffset, if_pos hoffset, List.getElem?_append_left (by omega)]
    · rw [if_neg hoffset, if_neg hoffset]
  · have hbehind : i - offset - first.length = i - (offset + first.length) := by omega
    rw [if_pos (by omega), if_pos (by omega), List.getElem?_append_right (by omega), hbehind,
      patch_of_le (by omega)]

theorem slice_add (buf : Nat → β) (offset first second : Nat) :
    slice buf offset (first + second) = slice buf offset first ++ slice buf (offset + first) second := by
  simp [slice, List.range_add, Nat.add_assoc]

theorem slice_patch_append (buf : Nat → β) (offset : Nat) {bytes : List β}
    (h : bytes.length ≤ size) :
    slice (patch buf offset bytes) offset size =
      bytes ++ slice buf (offset + bytes.length) (size - bytes.length) := by
  obtain ⟨rest, rfl⟩ := Nat.exists_eq_add_of_le h
  rw [slice_add, slice_patch_self _ _ _ rfl, slice_patch_of_disjoint _ _ (.inr (Nat.le_refl _)),
    Nat.add_sub_cancel_left]

theorem slice_eq_replicate {buf : Nat → β} {offset : Nat} {b : β}
    (h : ∀ i < size, buf (offset + i) = b) : slice buf offset size = List.replicate size b := by
  apply List.ext_getElem
  · rw [length_slice, List.length_replicate]
  · intro i hi _
    rw [length_slice] at hi
    simp [slice, h i hi]

theorem take_slice (buf : Nat → β) (offset : Nat) {total : Nat} (h : size ≤ total) :
    (slice buf offset total).take size = slice buf offset size := by
  obtain ⟨rest, rfl⟩ := Nat.exists_eq_add_of_le h
  rw [slice_add, List.take_append_of_le_length (by simp), List.take_of_length_le (by simp)]

theorem flatMap_slice (buf : Nat → β) (size count : Nat) :
    ((List.range count).flatMap fun k => slice buf (size * k) size) = slice buf 0 (size * count) := by
  induction count with
  | zero => rfl
  | succ count ih =>
      rw [List.range_succ, List.flatMap_append, ih, List.flatMap_singleton, Nat.mul_succ, slice_add,
        Nat.zero_add]

end FalconGpon.Lib
