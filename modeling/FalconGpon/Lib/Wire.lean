/-
# Data in memory

`Lays mem p xs` says that a memory holds the items `xs` one after the other from `p` on. Pieces
that are laid out one behind the other are found again by adding their lengths: by a
multiplication where all have one length, and by a walk where each piece tells its own.
Words are laid out with their highest byte first.
-/

import Mathlib.Data.BitVec
import Mathlib.Data.List.Basic
import Mathlib.Logic.Function.Iterate

namespace FalconGpon.Lib

/-! ## Lists in memory -/

/-- The memory holds the items from `p` on. -/
def Lays {α : Type*} (mem : Int → α) : Int → List α → Prop
  | _, [] => True
  | p, x :: xs => mem p = x ∧ Lays mem (p + 1) xs

section

variable {α β : Type*} {mem : Int → α} {p : Int}

@[simp] theorem lays_nil : Lays mem p [] :=
  trivial

@[simp] theorem lays_cons {x : α} {xs : List α} :
    Lays mem p (x :: xs) ↔ mem p = x ∧ Lays mem (p + 1) xs :=
  Iff.rfl

theorem lays_append {xs ys : List α} :
    Lays mem p (xs ++ ys) ↔ Lays mem p xs ∧ Lays mem (p + xs.length) ys := by
  induction xs generalizing p with
  | nil => simp
  | cons x xs ih =>
      have hnext : p + 1 + (xs.length : Int) = p + ((x :: xs).length : Nat) := by
        rw [List.length_cons]
        push_cast
        omega
      rw [List.cons_append, lays_cons, lays_cons, ih, hnext, and_assoc]

def memOf (xs : List α) (default : α) (p : Int) : α :=
  xs.getD p.toNat default

theorem lays_memOf {xs ys zs : List α} {default : α} :
    Lays (memOf (xs ++ ys ++ zs) default) xs.length ys := by
  induction ys generalizing xs with
  | nil => exact lays_nil
  | cons y ys ih =>
      have hshift : xs ++ y :: ys ++ zs = xs ++ [y] ++ ys ++ zs := by simp
      have hrest : Lays (memOf (xs ++ [y] ++ ys ++ zs) default) (xs ++ [y]).length ys := ih
      rw [List.length_append, List.length_singleton, Nat.cast_succ, ← hshift] at hrest
      exact ⟨by simp [memOf], hrest⟩

theorem Lays.get {xs : List α} (h : Lays mem p xs) {i : Nat} (hi : i < xs.length) :
    mem (p + i) = xs[i] := by
  induction xs generalizing p i with
  | nil => exact absurd hi (Nat.not_lt_zero i)
  | cons x xs ih =>
      cases i with
      | zero => simpa using h.1
      | succ i =>
          have hsame : p + ((i + 1 : Nat) : Int) = p + 1 + i := by
            push_cast
            omega
          rw [hsame]
          exact ih h.2 (Nat.lt_of_succ_lt_succ hi)

/-- Pieces of one length, by their index. -/
theorem Lays.piece {f : β → List α} {width : Nat} {xs : List β}
    (hwidth : ∀ x ∈ xs, (f x).length = width) (h : Lays mem p (xs.flatMap f)) {i : Nat}
    (hi : i < xs.length) : Lays mem (p + (width * i : Nat)) (f xs[i]) := by
  induction xs generalizing p i with
  | nil => exact absurd hi (Nat.not_lt_zero i)
  | cons x xs ih =>
      rw [List.flatMap_cons, lays_append, hwidth x List.mem_cons_self] at h
      cases i with
      | zero => simpa using h.1
      | succ i =>
          have hsame : p + ((width * (i + 1) : Nat) : Int) = p + width + (width * i : Nat) := by
            rw [Nat.mul_succ]
            push_cast
            omega
          rw [hsame]
          exact ih (fun y hy => hwidth y (List.mem_cons_of_mem x hy)) h.2
            (Nat.lt_of_succ_lt_succ hi)

theorem Lays.walk {f : β → List α} {next : Int → Int} {xs : List β}
    (hnext : ∀ x ∈ xs, ∀ r, Lays mem r (f x) → next r = r + (f x).length)
    (h : Lays mem p (xs.flatMap f)) {k : Nat} (hk : k < xs.length) :
    Lays mem (next^[k] p) (f xs[k]) := by
  induction xs generalizing p k with
  | nil => exact absurd hk (Nat.not_lt_zero k)
  | cons x xs ih =>
      rw [List.flatMap_cons, lays_append] at h
      cases k with
      | zero => exact h.1
      | succ k =>
          rw [Function.iterate_succ_apply, hnext x List.mem_cons_self p h.1]
          exact ih (fun y hy => hnext y (List.mem_cons_of_mem x hy)) h.2
            (Nat.lt_of_succ_lt_succ hk)

end

/-! ## Words in memory -/

def wireBytes (width : Nat) (v : BitVec (8 * width)) : List (BitVec 8) :=
  (List.range width).map fun i => v.extractLsb' (8 * (width - 1 - i)) 8

variable {mem : Int → BitVec 8} {p : Int} {width : Nat} {v : BitVec (8 * width)}

@[simp] theorem length_wireBytes : (wireBytes width v).length = width := by
  rw [wireBytes, List.length_map, List.length_range]

theorem Lays.byte (h : Lays mem p (wireBytes width v)) {i : Nat} (hi : i < width) :
    mem (p + i) = v.extractLsb' (8 * (width - 1 - i)) 8 := by
  rw [h.get (by rwa [length_wireBytes])]
  simp only [wireBytes, List.getElem_map, List.getElem_range]

theorem Lays.word {v : BitVec 16} (h : Lays mem p (wireBytes 2 v)) : mem p ++ mem (p + 1) = v := by
  have hhigh := h.byte (i := 0) (by decide)
  have hlow := h.byte (i := 1) (by decide)
  rw [Nat.cast_zero, add_zero] at hhigh
  rw [Nat.cast_one] at hlow
  rw [hhigh, hlow]
  ext i hi
  simp only [BitVec.getElem_append, BitVec.getElem_extractLsb']
  split
  · rw [Nat.zero_add]
    exact BitVec.getLsbD_eq_getElem hi
  · have hsame : 8 * (2 - 1 - 0) + (i - 8) = i := by omega
    rw [hsame]
    exact BitVec.getLsbD_eq_getElem hi

/-- The bytes of a word, shifted in one after the other, put the word together again. -/
theorem foldl_wireBytes {byte : Nat → BitVec 8}
    (hbytes : ∀ i < width, byte i = v.extractLsb' (8 * (width - 1 - i)) 8) {n : Nat}
    (hn : n ≤ width) :
    (List.range n).foldl (fun (a : BitVec (8 * width)) i =>
      (a <<< 8) ||| (byte i).setWidth (8 * width)) 0 = v >>> (8 * (width - n)) := by
  induction n with
  | zero =>
      apply BitVec.eq_of_getLsbD_eq
      intro i _
      rw [BitVec.getLsbD_ushiftRight, BitVec.getLsbD_of_ge v (8 * (width - 0) + i) (by omega)]
      simp
  | succ n ih =>
      rw [List.range_succ, List.foldl_append, ih (by omega), List.foldl_cons, List.foldl_nil,
        hbytes n (by omega)]
      apply BitVec.eq_of_getLsbD_eq
      intro i hi
      simp only [BitVec.getLsbD_or, BitVec.getLsbD_shiftLeft, BitVec.getLsbD_ushiftRight,
        BitVec.getLsbD_setWidth, BitVec.getLsbD_extractLsb', hi, decide_true, Bool.true_and]
      by_cases hlow : i < 8
      · have hsame : 8 * (width - 1 - n) + i = 8 * (width - (n + 1)) + i := by omega
        rw [hsame]
        simp [hlow]
      · have hsame : 8 * (width - n) + (i - 8) = 8 * (width - (n + 1)) + i := by omega
        rw [hsame]
        simp [hlow]

end FalconGpon.Lib
