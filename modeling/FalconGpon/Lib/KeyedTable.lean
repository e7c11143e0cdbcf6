/-
# Tables with a key

A table is a list of rows with a count beside it; a request writes the row of a key, deletes it
or clears the table, and may be refused. What the table is for is a function from keys to rows.
`RowWriter.Kept` says that a request does to that function what it asks for, and
`RowWriter.keyed_iff` that a row which is written is then read back until it is overwritten or
deleted.
-/

import Mathlib.Logic.Function.Basic
import FalconGpon.Lib.Transition
import FalconGpon.Lib.Upsert

namespace FalconGpon.Lib

/-! ## Rows -/

section Rows

variable {α κ : Type*} [DecidableEq κ] (key : α → κ)

def putRow (row : α) (rows : List α) : List α :=
  if rows.any (key · = key row) then rows.map fun old => if key old = key row then row else old
  else rows ++ [row]

def dropRows (k : κ) (rows : List α) : List α :=
  rows.filter (key · ≠ k)

variable {key} {rows : List α} {row : α} {k : κ}

theorem map_key_override (row : α) (rows : List α) :
    (rows.map fun old => if key old = key row then row else old).map key = rows.map key := by
  rw [List.map_map]
  apply List.map_congr_left
  intro old _
  show key (if key old = key row then row else old) = key old
  by_cases hold : key old = key row
  · rw [if_pos hold, hold]
  · rw [if_neg hold]

theorem any_key_iff : rows.any (key · = k) = true ↔ ∃ old ∈ rows, key old = k := by
  simp [List.any_eq_true]

theorem findKey_override (row : α) (rows : List α) (k : κ) :
    findKey key k (rows.map fun old => if key old = key row then row else old) =
      if k = key row ∧ ∃ old ∈ rows, key old = key row then some row else findKey key k rows := by
  induction rows with
  | nil => exact (if_neg fun h => absurd h.2 (by simp)).symm
  | cons first rest ih =>
      rw [List.map_cons, findKey_cons, ih, findKey_cons]
      by_cases hfirst : key first = key row
      · rw [if_pos hfirst, hfirst]
        by_cases hk : key row = k
        · rw [if_pos hk, if_pos ⟨hk.symm, first, List.mem_cons_self, hfirst⟩]
        · have hne : k ≠ key row := fun h => hk h.symm
          simp only [hk, hne, false_and, if_false]
      · rw [if_neg hfirst]
        by_cases hk : key first = k
        · have hne : ¬(k = key row) := fun h => hfirst (hk.trans h)
          simp only [hk, hne, false_and, if_true, if_false]
        · simp only [hk, List.exists_mem_cons_iff, hfirst, false_or, if_false]

/-- A row that is put is found under its key, and the others are found as before. -/
theorem findKey_putRow (row : α) (rows : List α) (k : κ) :
    findKey key k (putRow key row rows) =
      if k = key row then some row else findKey key k rows := by
  unfold putRow
  by_cases hany : rows.any (key · = key row) = true
  · rw [if_pos hany, findKey_override]
    simp only [any_key_iff.mp hany, and_true]
  · have hnone : ∀ old ∈ rows, key old ≠ key row :=
      fun old hold hsame => hany (any_key_iff.mpr ⟨old, hold, hsame⟩)
    rw [if_neg hany]
    by_cases hk : k = key row
    · rw [if_pos hk, hk]
      exact findKey_append_cons hnone rfl
    · rw [if_neg hk, findKey, List.find?_append]
      have hrow : List.find? (key · = k) [row] = none := findKey_eq_none fun y hy hsame =>
        hk (hsame.symm.trans (congrArg key (List.mem_singleton.mp hy)))
      rw [hrow, Option.or_none]
      rfl

theorem nodup_putRow (hnodup : (rows.map key).Nodup) (row : α) :
    ((putRow key row rows).map key).Nodup := by
  unfold putRow
  by_cases hany : rows.any (key · = key row) = true
  · rw [if_pos hany, map_key_override]
    exact hnodup
  · have hnew : key row ∉ rows.map key := by
      intro hmem
      have ⟨old, hold, hsame⟩ := List.mem_map.mp hmem
      exact hany (any_key_iff.mpr ⟨old, hold, hsame⟩)
    rw [if_neg hany, List.map_append, List.map_singleton, ← List.concat_eq_append]
    exact hnodup.concat hnew

theorem length_putRow (row : α) (rows : List α) : (putRow key row rows).length =
      if rows.any (key · = key row) then rows.length else rows.length + 1 := by
  unfold putRow
  by_cases hany : rows.any (key · = key row) = true
  · rw [if_pos hany, if_pos hany, List.length_map]
  · rw [if_neg hany, if_neg hany, List.length_append, List.length_singleton]

theorem putRow_of_mem (hnodup : (rows.map key).Nodup) (hmem : row ∈ rows) :
    putRow key row rows = rows := by
  have hany : rows.any (key · = key row) = true := any_key_iff.mpr ⟨row, hmem, rfl⟩
  unfold putRow
  rw [if_pos hany]
  calc rows.map (fun old => if key old = key row then row else old)
      = rows.map id := by
        apply List.map_congr_left
        intro old hold
        by_cases hsame : key old = key row
        · rw [if_pos hsame]
          exact (List.inj_on_of_nodup_map hnodup hold hmem hsame).symm
        · exact if_neg hsame
    _ = rows := List.map_id rows

theorem findKey_dropRows (removed : κ) (rows : List α) (k : κ) :
    findKey key k (dropRows key removed rows) =
      if k = removed then none else findKey key k rows := by
  by_cases hk : k = removed
  · rw [if_pos hk, hk]
    apply findKey_eq_none
    intro old hold
    exact of_decide_eq_true (List.mem_filter.mp hold).2
  · rw [if_neg hk]
    induction rows with
    | nil => rfl
    | cons first rest ih =>
        by_cases hfirst : key first = removed
        · have hdrop : dropRows key removed (first :: rest) = dropRows key removed rest :=
            List.filter_cons_of_neg (by simpa using hfirst)
          rw [hdrop, findKey_cons, if_neg fun h => hk (h.symm.trans hfirst)]
          exact ih
        · have hkeep : dropRows key removed (first :: rest) = first :: dropRows key removed rest :=
            List.filter_cons_of_pos (by simpa using hfirst)
          rw [hkeep, findKey_cons, findKey_cons, ih]

theorem nodup_dropRows (hnodup : (rows.map key).Nodup) (k : κ) :
    ((dropRows key k rows).map key).Nodup :=
  hnodup.sublist (List.filter_sublist.map key)

/-- Where no key comes twice, the removal of the first row with a key removes them all. -/
theorem eraseP_eq_dropRows (hnodup : (rows.map key).Nodup) (k : κ) :
    rows.eraseP (key · = k) = dropRows key k rows := by
  induction rows with
  | nil => rfl
  | cons first rest ih =>
      have ⟨hfirst, hrest⟩ := List.nodup_cons.mp hnodup
      by_cases hk : key first = k
      · have hdrop : dropRows key k (first :: rest) = dropRows key k rest :=
          List.filter_cons_of_neg (by simpa using hk)
        rw [hdrop, List.eraseP_cons_of_pos (by simpa using hk)]
        apply (List.filter_eq_self.mpr _).symm
        intro old hold
        apply decide_eq_true
        intro hsame
        exact hfirst ((hk.trans hsame.symm) ▸ List.mem_map_of_mem hold)
      · have hkeep : dropRows key k (first :: rest) = first :: dropRows key k rest :=
          List.filter_cons_of_pos (by simpa using hk)
        rw [hkeep, List.eraseP_cons_of_neg (by simpa using hk), ih hrest]

theorem length_eraseP_key (hany : ∃ old ∈ rows, key old = k) :
    (rows.eraseP (key · = k)).length = rows.length - 1 := by
  have ⟨old, hold, hsame⟩ := hany
  exact List.length_eraseP_of_mem hold (decide_eq_true hsame)

end Rows

/-! ## Requests -/

/-- A list of rows with a count. -/
structure CountedRows (α : Type*) where
  rows : List α
  count : Nat
deriving DecidableEq

/-- What a request asks for. -/
inductive RowOp (α κ : Type*)
  | write (row : α)
  | delete (k : κ)
  | clear
  | nothing

variable {α κ R : Type*} [DecidableEq κ]

theorem CountedRows.putRow_of_any {key : α → κ} {row : α} {rows : List α}
    (hany : rows.any (key · = key row) = true) :
    (⟨putRow key row rows, (putRow key row rows).length⟩ : CountedRows α) =
      ⟨rows.map fun old => if key old = key row then row else old, rows.length⟩ := by
  rw [length_putRow, if_pos hany, putRow, if_pos hany]

theorem CountedRows.putRow_of_not_any {key : α → κ} {row : α} {rows : List α}
    (hany : ¬rows.any (key · = key row) = true) :
    (⟨putRow key row rows, (putRow key row rows).length⟩ : CountedRows α) =
      ⟨rows ++ [row], rows.length + 1⟩ := by
  rw [length_putRow, if_neg hany, putRow, if_neg hany]

namespace RowOp

/-- The operation on the function from keys to rows. -/
def apply (key : α → κ) : RowOp α κ → (κ → Option α) → κ → Option α
  | write row, found => Function.update found (key row) (some row)
  | delete k, found => Function.update found k none
  | clear, _ => fun _ => none
  | nothing, found => found

/-- The row of a key is written or removed. -/
def Touches (key : α → κ) (k : κ) : RowOp α κ → Prop
  | write row => key row = k
  | delete removed => removed = k
  | clear => True
  | nothing => False

theorem apply_of_not_touches {key : α → κ} {k : κ} {op : RowOp α κ} (hnot : ¬op.Touches key k)
    (found : κ → Option α) : op.apply key found k = found k := by
  cases op with
  | write row => exact Function.update_of_ne (fun h => hnot h.symm) _ _
  | delete removed => exact Function.update_of_ne (fun h => hnot h.symm) _ _
  | clear => exact absurd trivial hnot
  | nothing => rfl

end RowOp

/-- How a table is written: the key of a row, what a request asks for, whether it is accepted and
what it leaves, and how the table is copied to be read, with the number of rows there is room
for. -/
structure RowWriter (R α κ : Type*) where
  key : α → κ
  op : R → RowOp α κ
  set : CountedRows α → R → Bool × CountedRows α
  copy : CountedRows α → Nat × List α

namespace RowWriter

variable (w : RowWriter R α κ)

def step (table : CountedRows α) (req : R) : Option (CountedRows α) :=
  some (w.set table req).2

def run (table : CountedRows α) (reqs : List R) : CountedRows α :=
  reqs.foldl (fun table req => (w.set table req).2) table

def lookup (table : CountedRows α) (k : κ) : Option α :=
  findKey w.key k table.rows

/-- A row for each key, counted and copied as they are. -/
structure Proper (table : CountedRows α) : Prop where
  nodup : (table.rows.map w.key).Nodup
  count : table.count = table.rows.length
  copied : w.copy table = (table.rows.length, table.rows)

/-- The table is proper, an accepted request does what it asks for, and a refused one changes
nothing. -/
structure Kept (before : CountedRows α) (req : R) (after : CountedRows α) : Prop where
  proper : w.Proper after
  accepted : (w.set before req).1 = true →
    w.lookup after = (w.op req).apply w.key (w.lookup before)
  refused : (w.set before req).1 = false → after = before

def Untouched (k : κ) : CountedRows α → List R → Prop :=
  Along w.step fun before req _ => (w.set before req).1 = true → ¬(w.op req).Touches w.key k

/-- What is to hold of a sequence of requests to an empty table. -/
structure Keyed (reqs : List R) : Prop where
  kept : Along w.step w.Kept ⟨[], 0⟩ reqs
  readBack : ∀ first req rest row, reqs = first ++ req :: rest → w.op req = .write row →
    (w.set (w.run ⟨[], 0⟩ first) req).1 = true →
      w.Untouched (w.key row) (w.run ⟨[], 0⟩ (first ++ [req])) rest →
        w.lookup (w.run ⟨[], 0⟩ reqs) (w.key row) = some row

variable {w} {table : CountedRows α} {reqs : List R} {k : κ}

theorem lookup_run (hkept : Along w.step w.Kept table reqs) (hfree : w.Untouched k table reqs) :
    w.lookup (w.run table reqs) k = w.lookup table k := by
  induction reqs generalizing table with
  | nil => rfl
  | cons req rest ih =>
      have ⟨hstep, hrest⟩ := hkept
      rw [show w.run table (req :: rest) = w.run (w.set table req).2 rest from rfl,
        ih hrest hfree.2]
      cases haccepted : (w.set table req).1 with
      | true =>
          rw [hstep.accepted haccepted]
          exact RowOp.apply_of_not_touches (hfree.1 haccepted) _
      | false => rw [hstep.refused haccepted]

theorem along_run_of_append {first rest : List R}
    (hkept : Along w.step w.Kept table (first ++ rest)) :
    Along w.step w.Kept (w.run table first) rest := by
  induction first generalizing table with
  | nil => exact hkept
  | cons req first ih => exact ih hkept.2

/-- Requests that are kept one by one are read back. -/
theorem keyed_iff : w.Keyed reqs ↔ Along w.step w.Kept ⟨[], 0⟩ reqs := by
  constructor
  · exact Keyed.kept
  intro hkept
  refine ⟨hkept, ?_⟩
  intro first req rest row hreqs hop haccepted hfree
  rw [hreqs] at hkept
  have ⟨hstep, hrest⟩ := along_run_of_append hkept
  have hrun : w.run ⟨[], 0⟩ (first ++ [req]) = (w.set (w.run ⟨[], 0⟩ first) req).2 := by
    rw [run, List.foldl_append]
    rfl
  rw [hrun] at hfree
  calc w.lookup (w.run ⟨[], 0⟩ reqs) (w.key row)
      = w.lookup (w.run (w.set (w.run ⟨[], 0⟩ first) req).2 rest) (w.key row) := by
        rw [hreqs, run, List.foldl_append]
        rfl
    _ = w.lookup (w.set (w.run ⟨[], 0⟩ first) req).2 (w.key row) := lookup_run hrest hfree
    _ = some row := by
        rw [hstep.accepted haccepted, hop]
        exact Function.update_self _ _ _

theorem lookup_putRow (w : RowWriter R α κ) (row : α) (rows : List α) :
    (findKey w.key · (putRow w.key row rows)) =
      (RowOp.write row : RowOp α κ).apply w.key (findKey w.key · rows) := by
  funext k
  rw [findKey_putRow, RowOp.apply, Function.update_apply]

theorem lookup_dropRows (w : RowWriter R α κ) (removed : κ) (rows : List α) :
    (findKey w.key · (dropRows w.key removed rows)) =
      (RowOp.delete removed : RowOp α κ).apply w.key (findKey w.key · rows) := by
  funext k
  rw [findKey_dropRows, RowOp.apply, Function.update_apply]

/-- If a request to a proper table is kept exactly under a condition, a sequence of requests is
right exactly when all of them meet it. -/
theorem keyed_iff_meets {Meets : CountedRows α → R → Prop} (hempty : w.Proper ⟨[], 0⟩)
    (hiff : ∀ table req, w.Proper table →
      (w.Kept table req (w.set table req).2 ↔ Meets table req)) (reqs : List R) :
    w.Keyed reqs ↔ Along w.step (fun before req _ => Meets before req) ⟨[], 0⟩ reqs := by
  refine keyed_iff.trans (along_iff_guard ?_ hempty reqs)
  intro before req after hproper hstep
  obtain rfl := Option.some.inj hstep
  have hkept := hiff before req hproper
  exact ⟨hkept, fun hmeets => (hkept.mpr hmeets).proper⟩

end RowWriter

end FalconGpon.Lib
