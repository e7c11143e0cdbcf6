/-
# Access control lists

A Multicast Operations Profile ME keeps its dynamic and its static ACL table as lists of rows.
A SET writes a row, deletes one, or clears the table. The dynamic table is handed to the
driver as a whole, in an array on the stack; the rows of the static one are handed over and
withdrawn one by one, before the table is changed. The main result is `aclTables_kept_iff`.
-/

import Mathlib.Data.List.Nodup
import FalconGpon.Omci.Message
import FalconGpon.Lib.Transition

namespace FalconGpon.Omci

open FalconGpon.Lib

/-! ## Rows -/

/-- `struct omci_api_multicast_operations_profile_acl_entry`. -/
structure AclEntry where
  gemPortId : BitVec 16
  vlanId : BitVec 16
  sourceIp : BitVec 32
  destStartIp : BitVec 32
  destEndIp : BitVec 32
  groupBandwidth : BitVec 32
deriving DecidableEq

/-- `struct omci_acl_table`, in the byte order of the host. -/
structure AclRow where
  index : BitVec 16
  entry : AclEntry
  reserved : BitVec 16
deriving DecidableEq

/-- `OMCI_ACL_TABLE_ENTRY_DELETE`. -/
def aclTableEntryDelete : BitVec 16 := 1 <<< 15

/-- `OMCI_ACL_TABLE_ENTRY_SET`. -/
def aclTableEntrySet : BitVec 16 := 1 <<< 14

/-- What a SET of a table asks for. -/
inductive AclOp
  | clear
  | delete (index : BitVec 16)
  | write (row : AclRow)
deriving DecidableEq

/-- The operation by the upper bits of the index; none if both are 0. -/
def AclRow.op (row : AclRow) : Option AclOp :=
  let index := row.index &&& ~~~(aclTableEntrySet ||| aclTableEntryDelete)
  if row.index &&& aclTableEntryDelete ≠ 0 ∧ row.index &&& aclTableEntrySet ≠ 0 then some .clear
  else if row.index &&& aclTableEntryDelete ≠ 0 then some (.delete index)
  else if row.index &&& aclTableEntrySet ≠ 0 then some (.write { row with index })
  else none

section Rows

variable {α : Type*} (key : α → BitVec 16)

def rowWrite (row : α) (rows : List α) : List α :=
  if rows.any (key · = key row) then rows.map fun old => if key old = key row then row else old
  else rows ++ [row]

def rowDelete (index : BitVec 16) (rows : List α) : List α :=
  rows.filter (key · ≠ index)

end Rows

/-- The rows after an operation. -/
def AclOp.apply : AclOp → List AclRow → List AclRow
  | .clear, _ => []
  | .delete index, rows => rowDelete AclRow.index index rows
  | .write row, rows => rowWrite AclRow.index row rows

/-- One of the tables, with `entries_num`. -/
structure AclTable where
  rows : List AclRow
  entriesNum : Nat
deriving DecidableEq

/-- The list part of `dynamic_acl_table_entry_set` and `static_acl_table_entry_set`. -/
def AclTable.entrySet (memory : Bool) (table : AclTable) : Option AclOp → OmciError × AclTable
  | some .clear => (.success, ⟨[], table.entriesNum - table.rows.length⟩)
  | some (.delete index) =>
      if table.rows.any (·.index = index) then
        let kept := rowDelete AclRow.index index table.rows
        (.success, ⟨kept, table.entriesNum - (table.rows.length - kept.length)⟩)
      else (.invalidVal, table)
  | some (.write row) =>
      if table.rows.any (·.index = row.index) then
        (.success, ⟨rowWrite AclRow.index row table.rows, table.entriesNum⟩)
      else if memory then
        (.success, ⟨rowWrite AclRow.index row table.rows, table.entriesNum + 1⟩)
      else (.memory, table)
  | none => (.invalidVal, table)

/-- `me_tbl_copy`: the number of rows there is room for, and the rows. -/
def AclTable.tblCopy (table : AclTable) : Nat × List AclRow :=
  (table.entriesNum, if table.entriesNum = 0 then [] else
    table.rows.map fun row => { row with reserved := 0 })

/-! ## The driver -/

/-- What has been handed to the driver: the dynamic ACL, and the rows of the static one by their
index, which the driver does not look at. -/
structure AclDriver where
  dynamic : List AclEntry
  static : List (BitVec 16 × AclEntry)
deriving DecidableEq

/-- `OMCI_API_MAX_ACL_ENTRIES`. -/
def omciApiMaxAclEntries : Nat := 50

/-- `OMCI_API_MCC_MAX_SUBSCRIBERS`. -/
def omciApiMccMaxSubscribers : Nat := 4

/-- `dacl_table_fill`; the bandwidths stay what the array on the stack holds. -/
def daclTableFill (stack : Nat → BitVec 32) (table : AclTable) : Option (List AclEntry) :=
  if omciApiMaxAclEntries ≤ table.entriesNum then none
  else some (table.rows.mapIdx fun i row => { row.entry with groupBandwidth := stack i })

/-- The calls of `static_acl_table_entry_set`; they always succeed. -/
def AclDriver.staticCalls (driver : AclDriver) (rows : List AclRow) : Option AclOp → AclDriver
  | some .clear => { driver with
      static := rows.foldl (fun static row => rowDelete Prod.fst row.index static) driver.static }
  | some (.delete index) => { driver with static := rowDelete Prod.fst index driver.static }
  | some (.write row) =>
      { driver with static := rowWrite Prod.fst (row.index, row.entry) driver.static }
  | none => driver

/-! ## SETs -/

/-- The tables of the ME and what the driver has of them. -/
structure AclState where
  dynamic : AclTable
  static : AclTable
  driver : AclDriver
deriving DecidableEq

/-- A SET of a table. `memory` and `driver` say whether there is memory for a row and the update
of the dynamic ACL succeeds, `stack` is what the array holds before it is filled; with
`tagAttrs` the SET has one of the tag attributes as well, and `subscribers` have the profile. -/
structure AclSet where
  isDynamic : Bool
  row : AclRow
  memory : Bool
  driver : Bool
  stack : Nat → BitVec 32
  tagAttrs : Bool
  subscribers : Nat

def AclSet.overflows (set : AclSet) : Bool :=
  set.tagAttrs && decide (omciApiMccMaxSubscribers < set.subscribers)

namespace AclState

/-- The part of `me_update` for the dynamic table. -/
def dynamicUpdate (state : AclState) (set : AclSet) : OmciError × AclState :=
  match state.dynamic.entrySet set.memory set.row.op with
  | (.success, dynamic) =>
      match daclTableFill set.stack dynamic with
      | none => (.error, { state with dynamic })
      | some acl =>
          if set.driver then
            (.success, { state with dynamic, driver := { state.driver with dynamic := acl } })
          else (.drv, { state with dynamic })
  | (err, dynamic) => (err, { state with dynamic })

/-- The part of `me_update` for the static table. -/
def staticUpdate (state : AclState) (set : AclSet) : OmciError × AclState :=
  let done := state.static.entrySet set.memory set.row.op
  (done.1, { state with
    static := done.2
    driver := state.driver.staticCalls state.static.rows set.row.op })

/-- `me_update` for a SET of a table. -/
def meUpdate (state : AclState) (set : AclSet) : OmciError × AclState :=
  match if set.isDynamic then state.dynamicUpdate set else state.staticUpdate set with
  | (.success, state) => (if set.overflows then .error else .success, state)
  | failed => failed

end AclState

def aclStep (state : AclState) (set : AclSet) : Option AclState :=
  some (state.meUpdate set).2

/-- After `me_init`. -/
def aclInit : AclState := ⟨⟨[], 0⟩, ⟨[], 0⟩, ⟨[], []⟩⟩

/-! ## What SETs should keep to -/

/-- A row for each index, counted and read out once. -/
structure AclTable.Proper (table : AclTable) : Prop where
  nodup : (table.rows.map AclRow.index).Nodup
  count : table.entriesNum = table.rows.length
  copied : table.tblCopy =
    (table.rows.length, table.rows.map fun row => { row with reserved := 0 })

/-- The driver has the rows of the tables. -/
structure AclState.Agrees (state : AclState) : Prop where
  dynamic : state.dynamic.Proper
  static : state.static.Proper
  driverDynamic : state.driver.dynamic = state.dynamic.rows.map AclRow.entry
  driverStatic : state.driver.static =
    state.static.rows.map fun row => (row.index, row.entry)

/-- After a success the driver has the rows of the tables; a SET that is refused changes
nothing. -/
structure AclKept (before : AclState) (set : AclSet) (after : AclState) : Prop where
  success : (before.meUpdate set).1 = .success → after.Agrees
  refused : (before.meUpdate set).1 ≠ .success → after = before

/-- The condition on a SET that asks for something and is not refused for an index that is not
there. -/
def AclState.OpMeets (state : AclState) (set : AclSet) (op : AclOp) : Prop :=
  if set.isDynamic then
    (op.apply state.dynamic.rows).length < omciApiMaxAclEntries ∧
      (set.driver = true → ∀ i row, (op.apply state.dynamic.rows)[i]? = some row →
        set.stack i = row.entry.groupBandwidth) ∧
      (set.driver = false ∨ set.overflows = true → op.apply state.dynamic.rows = state.dynamic.rows)
  else set.overflows = true → op.apply state.static.rows = state.static.rows

/-- An operation finds its row, or there is memory for a new one. -/
def AclOp.Applies (memory : Bool) (rows : List AclRow) : AclOp → Prop
  | .clear => True
  | .delete index => ∃ row ∈ rows, row.index = index
  | .write new => (∃ row ∈ rows, row.index = new.index) ∨ memory = true

instance (memory : Bool) (rows : List AclRow) : ∀ op : AclOp, Decidable (op.Applies memory rows)
  | .clear => isTrue trivial
  | .delete index => inferInstanceAs (Decidable (∃ row ∈ rows, row.index = index))
  | .write new =>
      inferInstanceAs (Decidable ((∃ row ∈ rows, row.index = new.index) ∨ memory = true))

/-- The condition on a SET; one of the static table that lacks the memory for a new row has
handed it over already. -/
def AclState.SetMeets (state : AclState) (set : AclSet) : Prop :=
  ∀ op, set.row.op = some op →
    if op.Applies set.memory (if set.isDynamic then state.dynamic.rows else state.static.rows) then
      state.OpMeets set op
    else set.isDynamic = true ∨ ∀ row, op ≠ .write row

/-- What holds in runs that keep to it. -/
structure AclState.Sound (state : AclState) : Prop where
  agrees : state.Agrees
  room : state.dynamic.rows.length < omciApiMaxAclEntries

/-! ## Rows -/

section Rows

variable {α β : Type*} {key : α → BitVec 16} {key' : β → BitVec 16}

theorem map_rowWrite {f : α → β} (hkey : ∀ row, key' (f row) = key row) (row : α) (rows : List α) :
    (rowWrite key row rows).map f = rowWrite key' (f row) (rows.map f) := by
  have hany : (rows.map f).any (fun old => key' old = key' (f row)) =
      rows.any fun old => key old = key row := by
    simp [List.any_map, Function.comp_def, hkey]
  unfold rowWrite
  rw [hany]
  split
  · simp only [List.map_map]
    refine List.map_congr_left fun old _ => ?_
    simp only [Function.comp_apply, hkey]
    split <;> rfl
  · simp

theorem map_rowDelete {f : α → β} (hkey : ∀ row, key' (f row) = key row) (index : BitVec 16)
    (rows : List α) : (rowDelete key index rows).map f = rowDelete key' index (rows.map f) := by
  simp [rowDelete, List.filter_map, Function.comp_def, hkey]

theorem length_rowWrite (row : α) (rows : List α) : (rowWrite key row rows).length =
      if rows.any (key · = key row) then rows.length else rows.length + 1 := by
  unfold rowWrite
  split <;> simp

/-- A written row is the only one with its index. -/
theorem nodup_rowWrite {rows : List α} (hnodup : (rows.map key).Nodup) (row : α) :
    ((rowWrite key row rows).map key).Nodup := by
  unfold rowWrite
  split
  · have hsame : (rows.map fun old => if key old = key row then row else old).map key =
        rows.map key := by
      rw [List.map_map]
      refine List.map_congr_left fun old _ => ?_
      simp only [Function.comp_apply]
      split
      · rename_i hold
        exact hold.symm
      · rfl
    rwa [hsame]
  · rename_i hany
    rw [List.map_append, List.map_singleton, List.nodup_append]
    refine ⟨hnodup, List.nodup_singleton _, ?_⟩
    intro index hindex new hnew hsame
    obtain ⟨old, hold, rfl⟩ := List.mem_map.mp hindex
    refine hany (List.any_eq_true.mpr ⟨old, hold, ?_⟩)
    simpa [hsame] using hnew

theorem nodup_rowDelete {rows : List α} (hnodup : (rows.map key).Nodup) (index : BitVec 16) :
    ((rowDelete key index rows).map key).Nodup :=
  hnodup.sublist (List.filter_sublist.map key)

theorem rowDelete_of_not_mem {index : BitVec 16} {rows : List α}
    (hnone : ∀ row ∈ rows, key row ≠ index) : rowDelete key index rows = rows :=
  List.filter_eq_self.mpr fun row hrow => decide_eq_true (hnone row hrow)

theorem foldl_rowDelete (deleted : List α) (rows : List β) :
    deleted.foldl (fun rows row => rowDelete key' (key row) rows) rows =
      rows.filter fun row => deleted.all fun old => key' row ≠ key old := by
  induction deleted generalizing rows with
  | nil => simp
  | cons first rest ih =>
      rw [List.foldl_cons, ih, rowDelete, List.filter_filter]
      simp [Bool.and_comm]

end Rows

namespace AclTable

variable {table : AclTable}

theorem proper_of_nodup {rows : List AclRow} (hnodup : (rows.map AclRow.index).Nodup) :
    (⟨rows, rows.length⟩ : AclTable).Proper := by
  refine ⟨hnodup, rfl, ?_⟩
  unfold tblCopy
  split
  · rename_i hzero
    rw [List.length_eq_zero_iff.mp hzero]
    rfl
  · rfl

theorem Proper.apply (h : table.Proper) (op : AclOp) :
    (⟨op.apply table.rows, (op.apply table.rows).length⟩ : AclTable).Proper := by
  apply proper_of_nodup
  cases op with
  | clear => exact List.nodup_nil
  | delete index => exact nodup_rowDelete h.nodup index
  | write row => exact nodup_rowWrite h.nodup row

/-- An operation that applies succeeds, and counts the rows. -/
theorem Proper.entrySet_of_applies (h : table.Proper) {memory : Bool} {op : AclOp}
    (happlies : op.Applies memory table.rows) :
    table.entrySet memory (some op) =
      (.success, ⟨op.apply table.rows, (op.apply table.rows).length⟩) := by
  cases op with
  | clear => simp [entrySet, AclOp.apply, h.count]
  | delete index =>
      have hany : table.rows.any (·.index = index) = true := by
        simpa [List.any_eq_true, AclOp.Applies] using happlies
      have hle : (rowDelete AclRow.index index table.rows).length ≤ table.rows.length :=
        List.length_filter_le _ _
      rw [entrySet, if_pos hany]
      simp only [AclOp.apply, h.count]
      rw [Nat.sub_sub_self hle]
  | write row =>
      simp only [AclOp.apply, length_rowWrite]
      rw [entrySet]
      by_cases hany : table.rows.any (·.index = row.index) = true
      · rw [if_pos hany, if_pos hany, h.count]
      · have hmemory : memory = true := by
          refine happlies.resolve_left fun hmem => hany ?_
          simpa [List.any_eq_true] using hmem
        rw [if_neg hany, if_neg hany, if_pos hmemory, h.count]

theorem entrySet_of_not_applies {memory : Bool} {op : AclOp}
    (hnot : ¬ op.Applies memory table.rows) :
    ∃ err, err ≠ .success ∧ table.entrySet memory (some op) = (err, table) := by
  cases op with
  | clear => exact absurd trivial hnot
  | delete index =>
      have hany : ¬ table.rows.any (·.index = index) = true := by
        simpa [List.any_eq_true, AclOp.Applies] using hnot
      exact ⟨.invalidVal, by decide, by rw [entrySet, if_neg hany]⟩
  | write row =>
      obtain ⟨hnone, hmemory⟩ := not_or.mp hnot
      have hany : ¬ table.rows.any (·.index = row.index) = true := by
        simpa [List.any_eq_true] using hnone
      exact ⟨.memory, by decide, by rw [entrySet, if_neg hany, if_neg hmemory]⟩

end AclTable

/-- The array has the bandwidths of the rows exactly if the stack had them. -/
theorem mapIdx_stack_eq_iff {stack : Nat → BitVec 32} {rows : List AclRow} :
    (rows.mapIdx fun i row => { row.entry with groupBandwidth := stack i }) =
        rows.map AclRow.entry ↔
      ∀ i row, rows[i]? = some row → stack i = row.entry.groupBandwidth := by
  rw [List.ext_getElem?_iff]
  refine forall_congr' fun i => ?_
  rw [List.getElem?_mapIdx, List.getElem?_map]
  cases rows[i]? with
  | none => simp
  | some row =>
      simp only [Option.map_some, Option.some.injEq, forall_eq']
      constructor
      · intro hsame
        exact congrArg AclEntry.groupBandwidth hsame
      · intro hsame
        rw [hsame]

/-! ## SETs -/

namespace AclState

variable {state : AclState} {set : AclSet} {op : AclOp}

/-- The calls hand over the rows as they will be in the static table. -/
theorem Agrees.staticCalls (h : state.Agrees) (op : AclOp) :
    (state.driver.staticCalls state.static.rows (some op)).static =
      (op.apply state.static.rows).map fun row => (row.index, row.entry) := by
  cases op with
  | clear =>
      simp only [AclDriver.staticCalls, AclOp.apply, List.map_nil]
      rw [foldl_rowDelete, h.driverStatic, List.filter_map, List.map_eq_nil_iff,
        List.filter_eq_nil_iff]
      intro row hrow hall
      simp only [Function.comp_apply, List.all_eq_true, decide_eq_true_eq] at hall
      exact hall row hrow rfl
  | delete index =>
      simp only [AclDriver.staticCalls, AclOp.apply]
      rw [h.driverStatic]
      exact (map_rowDelete (fun _ => rfl) index _).symm
  | write row =>
      simp only [AclDriver.staticCalls, AclOp.apply]
      rw [h.driverStatic]
      exact (map_rowWrite (fun _ => rfl) row _).symm

theorem staticCalls_dynamic (driver : AclDriver) (rows : List AclRow) (op : Option AclOp) :
    (driver.staticCalls rows op).dynamic = driver.dynamic := by
  cases op with
  | none => rfl
  | some op => cases op <;> rfl

/-- A SET of the dynamic table that applies. -/
theorem Sound.dynamic_kept_iff (h : state.Sound) (hop : set.row.op = some op)
    (hdynamic : set.isDynamic = true) (happlies : op.Applies set.memory state.dynamic.rows) :
    AclKept state set (state.meUpdate set).2 ↔ state.OpMeets set op := by
  have hset := h.agrees.dynamic.entrySet_of_applies happlies
  have hproper := h.agrees.dynamic.apply op
  have hsameTable : op.apply state.dynamic.rows = state.dynamic.rows →
      (⟨op.apply state.dynamic.rows, (op.apply state.dynamic.rows).length⟩ : AclTable) =
        state.dynamic := by
    intro hsame
    rw [hsame, ← h.agrees.dynamic.count]
  rw [OpMeets, if_pos hdynamic]
  by_cases hroom : (op.apply state.dynamic.rows).length < omciApiMaxAclEntries
  · have hfill : daclTableFill set.stack
        ⟨op.apply state.dynamic.rows, (op.apply state.dynamic.rows).length⟩ =
          some ((op.apply state.dynamic.rows).mapIdx fun i row =>
            { row.entry with groupBandwidth := set.stack i }) :=
      if_neg (Nat.not_le.mpr hroom)
    simp only [hroom, true_and]
    cases hdriver : set.driver with
    | false =>
        have hafter : state.meUpdate set = (.drv, { state with
            dynamic := ⟨op.apply state.dynamic.rows, (op.apply state.dynamic.rows).length⟩ }) := by
          simp [meUpdate, dynamicUpdate, hdynamic, hop, hset, hfill, hdriver]
        simp only [Bool.false_eq_true, false_imp_iff, true_and, true_or, forall_const]
        constructor
        · intro hkept
          have hsame := hkept.refused (by simp [hafter])
          rw [hafter] at hsame
          exact congrArg (fun after : AclState => after.dynamic.rows) hsame
        · intro hsame
          refine ⟨fun hsuccess => ?_, fun _ => ?_⟩
          · rw [hafter] at hsuccess
            cases hsuccess
          · rw [hafter, hsameTable hsame]
    | true =>
        have hafter : state.meUpdate set = (if set.overflows then .error else .success, { state with
            dynamic := ⟨op.apply state.dynamic.rows, (op.apply state.dynamic.rows).length⟩
            driver := { state.driver with
              dynamic := (op.apply state.dynamic.rows).mapIdx fun i row =>
                { row.entry with groupBandwidth := set.stack i } } }) := by
          simp [meUpdate, dynamicUpdate, hdynamic, hop, hset, hfill, hdriver]
        simp only [forall_const, Bool.true_eq_false, false_or]
        rw [← mapIdx_stack_eq_iff]
        cases hover : set.overflows with
        | false =>
            rw [hover] at hafter
            simp only [Bool.false_eq_true, if_false, false_imp_iff, and_true] at hafter ⊢
            constructor
            · intro hkept
              have hagrees := hkept.success (by rw [hafter])
              rw [hafter] at hagrees
              exact hagrees.driverDynamic
            · intro hstack
              refine ⟨fun _ => ?_, fun hne => absurd (by rw [hafter]) hne⟩
              rw [hafter]
              exact ⟨hproper, h.agrees.static, hstack, h.agrees.driverStatic⟩
        | true =>
            rw [hover] at hafter
            simp only [if_true, forall_const] at hafter ⊢
            constructor
            · intro hkept
              have hsame := hkept.refused (by simp [hafter])
              rw [hafter] at hsame
              have hrows : op.apply state.dynamic.rows = state.dynamic.rows :=
                congrArg (fun after : AclState => after.dynamic.rows) hsame
              refine ⟨?_, hrows⟩
              have hacl := congrArg (fun after : AclState => after.driver.dynamic) hsame
              rw [hrows] at hacl ⊢
              exact hacl.trans h.agrees.driverDynamic
            · rintro ⟨hstack, hrows⟩
              refine ⟨fun hsuccess => ?_, fun _ => ?_⟩
              · rw [hafter] at hsuccess
                cases hsuccess
              · rw [hafter, hstack, hsameTable hrows, hrows, ← h.agrees.driverDynamic]
  · have hfull : daclTableFill set.stack
        ⟨op.apply state.dynamic.rows, (op.apply state.dynamic.rows).length⟩ = none :=
      if_pos (Nat.not_lt.mp hroom)
    have hafter : state.meUpdate set = (.error, { state with
        dynamic := ⟨op.apply state.dynamic.rows, (op.apply state.dynamic.rows).length⟩ }) := by
      simp [meUpdate, dynamicUpdate, hdynamic, hop, hset, hfull]
    refine iff_of_false (fun hkept => hroom ?_) fun hmeets => hroom hmeets.1
    have hsame := hkept.refused (by simp [hafter])
    rw [hafter] at hsame
    have hrows : op.apply state.dynamic.rows = state.dynamic.rows :=
      congrArg (fun after : AclState => after.dynamic.rows) hsame
    rw [hrows]
    exact h.room

/-- A SET of the static table that applies. -/
theorem Sound.static_kept_iff (h : state.Sound) (hop : set.row.op = some op)
    (hstatic : set.isDynamic = false) (happlies : op.Applies set.memory state.static.rows) :
    AclKept state set (state.meUpdate set).2 ↔ state.OpMeets set op := by
  have hset := h.agrees.static.entrySet_of_applies happlies
  have hproper := h.agrees.static.apply op
  have hcalls := h.agrees.staticCalls op
  have hafter : state.meUpdate set = (if set.overflows then .error else .success, { state with
      static := ⟨op.apply state.static.rows, (op.apply state.static.rows).length⟩
      driver := state.driver.staticCalls state.static.rows (some op) }) := by
    simp [meUpdate, staticUpdate, hstatic, hop, hset]
  rw [OpMeets, if_neg (by simp [hstatic])]
  cases hover : set.overflows with
  | false =>
      rw [hover] at hafter
      simp only [Bool.false_eq_true, if_false, false_imp_iff, iff_true] at hafter ⊢
      refine ⟨fun _ => ?_, fun hne => absurd (by rw [hafter]) hne⟩
      rw [hafter]
      refine ⟨h.agrees.dynamic, hproper, ?_, hcalls⟩
      rw [staticCalls_dynamic]
      exact h.agrees.driverDynamic
  | true =>
      rw [hover] at hafter
      simp only [if_true, forall_const] at hafter ⊢
      constructor
      · intro hkept
        have hsame := hkept.refused (by simp [hafter])
        rw [hafter] at hsame
        exact congrArg (fun after : AclState => after.static.rows) hsame
      · intro hrows
        refine ⟨fun hsuccess => ?_, fun _ => ?_⟩
        · rw [hafter] at hsuccess
          cases hsuccess
        · have hdriver : state.driver.staticCalls state.static.rows (some op) = state.driver := by
            rw [AclDriver.mk.injEq, staticCalls_dynamic, hcalls, hrows, h.agrees.driverStatic]
            exact ⟨rfl, rfl⟩
          rw [hafter, hdriver, hrows, ← h.agrees.static.count]

/-- A SET that does not apply keeps to it, unless it lacks the memory for a new static row. -/
theorem Sound.refused_kept_iff (h : state.Sound) (hop : set.row.op = some op)
    (hnot : ¬ op.Applies set.memory
      (if set.isDynamic then state.dynamic.rows else state.static.rows)) :
    AclKept state set (state.meUpdate set).2 ↔ set.isDynamic = true ∨ ∀ row, op ≠ .write row := by
  cases hdynamic : set.isDynamic with
  | true =>
      rw [hdynamic, if_pos rfl] at hnot
      obtain ⟨err, herr, hset⟩ := AclTable.entrySet_of_not_applies hnot
      have hafter : state.meUpdate set = (err, state) := by
        cases err with
        | success => exact absurd rfl herr
        | _ => simp [meUpdate, dynamicUpdate, hdynamic, hop, hset]
      refine iff_of_true ⟨fun hsuccess => ?_, fun _ => ?_⟩ (.inl rfl)
      · rw [hafter] at hsuccess
        exact absurd hsuccess herr
      · rw [hafter]
  | false =>
      rw [hdynamic, if_neg Bool.false_ne_true] at hnot
      obtain ⟨err, herr, hset⟩ := AclTable.entrySet_of_not_applies hnot
      have hafter : state.meUpdate set = (err, { state with
          driver := state.driver.staticCalls state.static.rows (some op) }) := by
        cases err with
        | success => exact absurd rfl herr
        | _ => simp [meUpdate, staticUpdate, hdynamic, hop, hset]
      have hcalls := h.agrees.staticCalls op
      simp only [Bool.false_eq_true, false_or]
      constructor
      · rintro hkept row rfl
        have hsame := hkept.refused (by simpa [hafter] using herr)
        rw [hafter] at hsame
        have hlength := congrArg (fun after : AclState => after.driver.static.length) hsame
        have hany : ¬ state.static.rows.any (·.index = row.index) = true := by
          simpa [List.any_eq_true] using (not_or.mp hnot).1
        dsimp only at hlength
        rw [hcalls, h.agrees.driverStatic, List.length_map, List.length_map] at hlength
        simp only [AclOp.apply, length_rowWrite, if_neg hany] at hlength
        omega
      · intro hother
        have hrows : op.apply state.static.rows = state.static.rows := by
          cases op with
          | clear => exact absurd trivial hnot
          | delete index =>
              refine rowDelete_of_not_mem fun row hrow hindex => hnot ⟨row, hrow, hindex⟩
          | write row => exact absurd rfl (hother row)
        have hdriver : state.driver.staticCalls state.static.rows (some op) = state.driver := by
          rw [AclDriver.mk.injEq, staticCalls_dynamic, hcalls, hrows, h.agrees.driverStatic]
          exact ⟨rfl, rfl⟩
        rw [hdriver] at hafter
        refine ⟨fun hsuccess => ?_, fun _ => ?_⟩
        · rw [hafter] at hsuccess
          exact absurd hsuccess herr
        · rw [hafter]

/-- A SET keeps to it exactly under its condition. -/
theorem Sound.kept_iff (h : state.Sound) :
    AclKept state set (state.meUpdate set).2 ↔ state.SetMeets set := by
  cases hop : set.row.op with
  | none =>
      have hafter : state.meUpdate set = (.invalidVal, state) := by
        cases hdynamic : set.isDynamic <;>
          simp [meUpdate, dynamicUpdate, staticUpdate, AclTable.entrySet, AclDriver.staticCalls,
            hdynamic, hop]
      refine iff_of_true ⟨fun hsuccess => ?_, fun _ => ?_⟩ fun op hsome => ?_
      · rw [hafter] at hsuccess
        cases hsuccess
      · rw [hafter]
      · cases hop.symm.trans hsome
  | some op =>
      have hmeets : state.SetMeets set ↔
          if op.Applies set.memory
              (if set.isDynamic then state.dynamic.rows else state.static.rows) then
            state.OpMeets set op
          else set.isDynamic = true ∨ ∀ row, op ≠ .write row := by
        simp [SetMeets, hop]
      rw [hmeets]
      by_cases happlies : op.Applies set.memory
          (if set.isDynamic then state.dynamic.rows else state.static.rows)
      · rw [if_pos happlies]
        cases hdynamic : set.isDynamic with
        | true =>
            rw [hdynamic, if_pos rfl] at happlies
            exact h.dynamic_kept_iff hop hdynamic happlies
        | false =>
            rw [hdynamic, if_neg Bool.false_ne_true] at happlies
            exact h.static_kept_iff hop hdynamic happlies
      · rw [if_neg happlies]
        exact h.refused_kept_iff hop happlies

/-- There is room in the array after a success. -/
theorem room_meUpdate (hroom : state.dynamic.rows.length < omciApiMaxAclEntries)
    (hsuccess : (state.meUpdate set).1 = .success) (hagrees : (state.meUpdate set).2.Agrees) :
    (state.meUpdate set).2.dynamic.rows.length < omciApiMaxAclEntries := by
  rw [← hagrees.dynamic.count]
  cases hdynamic : set.isDynamic with
  | false =>
      have hsame : (state.meUpdate set).2.dynamic = state.dynamic := by
        simp only [meUpdate, hdynamic, Bool.false_eq_true, if_false]
        split
        · rename_i updated hupdated
          exact congrArg (fun done : OmciError × AclState => done.2.dynamic) hupdated.symm
        · rfl
      rw [hagrees.dynamic.count, hsame]
      exact hroom
  | true =>
      simp only [meUpdate, hdynamic, if_true] at hsuccess ⊢
      cases hupdate : state.dynamicUpdate set with
      | mk err updated =>
          rw [hupdate] at hsuccess
          cases err with
          | success =>
              unfold dynamicUpdate at hupdate
              split at hupdate
              · rename_i table hset
                cases hfill : daclTableFill set.stack table with
                | none => simp [hfill] at hupdate
                | some acl =>
                    simp only [hfill] at hupdate
                    split at hupdate
                    · obtain rfl := congrArg Prod.snd hupdate
                      exact Nat.not_le.mp fun hfull => by simp [daclTableFill, hfull] at hfill
                    · cases congrArg Prod.fst hupdate
              · rename_i err' table hne hset
                exact absurd (congrArg Prod.fst hupdate) hne
          | _ => cases hsuccess

end AclState

/-- In every sequence of SETs the driver has the rows of the tables after each success, the
tables have a row for each index, counted and read out once, and a SET that is refused changes
nothing, if and only if every SET meets `AclState.SetMeets`. -/
theorem aclTables_kept_iff (sets : List AclSet) :
    Along aclStep AclKept aclInit sets ↔
      Along aclStep (fun before set _ => before.SetMeets set) aclInit sets := by
  have hproper : (⟨[], 0⟩ : AclTable).Proper := AclTable.proper_of_nodup List.nodup_nil
  have hstart : aclInit.Sound := ⟨⟨hproper, hproper, rfl, rfl⟩, by decide⟩
  refine along_iff_guard ?_ hstart sets
  intro before set after hbefore hstep
  obtain rfl := Option.some.inj hstep
  refine ⟨hbefore.kept_iff, fun hmeets => ?_⟩
  have hkept := hbefore.kept_iff.mpr hmeets
  by_cases hsuccess : (before.meUpdate set).1 = .success
  · have hagrees := hkept.success hsuccess
    exact ⟨hagrees, AclState.room_meUpdate hbefore.room hsuccess hagrees⟩
  · rw [hkept.refused hsuccess]
    exact hbefore

def sampleAclRow : AclRow := ⟨0x4001, ⟨100, 10, 0, 0xE8010101, 0xE8010101, 1000⟩, 0⟩

def sampleAclSet : AclSet := ⟨true, sampleAclRow, true, true, fun _ => 0, false, 0⟩

/-- The bandwidth of a row does not get to the driver. -/
theorem aclTables_not_kept : (¬ ∀ sets, Along aclStep AclKept aclInit sets) ∧
    (aclInit.meUpdate sampleAclSet).1 = .success ∧
      (aclInit.meUpdate sampleAclSet).2.driver.dynamic.map AclEntry.groupBandwidth = [0] ∧
      (aclInit.meUpdate sampleAclSet).2.dynamic.rows.map (·.entry.groupBandwidth) = [1000] := by
  refine ⟨fun hall => ?_, by decide +kernel, by decide +kernel, by decide +kernel⟩
  have hkept := (hall [sampleAclSet]).1
  have hrows := (hkept.success (by decide +kernel)).driverDynamic
  revert hrows
  decide +kernel

end FalconGpon.Omci
