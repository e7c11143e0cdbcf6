/-
# Tables written row by row

The multicast address table of a Multicast GEM Interworking TP, the table of a Network Dial Plan
Table and the MAC filter table of a bridge port are lists of rows with a count, and a SET writes
or deletes a row. The three order their checks, the calls of the driver and the work on the
list in their own ways. The dial plan table adds a row without a look at the ones it has, and
the MAC filter table changes the list before the driver has agreed; `keyedTables_iff` says which
sequences of SETs do not notice.
-/

import FalconGpon.Lib.KeyedTable
import FalconGpon.Omci.Message

namespace FalconGpon.Omci

open FalconGpon.Lib

/-- The copy of a table, which is the same in all three: the number of rows that memory is asked
for, and the rows that are copied. Rows are in the byte order of the host. -/
def rowsTblCopy {α : Type} (table : CountedRows α) : Nat × List α :=
  (table.count, if table.count = 0 then [] else table.rows)

/-- SETs of a table; one is accepted if the code returns success. -/
def tableWriter {α κ R : Type} (key : α → κ) (op : R → RowOp α κ)
    (entrySet : CountedRows α → R → OmciError × CountedRows α) : RowWriter R α κ where
  key := key
  op := op
  set table req := ((entrySet table req).1 = .success, (entrySet table req).2)
  copy := rowsTblCopy

/-! ## Multicast addresses -/

/-- `struct omci_me_mc_address_table`. -/
structure McAddressRow where
  gemPortId : BitVec 16
  secondaryIndex : BitVec 16
  ipMcAddressRangeStart : BitVec 32
  ipMcAddressRangeStop : BitVec 32
deriving DecidableEq

def McAddressRow.key (row : McAddressRow) : BitVec 16 × BitVec 16 :=
  (row.gemPortId, row.secondaryIndex)

/-- A SET of the table; `driver` says whether the call of the API succeeds, and `memory` whether
there is memory for a new row. -/
structure McAddressSet where
  entry : McAddressRow
  driver : Bool
  memory : Bool
deriving DecidableEq

/-- `mc_addr_table_entry_set`. -/
def mcAddrTableEntrySet (table : CountedRows McAddressRow) (req : McAddressSet) :
    OmciError × CountedRows McAddressRow :=
  let entry := req.entry
  if entry.ipMcAddressRangeStart = 0 ∧ entry.ipMcAddressRangeStop = 0 then
    if !req.driver then (.drv, table)
    else if table.rows.any (·.key = entry.key) then
      let kept := dropRows McAddressRow.key entry.key table.rows
      (.success, ⟨kept, table.count - (table.rows.length - kept.length)⟩)
    else (.invalidVal, table)
  else if !req.driver then (.drv, table)
  else if table.rows.any (·.key = entry.key) then
    (.success, ⟨table.rows.map fun old => if old.key = entry.key then entry else old, table.count⟩)
  else if !req.memory then (.memory, table)
  else (.success, ⟨table.rows ++ [entry], table.count + 1⟩)

/-- A range from 0 to 0 asks for a deletion. -/
def McAddressSet.op (req : McAddressSet) : RowOp McAddressRow (BitVec 16 × BitVec 16) :=
  if req.entry.ipMcAddressRangeStart = 0 ∧ req.entry.ipMcAddressRangeStop = 0 then
    .delete req.entry.key
  else .write req.entry

def mcAddrTable : RowWriter McAddressSet McAddressRow (BitVec 16 × BitVec 16) :=
  tableWriter McAddressRow.key McAddressSet.op mcAddrTableEntrySet

/-! ## Dial plans -/

/-- `struct omci_dial_plan_table`. -/
structure DialPlanRow where
  dialPlanId : BitVec 8
  action : BitVec 8
  dialPlanToken : BitVec (28 * 8)
deriving DecidableEq

/-- `OMCI_NETWORK_DIAL_PLAN_TABLE_MAX_SIZE`. -/
def omciNetworkDialPlanTableMaxSize : Nat := 100

/-- A SET of the table. -/
structure DialPlanSet where
  entry : DialPlanRow
  memory : Bool
deriving DecidableEq

/-- `network_dial_plan_table_entry_set`; a deletion stops at the first row it finds. -/
def networkDialPlanTableEntrySet (table : CountedRows DialPlanRow) (req : DialPlanSet) :
    OmciError × CountedRows DialPlanRow :=
  let entry := req.entry
  if entry.action = 0 then
    if table.rows.any (·.dialPlanId = entry.dialPlanId) then
      (.success, ⟨table.rows.eraseP (·.dialPlanId = entry.dialPlanId), table.count - 1⟩)
    else (.invalidVal, table)
  else if entry.action = 1 then
    if omciNetworkDialPlanTableMaxSize ≤ table.count then (.invalidVal, table)
    else if !req.memory then (.memory, table)
    else (.success, ⟨table.rows ++ [entry], table.count + 1⟩)
  else (.invalidVal, table)

/-- The operation by the action. -/
def DialPlanSet.op (req : DialPlanSet) : RowOp DialPlanRow (BitVec 8) :=
  if req.entry.action = 0 then .delete req.entry.dialPlanId
  else if req.entry.action = 1 then .write req.entry
  else .nothing

def networkDialPlanTable : RowWriter DialPlanSet DialPlanRow (BitVec 8) :=
  tableWriter DialPlanRow.dialPlanId DialPlanSet.op networkDialPlanTableEntrySet

def DialPlanSet.Meets (table : CountedRows DialPlanRow) (req : DialPlanSet) : Prop :=
  req.entry.action = 1 → req.memory = true → table.rows.length < omciNetworkDialPlanTableMaxSize →
    ∀ row ∈ table.rows, row.dialPlanId ≠ req.entry.dialPlanId

/-! ## MAC filters -/

/-- `struct omci_mac_filter_table`. -/
structure MacFilterRow where
  index : BitVec 8
  filterByte : BitVec 8
  macAddress : BitVec 48
deriving DecidableEq

def MacFilterRow.isSet (row : MacFilterRow) : Bool := row.filterByte.getLsbD 7

/-- Without `isSet`, all rows are deleted; with it, nothing is done. -/
def MacFilterRow.isClear (row : MacFilterRow) : Bool := row.filterByte.getLsbD 6

/-- A SET of the table. `bridge` says whether the bridge of the port is found; `driver` whether
the API accepts the call that comes after a number of calls, with the index it is given. -/
structure MacFilterSet where
  entry : MacFilterRow
  bridge : Bool
  memory : Bool
  driver : Nat → BitVec 8 → Bool

namespace MacFilterSet

variable (req : MacFilterSet)

/-- The loop of `mac_filter_table_entry_set` over the rows: whether one is found, or nothing if a
call fails, and the rows that stay. -/
def entriesDelete : List MacFilterRow → Nat → BitVec 8 → Bool → Option Bool × List MacFilterRow
  | [], _, _, found => (some found, [])
  | row :: rest, calls, idx, found =>
      if row.index = req.entry.index ∨ req.entry.isClear then
        let idx := if req.entry.isClear then idx else row.index
        if req.driver calls idx then entriesDelete rest (calls + 1) (idx + 1) true
        else (none, row :: rest)
      else
        let done := entriesDelete rest calls idx found
        (done.1, row :: done.2)

/-- `mac_filter_table_entry_set`. -/
def tableEntrySet (table : CountedRows MacFilterRow) : OmciError × CountedRows MacFilterRow :=
  if !req.bridge then (.meNotFound, table)
  else if req.entry.isSet && req.entry.isClear then (.success, table)
  else if req.entry.isSet then
    if !table.rows.any (·.index = req.entry.index) && !req.memory then (.memory, table)
    else
      let written : CountedRows MacFilterRow :=
        if table.rows.any (·.index = req.entry.index) then
          ⟨table.rows.map fun old => if old.index = req.entry.index then req.entry else old,
            table.count⟩
        else ⟨table.rows ++ [req.entry], table.count + 1⟩
      (if req.driver 0 req.entry.index then .success else .drv, written)
  else
    match req.entriesDelete table.rows 0 0 false with
    | (found, kept) =>
        (match found with
          | none => .drv
          | some true => .success
          | some false => .invalidVal,
          ⟨kept, table.count - (table.rows.length - kept.length)⟩)

/-- The operation by the upper bits of the filter byte. -/
def op : RowOp MacFilterRow (BitVec 8) :=
  if req.entry.isSet && req.entry.isClear then .nothing
  else if req.entry.isSet then .write req.entry
  else if req.entry.isClear then .clear
  else .delete req.entry.index

/-- The condition on a SET: where the API refuses a row, there is no memory for it or it is the
one that is there already; and the API refuses the first deletion of a clear, or none. -/
def Meets (table : CountedRows MacFilterRow) : Prop :=
  req.bridge = true →
    (req.entry.isSet = true → req.entry.isClear = false → req.driver 0 req.entry.index = false →
      (req.memory = false ∧ ∀ row ∈ table.rows, row.index ≠ req.entry.index) ∨
        req.entry ∈ table.rows) ∧
    (req.entry.isSet = false → req.entry.isClear = true → req.driver 0 0 = true →
      ∀ calls < table.rows.length, req.driver calls (BitVec.ofNat 8 calls) = true)

end MacFilterSet

def macFilterTable : RowWriter MacFilterSet MacFilterRow (BitVec 8) :=
  tableWriter MacFilterRow.index MacFilterSet.op fun table req => req.tableEntrySet table

/-! ## What a SET leaves -/

section Writer

variable {α κ R : Type} [DecidableEq κ] {key : α → κ} {op : R → RowOp α κ}
  {entrySet : CountedRows α → R → OmciError × CountedRows α} {table : CountedRows α} {req : R}

omit [DecidableEq κ] in
theorem tableWriter_proper {rows : List α} (hnodup : (rows.map key).Nodup) :
    (tableWriter key op entrySet).Proper ⟨rows, rows.length⟩ := by
  have hcopied : rowsTblCopy ⟨rows, rows.length⟩ = (rows.length, rows) := by
    cases rows <;> rfl
  exact { nodup := hnodup, count := rfl, copied := hcopied }

theorem kept_of_refused (h : (tableWriter key op entrySet).Proper table) {e : OmciError}
    (hne : e ≠ .success) (hcode : entrySet table req = (e, table)) :
    (tableWriter key op entrySet).Kept table req (entrySet table req).2 := by
  have hrefused : ((tableWriter key op entrySet).set table req).1 = false := by
    show decide ((entrySet table req).1 = .success) = false
    rw [hcode]
    exact decide_eq_false hne
  rw [hcode]
  exact
    { proper := h
      accepted := fun haccepted => absurd (hrefused.symm.trans haccepted) Bool.false_ne_true
      refused := fun _ => rfl }

theorem kept_of_accepted {rows : List α} (hnodup : (rows.map key).Nodup)
    (hcode : entrySet table req = (.success, ⟨rows, rows.length⟩))
    (hrows : (findKey key · rows) = (op req).apply key (findKey key · table.rows)) :
    (tableWriter key op entrySet).Kept table req (entrySet table req).2 := by
  have haccepted : ((tableWriter key op entrySet).set table req).1 = true := by
    show decide ((entrySet table req).1 = .success) = true
    rw [hcode]
    rfl
  rw [hcode]
  exact
    { proper := tableWriter_proper hnodup
      accepted := fun _ => hrows
      refused := fun hrefused => absurd (hrefused.symm.trans haccepted) Bool.false_ne_true }

end Writer

/-- A SET of the multicast address table keeps to everything. -/
theorem mcAddrTable_kept {table : CountedRows McAddressRow} (req : McAddressSet)
    (h : mcAddrTable.Proper table) :
    mcAddrTable.Kept table req (mcAddrTableEntrySet table req).2 := by
  have hcount : table.count = table.rows.length := h.count
  by_cases hdelete : req.entry.ipMcAddressRangeStart = 0 ∧ req.entry.ipMcAddressRangeStop = 0
  · by_cases hdriver : (!req.driver) = true
    · apply kept_of_refused h (e := .drv) (by decide)
      rw [mcAddrTableEntrySet, if_pos hdelete, if_pos hdriver]
    by_cases hany : table.rows.any (·.key = req.entry.key) = true
    · have hle : (dropRows McAddressRow.key req.entry.key table.rows).length ≤ table.rows.length :=
        List.length_filter_le _ _
      have hlength : table.count -
          (table.rows.length - (dropRows McAddressRow.key req.entry.key table.rows).length) =
            (dropRows McAddressRow.key req.entry.key table.rows).length := by
        rw [hcount, Nat.sub_sub_self hle]
      apply kept_of_accepted (nodup_dropRows h.nodup req.entry.key)
      · rw [mcAddrTableEntrySet, if_pos hdelete, if_neg hdriver, if_pos hany]
        exact congrArg (fun n => (OmciError.success, (⟨_, n⟩ : CountedRows McAddressRow))) hlength
      · rw [show McAddressSet.op req = .delete req.entry.key from if_pos hdelete]
        exact mcAddrTable.lookup_dropRows req.entry.key table.rows
    · apply kept_of_refused h (e := .invalidVal) (by decide)
      rw [mcAddrTableEntrySet, if_pos hdelete, if_neg hdriver, if_neg hany]
  · have hop : McAddressSet.op req = .write req.entry := if_neg hdelete
    by_cases hdriver : (!req.driver) = true
    · apply kept_of_refused h (e := .drv) (by decide)
      rw [mcAddrTableEntrySet, if_neg hdelete, if_pos hdriver]
    by_cases hnew : table.rows.any (·.key = req.entry.key) = false ∧ (!req.memory) = true
    · apply kept_of_refused h (e := .memory) (by decide)
      rw [mcAddrTableEntrySet, if_neg hdelete, if_neg hdriver, if_neg (by simp [hnew.1]),
        if_pos hnew.2]
    · apply kept_of_accepted (nodup_putRow h.nodup req.entry)
      · rw [mcAddrTableEntrySet, if_neg hdelete, if_neg hdriver, hcount]
        by_cases hany : table.rows.any (·.key = req.entry.key) = true
        · rw [if_pos hany]
          exact congrArg (Prod.mk _) (CountedRows.putRow_of_any hany).symm
        · have hmemory : ¬(!req.memory) = true := fun hno => hnew ⟨by simpa using hany, hno⟩
          rw [if_neg hany, if_neg hmemory]
          exact congrArg (Prod.mk _) (CountedRows.putRow_of_not_any hany).symm
      · rw [hop]
        exact mcAddrTable.lookup_putRow req.entry table.rows

/-- A SET of the dial plan table keeps to everything unless it adds a plan for the second time. -/
theorem networkDialPlanTable_kept_iff {table : CountedRows DialPlanRow} (req : DialPlanSet)
    (h : networkDialPlanTable.Proper table) :
    networkDialPlanTable.Kept table req (networkDialPlanTableEntrySet table req).2 ↔
      req.Meets table := by
  have hcount : table.count = table.rows.length := h.count
  by_cases hdelete : req.entry.action = 0
  · apply iff_of_true
    · by_cases hany : table.rows.any (·.dialPlanId = req.entry.dialPlanId) = true
      · have hrows := eraseP_eq_dropRows h.nodup req.entry.dialPlanId
        have hlength : table.count - 1 =
            (table.rows.eraseP (·.dialPlanId = req.entry.dialPlanId)).length := by
          rw [hcount]
          exact (length_eraseP_key (any_key_iff.mp hany)).symm
        apply kept_of_accepted (nodup_dropRows h.nodup req.entry.dialPlanId)
        · rw [networkDialPlanTableEntrySet, if_pos hdelete, if_pos hany, hlength]
          exact congrArg (fun rows => (OmciError.success,
            (⟨rows, rows.length⟩ : CountedRows DialPlanRow))) hrows
        · rw [show DialPlanSet.op req = .delete req.entry.dialPlanId from if_pos hdelete]
          exact networkDialPlanTable.lookup_dropRows req.entry.dialPlanId table.rows
      · apply kept_of_refused h (e := .invalidVal) (by decide)
        rw [networkDialPlanTableEntrySet, if_pos hdelete, if_neg hany]
    · intro hadd
      exact absurd (hdelete.symm.trans hadd) (by decide)
  by_cases hadd : req.entry.action = 1
  · by_cases hfull : omciNetworkDialPlanTableMaxSize ≤ table.count
    · apply iff_of_true
      · apply kept_of_refused h (e := .invalidVal) (by decide)
        rw [networkDialPlanTableEntrySet, if_neg hdelete, if_pos hadd, if_pos hfull]
      · intro _ _ hroom
        exact absurd (hcount ▸ hfull) (Nat.not_le.mpr hroom)
    by_cases hmemory : (!req.memory) = true
    · apply iff_of_true
      · apply kept_of_refused h (e := .memory) (by decide)
        rw [networkDialPlanTableEntrySet, if_neg hdelete, if_pos hadd, if_neg hfull,
          if_pos hmemory]
      · intro _ hsome
        simp [hsome] at hmemory
    have hcode : networkDialPlanTableEntrySet table req =
        (.success, ⟨table.rows ++ [req.entry], table.rows.length + 1⟩) := by
      rw [networkDialPlanTableEntrySet, if_neg hdelete, if_pos hadd, if_neg hfull,
        if_neg hmemory, hcount]
    by_cases hany : table.rows.any (·.dialPlanId = req.entry.dialPlanId) = true
    · have ⟨old, hold, hsame⟩ := any_key_iff.mp hany
      apply iff_of_false
      · -- the plan has two rows now
        intro hkept
        have hnodup : ((table.rows ++ [req.entry]).map DialPlanRow.dialPlanId).Nodup := by
          have hnow := hkept.proper.nodup
          rw [hcode] at hnow
          exact hnow
        rw [List.map_append, List.map_singleton, ← hsame, List.nodup_append] at hnodup
        exact hnodup.2.2 _ (List.mem_map_of_mem hold) _ List.mem_cons_self rfl
      · intro hmeets
        exact hmeets hadd (by simpa using hmemory) (hcount ▸ Nat.not_le.mp hfull) old hold hsame
    · apply iff_of_true
      · apply kept_of_accepted (nodup_putRow h.nodup req.entry)
        · rw [hcode]
          exact congrArg (Prod.mk _) (CountedRows.putRow_of_not_any hany).symm
        · have hop : DialPlanSet.op req = .write req.entry := by
            rw [DialPlanSet.op, if_neg hdelete, if_pos hadd]
          rw [hop]
          exact networkDialPlanTable.lookup_putRow req.entry table.rows
      · intro _ _ _ old hold hsame
        exact hany (any_key_iff.mpr ⟨old, hold, hsame⟩)
  · apply iff_of_true
    · apply kept_of_refused h (e := .invalidVal) (by decide)
      rw [networkDialPlanTableEntrySet, if_neg hdelete, if_neg hadd]
    · intro hyes
      exact absurd hyes hadd

/-! ## MAC filters -/

namespace MacFilterSet

variable {req : MacFilterSet} {rows : List MacFilterRow}

/-- The deletion of one row, where no index comes twice. -/
theorem entriesDelete_of_not_clear (hclear : req.entry.isClear = false)
    (hnodup : (rows.map MacFilterRow.index).Nodup) (calls : Nat) (idx : BitVec 8) (found : Bool) :
    req.entriesDelete rows calls idx found =
      if rows.any (·.index = req.entry.index) then
        if req.driver calls req.entry.index then
          (some true, dropRows MacFilterRow.index req.entry.index rows)
        else (none, rows)
      else (some found, rows) := by
  induction rows generalizing calls idx found with
  | nil => rfl
  | cons row rest ih =>
      have ⟨hrow, hrest⟩ := List.nodup_cons.mp hnodup
      rw [entriesDelete]
      by_cases hsame : row.index = req.entry.index
      · have hnone : ∀ old ∈ rest, old.index ≠ req.entry.index := by
          intro old hold heq
          exact hrow (hsame.trans heq.symm ▸ List.mem_map_of_mem hold)
        have hany : ¬rest.any (·.index = req.entry.index) = true := by
          intro hyes
          have ⟨old, hold, heq⟩ := any_key_iff.mp hyes
          exact hnone old hold heq
        have hdrop : dropRows MacFilterRow.index req.entry.index (row :: rest) = rest := by
          rw [dropRows, List.filter_cons_of_neg (by simpa using hsame)]
          exact List.filter_eq_self.mpr fun old hold => decide_eq_true (hnone old hold)
        have hfound : (row :: rest).any (·.index = req.entry.index) = true :=
          any_key_iff.mpr ⟨row, List.mem_cons_self, hsame⟩
        rw [if_pos (Or.inl hsame), if_pos hfound, hdrop]
        simp only [hclear, Bool.false_eq_true, if_false]
        rw [hsame, ih hrest, if_neg hany]
      · have hstay : ¬(row.index = req.entry.index ∨ req.entry.isClear = true) := by
          simp [hsame, hclear]
        have hany : (row :: rest).any (·.index = req.entry.index) =
            rest.any (·.index = req.entry.index) := by
          simp [hsame]
        have hdrop : dropRows MacFilterRow.index req.entry.index (row :: rest) =
            row :: dropRows MacFilterRow.index req.entry.index rest :=
          List.filter_cons_of_pos (by simpa using hsame)
        rw [if_neg hstay, ih hrest, hany, hdrop]
        by_cases hsome : rest.any (·.index = req.entry.index) = true
        · rw [if_pos hsome, if_pos hsome]
          by_cases hdriver : req.driver calls req.entry.index = true
          · rw [if_pos hdriver, if_pos hdriver]
          · rw [if_neg hdriver, if_neg hdriver]
        · rw [if_neg hsome, if_neg hsome]

theorem driver_later (req : MacFilterSet) (calls i : Nat) (idx : BitVec 8) :
    req.driver (calls + 1 + i) (idx + 1 + BitVec.ofNat 8 i) =
      req.driver (calls + (i + 1)) (idx + BitVec.ofNat 8 (i + 1)) := by
  have hidx : (1 : BitVec 8) + BitVec.ofNat 8 i = BitVec.ofNat 8 (i + 1) := by
    rw [BitVec.add_comm, BitVec.ofNat_add]
    rfl
  rw [Nat.add_right_comm, Nat.add_assoc, BitVec.add_assoc, hidx]

/-- A clear whose calls all succeed. -/
theorem entriesDelete_clear_of_granted (hclear : req.entry.isClear = true) {calls : Nat}
    {idx : BitVec 8}
    (hall : ∀ i < rows.length, req.driver (calls + i) (idx + BitVec.ofNat 8 i) = true)
    (found : Bool) :
    req.entriesDelete rows calls idx found = (some (found || !rows.isEmpty), []) := by
  induction rows generalizing calls idx found with
  | nil => simp [entriesDelete]
  | cons row rest ih =>
      have hfirst : req.driver calls idx = true := by
        simpa using hall 0 (Nat.zero_lt_succ _)
      have hmore : ∀ i < rest.length,
          req.driver (calls + 1 + i) (idx + 1 + BitVec.ofNat 8 i) = true := by
        intro i hi
        rw [driver_later]
        exact hall (i + 1) (Nat.succ_lt_succ hi)
      rw [entriesDelete, if_pos (Or.inr hclear)]
      simp only [hclear, if_true, hfirst]
      rw [ih hmore]
      simp

/-- A clear with a call that fails: rows are lost if the first one succeeds. -/
theorem entriesDelete_clear_of_refused (hclear : req.entry.isClear = true) {calls : Nat}
    {idx : BitVec 8} (found : Bool)
    (hsome : ∃ i < rows.length, req.driver (calls + i) (idx + BitVec.ofNat 8 i) = false) :
    ∃ kept, req.entriesDelete rows calls idx found = (none, kept) ∧
      kept.length ≤ rows.length ∧ (req.driver calls idx = false → kept = rows) ∧
        (req.driver calls idx = true → kept.length < rows.length) := by
  induction rows generalizing calls idx found with
  | nil =>
      have ⟨i, hi, _⟩ := hsome
      exact absurd hi (Nat.not_lt_zero i)
  | cons row rest ih =>
      rw [entriesDelete, if_pos (Or.inr hclear)]
      simp only [hclear, if_true]
      cases hfirst : req.driver calls idx with
      | false => exact ⟨row :: rest, rfl, le_rfl, fun _ => rfl, nofun⟩
      | true =>
          have hlater : ∃ i < rest.length,
              req.driver (calls + 1 + i) (idx + 1 + BitVec.ofNat 8 i) = false := by
            have ⟨i, hi, hfail⟩ := hsome
            cases i with
            | zero => simp [hfirst] at hfail
            | succ i =>
                exact ⟨i, Nat.lt_of_succ_lt_succ hi, (driver_later req calls i idx).trans hfail⟩
          have ⟨kept, hrun, hle, _, _⟩ := ih true hlater
          exact ⟨kept, hrun, hle.trans (Nat.le_succ _), nofun,
            fun _ => Nat.lt_succ_of_le hle⟩

end MacFilterSet

/-- A SET that writes a row. -/
theorem macFilterTable_write_iff {table : CountedRows MacFilterRow} (req : MacFilterSet)
    (h : macFilterTable.Proper table) (hbridge : req.bridge = true)
    (hset : req.entry.isSet = true) (hclear : req.entry.isClear = false) :
    macFilterTable.Kept table req (req.tableEntrySet table).2 ↔ req.Meets table := by
  have hcount : table.count = table.rows.length := h.count
  have hnodup : (table.rows.map MacFilterRow.index).Nodup := h.nodup
  have hmeets : req.Meets table ↔ (req.driver 0 req.entry.index = false →
      (req.memory = false ∧ ∀ row ∈ table.rows, row.index ≠ req.entry.index) ∨
        req.entry ∈ table.rows) := by
    rw [MacFilterSet.Meets, hset, hclear]
    simp [hbridge]
  rw [hmeets]
  by_cases hnew : (!table.rows.any (·.index = req.entry.index) && !req.memory) = true
  · apply iff_of_true
    · apply kept_of_refused h (e := .memory) (by decide)
      rw [MacFilterSet.tableEntrySet, hset, hclear, hbridge]
      exact if_pos hnew
    · intro _
      simpa using .inl (And.symm (by simpa using hnew))
  have hcode : req.tableEntrySet table =
      (if req.driver 0 req.entry.index then .success else .drv,
        ⟨putRow MacFilterRow.index req.entry table.rows,
          (putRow MacFilterRow.index req.entry table.rows).length⟩) := by
    rw [MacFilterSet.tableEntrySet, hset, hclear, hbridge, hcount]
    refine (if_neg hnew).trans (congrArg (Prod.mk _) ?_)
    by_cases hany : table.rows.any (·.index = req.entry.index) = true
    · exact (if_pos hany).trans (CountedRows.putRow_of_any hany).symm
    · exact (if_neg hany).trans (CountedRows.putRow_of_not_any hany).symm
  cases hdriver : req.driver 0 req.entry.index with
  | true =>
      apply iff_of_true
      · apply kept_of_accepted (nodup_putRow hnodup req.entry)
        · rw [hcode, hdriver]
          rfl
        · rw [MacFilterSet.op, hset, hclear]
          exact macFilterTable.lookup_putRow req.entry table.rows
      · exact nofun
  | false =>
      rw [hdriver] at hcode
      constructor
      · intro hkept _
        have hsame : (req.tableEntrySet table).2 = table := hkept.refused (by
          show decide ((req.tableEntrySet table).1 = .success) = false
          rw [hcode]
          rfl)
        rw [hcode] at hsame
        have hrows : putRow MacFilterRow.index req.entry table.rows = table.rows :=
          congrArg CountedRows.rows hsame
        apply Or.inr
        apply mem_findKey (k := req.entry.index)
        rw [← hrows, findKey_putRow, if_pos rfl]
      · intro hcondition
        have hmem : req.entry ∈ table.rows := by
          apply (hcondition rfl).resolve_left
          intro hno
          apply hnew
          have hany : ¬table.rows.any (·.index = req.entry.index) = true := fun hyes =>
            have ⟨old, hold, heq⟩ := any_key_iff.mp hyes
            hno.2 old hold heq
          simp [hno.1, hany]
        have hrows := putRow_of_mem hnodup hmem
        apply kept_of_refused h (e := .drv) (by decide)
        rw [hcode, hrows, ← hcount]
        rfl

/-- A SET that deletes a row, or all of them. -/
theorem macFilterTable_delete_iff {table : CountedRows MacFilterRow} (req : MacFilterSet)
    (h : macFilterTable.Proper table) (hbridge : req.bridge = true)
    (hset : req.entry.isSet = false) :
    macFilterTable.Kept table req (req.tableEntrySet table).2 ↔ req.Meets table := by
  have hcount : table.count = table.rows.length := h.count
  have hnodup : (table.rows.map MacFilterRow.index).Nodup := h.nodup
  have htable : table = ⟨table.rows, table.rows.length⟩ := by rw [← hcount]
  have hcode : req.tableEntrySet table =
      (match (req.entriesDelete table.rows 0 0 false).1 with
        | none => .drv
        | some true => .success
        | some false => .invalidVal,
        ⟨(req.entriesDelete table.rows 0 0 false).2, table.count - (table.rows.length -
          (req.entriesDelete table.rows 0 0 false).2.length)⟩) := by
    rw [MacFilterSet.tableEntrySet, hset, hbridge]
    rfl
  have hstays : (⟨table.rows, table.count - (table.rows.length - table.rows.length)⟩ :
      CountedRows MacFilterRow) = table := by
    rw [Nat.sub_self, Nat.sub_zero]
  cases hclear : req.entry.isClear with
  | false =>
      apply iff_of_true
      · have hdelete := MacFilterSet.entriesDelete_of_not_clear hclear hnodup 0 0 false
        by_cases hany : table.rows.any (·.index = req.entry.index) = true
        · rw [if_pos hany] at hdelete
          by_cases hdriver : req.driver 0 req.entry.index = true
          · have hle : (dropRows MacFilterRow.index req.entry.index table.rows).length ≤
                table.rows.length := List.length_filter_le _ _
            rw [if_pos hdriver] at hdelete
            apply kept_of_accepted (nodup_dropRows hnodup req.entry.index)
            · rw [hcode, hdelete]
              show (OmciError.success, (⟨_, table.count - (table.rows.length - _)⟩ :
                CountedRows MacFilterRow)) = _
              rw [hcount, Nat.sub_sub_self hle]
            · rw [MacFilterSet.op, hset, hclear]
              exact macFilterTable.lookup_dropRows req.entry.index table.rows
          · rw [if_neg hdriver] at hdelete
            apply kept_of_refused h (e := .drv) (by decide)
            rw [hcode, hdelete]
            exact congrArg (Prod.mk _) hstays
        · rw [if_neg hany] at hdelete
          apply kept_of_refused h (e := .invalidVal) (by decide)
          rw [hcode, hdelete]
          exact congrArg (Prod.mk _) hstays
      · intro _
        exact ⟨fun hno => absurd (hset.symm.trans hno) (by decide),
          fun _ hno => absurd (hclear.symm.trans hno) (by decide)⟩
  | true =>
      have hmeets : req.Meets table ↔ (req.driver 0 0 = true →
          ∀ calls < table.rows.length, req.driver calls (BitVec.ofNat 8 calls) = true) := by
        rw [MacFilterSet.Meets, hset, hclear]
        simp [hbridge]
      rw [hmeets]
      by_cases hall : ∀ i < table.rows.length,
          req.driver (0 + i) (0 + BitVec.ofNat 8 i) = true
      · apply iff_of_true
        · have hdelete := MacFilterSet.entriesDelete_clear_of_granted hclear hall false
          cases hrows : table.rows with
          | nil =>
              rw [hrows] at hdelete hcode
              apply kept_of_refused h (e := .invalidVal) (by decide)
              rw [hcode, hdelete]
              show (OmciError.invalidVal, (⟨[], table.count - (0 - 0)⟩ : CountedRows MacFilterRow)) = _
              rw [hcount, ← hrows]
              exact congrArg (Prod.mk _) htable.symm
          | cons first rest =>
              rw [hrows] at hdelete
              apply @kept_of_accepted _ _ _ _ _ _ _ _ _ [] List.nodup_nil
              · rw [hcode, hrows, hdelete]
                show (OmciError.success, (⟨[], table.count - (_ - 0)⟩ : CountedRows MacFilterRow)) = _
                rw [hcount, hrows, Nat.sub_zero, Nat.sub_self]
                rfl
              · rw [MacFilterSet.op, hset, hclear]
                rfl
        · intro _ calls hcalls
          simpa using hall calls hcalls
      · have hsome : ∃ i < table.rows.length,
            req.driver (0 + i) (0 + BitVec.ofNat 8 i) = false := by
          simpa using hall
        have ⟨kept, hdelete, _, hfirst, hlost⟩ :=
          MacFilterSet.entriesDelete_clear_of_refused hclear false hsome
        rw [hdelete] at hcode
        cases hdriver : req.driver 0 0 with
        | false =>
            apply iff_of_true
            · apply kept_of_refused h (e := .drv) (by decide)
              rw [hcode, hfirst hdriver]
              exact congrArg (Prod.mk _) hstays
            · exact nofun
        | true =>
            apply iff_of_false
            · -- the rows before the call that fails are lost
              intro hkept
              have hsame : (req.tableEntrySet table).2 = table := hkept.refused (by
                show decide ((req.tableEntrySet table).1 = .success) = false
                rw [hcode]
                rfl)
              rw [hcode] at hsame
              have hrows : kept = table.rows := congrArg CountedRows.rows hsame
              exact absurd (hlost hdriver) (hrows ▸ Nat.lt_irrefl _)
            · intro hcondition
              apply hall
              intro i hi
              simpa using hcondition rfl i hi

/-- A SET of the MAC filter table keeps to everything exactly under the condition. -/
theorem macFilterTable_kept_iff {table : CountedRows MacFilterRow} (req : MacFilterSet)
    (h : macFilterTable.Proper table) :
    macFilterTable.Kept table req (req.tableEntrySet table).2 ↔ req.Meets table := by
  have hcount : table.count = table.rows.length := h.count
  have hnodup : (table.rows.map MacFilterRow.index).Nodup := h.nodup
  have htable : table = ⟨table.rows, table.rows.length⟩ := by rw [← hcount]
  by_cases hbridge : (!req.bridge) = true
  · apply iff_of_true
    · apply kept_of_refused h (e := .meNotFound) (by decide)
      rw [MacFilterSet.tableEntrySet, if_pos hbridge]
    · intro hyes
      simp [hyes] at hbridge
  have hfound : req.bridge = true := by simpa using hbridge
  cases hset : req.entry.isSet with
  | true =>
      cases hclear : req.entry.isClear with
      | true =>
          apply iff_of_true
          · apply kept_of_accepted hnodup
            · rw [MacFilterSet.tableEntrySet, if_neg hbridge, hset, hclear]
              exact congrArg (Prod.mk _) htable
            · rw [MacFilterSet.op, hset, hclear]
              rfl
          · intro _
            exact ⟨fun _ hno => absurd (hclear.symm.trans hno) (by decide),
              fun hno => absurd (hset.symm.trans hno) (by decide)⟩
      | false => exact macFilterTable_write_iff req h hfound hset hclear
  | false => exact macFilterTable_delete_iff req h hfound hset

/-! ## Runs -/

/-- All sequences of SETs of a multicast address table, of a dial plan table and of a MAC filter
table are right, if and only if the SETs of the last two meet their conditions. -/
theorem keyedTables_iff (mcSets : List McAddressSet) (planSets : List DialPlanSet)
    (filterSets : List MacFilterSet) :
    mcAddrTable.Keyed mcSets ∧ networkDialPlanTable.Keyed planSets ∧
        macFilterTable.Keyed filterSets ↔
      Along networkDialPlanTable.step (fun table req _ => req.Meets table) ⟨[], 0⟩ planSets ∧
        Along macFilterTable.step (fun table req _ => req.Meets table) ⟨[], 0⟩ filterSets := by
  have hmc : mcAddrTable.Keyed mcSets := by
    have hempty : mcAddrTable.Proper ⟨[], 0⟩ := tableWriter_proper List.nodup_nil
    refine RowWriter.keyed_iff.mpr (Along.of_invariant ?_ hempty mcSets)
    intro before req after hproper hstep
    obtain rfl := Option.some.inj hstep
    have hkept := mcAddrTable_kept req hproper
    exact ⟨hkept, hkept.proper⟩
  have hplan : networkDialPlanTable.Keyed planSets ↔ _ :=
    RowWriter.keyed_iff_meets (tableWriter_proper List.nodup_nil)
      (fun _ req => networkDialPlanTable_kept_iff req) planSets
  have hfilter : macFilterTable.Keyed filterSets ↔ _ :=
    RowWriter.keyed_iff_meets (tableWriter_proper List.nodup_nil)
      (fun _ req => macFilterTable_kept_iff req) filterSets
  rw [hplan, hfilter]
  exact and_iff_right hmc

def twicePlanned : List DialPlanSet :=
  [⟨⟨7, 1, 0x31⟩, true⟩, ⟨⟨7, 1, 0x32⟩, true⟩]

def refusedFilter : MacFilterSet :=
  ⟨⟨16, 0x80, 0x001122334455⟩, true, true, fun _ idx => decide (idx.toNat < 16)⟩

/-- The plan then has two rows, of which the first is read; and the refused row stays in the
table. -/
theorem keyedTables_not_right :
    ¬networkDialPlanTable.Keyed twicePlanned ∧ ¬macFilterTable.Keyed [refusedFilter] ∧
      (networkDialPlanTable.run ⟨[], 0⟩ twicePlanned).rows.map DialPlanRow.dialPlanId = [7, 7] ∧
      (refusedFilter.tableEntrySet ⟨[], 0⟩).1 = .drv ∧
      (refusedFilter.tableEntrySet ⟨[], 0⟩).2.rows = [refusedFilter.entry] := by
  have hplan : ¬networkDialPlanTable.Keyed twicePlanned := by
    intro hkeyed
    have hnodup := hkeyed.kept.2.1.proper.nodup
    revert hnodup
    decide
  have hfilter : ¬macFilterTable.Keyed [refusedFilter] := by
    intro hkeyed
    have hsame := congrArg CountedRows.rows (hkeyed.kept.1.refused rfl)
    revert hsame
    decide
  exact ⟨hplan, hfilter, rfl, rfl, rfl⟩

end FalconGpon.Omci
