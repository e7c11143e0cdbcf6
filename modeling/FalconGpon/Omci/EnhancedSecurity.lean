/-
# The Enhanced Security Control ME

Class 332 keeps the tables of the authentication: the OLT writes its challenge, its result and the
broadcast key row by row, and sets a status when a table is complete. The rows of a table lie in a
doubly linked list that a new row is put into behind the entry at which a loop ends. The file has
the update handler of the class and the SET around it; a SET has room for one of the long
attributes and the two status values.
-/

import Mathlib.Data.BitVec

namespace FalconGpon.Omci

/-! ## Tables -/

/-- `struct olt_random_chl_table_entry`, `struct olt_auth_result_table_entry`. -/
structure RowEntry where
  rowNumber : BitVec 8
  content : BitVec 128
deriving DecidableEq

def RowEntry.key (entry : RowEntry) : Nat :=
  entry.rowNumber.toNat

/-- `struct broadcast_key_table_entry`. -/
structure BroadcastKeyEntry where
  rowControl : BitVec 8
  rowIdentifier : BitVec 8
  keyFragment : BitVec 128
deriving DecidableEq

def BroadcastKeyEntry.key (entry : BroadcastKeyEntry) : Nat :=
  entry.rowIdentifier.toNat

/-- A list of `struct internal_data` with its counter. -/
structure RowTable (α : Type) where
  list : List α
  entriesNum : Nat
deriving DecidableEq

/-- Where a loop over a list ends: at the entry to be overwritten, or behind so many entries. -/
inductive RowPlace
  | same (i : Nat)
  | behind (i : Nat)

namespace RowTable

variable {α : Type}

/-- `olt_random_chl_list_clear`, `olt_auth_result_list_clear`, `broadcast_key_list_clear`. -/
def clear : RowTable α :=
  ⟨[], 0⟩

/-- Overwrite an entry or add one, if there is memory. -/
def place (table : RowTable α) (alloc : Bool) (entry : α) : RowPlace → Option (RowTable α)
  | .same i => some ⟨table.list.set i entry, table.entriesNum⟩
  | .behind i =>
      if alloc then some ⟨table.list.insertIdx i entry, table.entriesNum + 1⟩ else none

end RowTable

/-- The loop of `olt_random_chl_tbl_entry_set` and `olt_auth_result_tbl_entry_set` from entry
number `i` on. The head of the list has the row number 0. -/
def rowPlace (rowNumber : BitVec 8) : Nat → List RowEntry → RowPlace
  | _, [] => .behind 0
  | i, le :: rest =>
      if le.rowNumber = rowNumber then .same i
      else if rowNumber < le.rowNumber then .behind i
      else
        match rest with
        | [] => .behind (i + 1)
        | nle :: _ =>
            if nle.rowNumber = 0 ∨ rowNumber < nle.rowNumber then .behind (i + 1)
            else rowPlace rowNumber (i + 1) rest

def fragment (rowIdentifier : BitVec 8) : BitVec 8 :=
  rowIdentifier &&& 0x0F

/-- The loop of `broadcast_key_tbl_entry_set` from entry number `i` on. At the last entry the
comparison is with the head, whose identifier is 0, so that the loop ends there. -/
def broadcastKeyPlace (rowIdentifier : BitVec 8) : Nat → List BroadcastKeyEntry → RowPlace
  | _, [] => .behind 0
  | i, le :: rest =>
      if le.rowIdentifier = rowIdentifier then .same i
      else
        match rest with
        | [] => .behind 0
        | nle :: _ =>
            if fragment rowIdentifier < fragment nle.rowIdentifier then .behind (i + 1)
            else broadcastKeyPlace rowIdentifier (i + 1) rest

/-- Row 0 clears the table; the other rows are put into it. -/
def rowEntrySet (alloc : Bool) (table : RowTable RowEntry) (entry : RowEntry) :
    Option (RowTable RowEntry) :=
  if entry.rowNumber = 0 then some .clear
  else table.place alloc entry (rowPlace entry.rowNumber 0 table.list)

/-- `BC_ROW_SET`, `BC_ROW_CLEAR`, `BC_TABLE_CLEAR`, `BC_RESERVED`. -/
inductive BcRowControl
  | rowSet
  | rowClear
  | tableClear
  | reserved
deriving DecidableEq

/-- The lower two bits of the row control. -/
def BroadcastKeyEntry.control (entry : BroadcastKeyEntry) : BcRowControl :=
  if entry.rowControl &&& 0x3 = 3 then .reserved
  else if entry.rowControl &&& 0x3 = 2 then .tableClear
  else if entry.rowControl &&& 0x3 = 1 then .rowClear
  else .rowSet

/-- `BC_ROW_CLEAR`: take the row out, if it is there. -/
def broadcastKeyRowClear (table : RowTable BroadcastKeyEntry) (rowIdentifier : BitVec 8) :
    Option (RowTable BroadcastKeyEntry) :=
  if table.list.any (·.rowIdentifier = rowIdentifier) then
    some ⟨table.list.eraseP (·.rowIdentifier = rowIdentifier), table.entriesNum - 1⟩
  else none

/-- The branches of `broadcast_key_tbl_entry_set`. -/
def broadcastKeyEntrySet (alloc : Bool) (table : RowTable BroadcastKeyEntry)
    (entry : BroadcastKeyEntry) : Option (RowTable BroadcastKeyEntry) :=
  match entry.control with
  | .reserved => none
  | .tableClear => some .clear
  | .rowClear => broadcastKeyRowClear table entry.rowIdentifier
  | .rowSet => table.place alloc entry (broadcastKeyPlace entry.rowIdentifier 0 table.list)

/-- The check that the rows are numbered from `index` on. -/
def rowsFrom : Nat → List RowEntry → Bool
  | _, [] => true
  | index, le :: rest => le.rowNumber.toNat = index && rowsFrom (index + 1) rest

/-- `RETURN_IF_ERROR`: go on after a handler that succeeds. -/
def returnIfError {σ : Type} (done : σ × Bool) (next : σ → σ × Bool) : σ × Bool :=
  if done.2 then next done.1 else done

/-! ## The ME -/

/-- The attributes that the handlers read, without the tables. -/
structure EnhSecData where
  oltChlStatus : Bool
  onuSelectedCryptoCaps : BitVec 8
  oltResultStatus : Bool
  effectiveKeyLength : BitVec 16
deriving DecidableEq

/-- `struct omci_me_enh_sec_ctrl` with `struct internal_data`. The ONU writes no authentication
result. -/
structure EnhSecCtrl where
  data : EnhSecData
  oltRandomChl : RowTable RowEntry
  onuRandomChl : List (BitVec 128)
  oltAuthResult : RowTable RowEntry
  broadcastKey : RowTable BroadcastKeyEntry
deriving DecidableEq

/-- What the system does for a SET. -/
structure EnhSecEnv where
  /-- There is memory for a row. -/
  rowAlloc : Bool
  /-- There is memory for the challenge of the OLT. -/
  alloc : Bool
  /-- The random numbers of the challenge of the ONU, with the memory for them. -/
  random : Option (Nat → BitVec 128)
  /-- The rows of this challenge for which there is memory. -/
  onuRows : Nat
  /-- The AVC is sent. -/
  avc : Bool

/-- The long attributes. -/
inductive EnhSecAttr
  | oltCryptoCaps (last : BitVec 8)
  | oltRandomChlTable (entry : RowEntry)
  | oltAuthResultTable (entry : RowEntry)
  | broadcastKeyTable (entry : BroadcastKeyEntry)
deriving DecidableEq

/-- A SET of some attributes. -/
structure EnhSecSet where
  long : Option EnhSecAttr
  oltChlStatus : Option (BitVec 8)
  oltResultStatus : Option (BitVec 8)
deriving DecidableEq

/-- The ME after `me_init`. -/
def EnhSecCtrl.init (data : EnhSecData) : EnhSecCtrl where
  data := data
  oltRandomChl := .clear
  onuRandomChl := []
  oltAuthResult := .clear
  broadcastKey := .clear

def EnhSecData.keyLen (data : EnhSecData) : Nat :=
  data.effectiveKeyLength.toNat / 8

namespace EnhSecCtrl

variable (env : EnhSecEnv)

/-- `olt_crypto_caps_update_action`, on the new data. -/
def oltCryptoCapsUpdateAction (last : BitVec 8) (upd : EnhSecData) : EnhSecData × Bool :=
  let upd := { upd with oltChlStatus := false }
  if last = 0 then (upd, true)
  else if last.getLsbD 0 then
    ({ upd with onuSelectedCryptoCaps := 1, effectiveKeyLength := 128 }, true)
  else ({ upd with onuSelectedCryptoCaps := 0 }, false)

/-- `onu_random_chl_generate`. -/
def onuRandomChlGenerate (me : EnhSecCtrl) : EnhSecCtrl × Bool :=
  if me.data.keyLen = 0 then (me, false)
  else
    match env.random with
    | none => (me, false)
    | some random =>
        let rows := (me.data.keyLen + 15) / 16
        ({ me with onuRandomChl := (List.range (min rows env.onuRows)).map random },
          decide (rows ≤ env.onuRows) && env.avc)

/-- `olt_chl_status_update_action`. -/
def oltChlStatusUpdateAction (me : EnhSecCtrl) (status : Bool) : EnhSecCtrl × Bool :=
  if !status then (me, true)
  else if !rowsFrom 1 me.oltRandomChl.list then (me, false)
  else if !env.alloc then (me, false)
  else onuRandomChlGenerate env { me with oltRandomChl := .clear }

/-- `olt_result_status_update_action`. -/
def oltResultStatusUpdateAction (me : EnhSecCtrl) (status : Bool) : EnhSecCtrl × Bool :=
  if !status then (me, true)
  else if me.data.keyLen ≠ me.oltAuthResult.entriesNum * 16 then (me, false)
  else if !rowsFrom 1 me.oltAuthResult.list then (me, false)
  else ({ me with oltAuthResult := .clear }, true)

/-- `olt_random_chl_tbl_entry_set`. -/
def oltRandomChlTblEntrySet (me : EnhSecCtrl) (entry : RowEntry) : EnhSecCtrl × Bool :=
  match rowEntrySet env.rowAlloc me.oltRandomChl entry with
  | some table => ({ me with oltRandomChl := table }, true)
  | none => (me, false)

/-- `olt_auth_result_tbl_entry_set`; the first row writes the status with `me_attr_write`. -/
def oltAuthResultTblEntrySet (me : EnhSecCtrl) (entry : RowEntry) : EnhSecCtrl × Bool :=
  let me :=
    if me.oltAuthResult.entriesNum = 0 then
      { me with data := { me.data with oltResultStatus := false } }
    else me
  match rowEntrySet env.rowAlloc me.oltAuthResult entry with
  | some table => ({ me with oltAuthResult := table }, true)
  | none => (me, false)

/-- `broadcast_key_tbl_entry_set`. -/
def broadcastKeyTblEntrySet (me : EnhSecCtrl) (entry : BroadcastKeyEntry) : EnhSecCtrl × Bool :=
  if me.data.onuSelectedCryptoCaps = 0 then (me, true)
  else
    match broadcastKeyEntrySet env.rowAlloc me.broadcastKey entry with
    | some table => ({ me with broadcastKey := table }, true)
    | none => (me, false)

/-- The first part of `me_update`, with the new data: the capabilities and the challenge of the OLT,
both of which set the new challenge status back. -/
def updateChl (me : EnhSecCtrl) (msg : EnhSecSet) (upd : EnhSecData) :
    (EnhSecCtrl × Bool) × EnhSecData :=
  match msg.long with
  | some (.oltCryptoCaps last) =>
      let caps := oltCryptoCapsUpdateAction last upd
      ((me, caps.2), caps.1)
  | some (.oltRandomChlTable entry) =>
      (oltRandomChlTblEntrySet env me entry, { upd with oltChlStatus := false })
  | _ => ((me, true), upd)

/-- The rows of the result of the OLT in `me_update`. -/
def updateResult (me : EnhSecCtrl) (msg : EnhSecSet) : EnhSecCtrl × Bool :=
  match msg.long with
  | some (.oltAuthResultTable entry) => oltAuthResultTblEntrySet env me entry
  | _ => (me, true)

/-- The rows of the broadcast key in `me_update`. -/
def updateKey (me : EnhSecCtrl) (msg : EnhSecSet) : EnhSecCtrl × Bool :=
  match msg.long with
  | some (.broadcastKeyTable entry) => broadcastKeyTblEntrySet env me entry
  | _ => (me, true)

/-- `me_update`, with the new data. A status that is not set is not looked at. -/
def meUpdate (me : EnhSecCtrl) (msg : EnhSecSet) (upd : EnhSecData) :
    (EnhSecCtrl × Bool) × EnhSecData :=
  let chl := updateChl env me msg upd
  let chlStatus := msg.oltChlStatus.isSome && chl.2.oltChlStatus
  let resultStatus := msg.oltResultStatus.isSome && chl.2.oltResultStatus
  let done :=
    returnIfError chl.1 fun me =>
    returnIfError (oltChlStatusUpdateAction env me chlStatus) fun me =>
    returnIfError (updateResult env me msg) fun me =>
    returnIfError (oltResultStatusUpdateAction me resultStatus) fun me =>
    updateKey env me msg
  (done, chl.2)

end EnhSecCtrl

def newStatus (stored : Bool) : Option (BitVec 8) → Bool
  | some value => value = 1
  | none => stored

/-- `me_data_fetch`. -/
def EnhSecSet.fetch (msg : EnhSecSet) (data : EnhSecData) : EnhSecData :=
  { data with
    oltChlStatus := newStatus data.oltChlStatus msg.oltChlStatus
    oltResultStatus := newStatus data.oltResultStatus msg.oltResultStatus }

/-- `default_me_validate`: a status is 0 or 1. -/
def EnhSecSet.isValid (msg : EnhSecSet) : Bool :=
  msg.oltChlStatus.all (· ≤ 1) && msg.oltResultStatus.all (· ≤ 1)

/-- `is_data_updated`: the long attributes are tables. -/
def EnhSecSet.isDataUpdated (msg : EnhSecSet) (data : EnhSecData) : Bool :=
  msg.long.isSome || msg.oltChlStatus.any (· ≠ if data.oltChlStatus then 1 else 0) ||
    msg.oltResultStatus.any (· ≠ if data.oltResultStatus then 1 else 0)

/-- `set_action_handle`: the ME and whether the SET is accepted. -/
def EnhSecCtrl.set (env : EnhSecEnv) (me : EnhSecCtrl) (msg : EnhSecSet) : EnhSecCtrl × Bool :=
  if !msg.isDataUpdated me.data then (me, true)
  else if !msg.isValid then (me, false)
  else
    let updated := me.meUpdate env msg (msg.fetch me.data)
    returnIfError updated.1 fun me => ({ me with data := updated.2 }, true)

end FalconGpon.Omci
