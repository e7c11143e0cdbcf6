/-
# The GET and GET_NEXT actions

`get_action_handle` and `get_next_action_handle` with the cache of table attribute copies of
`omci_core.c` and the timers that clear them. A GET of an attribute that is a table or does
not fit into the response answers with the size of a copy, which GET_NEXT then reads in
chunks.

A copy holds allocated memory or points to the live data of the class. Timers fire in any
order; identifiers of timers do not run out.
-/

import FalconGpon.Omci.SetAction

namespace FalconGpon.Omci

open FalconGpon.Lib

variable {ω : Type}

/-! ## Copies of table attributes -/

/-- `OMCI_TABLE_COPY_NUM`. -/
def omciTableCopyNum : Nat := 5

/-- The memory a copy refers to. -/
inductive TblData (ω : Type)
  | heap (bytes : List Byte)
  /-- The class's own memory. -/
  | live (read : ω → Buffer)

def TblData.show (outer : ω) : TblData ω → Buffer
  | .heap bytes => fun i => bytes.getD i 0
  | .live read => read outer

/-- What `tbl_copy` handlers fill in. -/
structure TblCopied (ω : Type) where
  data : Option (TblData ω)
  dataSize : Nat
  freeData : Bool

/-- `me_tbl_copy_handler`. If it succeeds it has provided the memory it announces. -/
structure TblCopyHandler (ω : Type) where
  run : MeRef → Attr → Store ω → TblCopied ω → OmciError × TblCopied ω
  provided : ∀ ref attr store copied, (run ref attr store copied).1 = .success →
    match (run ref attr store copied).2.data with
    | some (.heap bytes) => bytes.length = (run ref attr store copied).2.dataSize
    | some (.live _) => True
    | none => (run ref attr store copied).2.dataSize = 0

/-- A class with its `tbl_copy` handler. -/
structure TblClass (ω : Type) extends MeClass ω where
  tblCopy : Option (TblCopyHandler ω)

/-- What a copy is of. Attributes are numbered from one. -/
structure TblKey where
  classId : ClassId
  instanceId : InstanceId
  attr : Nat
deriving DecidableEq

/-- `struct tbl_copy_entry`. -/
structure TblCopyEntry (ω : Type) extends TblKey, TblCopied ω where
  timeoutId : Nat
  valid : Bool

/-- `context->tbl_copy`, and its share of `context->timeout_list`. -/
structure TblCopies (ω : Type) where
  array : Fin omciTableCopyNum → TblCopyEntry ω
  timeouts : List (Nat × TblKey)
  lastTimeoutId : Nat

/-- `tbl_copy_init`. -/
def tblCopyInit : TblCopies ω where
  array _ := ⟨⟨0, 0, 0⟩, ⟨none, 0, false⟩, 0, false⟩
  timeouts := []
  lastTimeoutId := 0

namespace TblCopies

def set (copies : TblCopies ω) (i : Fin omciTableCopyNum) (entry : TblCopyEntry ω) : TblCopies ω :=
  { copies with array := Function.update copies.array i entry }

/-- `timeout_event_remove`. -/
def timeoutEventRemove (copies : TblCopies ω) (timeoutId : Nat) : TblCopies ω :=
  { copies with timeouts := copies.timeouts.filter fun timeout => timeout.1 != timeoutId }

/-- `timeout_event_add`, which stores the identifier in an entry; `none` if there is no
memory. -/
def timeoutEventAdd (copies : TblCopies ω) (granted : Bool) (i : Fin omciTableCopyNum)
    (key : TblKey) : Option (TblCopies ω) :=
  if granted then
    let timeoutId := copies.lastTimeoutId + 1
    let copies := copies.set i { copies.array i with timeoutId := timeoutId }
    some { copies with
      timeouts := copies.timeouts ++ [(timeoutId, key)]
      lastTimeoutId := timeoutId }
  else none

/-- `me_tbl_copy_find` from one entry on. -/
def find (copies : TblCopies ω) (key : TblKey) :
    List (Fin omciTableCopyNum) → Option (Fin omciTableCopyNum) → Option (Fin omciTableCopyNum)
  | [], entry => entry
  | i :: rest, entry =>
      if (copies.array i).toTblKey = key then
        if (copies.array i).valid then copies.find key rest (some i) else entry
      else copies.find key rest entry

/-- `me_tbl_copy_find`. -/
def meTblCopyFind (copies : TblCopies ω) (key : TblKey) : Option (Fin omciTableCopyNum) :=
  copies.find key (List.finRange omciTableCopyNum) none

/-- The entry made for an old copy of the same attribute. -/
def TblCopyEntry.renewed (entry : TblCopyEntry ω) : TblCopyEntry ω :=
  { entry with
    dataSize := 0
    data := if entry.freeData then none else entry.data
    valid := true }

def TblCopyEntry.taken (entry : TblCopyEntry ω) (key : TblKey) : TblCopyEntry ω :=
  { entry with toTblKey := key, dataSize := 0, data := none, valid := true }

/-- `me_tbl_copy_empty_get`. -/
def meTblCopyEmptyGet (copies : TblCopies ω) (key : TblKey) :
    Option (TblCopies ω × Fin omciTableCopyNum) :=
  let all := List.finRange omciTableCopyNum
  match all.find? fun i => (copies.array i).toTblKey = key with
  | some i => some (copies.set i (TblCopyEntry.renewed (copies.array i)), i)
  | none =>
      match all.find? fun i => (copies.array i).valid = false with
      | some i => some (copies.set i (TblCopyEntry.taken (copies.array i) key), i)
      | none =>
          match all.find? fun i => (copies.array i).valid = true with
          | some i =>
              let copies := copies.timeoutEventRemove (copies.array i).timeoutId
              some (copies.set i (TblCopyEntry.taken (copies.array i) key), i)
          | none => none

/-- `get_next_tbl_copy_clean_timeout_handler`. -/
def clean (copies : TblCopies ω) (key : TblKey) : TblCopies ω :=
  match copies.meTblCopyFind key with
  | none => copies
  | some i =>
      let entry := copies.array i
      copies.set i { entry with
        data := if entry.freeData then none else entry.data
        valid := false
        timeoutId := 0 }

/-- A timer fires: its handler is called and it is removed. -/
def timeout (copies : TblCopies ω) (timeoutId : Nat) : Option (TblCopies ω) :=
  match copies.timeouts.find? fun timeout => timeout.1 = timeoutId with
  | some (_, key) => some ((copies.clean key).timeoutEventRemove timeoutId)
  | none => none

end TblCopies

/-! ## get_action_handle -/

/-- What GET and GET_NEXT work on. -/
structure GetState (ω : Type) where
  store : Store ω
  copies : TblCopies ω

/-- What is not modelled here of a GET: `pm_me_counters_get`, and whether there is memory for
a timer. -/
structure GetEnv (ω : Type) where
  pmMeCountersGet : PmInterval → Store ω → Store ω × OmciError
  timeoutEventAdd : Bool

/-- `OMCI_MT_GET_CURR_DATA`. -/
def mtGetCurrData : Byte := 28

/-- `sizeof(rsp->get_rsp.values)`. -/
def getRspValuesSize : Nat := 25

def getTblRspFailed (rsp : OmciMsg) (attr : Attr) : OmciMsg :=
  (((rsp.withResult mrAttrFailed).write 30 (octets16 (omciAttr2mask attr))).write 1
    (octets16 0)).write 7 (List.replicate 21 0)

def getTblRspBusy (rsp : OmciMsg) : OmciMsg :=
  ((rsp.withResult mrDeviceBusy).write 1 (octets16 0)).write 7 (List.replicate 21 0)

def octets32 (field : BitVec 32) : List Byte :=
  [field.extractLsb' 24 8, field.extractLsb' 16 8, field.extractLsb' 8 8, field.extractLsb' 0 8]

def getTblRsp (rsp : OmciMsg) (attr : Attr) (dataSize : Nat) : OmciMsg :=
  (((rsp.write 1 (octets16 (omciAttr2mask attr))).write 7 (List.replicate 21 0)).write 3
    (octets32 (BitVec.ofNat 32 dataSize))).withResult mrCmdSuccess

/-- `get_action_handle` at a table attribute. -/
def getTable (cls : TblClass ω) (ref : MeRef) (key : TblKey) (attr : Attr) (env : GetEnv ω)
    (state : GetState ω) (rsp : OmciMsg) : ActionResult (GetState ω) :=
  match cls.tblCopy with
  | none => ⟨state, .action, getTblRspFailed rsp attr⟩
  | some tblCopy =>
      match state.copies.meTblCopyEmptyGet key with
      | none => ⟨state, .action, getTblRspBusy rsp⟩
      | some (copies, i) =>
          let entry := copies.array i
          match tblCopy.run ref attr state.store { entry with freeData := true } with
          | (.success, copied) =>
              let entry := { entry with toTblCopied := copied }
              let copies := copies.set i entry
              let copies :=
                if entry.timeoutId = 0 then copies else copies.timeoutEventRemove entry.timeoutId
              match copies.timeoutEventAdd env.timeoutEventAdd i key with
              | none => ⟨{ state with copies := copies }, .action, getTblRspFailed rsp attr⟩
              | some copies =>
                  ⟨{ state with copies := copies }, .success, getTblRsp rsp attr copied.dataSize⟩
          | (_, copied) =>
              ⟨{ state with copies := copies.set i { entry with toTblCopied := copied } },
                .action, getTblRspFailed rsp attr⟩

/-- The local variables of `get_action_handle`. -/
structure GetAttrs where
  attrSizeSum : Nat
  attrExecMask : AttrMask
  optAttrMask : AttrMask
  attrMaskRsp : AttrMask
  /-- `attr`, as an offset into the values. -/
  offset : Nat
  rsp : OmciMsg

/-- How the loop of `get_action_handle` ends. -/
inductive GetLoop (ω : Type)
  | finished (state : GetState ω) (attrs : GetAttrs)
  | table (result : ActionResult (GetState ω))

/-- The loop of `get_action_handle` over the remaining attributes. -/
def getAttrs (cls : TblClass ω) (ref : MeRef) (instanceId : InstanceId) (attrMask : AttrMask)
    (interval : PmInterval) (env : GetEnv ω) : List Attr → GetState ω → GetAttrs → GetLoop ω
  | [], state, acc => .finished state acc
  | attr :: attrs, state, acc =>
      let rest := getAttrs cls ref instanceId attrMask interval env attrs
      let size := (cls.attrs attr).size
      let prop := (cls.attrs attr).prop
      let failed := { acc with attrExecMask := acc.attrExecMask ||| omciAttr2mask attr }
      if !attrMask.has attr then rest state acc
      else if !cls.isMeAttrExist attr then rest state failed
      else if hasProp prop AttrProp.notSupported then
        rest state { acc with optAttrMask := cls.optAttrMask }
      else if !hasProp prop AttrProp.rd then rest state failed
      else if getRspValuesSize < size || hasProp prop AttrProp.table then
        .table (getTable cls ref ⟨cls.classId, instanceId, attr.val + 1⟩ attr env state acc.rsp)
      else
        let sum := acc.attrSizeSum + size
        if getRspValuesSize < sum then .finished state { acc with attrSizeSum := sum }
        else
          match meDataRead cls.toMeClass ref interval state.store with
          | (store, .success, data) =>
              rest { state with store := store }
                { acc with
                  attrSizeSum := sum
                  attrMaskRsp := acc.attrMaskRsp ||| omciAttr2mask attr
                  offset := acc.offset + size
                  rsp := acc.rsp.write (3 + acc.offset) (cls.attrValue attr data) }
          | (store, _, _) =>
              rest { state with store := store } { failed with attrSizeSum := sum }

/-- The end of `get_action_handle`. -/
def getFinish (cls : TblClass ω) (state : GetState ω) (acc : GetAttrs) :
    ActionResult (GetState ω) :=
  let cleared := acc.rsp.write 3 (List.replicate 25 0)
  if acc.attrExecMask != 0 || acc.optAttrMask != 0 then
    if acc.attrExecMask &&& cls.invAttrMask != 0 then
      ⟨state, .action, (((cleared.withResult mrCmdError).write 30 (octets16 0)).write 28
        (octets16 0)).write 1 (octets16 0)⟩
    else
      ⟨state, .action, (((cleared.withResult mrAttrFailed).write 30
        (octets16 acc.attrExecMask)).write 28 (octets16 acc.optAttrMask)).write 1 (octets16 0)⟩
  else ⟨state, .success, (acc.rsp.withResult mrCmdSuccess).write 1 (octets16 acc.attrMaskRsp)⟩

def getInterval (msg : OmciMsg) : PmInterval :=
  if omciMsgTypeMtGet msg = mtGetCurrData then .curr else .hist

/-- The counters of PM entities that the daemon handles itself are refreshed first. -/
def getCounters (cls : MeClass ω) (interval : PmInterval) (env : GetEnv ω) (store : Store ω) :
    Store ω × OmciError :=
  if hasProp cls.prop MeProp.pm && hasProp cls.prop MeProp.pmInternal then
    env.pmMeCountersGet interval store
  else (store, .success)

/-- `get_action_handle`. -/
def getActionHandle (cls : TblClass ω) (ref : MeRef) (instanceId : InstanceId) (env : GetEnv ω)
    (state : GetState ω) (msg rsp : OmciMsg) : ActionResult (GetState ω) :=
  let attrMask := msg.field16 0
  let rsp := rsp.write 1 (octets16 attrMask)
  let interval := getInterval msg
  match getCounters cls.toMeClass interval env state.store with
  | (store, .success) =>
      let state := { state with store := store }
      match getAttrs cls ref instanceId attrMask interval env (List.finRange 16) state
        ⟨0, 0, 0, 0, 0, rsp⟩ with
      | .finished state acc => getFinish cls state acc
      | .table result => result
  | (store, err) => ⟨{ state with store := store }, err, rsp⟩

/-! ## get_next_action_handle -/

/-- `sizeof(rsp->get_next_rsp.values)`. -/
def getNextRspValuesSize : Nat := 29

/-- The attribute of a mask with one attribute. -/
def getNextAttr (attrMask : AttrMask) : Option Attr :=
  match (List.finRange 16).filter fun attr => attrMask.has attr with
  | [attr] => some attr
  | _ => none

/-- What of a chunk lies within the copy; `none` if nothing does. -/
def getNextChunk (dataSize : Nat) (seqNum : BitVec 16) : Option (Nat × Nat) :=
  let offset := getNextRspValuesSize * seqNum.toNat
  if dataSize < offset + getNextRspValuesSize then
    if offset < dataSize then some (offset, dataSize - offset) else none
  else some (offset, getNextRspValuesSize)

/-- `get_next_action_handle`. -/
def getNextActionHandle (classId : ClassId) (instanceId : InstanceId) (env : GetEnv ω)
    (state : GetState ω) (msg rsp : OmciMsg) : ActionResult (GetState ω) :=
  let rsp := rsp.write 1 (octets16 (msg.field16 0))
  let refused : ActionResult (GetState ω) := ⟨state, .action, rsp.withResult mrParamError⟩
  match getNextAttr (msg.field16 0) with
  | none => refused
  | some attr =>
      let key : TblKey := ⟨classId, instanceId, attr.val + 1⟩
      match state.copies.meTblCopyFind key with
      | none => refused
      | some i =>
          let entry := state.copies.array i
          match getNextChunk entry.dataSize (msg.field16 2) with
          | none => refused
          | some (offset, size) =>
              let rsp :=
                match entry.data with
                | some data => rsp.write 3 (slice (data.show state.store.outer) offset size)
                | none => rsp
              let copies := state.copies.timeoutEventRemove entry.timeoutId
              match copies.timeoutEventAdd env.timeoutEventAdd i key with
              | none => ⟨{ state with copies := copies }, .action, rsp.withResult mrParamError⟩
              | some copies => ⟨{ state with copies := copies }, .success, rsp⟩

end FalconGpon.Omci
