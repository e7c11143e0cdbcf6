/-
# Uploading the MIB

MIB_UPLOAD in `omci_onu_data.c` announces the number of entries of the MIB copy and
MIB_UPLOAD_NEXT returns them one by one (`UploadAnswer`). MIB_UPLOAD makes a new copy only
if the MIB sequence number is not zero; otherwise it takes the one that is there to be good.
The copy is dropped when its timer expires.

`uploadAnswer_of_guard`: requests are answered so in every run in which that copy still
describes the MIB and no reset rebuilds the MIB during an upload. An upload that the OLT
gave up leaves no copy, and the next one announces nothing.
-/

import FalconGpon.Omci.MibSnapshot
import FalconGpon.Omci.MibStore
import Mathlib.Tactic.FinCases

namespace FalconGpon.Omci

open FalconGpon.Lib Context

variable {ω : Type}

def uploadEntries (table : ClassTable ω) (ctx : Context ω) : List MibCopyEntry :=
  copyEntries (copyReads (table.entities ctx) ctx.handlerStore)

def mibSeqNum (table : ClassTable ω) (ctx : Context ω) : Byte :=
  (mibSeqNumGet table ctx).toOption.getD 0

/-! ## Requests -/

/-- The MIB with its copy. -/
structure UploadState (ω : Type) where
  context : OmciContext ω
  /-- The event of the copy's timer is on the timeout list. -/
  pending : Bool

/-- What a handler returns. -/
structure UploadResult (ω : Type) where
  state : UploadState ω
  error : OmciError
  rsp : OmciMsg

def UploadResult.sent (result : UploadResult ω) (failsafe : Bool) (msg : OmciMsg) : OmciMsg :=
  if failsafe && result.error != .success then rspCreate msg else result.rsp

/-- `timeout_event_add` for the copy. -/
def UploadState.timeoutEventAdd (state : UploadState ω) (granted : Bool) :
    UploadState ω × OmciError :=
  if granted then
    ({ context := { state.context with mibCopy := { state.context.mibCopy with timeout := true } }
       pending := true },
      .success)
  else (state, .memory)

/-- `timeout_event_remove`, if the copy has a timer. -/
def UploadState.timeoutEventRemove (state : UploadState ω) : UploadState ω :=
  if state.context.mibCopy.timeout then { state with pending := false } else state

/-- `mib_copy` as MIB_UPLOAD calls it; `none` if it reads a freed record. -/
def UploadState.mibCopy (table : ClassTable ω) (state : UploadState ω) :
    Option (UploadState ω × OmciError) :=
  if (table.entities state.context.mib).any fun me => me.1.isUploadable && !me.2.live then none
  else
    let (mib, copy, err) := FalconGpon.Omci.mibCopy table state.context.mib
    some ({ state.timeoutEventRemove with
      context := { state.context with mib := mib, mibCopy := copy } }, err)

/-- `mib_upload_action_handle`. -/
def mibUploadActionHandle (table : ClassTable ω) (granted : Bool) (state : UploadState ω)
    (rsp : OmciMsg) : Option (UploadResult ω) :=
  let copied :=
    if mibSeqNum table state.context.mib ≠ 0 then state.mibCopy table else some (state, .success)
  copied.map fun (state, err) =>
    -- the response is suppressed if the copy is not complete
    let rsp := if err = .success then rsp else omciMsgTypeAkSet rsp 0
    let seqNum := BitVec.ofNat 16 state.context.mibCopy.num
    let rsp := rsp.write 0 (octets16 seqNum)
    if seqNum = 0 then ⟨state, .action, rsp⟩
    else
      let (state, err) := state.timeoutEventRemove.timeoutEventAdd granted
      ⟨state, err, rsp⟩

/-- `values` of an entry; the record is cleared when it is allocated. -/
def MibCopyEntry.octets (entry : MibCopyEntry) : List Byte :=
  (entry.values ++ List.replicate mibUploadNextRspValuesSize 0).take mibUploadNextRspValuesSize

def mibUploadNextRsp (rsp : OmciMsg) (entry : MibCopyEntry) : OmciMsg :=
  (((rsp.write 0 (octets16 entry.classId)).write 2 (octets16 entry.instanceId)).write 4
    (octets16 entry.attrMask)).write 6 entry.octets

/-- `mib_upload_next_action_handle`. -/
def mibUploadNextActionHandle (granted : Bool) (state : UploadState ω) (msg rsp : OmciMsg) :
    UploadResult ω :=
  if state.context.mibCopy.list.isEmpty then ⟨state, .success, rsp⟩
  else
    match state.context.mibCopy.list[(msg.field16 0).toNat]? with
    | none => ⟨state, .success, rsp⟩
    | some entry =>
        let (state, err) := state.timeoutEventRemove.timeoutEventAdd granted
        ⟨state, err, mibUploadNextRsp rsp entry⟩

/-- `mib_copy_clean_timeout_handle`. -/
def UploadState.timeout (state : UploadState ω) : Option (UploadState ω) :=
  if state.pending then
    some { context := { state.context with mibCopy := ⟨[], 0, false⟩ }, pending := false }
  else none

/-! ## Runs -/

/-- The MIB with its copy and what they stand for. -/
structure UploadRun (ω : Type) where
  state : UploadState ω
  /-- The MIB of which the copy was made, until it is dropped. -/
  copied : Option (Context ω)
  /-- The entries that the last MIB_UPLOAD was to announce, until the copy is dropped. -/
  promised : Option (List MibCopyEntry)

/-- What can happen. -/
inductive UploadEvent (ω : Type)
  | mibUpload (failsafe : Bool) (supply : Resource → Nat → Bool) (granted : Bool) (msg : OmciMsg)
  | mibUploadNext (failsafe : Bool) (granted : Bool) (msg : OmciMsg)
  | timeout
  /-- Entities are created or deleted, or the MIB is reset. -/
  | mib (event : MibEvent)
  /-- Attributes change, whoever changes them. -/
  | change (store : Store ω)

def rebuilds (config : Config ω) (context : OmciContext ω) : MibCall → Bool
  | .reset force => !context.mibResetInProgress && resetNeeded config force context
  | .create .. | .delete .. => false

def UploadState.withSupply (state : UploadState ω) (supply : Resource → Nat → Bool) :
    UploadState ω :=
  { state with context := state.context.withSupply supply }

/-- One step. -/
def uploadStep (config : Config ω) (run : UploadRun ω) : UploadEvent ω → Option (UploadRun ω)
  | .mibUpload _ supply granted msg =>
      let mib := run.state.context.mib
      (mibUploadActionHandle config.table granted (run.state.withSupply supply)
        (rspCreate msg)).map fun result =>
          { state := result.state
            copied := if mibSeqNum config.table mib ≠ 0 then some mib else run.copied
            promised := some (uploadEntries config.table mib) }
  | .mibUploadNext _ granted msg =>
      some { run with
        state := (mibUploadNextActionHandle granted run.state msg (rspCreate msg)).state }
  | .timeout => run.state.timeout.map fun state => ⟨state, none, none⟩
  | .mib event =>
      let before := run.state.context.withSupply event.supply
      (mibStep config run.state.context event).map fun context =>
        { run with
          -- the timer of a copy goes with it
          state := ⟨context, run.state.pending && context.mibCopy.timeout⟩
          copied :=
            if rebuilds config before event.call then some (mibRebuild config before.mib).1
            else run.copied }
  | .change store =>
      let context := run.state.context
      some { run with
        state :=
          { run.state with context := { context with mib := { context.mib with store := store } } } }

/-- The answer to a request is as the MIB wants it. -/
def UploadAnswer (config : Config ω) (run : UploadRun ω) : UploadEvent ω → Prop
  | .mibUpload failsafe supply granted msg =>
      let mib := run.state.context.mib
      let entries := uploadEntries config.table mib
      ∃ result, mibUploadActionHandle config.table granted (run.state.withSupply supply)
          (rspCreate msg) = some result ∧
        Snapshot config.table mib ⟨entries, entries.length, false⟩ ∧
        ((result.sent failsafe msg).field16 0).toNat = entries.length ∧
        ((∃ me ∈ config.table.entities mib, me.1.isUploadable = true) →
          (result.sent failsafe msg).field16 0 ≠ 0)
  | .mibUploadNext failsafe granted msg =>
      let result := mibUploadNextActionHandle granted run.state msg (rspCreate msg)
      let rsp := result.sent failsafe msg
      let seqNum := (msg.field16 0).toNat
      ∀ promised ∈ run.promised,
        (∀ entry ∈ promised[seqNum]?,
          rsp.field16 0 = entry.classId ∧ rsp.field16 2 = entry.instanceId ∧
            rsp.field16 4 = entry.attrMask ∧
            slice rsp.octet 6 mibUploadNextRspValuesSize = entry.values ++
              List.replicate (mibUploadNextRspValuesSize - entry.values.length) 0) ∧
          (promised.length ≤ seqNum → rsp = rspCreate msg)
  | .timeout | .mib _ | .change _ => True

/-- The condition on a step. A MIB_UPLOAD finds a MIB that can be copied safely, gets the
memory for a copy it makes, and finds the copy it does not make to have the entries that the
MIB has; they fit into the number it announces. A reset that rebuilds the MIB gets the memory
for its copy and leaves the entries that were announced. In failsafe mode the timer is needed
as well. No entity is denied its PM list entry. -/
def UploadGuard (config : Config ω) (run : UploadRun ω) : UploadEvent ω → Prop
  | .mibUpload failsafe supply granted _ =>
      let mib := run.state.context.mib
      CopySafe config.table mib ∧
        (if mibSeqNum config.table mib ≠ 0 then ∀ n, supply .mibCopyEntry n = true
         else ∃ copied ∈ run.copied, uploadEntries config.table copied =
          uploadEntries config.table mib) ∧
        (uploadEntries config.table mib).length < 2 ^ 16 ∧ (failsafe = true → granted = true)
  | .mibUploadNext failsafe granted _ => failsafe = true → granted = true
  | .timeout => True
  | .mib event =>
      let before := run.state.context.withSupply event.supply
      event.PmGranted ∧ (rebuilds config before event.call = true →
        (mibRebuild config before.mib).1.CopyGranted ∧ ∀ promised ∈ run.promised,
          uploadEntries config.table (mibRebuild config before.mib).1 = promised)
  | .change _ => True

/-- What `mib_create` leaves; nothing has been uploaded yet. -/
def UploadRun.start (config : Config ω) (start : OmciContext ω) : UploadRun ω where
  state := ⟨(mibCreate config start).context, false⟩
  copied :=
    if config.table.classes.all MeClass.isAccepted && !start.mibResetInProgress then
      some (mibRebuild config start.mib.cleared).1
    else none
  promised := none

/-- The copy holds what is expected, and the MIB no freed records. -/
structure UploadKept (config : Config ω) (run : UploadRun ω) : Prop where
  inv : MibInv config.table run.state.context.mib
  live : run.state.context.mib.AllLive
  copied : ∀ mib ∈ run.copied,
    run.state.context.mibCopy.list = uploadEntries config.table mib ∧
      run.state.context.mibCopy.num = (uploadEntries config.table mib).length
  promised : ∀ promised ∈ run.promised, run.state.context.mibCopy.list = promised ∧
    ∀ entry ∈ promised, entry.values.length ≤ mibUploadNextRspValuesSize

section Requests

variable {table : ClassTable ω}

@[simp]
theorem context_timeoutEventRemove_upload (state : UploadState ω) :
    state.timeoutEventRemove.context = state.context := by
  rw [UploadState.timeoutEventRemove]
  split <;> rfl

theorem timeoutEventAdd_upload (state : UploadState ω) (granted : Bool) :
    (state.timeoutEventAdd granted).1.context.mib = state.context.mib ∧
      (state.timeoutEventAdd granted).1.context.mibCopy.list = state.context.mibCopy.list ∧
      (state.timeoutEventAdd granted).1.context.mibCopy.num = state.context.mibCopy.num ∧
      (granted = true → (state.timeoutEventAdd granted).2 = .success) := by
  rw [UploadState.timeoutEventAdd]
  cases granted with
  | true => exact ⟨rfl, rfl, rfl, fun _ => rfl⟩
  | false => exact ⟨rfl, rfl, rfl, nofun⟩

theorem UploadResult.sent_eq {result : UploadResult ω} {failsafe : Bool} (msg : OmciMsg)
    (h : failsafe = true → result.error = .success) : result.sent failsafe msg = result.rsp := by
  rw [UploadResult.sent]
  cases failsafe with
  | true => simp [h rfl]
  | false => rfl

/-- A copy that gets its memory has the entries of the MIB. -/
theorem UploadState.mibCopy_spec {state : UploadState ω} (hlive : state.context.mib.AllLive)
    (hgranted : state.context.mib.CopyGranted) :
    ∃ copied, state.mibCopy table = some (copied, .success) ∧
      state.context.mib.SameMib copied.context.mib ∧
      copied.context.mibCopy.list = uploadEntries table state.context.mib ∧
      copied.context.mibCopy.num = (uploadEntries table state.context.mib).length := by
  obtain ⟨mib, hcopy⟩ := mibCopy_eq table hgranted
  have hsame : state.context.mib.SameLists (FalconGpon.Omci.mibCopy table state.context.mib).1 :=
    mibCopy_sameLists _
  rw [hcopy] at hsame
  have hfreed : (table.entities state.context.mib).any
      (fun me => me.1.isUploadable && !me.2.live) = false := by
    rw [List.any_eq_false]
    intro me hme
    simp [hlive _ _ (ClassTable.mem_entities.mp hme).2]
  rw [UploadState.mibCopy, hfreed, if_neg Bool.false_ne_true, hcopy]
  exact ⟨_, rfl, hsame.same, rfl, rfl⟩

/-- MIB_UPLOAD announces the entries of the copy it leaves. -/
theorem mibUpload_announced {granted failsafe : Bool} {state copied : UploadState ω}
    {entries : List MibCopyEntry} {msg : OmciMsg}
    (hcopied : (if mibSeqNum table state.context.mib ≠ 0 then state.mibCopy table
      else some (state, .success)) = some (copied, .success))
    (hlist : copied.context.mibCopy.list = entries)
    (hnum : copied.context.mibCopy.num = entries.length) (hfew : entries.length < 2 ^ 16)
    (hfailsafe : failsafe = true → granted = true) :
    ∃ result, mibUploadActionHandle table granted state (rspCreate msg) = some result ∧
      result.state.context.mib = copied.context.mib ∧
      result.state.context.mibCopy.list = entries ∧
      result.state.context.mibCopy.num = entries.length ∧
      ((result.sent failsafe msg).field16 0).toNat = entries.length := by
  rw [mibUploadActionHandle, hcopied]
  simp only [Option.map_some, if_true, hnum]
  refine ⟨_, rfl, ?_⟩
  have hcount : (BitVec.ofNat 16 entries.length).toNat = entries.length := by
    rw [BitVec.toNat_ofNat, Nat.mod_eq_of_lt hfew]
  by_cases hzero : BitVec.ofNat 16 entries.length = 0
  · -- nothing is announced, with an error
    have hlength : entries.length = 0 := by
      rw [← hcount, hzero]
      rfl
    rw [if_pos hzero]
    refine ⟨rfl, hlist, hnum, ?_⟩
    rw [UploadResult.sent]
    cases failsafe with
    | true =>
        have hblank : ((rspCreate msg).field16 0).toNat = 0 := by
          rw [OmciMsg.field16, octet_rspCreate, octet_rspCreate]
          rfl
        have herror : (true && OmciError.action != .success) = true := by decide
        dsimp only
        rw [herror, if_pos rfl, hblank, hlength]
    | false =>
        dsimp only
        rw [Bool.false_and, if_neg Bool.false_ne_true,
          OmciMsg.field16_write _ _ (by decide), hcount]
  · rw [if_neg hzero]
    obtain ⟨hmib, hlist', hnum', hsuccess⟩ :=
      timeoutEventAdd_upload copied.timeoutEventRemove granted
    rw [UploadResult.sent_eq msg fun h => hsuccess (hfailsafe h)]
    dsimp only
    rw [hmib, hlist', hnum', context_timeoutEventRemove_upload,
      OmciMsg.field16_write _ _ (by decide), hcount]
    exact ⟨rfl, hlist, hnum, rfl⟩

end Requests

variable {config : Config ω}

/-- MIB_UPLOAD leaves a copy of the MIB and announces its entries. -/
theorem UploadKept.mibUpload {run : UploadRun ω} {failsafe granted : Bool}
    {supply : Resource → Nat → Bool} {msg : OmciMsg} (h : UploadKept config run)
    (hguard : UploadGuard config run (.mibUpload failsafe supply granted msg)) :
    ∃ result, mibUploadActionHandle config.table granted (run.state.withSupply supply)
        (rspCreate msg) = some result ∧
      run.state.context.mib.SameMib result.state.context.mib ∧
      result.state.context.mibCopy.list = uploadEntries config.table run.state.context.mib ∧
      result.state.context.mibCopy.num = (uploadEntries config.table run.state.context.mib).length ∧
      ((result.sent failsafe msg).field16 0).toNat =
        (uploadEntries config.table run.state.context.mib).length := by
  obtain ⟨_, hcopy, hfew, hfailsafe⟩ := hguard
  have hcopied : ∃ copied, (if mibSeqNum config.table
      (run.state.withSupply supply).context.mib ≠ 0
      then (run.state.withSupply supply).mibCopy config.table
      else some (run.state.withSupply supply, .success)) = some (copied, .success) ∧
      run.state.context.mib.SameMib copied.context.mib ∧
      copied.context.mibCopy.list = uploadEntries config.table run.state.context.mib ∧
      copied.context.mibCopy.num =
        (uploadEntries config.table run.state.context.mib).length := by
    split
    · rename_i hseq
      have hseq : mibSeqNum config.table run.state.context.mib ≠ 0 := hseq
      rw [if_pos hseq] at hcopy
      obtain ⟨copied, hmade, hsame, hlist, hnum⟩ :=
        @UploadState.mibCopy_spec _ config.table (run.state.withSupply supply) h.live hcopy
      exact ⟨copied, hmade, ⟨hsame.meList, hsame.meCount, hsame.pmList⟩, hlist, hnum⟩
    · rename_i hseq
      have hseq : ¬ mibSeqNum config.table run.state.context.mib ≠ 0 := hseq
      rw [if_neg hseq] at hcopy
      obtain ⟨mib, hmib, hentries⟩ := hcopy
      obtain ⟨hlist, hnum⟩ := h.copied mib hmib
      exact ⟨_, rfl, ⟨rfl, rfl, rfl⟩, hlist.trans hentries,
        hnum.trans (congrArg List.length hentries)⟩
  obtain ⟨copied, hmade, hsame, hlist, hnum⟩ := hcopied
  obtain ⟨result, hresult, hmib, hlist', hnum', hannounced⟩ :=
    @mibUpload_announced _ _ granted failsafe _ _ _ msg hmade hlist hnum hfew hfailsafe
  exact ⟨result, hresult, hmib ▸ hsame, hlist', hnum', hannounced⟩

/-- What the response says about an entry. -/
theorem mibUploadNextRsp_fields (rsp : OmciMsg) {entry : MibCopyEntry}
    (hfits : entry.values.length ≤ mibUploadNextRspValuesSize) :
    (mibUploadNextRsp rsp entry).field16 0 = entry.classId ∧
      (mibUploadNextRsp rsp entry).field16 2 = entry.instanceId ∧
      (mibUploadNextRsp rsp entry).field16 4 = entry.attrMask ∧
      slice (mibUploadNextRsp rsp entry).octet 6 mibUploadNextRspValuesSize =
        entry.values ++ List.replicate (mibUploadNextRspValuesSize - entry.values.length) 0 := by
  have hoctets : entry.octets =
      entry.values ++ List.replicate (mibUploadNextRspValuesSize - entry.values.length) 0 := by
    rw [MibCopyEntry.octets, List.take_append, List.take_of_length_le hfits, List.take_replicate,
      Nat.min_eq_left (Nat.sub_le _ _)]
  refine ⟨?_, ?_, ?_, ?_⟩
  · rw [← octets16_append entry.classId]
    simp [OmciMsg.field16, mibUploadNextRsp, patch, octets16]
  · rw [← octets16_append entry.instanceId]
    simp [OmciMsg.field16, mibUploadNextRsp, patch, octets16]
  · rw [← octets16_append entry.attrMask]
    simp [OmciMsg.field16, mibUploadNextRsp, patch, octets16]
  · rw [mibUploadNextRsp, OmciMsg.slice_octet_write _ _ _ (by decide), hoctets]
    apply slice_patch_self
    simp
    omega

/-- MIB_UPLOAD_NEXT keeps the MIB and the copy. -/
theorem mibUploadNext_state (granted : Bool) (state : UploadState ω) (msg rsp : OmciMsg) :
    (mibUploadNextActionHandle granted state msg rsp).state.context.mib = state.context.mib ∧
      (mibUploadNextActionHandle granted state msg rsp).state.context.mibCopy.list =
        state.context.mibCopy.list ∧
      (mibUploadNextActionHandle granted state msg rsp).state.context.mibCopy.num =
        state.context.mibCopy.num := by
  rw [mibUploadNextActionHandle]
  split
  · exact ⟨rfl, rfl, rfl⟩
  · split
    · exact ⟨rfl, rfl, rfl⟩
    · obtain ⟨hmib, hlist, hnum, _⟩ := timeoutEventAdd_upload state.timeoutEventRemove granted
      dsimp only
      rw [hmib, hlist, hnum, context_timeoutEventRemove_upload]
      exact ⟨rfl, rfl, rfl⟩

theorem mibUploadNext_rsp {granted : Bool} {state : UploadState ω} {msg rsp : OmciMsg}
    {entry : MibCopyEntry}
    (hentry : state.context.mibCopy.list[(msg.field16 0).toNat]? = some entry) :
    (mibUploadNextActionHandle granted state msg rsp).rsp = mibUploadNextRsp rsp entry ∧
      (granted = true → (mibUploadNextActionHandle granted state msg rsp).error = .success) := by
  have hsome : state.context.mibCopy.list.isEmpty = false := by
    cases hlist : state.context.mibCopy.list with
    | nil => simp [hlist] at hentry
    | cons _ _ => rfl
  rw [mibUploadNextActionHandle, hsome, if_neg Bool.false_ne_true, hentry]
  exact ⟨rfl, (timeoutEventAdd_upload state.timeoutEventRemove granted).2.2.2⟩

theorem mibUploadNext_blank {granted : Bool} {state : UploadState ω} {msg rsp : OmciMsg}
    (hlength : state.context.mibCopy.list.length ≤ (msg.field16 0).toNat) :
    mibUploadNextActionHandle granted state msg rsp = ⟨state, .success, rsp⟩ := by
  rw [mibUploadNextActionHandle, List.getElem?_eq_none hlength]
  exact ite_self _

/-- Calls keep the copy, unless a reset rebuilds the MIB. -/
theorem mibCopy_run_of_not_rebuilds {context : OmciContext ω} {call : MibCall}
    (hkept : rebuilds config context call = false) :
    (call.run config context).mibCopy = context.mibCopy := by
  cases call with
  | create active classId instanceId initData suppressAvc => rfl
  | delete classId instanceId => rfl
  | reset force =>
      rw [rebuilds] at hkept
      rw [MibCall.run, mibReset]
      cases hprogress : context.mibResetInProgress with
      | true => rfl
      | false =>
          have hneeded : resetNeeded config force context = false := by
            rwa [hprogress, Bool.not_false, Bool.true_and] at hkept
          rw [if_neg Bool.false_ne_true, hneeded, if_neg Bool.false_ne_true]
          split <;> rfl

/-- A reset that rebuilds the MIB makes a copy of it. -/
theorem mibCopy_run_of_rebuilds {context : OmciContext ω} {call : MibCall}
    (hrebuilds : rebuilds config context call = true)
    (hgranted : (mibRebuild config context.mib).1.CopyGranted) :
    (call.run config context).mibCopy.list =
        uploadEntries config.table (mibRebuild config context.mib).1 ∧
      (call.run config context).mibCopy.num =
        (uploadEntries config.table (mibRebuild config context.mib).1).length := by
  cases call with
  | create active classId instanceId initData suppressAvc => cases hrebuilds
  | delete classId instanceId => cases hrebuilds
  | reset force =>
      rw [rebuilds, Bool.and_eq_true, Bool.not_eq_true'] at hrebuilds
      obtain ⟨mib, hcopy⟩ := mibCopy_eq config.table hgranted
      rw [MibCall.run, mibReset, hrebuilds.1, if_neg Bool.false_ne_true, hrebuilds.2, if_pos rfl]
      dsimp only
      rw [hcopy]
      exact ⟨rfl, rfl⟩

/-- Every step keeps the copy. -/
theorem uploadStep_kept {run run' : UploadRun ω} {event : UploadEvent ω}
    (h : UploadKept config run) (hguard : UploadGuard config run event)
    (hstep : uploadStep config run event = some run') : UploadKept config run' := by
  cases event with
  | mibUpload failsafe supply granted msg =>
      obtain ⟨result, hresult, hsame, hlist, hnum, _⟩ := h.mibUpload hguard
      rw [uploadStep] at hstep
      rw [hresult] at hstep
      obtain rfl := Option.some.inj hstep
      refine ⟨hsame.mibInv h.inv, hsame.allLive h.live, ?_, ?_⟩
      · intro mib hmib
        have hentries : uploadEntries config.table run.state.context.mib =
            uploadEntries config.table mib := by
          obtain ⟨_, hcopy, _⟩ := hguard
          split at hmib
          · cases hmib
            rfl
          · rename_i hseq
            rw [if_neg hseq] at hcopy
            obtain ⟨copied, hcopied, hsame'⟩ := hcopy
            rw [Option.mem_def] at hmib hcopied
            rw [hmib] at hcopied
            cases hcopied
            exact hsame'.symm
        rw [hlist, hnum, hentries]
        exact ⟨rfl, rfl⟩
      · rintro promised ⟨⟩
        exact ⟨hlist, (snapshot_of_copySafe h.inv hguard.1).fits⟩
  | mibUploadNext failsafe granted msg =>
      obtain rfl := Option.some.inj hstep
      obtain ⟨hmib, hlist, hnum⟩ := mibUploadNext_state granted run.state msg (rspCreate msg)
      refine ⟨?_, ?_, ?_, ?_⟩
      · rw [hmib]
        exact h.inv
      · rw [hmib]
        exact h.live
      · rw [hlist, hnum]
        exact h.copied
      · rw [hlist]
        exact h.promised
  | timeout =>
      rw [uploadStep, UploadState.timeout] at hstep
      split at hstep
      · obtain rfl := Option.some.inj hstep
        exact ⟨h.inv, h.live, nofun, nofun⟩
      · cases hstep
  | mib event =>
      obtain ⟨hpm, hrebuilt⟩ := hguard
      have hkept := mibStep_kept h.inv h.live hpm rfl
      obtain rfl := Option.some.inj hstep
      cases hcall : rebuilds config (run.state.context.withSupply event.supply) event.call with
      | false =>
          have hcopy := mibCopy_run_of_not_rebuilds hcall
          refine ⟨hkept.1, hkept.2, ?_, ?_⟩
          · dsimp only
            rw [hcopy]
            exact h.copied
          · dsimp only
            rw [hcopy]
            exact h.promised
      | true =>
          obtain ⟨hgranted, hpromised⟩ := hrebuilt hcall
          obtain ⟨hlist, hnum⟩ := mibCopy_run_of_rebuilds hcall hgranted
          refine ⟨hkept.1, hkept.2, ?_, ?_⟩
          · rintro mib ⟨⟩
            exact ⟨hlist, hnum⟩
          · intro promised hmem
            exact ⟨hlist.trans (hpromised promised hmem), (h.promised promised hmem).2⟩
  | change store =>
      obtain rfl := Option.some.inj hstep
      exact ⟨⟨h.inv.ascending, h.inv.known, h.inv.count⟩, h.live, h.copied, h.promised⟩

theorem uploadEntries_ne_nil {table : ClassTable ω} {ctx : Context ω}
    (h : ∃ me ∈ table.entities ctx, me.1.isUploadable = true) (hsnapshot : Snapshot table ctx
      ⟨uploadEntries table ctx, (uploadEntries table ctx).length, false⟩) :
    (uploadEntries table ctx).length ≠ 0 := by
  obtain ⟨me, hme, huploadable⟩ := h
  obtain ⟨entry, hentry, _⟩ := hsnapshot.present me hme huploadable
  exact (List.length_pos_of_mem hentry).ne'

/-- Requests are answered from the copy. -/
theorem UploadKept.answer {run : UploadRun ω} {event : UploadEvent ω}
    (h : UploadKept config run) (hguard : UploadGuard config run event) :
    UploadAnswer config run event := by
  cases event with
  | mibUpload failsafe supply granted msg =>
      obtain ⟨result, hresult, _, _, _, hannounced⟩ := h.mibUpload hguard
      have hsnapshot := snapshot_of_copySafe h.inv hguard.1
      refine ⟨result, hresult, hsnapshot, hannounced, fun hexists hzero => ?_⟩
      rw [hzero] at hannounced
      exact uploadEntries_ne_nil hexists hsnapshot hannounced.symm
  | mibUploadNext failsafe granted msg =>
      intro promised hpromised
      obtain ⟨hlist, hfits⟩ := h.promised promised hpromised
      constructor
      · intro entry hentry
        have hmem : entry ∈ promised := List.mem_of_getElem? hentry
        rw [← hlist] at hentry
        obtain ⟨hrsp, hsuccess⟩ :=
          @mibUploadNext_rsp ω granted run.state msg (rspCreate msg) entry hentry
        rw [UploadResult.sent_eq msg fun hfailsafe => hsuccess (hguard hfailsafe), hrsp]
        exact mibUploadNextRsp_fields _ (hfits entry hmem)
      · intro hlength
        rw [← hlist] at hlength
        rw [mibUploadNext_blank hlength]
        exact UploadResult.sent_eq msg fun _ => rfl
  | timeout => trivial
  | mib event => trivial
  | change store => trivial

/-- `mib_create` leaves a copy of the MIB it built. -/
theorem uploadKept_start (config : Config ω) {start : OmciContext ω} (hstart : start.mib.PmGranted)
    (hcopy : (mibRebuild config start.mib.cleared).1.CopyGranted) :
    UploadKept config (.start config start) := by
  have ⟨hinv, hlive⟩ := @mibCreate_live _ config start hstart
  refine ⟨hinv, hlive, ?_, nofun⟩
  intro mib hmib
  rw [UploadRun.start] at hmib ⊢
  dsimp only at hmib ⊢
  split at hmib
  · rename_i hcreated
    cases hmib
    rw [Bool.and_eq_true] at hcreated
    have hrebuilds : rebuilds config { start with mib := start.mib.cleared } (.reset true) = true := by
      rw [rebuilds, hcreated.2]
      rfl
    rw [mibCreate, if_pos hcreated.1]
    exact mibCopy_run_of_rebuilds hrebuilds hcopy
  · cases hmib

/-- In every run that meets the condition MIB_UPLOAD announces the entries of a snapshot of the
MIB, and MIB_UPLOAD_NEXT returns them as they were. -/
theorem uploadAnswer_of_guard (config : Config ω) {start : OmciContext ω}
    (hstart : start.mib.PmGranted)
    (hcopy : (mibRebuild config start.mib.cleared).1.CopyGranted) {run : UploadRun ω}
    (hreach : ReachOn (uploadStep config) (UploadGuard config) (.start config start) run)
    {event : UploadEvent ω} (hguard : UploadGuard config run event) :
    UploadAnswer config run event := by
  have hkept : UploadKept config run := hreach.invariant (uploadKept_start config hstart hcopy)
    fun _ _ _ hbefore hguard hstep => uploadStep_kept hbefore hguard hstep
  exact hkept.answer hguard

/-! ## A run -/

/-- A MIB template with the ONU data entity and one Ethernet port. -/
def uploadConfig : Config Unit where
  table := sampleTable
  onReset := .create true omciMeOnuData 0 (some [0]) 0xffff fun _ _ =>
    .create true omciMePptpEthernetUni 0x101 (some (List.replicate 17 0)) 0xffff
      fun err _ => .done err
  lctPort := 0xff
  mapperReset := id

def uploadRequest : OmciMsg := OmciMsg.zero

theorem entities_uploadConfig :
    sampleTable.entities (UploadRun.start uploadConfig sampleStart).state.context.mib =
      [(meOnuDataClass, ⟨0, 0, true, true⟩),
        (mePptpEthernetUniClass, ⟨1, 0x101, true, true⟩)] := rfl

/-- It can be copied safely. -/
theorem copySafe_uploadConfig :
    CopySafe sampleTable (UploadRun.start uploadConfig sampleStart).state.context.mib := by
  rw [copySafe_iff, Packable, entities_uploadConfig]
  · refine ⟨fun me hme _ => ?_, fun me hme _ attr _ _ => ?_⟩
    · rcases List.mem_pair.mp hme with rfl | rfl <;> decide
    · rcases List.mem_pair.mp hme with rfl | rfl <;> rw [ReadsCurrent, if_pos (by decide)]
      all_goals
        rintro ⟨other, _, _, get, hget, hfailed⟩
        fin_cases other <;> cases hget <;> exact absurd rfl hfailed
  · rw [entities_uploadConfig]
    intro me hme _
    rcases List.mem_pair.mp hme with rfl | rfl <;> exact ⟨by decide, .inl (by decide)⟩

def uploadSampleEntries : List MibCopyEntry :=
  [⟨2, 0, 0x8000, [0]⟩, ⟨11, 0x101, 0xfffe, List.replicate 17 0⟩]

theorem uploadEntries_uploadConfig :
    uploadEntries sampleTable (UploadRun.start uploadConfig sampleStart).state.context.mib =
      uploadSampleEntries := by
  decide

theorem uploadEntries_mibRebuild :
    uploadEntries sampleTable (mibRebuild uploadConfig sampleStart.mib.cleared).1 =
      uploadSampleEntries := by
  decide

/-- The first MIB_UPLOAD may use the copy that `mib_create` made. -/
theorem uploadGuard_uploadConfig :
    UploadGuard uploadConfig (.start uploadConfig sampleStart)
      (.mibUpload false (fun _ _ => true) true uploadRequest) := by
  have hseq : ¬ mibSeqNum uploadConfig.table
      (UploadRun.start uploadConfig sampleStart).state.context.mib ≠ 0 := by
    decide
  refine ⟨copySafe_uploadConfig, ?_, ?_, nofun⟩
  · rw [if_neg hseq]
    exact ⟨_, rfl, uploadEntries_mibRebuild.trans uploadEntries_uploadConfig.symm⟩
  · change (uploadEntries sampleTable _).length < 2 ^ 16
    rw [uploadEntries_uploadConfig]
    decide

/-- `mib_create` had the memory for it. -/
theorem copyGranted_uploadConfig :
    (mibRebuild uploadConfig sampleStart.mib.cleared).1.CopyGranted := by
  intro n
  with_unfolding_all exact Eq.refl true

/-- The ONU data entity and the port are announced and returned. -/
theorem uploadAnswer_uploadConfig : ∃ run,
    uploadStep uploadConfig (.start uploadConfig sampleStart)
        (.mibUpload false (fun _ _ => true) true uploadRequest) = some run ∧
      run.promised = some uploadSampleEntries ∧
      UploadAnswer uploadConfig run (.mibUploadNext false true uploadRequest) := by
  have hmade : ∃ run, uploadStep uploadConfig (.start uploadConfig sampleStart)
      (.mibUpload false (fun _ _ => true) true uploadRequest) = some run := ⟨_, rfl⟩
  obtain ⟨run, hstep⟩ := hmade
  have hpromised : run.promised = some (uploadEntries sampleTable
      (UploadRun.start uploadConfig sampleStart).state.context.mib) := by
    obtain rfl := Option.some.inj hstep
    rfl
  rw [uploadEntries_uploadConfig] at hpromised
  exact ⟨run, hstep, hpromised, uploadAnswer_of_guard uploadConfig (fun _ => rfl)
    copyGranted_uploadConfig (.tail .refl uploadGuard_uploadConfig hstep) nofun⟩

def uploadSampleEvents : List (UploadEvent Unit) :=
  [.mibUpload false (fun _ _ => true) true uploadRequest, .timeout]

/-- The next one announces nothing, though both entities are there. -/
theorem uploadConfig_not_uploadAnswer : ¬ ∀ run event,
    Reach (uploadStep uploadConfig) (.start uploadConfig sampleStart) run →
      UploadAnswer uploadConfig run event := by
  intro hanswer
  have hrun : ∃ run, Reach (uploadStep uploadConfig) (.start uploadConfig sampleStart) run ∧
      (uploadEntries sampleTable run.state.context.mib).length = 2 ∧
      (mibUploadActionHandle sampleTable true (run.state.withSupply fun _ _ => true)
        (rspCreate uploadRequest)).map (fun result =>
          (result.sent false uploadRequest).field16 0) = some 0 := by
    have htest : (execOn (uploadStep uploadConfig) (fun _ _ => True)
        (.start uploadConfig sampleStart) uploadSampleEvents).any (fun run =>
          decide ((uploadEntries sampleTable run.state.context.mib).length = 2 ∧
            (mibUploadActionHandle sampleTable true (run.state.withSupply fun _ _ => true)
              (rspCreate uploadRequest)).map (fun result =>
                (result.sent false uploadRequest).field16 0) = some 0)) = true := by decide
    exact exists_reachOn_of_execOn htest
  obtain ⟨run, hreach, hlength, hnothing⟩ := hrun
  obtain ⟨result, hresult, _, hannounced, _⟩ := hanswer run
    (.mibUpload false (fun _ _ => true) true uploadRequest) hreach
  have hresult : mibUploadActionHandle sampleTable true (run.state.withSupply fun _ _ => true)
      (rspCreate uploadRequest) = some result := hresult
  rw [hresult, Option.map_some, Option.some.injEq] at hnothing
  have hlength' := hannounced.trans hlength
  rw [hnothing] at hlength'
  cases hlength'

end FalconGpon.Omci
