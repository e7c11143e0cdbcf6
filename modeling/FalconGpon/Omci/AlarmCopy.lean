/-
# Uploading the alarms

GET_ALL_ALARMS in `omci_onu_data.c` makes a copy of the alarm bitmaps that are not empty and
announces their number; the GET_ALL_ALARMS_NEXT requests that follow return it entry by entry
(`AlarmAnswer`). The copy is dropped when its timer expires.

`alarmAnswer_of_guard`: in every run in which each copy begins empty and is made with enough
memory all requests are answered that way. A GET_ALL_ALARMS without memory for the timer
leaves a copy that the next one takes for empty.
-/

import FalconGpon.Omci.MibSnapshot
import FalconGpon.Omci.MibStore
import FalconGpon.Omci.Pm
import Mathlib.Tactic.FinCases

namespace FalconGpon.Omci

open FalconGpon.Lib Context

variable {ω : Type}

/-- `OMCI_GET_ALL_ALARMS_MODE_NO_ARC`. -/
def omciGetAllAlarmsModeNoArc : Byte := 1

/-- `OMCI_ARC_ENABLED`. -/
def omciArcEnabled : Byte := 1

/-- `OMCI_ALARM_BITMAP_SIZE`. -/
def omciAlarmBitmapSize : Nat := 28

def AlarmBitmap.octets (alarmBitmap : AlarmBitmap) : List Byte :=
  (List.range omciAlarmBitmapSize).map fun i =>
    alarmBitmap.extractLsb' (8 * (omciAlarmBitmapSize - 1 - i)) 8

theorem AlarmBitmap.length_octets (alarmBitmap : AlarmBitmap) :
    alarmBitmap.octets.length = omciAlarmBitmapSize := by
  rw [AlarmBitmap.octets, List.length_map, List.length_range]

/-! ## State -/

/-- What a `struct me` keeps about alarms. -/
structure MeAlarm where
  /-- `alarm_bitmap`. -/
  alarmBitmap : Option AlarmBitmap
  /-- `arc_context`, with its `arc_attr`; that is 0 until an init handler sets it. -/
  arcAttr : Option (Option Attr)

/-- `struct alarm_copy_entry`. -/
structure AlarmCopyEntry where
  classId : ClassId
  instanceId : InstanceId
  alarmBitmap : AlarmBitmap
deriving DecidableEq

/-- `struct alarm_copy`. -/
structure AlarmCopy where
  list : List AlarmCopyEntry
  /-- `timeout_id` is set. -/
  timeout : Bool

/-- The MIB with its alarms. -/
structure AlarmState (ω : Type) where
  context : OmciContext ω
  alarms : MeRef → MeAlarm
  alarmCopy : AlarmCopy
  /-- The event of the copy's timer is on the timeout list. -/
  pending : Bool
  /-- `mib.alarm_seq_num`. -/
  alarmSeqNum : Byte

/-- What the system grants to a request. -/
structure AlarmEnv where
  listEntryAlloc : Nat → Bool
  timeoutEventAdd : Bool

/-- What a handler returns. -/
structure AlarmResult (ω : Type) where
  state : AlarmState ω
  error : OmciError
  rsp : OmciMsg

def AlarmResult.sent (result : AlarmResult ω) (failsafe : Bool) (msg : OmciMsg) : OmciMsg :=
  if failsafe && result.error != .success then rspCreate msg else result.rsp

/-! ## GET_ALL_ALARMS -/

/-- `me_attr_read` of an attribute of one byte; `none` if its size is another. -/
def meAttrReadByte (cls : MeClass ω) (ref : MeRef) (attr : Attr) (store : Store ω) :
    Option (Store ω × Except OmciError Byte) :=
  if (cls.attrs attr).size ≠ 1 then none
  else
    match meDataRead cls ref .curr store with
    | (store, .success, data) => some (store, .ok (data (cls.attrs attr).offset))
    | (store, err, _) => some (store, .error err)

/-- The test for entities with ARC enabled; `none` if it reads in front of the attribute
table, where an ARC context names no attribute. -/
def arcExcluded (noArc : Bool) (cls : MeClass ω) (ref : MeRef) (arcAttr : Option (Option Attr))
    (store : Store ω) : Option (Store ω × Bool) :=
  if noArc then
    match arcAttr with
    | none => some (store, false)
    | some none => none
    | some (some attr) =>
        match meAttrReadByte cls ref attr store with
        | none => none
        | some (store, .ok arc) => some (store, arc == omciArcEnabled)
        | some (store, .error _) => some (store, false)
  else some (store, false)

/-- The walk over all entities, with the entries it adds; `none` if it reads a freed record. -/
def alarmCopyFill (noArc : Bool) (alarms : MeRef → MeAlarm) :
    List (MeClass ω × MeEntry) → (Nat → Bool) → Store ω →
      Option (Store ω × List AlarmCopyEntry)
  | [], _, store => some (store, [])
  | (cls, entry) :: entities, listEntryAlloc, store =>
      if !entry.live then none
      else
        match arcExcluded noArc cls entry.ref (alarms entry.ref).arcAttr store with
        | none => none
        | some (store, true) => alarmCopyFill noArc alarms entities listEntryAlloc store
        | some (store, false) =>
            match (alarms entry.ref).alarmBitmap with
            | none => alarmCopyFill noArc alarms entities listEntryAlloc store
            | some alarmBitmap =>
                if hasProp cls.prop MeProp.pm || isAlarmBitmapEmpty (some alarmBitmap) then
                  alarmCopyFill noArc alarms entities listEntryAlloc store
                else
                  let copied := alarmCopyFill noArc alarms entities
                    (fun n => listEntryAlloc (n + 1)) store
                  if listEntryAlloc 0 then
                    copied.map fun (store, list) =>
                      (store, ⟨cls.classId, entry.instanceId, alarmBitmap⟩ :: list)
                  else copied

def AlarmState.setStore (state : AlarmState ω) (store : Store ω) : AlarmState ω :=
  { state with context := { state.context with mib := { state.context.mib with store := store } } }

/-- `timeout_event_add` for the copy. -/
def AlarmState.timeoutEventAdd (state : AlarmState ω) (granted : Bool) : AlarmState ω × OmciError :=
  if granted then
    ({ state with alarmCopy := { state.alarmCopy with timeout := true }, pending := true },
      .success)
  else (state, .memory)

/-- `timeout_event_remove`, if the copy has a timer. -/
def AlarmState.timeoutEventRemove (state : AlarmState ω) : AlarmState ω :=
  if state.alarmCopy.timeout then { state with pending := false } else state

def AlarmState.kept (state : AlarmState ω) : List AlarmCopyEntry :=
  if state.alarmCopy.timeout then [] else state.alarmCopy.list

/-- `get_all_alarms_action_handle`. -/
def getAllAlarmsActionHandle (table : ClassTable ω) (env : AlarmEnv) (state : AlarmState ω)
    (msg rsp : OmciMsg) : Option (AlarmResult ω) :=
  let noArc := msg.octet 0 == omciGetAllAlarmsModeNoArc
  match alarmCopyFill noArc state.alarms (table.entities state.context.mib) env.listEntryAlloc
      state.context.mib.handlerStore with
  | none => none
  | some (store, entries) =>
      let list := state.kept ++ entries
      let state := state.timeoutEventRemove.setStore store
      let state := { state with
        alarmCopy := { state.alarmCopy with list := list }
        alarmSeqNum := 0 }
      let (state, err) := state.timeoutEventAdd env.timeoutEventAdd
      some ⟨state, err, rsp.write 0 (octets16 (BitVec.ofNat 16 entries.length))⟩

/-! ## GET_ALL_ALARMS_NEXT -/

def getAllAlarmsNextRsp (rsp : OmciMsg) (entry : AlarmCopyEntry) : OmciMsg :=
  ((rsp.write 4 entry.alarmBitmap.octets).write 0 (octets16 entry.classId)).write 2
    (octets16 entry.instanceId)

/-- `get_all_alarms_next_action_handle`. -/
def getAllAlarmsNextActionHandle (env : AlarmEnv) (state : AlarmState ω) (msg rsp : OmciMsg) :
    AlarmResult ω :=
  if state.alarmCopy.list.isEmpty then ⟨state, .success, rsp.withResult mrCmdSuccess⟩
  else
    match state.alarmCopy.list[(msg.field16 0).toNat]? with
    | none => ⟨state, .success, rsp⟩
    | some entry =>
        let (state, err) := state.timeoutEventRemove.timeoutEventAdd env.timeoutEventAdd
        ⟨state, err, getAllAlarmsNextRsp rsp entry⟩

/-- `alarm_copy_clean_timeout_handle`. -/
def AlarmState.timeout (state : AlarmState ω) : Option (AlarmState ω) :=
  if state.pending then some { state with alarmCopy := ⟨[], false⟩, pending := false }
  else none

/-! ## What is announced -/

/-- The entity is under alarm reporting control. -/
def underArc (cls : MeClass ω) (ref : MeRef) (arcAttr : Option (Option Attr)) (store : Store ω) :
    Bool :=
  match arcAttr with
  | some (some attr) => currentValue cls ref store attr == [omciArcEnabled]
  | some none | none => false

/-- The entry for an entity whose alarms are to be reported. -/
def alarmEntry (noArc : Bool) (alarms : MeRef → MeAlarm) (store : Store ω)
    (me : MeClass ω × MeEntry) : Option AlarmCopyEntry :=
  match (alarms me.2.ref).alarmBitmap with
  | none => none
  | some alarmBitmap =>
      if hasProp me.1.prop MeProp.pm || alarmBitmap == 0 ||
          (noArc && underArc me.1 me.2.ref (alarms me.2.ref).arcAttr store) then none
      else some ⟨me.1.classId, me.2.instanceId, alarmBitmap⟩

/-- The alarms that a request is to report. -/
def AlarmState.reported (table : ClassTable ω) (state : AlarmState ω) (msg : OmciMsg) :
    List AlarmCopyEntry :=
  (table.entities state.context.mib).filterMap
    (alarmEntry (msg.octet 0 == omciGetAllAlarmsModeNoArc) state.alarms
      state.context.mib.handlerStore)

/-- Reading the ARC attribute tells whether the entity is under ARC. -/
def ArcRead (noArc : Bool) (alarms : MeRef → MeAlarm) (store : Store ω)
    (me : MeClass ω × MeEntry) : Prop :=
  arcExcluded noArc me.1 me.2.ref (alarms me.2.ref).arcAttr store =
    some (store, noArc && underArc me.1 me.2.ref (alarms me.2.ref).arcAttr store)

/-- It does for an entity that stores its attributes in the order of the table, whose get
handlers succeed and whose ARC context names an attribute of one byte. -/
theorem arcRead_of_laidOut {noArc : Bool} {alarms : MeRef → MeAlarm} {store : Store ω}
    {me : MeClass ω × MeEntry} {attr : Attr} (harc : (alarms me.2.ref).arcAttr = some (some attr))
    (hsize : (me.1.attrs attr).size = 1) (hexist : me.1.isMeAttrExist attr = true)
    (hlaid : me.1.laidOut = true)
    (hpm : hasProp me.1.prop (MeProp.pm ||| MeProp.pmInternal) = false)
    (hget : ∀ attr get, (me.1.attrs attr).get = some get →
      (get.run me.2.ref store (me.1.attrValue attr (store.me me.2.ref).bytes)).1 = .success) :
    ArcRead noArc alarms store me := by
  cases noArc with
  | false => rfl
  | true =>
      have hstore := @meDataRead_store_of_not_pm _ me.1 me.2.ref store hpm .curr
      have hnone : ∀ attr, ¬ me.1.GetFails me.2.ref (meDataRead me.1 me.2.ref .curr store).1 attr :=
        hstore.symm ▸ not_getFails hget
      have herror := (meDataRead_success_iff hlaid).mpr hnone
      have hread := meDataRead_laidOut hlaid hnone hexist
      rw [hstore] at hread
      generalize hresult : meDataRead me.1 me.2.ref .curr store = result at hstore herror hread
      obtain ⟨store', err, data⟩ := result
      dsimp only at hstore herror hread
      subst hstore herror
      have hbyte : me.1.attrValue attr data = [data (me.1.attrs attr).offset] := by
        rw [MeClass.attrValue, hsize]
        rfl
      have hattr : meAttrReadByte me.1 me.2.ref attr store' =
          some (store', .ok (data (me.1.attrs attr).offset)) := by
        rw [meAttrReadByte, if_neg (not_not.mpr hsize), hresult]
      rw [ArcRead, harc]
      simp only [arcExcluded, if_true, hattr, underArc, Bool.true_and, ← hread, hbyte]
      simp

/-- With enough memory the walk copies the entries of all entities. -/
theorem alarmCopyFill_eq {noArc : Bool} {alarms : MeRef → MeAlarm} {store : Store ω}
    {listEntryAlloc : Nat → Bool} (hgranted : ∀ n, listEntryAlloc n = true)
    {entities : List (MeClass ω × MeEntry)} (hlive : ∀ me ∈ entities, me.2.live = true)
    (harc : ∀ me ∈ entities, ArcRead noArc alarms store me) :
    alarmCopyFill noArc alarms entities listEntryAlloc store =
      some (store, entities.filterMap (alarmEntry noArc alarms store)) := by
  induction entities generalizing listEntryAlloc with
  | nil => rfl
  | cons me entities ih =>
      obtain ⟨cls, entry⟩ := me
      have hrest {alloc : Nat → Bool} (halloc : ∀ n, alloc n = true) :=
        ih halloc (fun me hme => hlive me (List.mem_cons_of_mem _ hme))
          fun me hme => harc me (List.mem_cons_of_mem _ hme)
      have hlive : entry.live = true := hlive _ List.mem_cons_self
      have hread : ArcRead noArc alarms store (cls, entry) := harc _ List.mem_cons_self
      rw [ArcRead] at hread
      dsimp only at hread
      rw [alarmCopyFill, hlive, hread, List.filterMap_cons, alarmEntry]
      simp only [Bool.not_true, Bool.false_eq_true, if_false]
      cases hexcluded : noArc && underArc cls entry.ref (alarms entry.ref).arcAttr store with
      | true =>
          cases (alarms entry.ref).alarmBitmap <;> simp [hrest hgranted]
      | false =>
          cases (alarms entry.ref).alarmBitmap with
          | none => simp [hrest hgranted]
          | some alarmBitmap =>
              dsimp only
              rw [hgranted 0, if_pos rfl, hrest hgranted, hrest fun n => hgranted (n + 1)]
              have hempty : isAlarmBitmapEmpty (some alarmBitmap) = (alarmBitmap == 0) := rfl
              rw [hempty, Bool.or_false]
              cases hasProp cls.prop MeProp.pm || alarmBitmap == 0 <;> rfl

/-! ## Runs -/

/-- The MIB with its alarms, with what the last GET_ALL_ALARMS was to report; nothing is
expected any more once the copy's timer has expired. -/
structure AlarmRun (ω : Type) where
  state : AlarmState ω
  promised : Option (List AlarmCopyEntry)

/-- What can happen. -/
inductive AlarmEvent (ω : Type)
  | getAllAlarms (failsafe : Bool) (env : AlarmEnv) (msg : OmciMsg)
  | getAllAlarmsNext (failsafe : Bool) (env : AlarmEnv) (msg : OmciMsg)
  | timeout
  /-- Entities are created or deleted. -/
  | mib (event : MibEvent) (alarms : MeRef → MeAlarm)
  /-- Alarms and attributes change. -/
  | change (store : Store ω) (alarms : MeRef → MeAlarm)

/-- One step. -/
def alarmStep (config : Config ω) (run : AlarmRun ω) : AlarmEvent ω → Option (AlarmRun ω)
  | .getAllAlarms _ env msg =>
      (getAllAlarmsActionHandle config.table env run.state msg (rspCreate msg)).map fun result =>
        ⟨result.state, some (run.state.reported config.table msg)⟩
  | .getAllAlarmsNext _ env msg =>
      some { run with
        state := (getAllAlarmsNextActionHandle env run.state msg (rspCreate msg)).state }
  | .timeout => run.state.timeout.map fun state => ⟨state, none⟩
  | .mib event alarms =>
      (mibStep config run.state.context event).map fun context =>
        { run with state := { run.state with context := context, alarms := alarms } }
  | .change store alarms =>
      some { run with state := { run.state.setStore store with alarms := alarms } }

/-- The answer to a request is as the alarms want it. -/
def AlarmAnswer (config : Config ω) (run : AlarmRun ω) : AlarmEvent ω → Prop
  | .getAllAlarms failsafe env msg =>
      let reported := run.state.reported config.table msg
      ∃ result, getAllAlarmsActionHandle config.table env run.state msg (rspCreate msg) =
          some result ∧
        ((result.sent failsafe msg).field16 0).toNat = reported.length ∧
        (reported.map fun entry => (entry.classId, entry.instanceId)).Nodup
  | .getAllAlarmsNext failsafe env msg =>
      let result := getAllAlarmsNextActionHandle env run.state msg (rspCreate msg)
      let rsp := result.sent failsafe msg
      ∀ promised ∈ run.promised, ∀ entry ∈ promised[(msg.field16 0).toNat]?,
        rsp.field16 0 = entry.classId ∧ rsp.field16 2 = entry.instanceId ∧
          slice rsp.octet 4 omciAlarmBitmapSize = entry.alarmBitmap.octets
  | .timeout | .mib _ _ | .change _ _ => True

/-- The condition on a step: the copy begins empty, there is memory for its entries and their
number fits the response, and reading the ARC attributes tells which entities are under ARC. In
failsafe mode the timer is needed as well. No entity is denied its PM list entry. -/
def AlarmGuard (config : Config ω) (run : AlarmRun ω) : AlarmEvent ω → Prop
  | .getAllAlarms failsafe env msg =>
      run.state.kept = [] ∧ (∀ n, env.listEntryAlloc n = true) ∧
        (∀ me ∈ config.table.entities run.state.context.mib,
          ArcRead (msg.octet 0 == omciGetAllAlarmsModeNoArc) run.state.alarms
            run.state.context.mib.handlerStore me) ∧
        (run.state.reported config.table msg).length < 2 ^ 16 ∧
        (failsafe = true → env.timeoutEventAdd = true)
  | .getAllAlarmsNext failsafe env _ => failsafe = true → env.timeoutEventAdd = true
  | .timeout => True
  | .mib event _ => event.PmGranted
  | .change _ _ => True

/-- No alarms have been uploaded yet. -/
def AlarmRun.start (context : OmciContext ω) (alarms : MeRef → MeAlarm) : AlarmRun ω where
  state :=
    { context := context
      alarms := alarms
      alarmCopy := ⟨[], false⟩
      pending := false
      alarmSeqNum := 0 }
  promised := none

/-- The copy holds what is expected, and the MIB no freed records. -/
structure AlarmCopied (config : Config ω) (run : AlarmRun ω) : Prop where
  inv : MibInv config.table run.state.context.mib
  live : run.state.context.mib.AllLive
  list : ∀ promised ∈ run.promised, run.state.alarmCopy.list = promised

section Requests

variable {config : Config ω} {env : AlarmEnv}

@[simp]
theorem alarmCopy_timeoutEventRemove (state : AlarmState ω) :
    state.timeoutEventRemove.alarmCopy = state.alarmCopy := by
  rw [AlarmState.timeoutEventRemove]
  split <;> rfl

@[simp]
theorem context_timeoutEventRemove (state : AlarmState ω) :
    state.timeoutEventRemove.context = state.context := by
  rw [AlarmState.timeoutEventRemove]
  split <;> rfl

theorem timeoutEventAdd_spec (state : AlarmState ω) (granted : Bool) :
    (state.timeoutEventAdd granted).1.context = state.context ∧
      (state.timeoutEventAdd granted).1.alarmCopy.list = state.alarmCopy.list ∧
      (granted = true → (state.timeoutEventAdd granted).2 = .success) := by
  rw [AlarmState.timeoutEventAdd]
  cases granted with
  | true => exact ⟨rfl, rfl, fun _ => rfl⟩
  | false => exact ⟨rfl, rfl, nofun⟩

theorem AlarmResult.sent_eq {result : AlarmResult ω} {failsafe : Bool} (msg : OmciMsg)
    (h : failsafe = true → result.error = .success) : result.sent failsafe msg = result.rsp := by
  rw [AlarmResult.sent]
  cases failsafe with
  | true => simp [h rfl]
  | false => rfl

/-- GET_ALL_ALARMS copies what it is to report and announces how much that is. -/
theorem getAllAlarms_spec {run : AlarmRun ω} {failsafe : Bool} {msg : OmciMsg}
    (h : AlarmCopied config run) (hguard : AlarmGuard config run (.getAllAlarms failsafe env msg)) :
    ∃ result, getAllAlarmsActionHandle config.table env run.state msg (rspCreate msg) =
        some result ∧
      result.state.context.mib.meList = run.state.context.mib.meList ∧
      result.state.context.mib.meCount = run.state.context.mib.meCount ∧
      result.state.alarmCopy.list = run.state.reported config.table msg ∧
      ((result.sent failsafe msg).field16 0).toNat =
        (run.state.reported config.table msg).length := by
  obtain ⟨hempty, hgranted, harc, hfew, htimer⟩ := hguard
  have hlive : ∀ me ∈ config.table.entities run.state.context.mib, me.2.live = true :=
    fun me hme => h.live _ me.2 (ClassTable.mem_entities.mp hme).2
  have hfill := alarmCopyFill_eq hgranted hlive harc
  rw [getAllAlarmsActionHandle]
  simp only [hfill, hempty, List.nil_append]
  refine ⟨_, rfl, ?_⟩
  generalize hcopied : ({ run.state.timeoutEventRemove.setStore
    run.state.context.mib.handlerStore with
      alarmCopy := _, alarmSeqNum := 0 } : AlarmState ω) = copied
  obtain ⟨hcontext, hlist, hsuccess⟩ := timeoutEventAdd_spec copied env.timeoutEventAdd
  rw [AlarmResult.sent_eq msg fun hfailsafe => hsuccess (htimer hfailsafe)]
  dsimp only
  rw [hcontext, hlist, ← hcopied, OmciMsg.field16_write _ _ (by decide), BitVec.toNat_ofNat]
  simp only [AlarmState.setStore, context_timeoutEventRemove]
  exact ⟨trivial, trivial, rfl, Nat.mod_eq_of_lt hfew⟩

theorem getAllAlarmsNext_state (env : AlarmEnv) (state : AlarmState ω) (msg rsp : OmciMsg) :
    (getAllAlarmsNextActionHandle env state msg rsp).state.context = state.context ∧
      (getAllAlarmsNextActionHandle env state msg rsp).state.alarmCopy.list =
        state.alarmCopy.list := by
  rw [getAllAlarmsNextActionHandle]
  split
  · exact ⟨rfl, rfl⟩
  · split
    · exact ⟨rfl, rfl⟩
    · obtain ⟨hcontext, hlist, _⟩ :=
        timeoutEventAdd_spec state.timeoutEventRemove env.timeoutEventAdd
      dsimp only
      rw [hcontext, hlist, context_timeoutEventRemove, alarmCopy_timeoutEventRemove]
      exact ⟨rfl, rfl⟩

/-- What the response says about an entry. -/
theorem getAllAlarmsNextRsp_fields (rsp : OmciMsg) (entry : AlarmCopyEntry) :
    (getAllAlarmsNextRsp rsp entry).field16 0 = entry.classId ∧
      (getAllAlarmsNextRsp rsp entry).field16 2 = entry.instanceId ∧
      slice (getAllAlarmsNextRsp rsp entry).octet 4 omciAlarmBitmapSize =
        entry.alarmBitmap.octets := by
  have hclass : (getAllAlarmsNextRsp rsp entry).field16 0 = entry.classId := by
    rw [← octets16_append entry.classId]
    simp [OmciMsg.field16, getAllAlarmsNextRsp, patch, octets16]
  have hlength (field : BitVec 16) : (octets16 field).length = 2 := rfl
  refine ⟨hclass, OmciMsg.field16_write _ _ (by decide), ?_⟩
  rw [getAllAlarmsNextRsp, OmciMsg.slice_octet_write _ _ _ (by decide),
    slice_patch_of_disjoint _ _ (by rw [hlength]; decide),
    OmciMsg.slice_octet_write _ _ _ (by decide),
    slice_patch_of_disjoint _ _ (by rw [hlength]; decide),
    OmciMsg.slice_octet_write _ _ _ (by decide),
    slice_patch_self _ _ _ entry.alarmBitmap.length_octets]

theorem getAllAlarmsNext_rsp {state : AlarmState ω} {msg rsp : OmciMsg} {entry : AlarmCopyEntry}
    (hentry : state.alarmCopy.list[(msg.field16 0).toNat]? = some entry) :
    (getAllAlarmsNextActionHandle env state msg rsp).rsp = getAllAlarmsNextRsp rsp entry ∧
      (env.timeoutEventAdd = true →
        (getAllAlarmsNextActionHandle env state msg rsp).error = .success) := by
  have hsome : state.alarmCopy.list.isEmpty = false := by
    cases hlist : state.alarmCopy.list with
    | nil => simp [hlist] at hentry
    | cons _ _ => rfl
  rw [getAllAlarmsNextActionHandle, hsome, if_neg Bool.false_ne_true, hentry]
  exact ⟨rfl, (timeoutEventAdd_spec state.timeoutEventRemove env.timeoutEventAdd).2.2⟩

end Requests

theorem map_filterMap_sublist {α β γ : Type} {f : α → Option β} {key : β → γ} {key' : α → γ}
    (hkey : ∀ a b, f a = some b → key b = key' a) (list : List α) :
    ((list.filterMap f).map key).Sublist (list.map key') := by
  induction list with
  | nil => exact .slnil
  | cons head rest ih =>
      rw [List.filterMap_cons]
      cases hhead : f head with
      | none => exact ih.cons _
      | some image =>
          rw [List.map_cons, List.map_cons, hkey head image hhead]
          exact ih.cons_cons _

theorem alarmEntry_key {noArc : Bool} {alarms : MeRef → MeAlarm} {store : Store ω}
    {me : MeClass ω × MeEntry} {entry : AlarmCopyEntry}
    (hentry : alarmEntry noArc alarms store me = some entry) :
    (entry.classId, entry.instanceId) = meKey me := by
  rw [alarmEntry] at hentry
  split at hentry
  · cases hentry
  · split at hentry
    · cases hentry
    · obtain rfl := Option.some.inj hentry
      rfl

theorem nodup_reported {config : Config ω} {run : AlarmRun ω} (h : AlarmCopied config run)
    (msg : OmciMsg) : ((run.state.reported config.table msg).map fun entry =>
      (entry.classId, entry.instanceId)).Nodup :=
  h.inv.nodup_keys.sublist
    (map_filterMap_sublist (fun _ _ hentry => alarmEntry_key hentry) _)

/-- Every step keeps the copy. -/
theorem alarmStep_copied {config : Config ω} {run run' : AlarmRun ω} {event : AlarmEvent ω}
    (h : AlarmCopied config run) (hguard : AlarmGuard config run event)
    (hstep : alarmStep config run event = some run') : AlarmCopied config run' := by
  cases event with
  | getAllAlarms failsafe env msg =>
      obtain ⟨result, hresult, hlists, hcount, hlist, _⟩ := getAllAlarms_spec h hguard
      rw [alarmStep, hresult] at hstep
      obtain rfl := Option.some.inj hstep
      have hinv : MibInv config.table result.state.context.mib :=
        ⟨hlists ▸ h.inv.ascending, hlists ▸ h.inv.known, hlists ▸ hcount ▸ h.inv.count⟩
      refine ⟨hinv, ?_, ?_⟩
      · intro id entry hentry
        rw [hlists] at hentry
        exact h.live id entry hentry
      · rintro promised ⟨⟩
        exact hlist
  | getAllAlarmsNext failsafe env msg =>
      obtain rfl := Option.some.inj hstep
      obtain ⟨hcontext, hlist⟩ :=
        getAllAlarmsNext_state env run.state msg (rspCreate msg)
      refine ⟨?_, ?_, ?_⟩
      · rw [hcontext]
        exact h.inv
      · rw [hcontext]
        exact h.live
      · intro promised hpromised
        rw [hlist]
        exact h.list promised hpromised
  | timeout =>
      rw [alarmStep, AlarmState.timeout] at hstep
      split at hstep
      · obtain rfl := Option.some.inj hstep
        exact ⟨h.inv, h.live, nofun⟩
      · cases hstep
  | mib event alarms =>
      have hkept := mibStep_kept h.inv h.live hguard rfl
      obtain rfl := Option.some.inj hstep
      exact ⟨hkept.1, hkept.2, h.list⟩
  | change store alarms =>
      obtain rfl := Option.some.inj hstep
      exact ⟨⟨h.inv.ascending, h.inv.known, h.inv.count⟩, h.live, h.list⟩

/-- Requests are answered from the copy. -/
theorem AlarmCopied.answer {config : Config ω} {run : AlarmRun ω} {event : AlarmEvent ω}
    (h : AlarmCopied config run) (hguard : AlarmGuard config run event) :
    AlarmAnswer config run event := by
  cases event with
  | getAllAlarms failsafe env msg =>
      obtain ⟨result, hresult, _, _, _, hannounced⟩ := getAllAlarms_spec h hguard
      exact ⟨result, hresult, hannounced, nodup_reported h msg⟩
  | getAllAlarmsNext failsafe env msg =>
      intro promised hpromised entry hentry
      rw [← h.list promised hpromised] at hentry
      obtain ⟨hrsp, hsuccess⟩ :=
        @getAllAlarmsNext_rsp ω env run.state msg (rspCreate msg) entry hentry
      rw [AlarmResult.sent_eq msg fun hfailsafe => hsuccess (hguard hfailsafe), hrsp]
      exact getAllAlarmsNextRsp_fields _ entry
  | timeout => trivial
  | mib event alarms => trivial
  | change store alarms => trivial

/-- In every run that meets the condition GET_ALL_ALARMS announces the number of alarms to
report and GET_ALL_ALARMS_NEXT returns them as they were. -/
theorem alarmAnswer_of_guard (config : Config ω) {start : OmciContext ω}
    (hstart : start.mib.PmGranted) (alarms : MeRef → MeAlarm) {run : AlarmRun ω}
    (hreach : ReachOn (alarmStep config) (AlarmGuard config)
      (.start (mibCreate config start).context alarms) run) {event : AlarmEvent ω}
    (hguard : AlarmGuard config run event) : AlarmAnswer config run event := by
  have ⟨hinv, hlive⟩ := @mibCreate_live _ config start hstart
  have hcopied : AlarmCopied config run := hreach.invariant ⟨hinv, hlive, nofun⟩
    fun _ _ _ hbefore hguard hstep => alarmStep_copied hbefore hguard hstep
  exact hcopied.answer hguard

/-! ## A run -/

def portAlarm (alarmBitmap : AlarmBitmap) (_ : MeRef) : MeAlarm where
  alarmBitmap := some alarmBitmap
  arcAttr := some (some 11)

def alarmSampleStart (alarmBitmap : AlarmBitmap) : AlarmRun Unit :=
  .start (mibCreate sampleConfig sampleStart).context (portAlarm alarmBitmap)

def alarmRequest (mode : Byte) : OmciMsg := OmciMsg.zero.write 0 [mode]

theorem entities_alarmSampleStart (alarmBitmap : AlarmBitmap) :
    sampleConfig.table.entities (alarmSampleStart alarmBitmap).state.context.mib =
      [(mePptpEthernetUniClass, ⟨0, 0x101, true, true⟩)] := rfl

theorem arcRead_port (noArc : Bool) (alarmBitmap : AlarmBitmap) (store : Store Unit)
    (entry : MeEntry) :
    ArcRead noArc (portAlarm alarmBitmap) store (mePptpEthernetUniClass, entry) := by
  have hexist : mePptpEthernetUniClass.isMeAttrExist 11 = true := by decide
  have hlaid : mePptpEthernetUniClass.laidOut = true := by decide
  have hpm : hasProp mePptpEthernetUniClass.prop (MeProp.pm ||| MeProp.pmInternal) = false := by
    decide
  have hsize : (mePptpEthernetUniClass.attrs 11).size = 1 := rfl
  apply @arcRead_of_laidOut _ _ _ _ (mePptpEthernetUniClass, entry) 11 rfl hsize hexist hlaid hpm
  intro attr get hget
  fin_cases attr <;> cases hget <;> rfl

/-- The alarm of the port is announced and returned. -/
theorem alarmAnswer_alarmSampleStart : ∃ run,
    alarmStep sampleConfig (alarmSampleStart (alarmBit 0))
        (.getAllAlarms false ⟨fun _ => true, true⟩ (alarmRequest 1)) = some run ∧
      run.promised = some [⟨11, 0x101, alarmBit 0⟩] ∧
      AlarmAnswer sampleConfig run
        (.getAllAlarmsNext false ⟨fun _ => true, true⟩ (alarmRequest 0)) := by
  have hguard : AlarmGuard sampleConfig (alarmSampleStart (alarmBit 0))
      (.getAllAlarms false ⟨fun _ => true, true⟩ (alarmRequest 1)) := by
    refine ⟨rfl, fun _ => rfl, fun me hme => ?_, by decide, nofun⟩
    rw [entities_alarmSampleStart] at hme
    obtain rfl := List.mem_singleton.mp hme
    exact arcRead_port _ _ _ _
  have hreach : ∀ run, alarmStep sampleConfig (alarmSampleStart (alarmBit 0))
      (.getAllAlarms false ⟨fun _ => true, true⟩ (alarmRequest 1)) = some run →
      ReachOn (alarmStep sampleConfig) (AlarmGuard sampleConfig)
        (alarmSampleStart (alarmBit 0)) run :=
    fun _ hstep => .tail .refl hguard hstep
  exact ⟨_, rfl, by decide,
    alarmAnswer_of_guard sampleConfig (fun _ => rfl) _ (hreach _ rfl) nofun⟩

/-- The requests of the run below: the first GET_ALL_ALARMS is denied its timer. -/
def alarmSampleEvents : List (AlarmEvent Unit) :=
  [.getAllAlarms false ⟨fun _ => true, false⟩ (alarmRequest 0),
    .change blankStore (portAlarm (alarmBit 1)),
    .getAllAlarms false ⟨fun _ => true, true⟩ (alarmRequest 0)]

/-- After a GET_ALL_ALARMS without a timer the next one returns its alarms. -/
theorem alarmSampleStart_not_alarmAnswer : ¬ ∀ run event,
    Reach (alarmStep sampleConfig) (alarmSampleStart (alarmBit 0)) run →
      AlarmAnswer sampleConfig run event := by
  intro hanswer
  have hrun : ∃ run, Reach (alarmStep sampleConfig) (alarmSampleStart (alarmBit 0)) run ∧
      run.promised = some [⟨11, 0x101, alarmBit 1⟩] ∧
      run.state.alarmCopy.list[0]? = some ⟨11, 0x101, alarmBit 0⟩ := by
    have htest : (execOn (alarmStep sampleConfig) (fun _ _ => True)
        (alarmSampleStart (alarmBit 0)) alarmSampleEvents).any (fun run =>
          decide (run.promised = some [⟨11, 0x101, alarmBit 1⟩] ∧
            run.state.alarmCopy.list[0]? = some ⟨11, 0x101, alarmBit 0⟩)) = true := by decide
    exact exists_reachOn_of_execOn htest
  obtain ⟨run, hreach, hpromised, hentry⟩ := hrun
  have hright := hanswer run (.getAllAlarmsNext false ⟨fun _ => true, true⟩ (alarmRequest 0))
    hreach _ hpromised ⟨11, 0x101, alarmBit 1⟩ rfl
  have hstale := getAllAlarmsNextRsp_fields (rspCreate (alarmRequest 0))
    ⟨11, 0x101, alarmBit 0⟩
  rw [@AlarmResult.sent_eq _ _ false _ nofun, (getAllAlarmsNext_rsp hentry).1] at hright
  have hsame := hstale.2.2.symm.trans hright.2.2
  revert hsame
  decide

end FalconGpon.Omci
