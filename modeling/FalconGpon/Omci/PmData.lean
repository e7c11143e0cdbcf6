/-
# The buffers of a PM entity

`me->data` of a PM entity that the daemon handles itself is moved between the buffers of its
three intervals. Between operations it is to point to the current one, so that a SET is
seen by later GETs of current data and lasts over interval ends, and so that deletion frees
every buffer once.

It does not point there after a GET of history data and after the end of an interval, until
the next poll or GET of current data. `pmDataKept_of_guard`: in every run in which each SET
and DELETE comes while it does, values that were set stay and are read back, and deletion
frees every buffer once.
-/

import FalconGpon.Omci.GetValues
import FalconGpon.Omci.PmCounters

namespace FalconGpon.Omci

open FalconGpon.Lib

variable {ω : Type}

/-! ## Classes -/

/-- What the classes of such entities have in common: only `struct pm_me_data` can be
written, get handlers succeed, and the update and `thr_set` handlers leave attribute data to
`set_action_handle`. -/
structure PmDataClass (ω : Type) extends PmClass ω where
  accepted : toMeClass.isAccepted = true
  laidOut : toMeClass.laidOut = true
  counted : countersGet.isSome = true
  packed : ∀ attr, (attrs attr).size ≤ getRspValuesSize ∧
    hasProp (attrs attr).prop AttrProp.table = false
  writable : ∀ attr, hasProp (attrs attr).prop AttrProp.wr = true →
    (attrs attr).get.isNone = true ∧ toMeClass.isMeAttrExist attr = true ∧
      (attrs attr).offset + (attrs attr).size ≤ pmMeDataSize
  disjoint : ∀ attr other, hasProp (attrs attr).prop AttrProp.wr = true → attr ≠ other →
    toMeClass.Disjoint attr other
  getHandlers : ∀ attr get, (attrs attr).get = some get →
    ∀ ref store buff, (get.run ref store buff).1 = .success
  updateKeeps : ∀ handler, update = some handler → ∀ ref store updData attrMask,
    (handler ref store updData attrMask).1.me = store.me ∧
      (handler ref store updData attrMask).2.2 = updData
  thrSetKeeps : ∀ handler, thrSet = some handler → ∀ ref thr store,
    (handler ref thr store).me = store.me
  alarms : ∀ row ∈ tcaTable, row.thrNum < omciAlarmsNum

def PmDataClass.Writable (cls : PmDataClass ω) (attr : Attr) : Prop :=
  hasProp (cls.attrs attr).prop AttrProp.wr = true

/-- The classes of threshold data are no PM classes. -/
def ClassTable.PlainThresholds (table : ClassTable ω) : Prop :=
  ∀ classId cls, classId = omciMeThresholdData1 ∨ classId = omciMeThresholdData2 →
    table.classEntryFind classId = some cls →
      hasProp cls.prop (MeProp.pm ||| MeProp.pmInternal) = false

/-! ## Reading and writing at an interval -/

section Interval

variable {cls : MeClass ω} {ref : MeRef} {store : Store ω} {interval : PmInterval}

@[simp]
theorem Store.setMe_self (store : Store ω) (ref : MeRef) :
    store.setMe ref (store.me ref) = store := by
  rw [Store.setMe]
  congr 1
  funext other
  split
  · rename_i hsame
    rw [hsame]
  · rfl

/-- `pm_me_interval_set` where `me->data` points to the interval already. -/
theorem pmMeIntervalSet_of_data (hinternal : hasProp cls.prop MeProp.pmInternal = true)
    (hdata : (store.me ref).data = (store.me ref).interval interval) :
    pmMeIntervalSet cls ref interval store = store := by
  rw [pmMeIntervalSet, if_pos hinternal]
  dsimp only
  rw [← hdata]
  exact store.setMe_self ref

/-- Reading an interval that `me->data` points to. -/
theorem meDataRead_interval (hinternal : hasProp cls.prop MeProp.pmInternal = true)
    (hlaid : cls.laidOut = true) (hget : ∀ attr get, (cls.attrs attr).get = some get →
      ∀ ref store buff, (get.run ref store buff).1 = .success)
    (hdata : (store.me ref).data = (store.me ref).interval interval) :
    ∃ data, meDataRead cls ref interval store = (store, .success, data) ∧
      ∀ attr, cls.isMeAttrExist attr = true →
        cls.attrValue attr data = currentValue cls ref store attr := by
  have hstore : (meDataRead cls ref interval store).1 = store := by
    rw [meDataRead]
    split
    · rfl
    · exact pmMeIntervalSet_of_data hinternal hdata
  have hnone : ∀ attr, ¬ cls.GetFails ref (meDataRead cls ref interval store).1 attr :=
    not_getFails fun attr get hsome => hget attr get hsome _ _ _
  refine ⟨_, Prod.ext hstore (Prod.ext ((meDataRead_success_iff hlaid).mpr hnone) rfl),
    fun attr hexist => ?_⟩
  rw [meDataRead_laidOut hlaid hnone hexist, hstore]

end Interval

section Set

variable {table : ClassTable ω} {ctx : Context ω} {cls : PmDataClass ω} {me : MeEntry}
  {msg rsp : OmciMsg} {store store' : Store ω} {ref : MeRef}

/-- Reading thresholds changes nothing. -/
theorem thresholdsRead_store (hplain : table.PlainThresholds) {classId : ClassId}
    (hclass : classId = omciMeThresholdData1 ∨ classId = omciMeThresholdData2)
    {instanceId : InstanceId} {err : OmciError} {thr : List (BitVec 32)}
    (hread : thresholdsRead table ctx classId instanceId store = some (store', err, thr)) :
    store' = store := by
  rw [thresholdsRead] at hread
  split at hread
  · rename_i thrRef thrCls _ hfind
    split at hread
    · cases hread
    · have hpm := hplain classId thrCls hclass hfind
      have hsame : (meDataRead thrCls thrRef .curr store).1 = store := by
        rw [meDataRead]
        split
        · rfl
        · exact pmMeIntervalSet_of_not_pm hpm .curr
      obtain ⟨hstore, _⟩ := Prod.mk.inj (Option.some.inj hread)
      exact hstore.symm.trans hsame
  · obtain ⟨hstore, _⟩ := Prod.mk.inj (Option.some.inj hread)
    exact hstore.symm

/-- `pm_me_thr_set` leaves the data of an entity alone whose current interval `me->data`
points to. -/
theorem pmMeThrSet_me (hplain : table.PlainThresholds)
    (hdata : (store.me ref).data = (store.me ref).curr)
    (hset : pmMeThrSet table ctx cls.toMeClass ref store = some store') : store'.me = store.me := by
  obtain ⟨data, hread, _⟩ : ∃ data,
      meDataRead cls.toMeClass ref .curr store = (store, .success, data) ∧ _ :=
    meDataRead_interval cls.internal.2 cls.laidOut cls.getHandlers hdata
  rw [pmMeThrSet] at hset
  split at hset
  · cases hset
  · rw [hread] at hset
    dsimp only at hset
    split at hset
    · rename_i store₁ thr₁ hfirst
      obtain rfl := thresholdsRead_store hplain (.inl rfl) hfirst
      split at hset
      · rename_i store₂ thr₂ hsecond
        obtain rfl := thresholdsRead_store hplain (.inr rfl) hsecond
        obtain rfl := Option.some.inj hset
        rw [thrSetCall]
        split
        · rename_i handler hhandler
          exact cls.thrSetKeeps handler hhandler ref _ _
        · rfl
      · rename_i hsecond
        obtain rfl := thresholdsRead_store hplain (.inr rfl) hsecond
        obtain rfl := Option.some.inj hset
        rfl
      · cases hset
    · rename_i hfirst
      obtain rfl := thresholdsRead_store hplain (.inl rfl) hfirst
      obtain rfl := Option.some.inj hset
      rfl
    · cases hset

/-- What the update handler and the threshold update leave of the data. -/
theorem SetTried.me_eq (hplain : table.PlainThresholds)
    (hdata : (ctx.store.me me.ref).data = (ctx.store.me me.ref).curr) {updData updData' : Buffer}
    {err : OmciError}
    (htried : SetTried table ctx cls.toMeClass me msg updData err store updData') :
    store.me = ctx.store.me ∧ updData' = updData := by
  obtain ⟨_, _, _, update, store', hupdate, htry, hthresholds⟩ := htried
  have hkept : store'.me = ctx.store.me ∧ updData' = updData := by
    rw [setUpdate] at htry
    split at htry
    · have hhandler := cls.updateKeeps update hupdate me.ref ctx.handlerStore updData
        (setAttrMask msg)
      rw [htry] at hhandler
      exact hhandler
    · cases htry
      exact ⟨rfl, rfl⟩
  refine ⟨?_, hkept.2⟩
  rw [setThresholds] at hthresholds
  split at hthresholds
  · rw [← hkept.1]
    exact pmMeThrSet_me hplain (by rw [hkept.1]; exact hdata) hthresholds
  · obtain rfl := Option.some.inj hthresholds
    exact hkept.1

theorem writable_of_granted {attrMask : AttrMask}
    (hgranted : cls.toMeClass.setRefused attrMask = false) {attr : Attr}
    (hattr : attrMask.has attr = true) : cls.Writable attr := by
  simp only [MeClass.setRefused, Bool.or_eq_false_iff, bne_eq_false_iff_eq] at hgranted
  have hnone := congrArg (fun mask => AttrMask.has mask attr) hgranted.2
  have hwr : cls.wrAttrMask.has attr = hasProp (cls.attrs attr).prop AttrProp.wr := by
    simp [MeClass.wrAttrMask]
  simp only [BitVec.ofNat_eq_ofNat, AttrMask.has_and, AttrMask.has_xor, AttrMask.has_zero, hattr,
    hwr, Bool.and_true, Bool.true_xor, Bool.not_eq_false'] at hnone
  exact hnone

/-- The copy has what the message asks for, as no attribute that can be set has a get handler. -/
theorem attrValue_of_taken {copy : Buffer} (htaken : SetTaken ctx cls.toMeClass me msg copy)
    (attr : Attr) : cls.attrValue attr copy = setExpected ctx cls.toMeClass me msg attr := by
  refine htaken.attrValue_expected (fun attr other hattr =>
    cls.disjoint attr other (writable_of_granted htaken.granted hattr)) ?_ attr
  intro attr get hattr hget
  have hnone := (cls.writable attr (writable_of_granted htaken.granted hattr)).1
  rw [hget] at hnone
  cases hnone

/-- A SET is safe while `me->data` points to the current interval. -/
theorem setSafe_of_curr (hplain : table.PlainThresholds)
    (hdata : (ctx.store.me me.ref).data = (ctx.store.me me.ref).curr) :
    SetSafe table ctx cls.toMeClass me msg where
  same copy htaken hsame attr hattr := by
    have hvalue := attrValue_of_taken htaken attr
    rw [setExpected, if_pos hattr] at hvalue
    rw [← hvalue]
    exact attrValue_of_isDataUpdated hsame hattr
  failed copy err store copy' htried _ attr := by
    rw [(htried.me_eq hplain hdata).1]
  copied copy store copy' htried attr := by
    rw [(htried.me_eq hplain hdata).2]
    exact attrValue_of_taken htried.taken attr

/-- A SET moves no pointer while `me->data` points to the current interval. -/
theorem setActionHandle_pointers (hplain : table.PlainThresholds)
    (hdata : (ctx.store.me me.ref).data = (ctx.store.me me.ref).curr)
    {result : ActionResult (Context ω)}
    (hset : setActionHandle table ctx cls.toMeClass me msg rsp = some result) :
    ∃ buffer, result.state.store.me me.ref = { ctx.store.me me.ref with buffer := buffer } := by
  have hended := setActionHandle_ended table ctx cls.toMeClass me msg rsp
  rw [hset] at hended
  cases hended with
  | refused rsp err hresult => exact ⟨_, rfl⟩
  | same updData rsp htaken hsame hresult => exact ⟨_, rfl⟩
  | failed updData err store updData' rsp htried herr hresult =>
      show ∃ buffer, store.me me.ref = _
      rw [(htried.me_eq hplain hdata).1]
      exact ⟨_, rfl⟩
  | copied updData store updData' rsp htried hresult =>
      show ∃ buffer, (store.copyData cls.toMeClass me.ref updData').me me.ref = _
      rw [Store.copyData, Store.modify, Store.setMe_me_self, (htried.me_eq hplain hdata).1]
      exact ⟨_, rfl⟩

end Set

/-! ## Runs -/

/-- The rest of the daemon when a request comes for an entity. -/
structure PmHost (ω : Type) where
  entry : MeEntry
  ctx : Context ω
  copies : TblCopies ω

def PmHost.withMe (host : PmHost ω) (me : MeData) : Context ω :=
  { host.ctx with store := host.ctx.store.setMe host.entry.ref me }

/-- What `get_action_handle` calls for the entity. -/
def pmGetEnv (cls : PmClass ω) (host : PmHost ω) (countersGet : Buffer → Buffer) (me : PmMe) :
    GetEnv ω where
  pmMeCountersGet interval store :=
    let (me, err) := pmMeCountersGet cls (.of interval) countersGet
      { me with toMeData := store.me host.entry.ref }
    (store.setMe host.entry.ref me.toMeData, err)
  timeoutEventAdd := true

/-- A GET or GET_CURR_DATA for the entity. -/
def pmGet (cls : PmClass ω) (host : PmHost ω) (countersGet : Buffer → Buffer) (msg : OmciMsg)
    (me : PmMe) : ActionResult (GetState ω) :=
  getActionHandle ⟨cls.toMeClass, none⟩ host.entry.ref host.entry.instanceId
    (pmGetEnv cls host countersGet me)
    ⟨(host.withMe me.toMeData).handlerStore, host.copies⟩ msg (rspCreate msg)

def pmSet (table : ClassTable ω) (cls : PmClass ω) (host : PmHost ω) (msg : OmciMsg)
    (me : PmMe) : Option (ActionResult (Context ω)) :=
  setActionHandle table (host.withMe me.toMeData) cls.toMeClass host.entry msg (rspCreate msg)

/-- The blocks that deletion frees: `pm_me_context_free` those of the history and the absolute
interval, `mib_me_delete` the one `me->data` points to. -/
def MeData.freed (me : MeData) : List (Fin 3) := [me.hist, me.abs, me.data]

def FreedOnce (me : MeData) (freed : List (Fin 3)) : Prop :=
  ∀ interval, freed.count (me.interval interval) = 1

/-- A PM entity between its creation and its deletion. -/
structure PmDataRun where
  me : PmMe
  /-- After a GET of history data or the end of an interval, until the next poll or GET of
  current data. -/
  away : Bool
  /-- The values that were set last. -/
  written : Attr → List Byte
  freed : Option (List (Fin 3))

/-- A CREATE; the class's init handler writes the initial data. -/
def PmDataRun.created (cls : PmClass ω) (memory : PmMeContext) (initData : List Byte) :
    PmDataRun where
  me :=
    let me := pmMeNew cls memory
    { me with toMeData := me.toMeData.write (patch me.bytes 0 initData) }
  away := false
  written attr := cls.attrValue attr (patch (fun _ => 0) 0 initData)
  freed := none

/-- What can happen. -/
inductive PmDataEvent (ω : Type)
  /-- The PM thread polls. -/
  | poll (countersGet : Buffer → Buffer)
  | get (host : PmHost ω) (countersGet : Buffer → Buffer) (msg : OmciMsg)
  /-- The thresholds that it sets are not looked at here. -/
  | set (host : PmHost ω) (msg : OmciMsg) (thr : Nat → BitVec 32)
  | intervalEnd (countersGet : Buffer → Buffer)
  | syncTime
  | delete

/-- One step; none is left after a DELETE. -/
def pmDataStep (table : ClassTable ω) (cls : PmClass ω) (run : PmDataRun)
    (event : PmDataEvent ω) : Option PmDataRun :=
  if run.freed.isSome then none
  else
    match event with
    | .poll countersGet =>
        some { run with
          me := (pmMeCountersGet cls (.of .abs) countersGet run.me).1
          away := false }
    | .get host countersGet msg =>
        let result := pmGet cls host countersGet msg run.me
        let interval := getInterval msg
        some { run with
          me := { (pmMeCountersGet cls (.of interval) countersGet run.me).1 with
            toMeData := result.state.store.me host.entry.ref }
          away := decide (interval = .hist) }
    | .set host msg thr =>
        match pmSet table cls host msg run.me with
        | none => none
        | some result =>
            some { run with
              me := { run.me with
                toMeData := result.state.store.me host.entry.ref
                thr := thr }
              written := fun attr =>
                if result.rsp.result = mrCmdSuccess ∧ (setAttrMask msg).has attr = true then
                  setValue cls.toMeClass msg attr
                else run.written attr }
    | .intervalEnd countersGet =>
        some { run with me := intervalEndWalker cls countersGet run.me, away := true }
    | .syncTime => some { run with me := syncTimeWalker run.me }
    | .delete => some { run with freed := some run.me.freed }

/-- SETs and DELETEs come while `me->data` points to the current interval. -/
def PmDataGuard (run : PmDataRun) : PmDataEvent ω → Prop
  | .set _ _ _ | .delete => run.away = false
  | _ => True

/-- What was set stays in the current interval, and it is known where `me->data` points. -/
structure PmDataKept (cls : PmDataClass ω) (run : PmDataRun) : Prop where
  pointer : run.me.data = run.me.curr ↔ run.away = false
  value : ∀ attr, cls.Writable attr →
    cls.attrValue attr (run.me.buffer run.me.curr) = run.written attr
  freed : ∀ freed, run.freed = some freed → FreedOnce run.me.toMeData freed
  /-- Deletion frees every block once just then. -/
  delete : FreedOnce run.me.toMeData run.me.freed ↔ run.away = false

/-- A GET of current data returns what was set. -/
def PmDataAnswer (cls : PmDataClass ω) (run : PmDataRun) : PmDataEvent ω → Prop
  | .get host countersGet msg =>
      let result := pmGet cls.toPmClass host countersGet msg run.me
      getInterval msg = .curr → ∀ attr, cls.Writable attr →
        (result.error = .success → AttrMask.has (result.rsp.field16 1) attr = true →
          slice result.rsp.octet (3 + cls.offsetIn (result.rsp.field16 1) attr)
            (cls.attrs attr).size = run.written attr) ∧
        (TblClass.Readable ⟨cls.toMeClass, none⟩ (msg.field16 0) →
          AttrMask.has (msg.field16 0) attr = true →
          cls.offsetIn (msg.field16 0) attr + (cls.attrs attr).size ≤ getRspValuesSize →
            result.error = .success ∧ AttrMask.has (result.rsp.field16 1) attr = true)
  | _ => True

/-- What holds throughout a run. -/
structure PmDataHolds (cls : PmDataClass ω) (run : PmDataRun) : Prop where
  apart : run.me.Apart
  data : run.me.data = if run.away then run.me.hist else run.me.curr
  value : ∀ attr, cls.Writable attr →
    cls.attrValue attr (run.me.buffer run.me.curr) = run.written attr
  freed : ∀ freed, run.freed = some freed → FreedOnce run.me.toMeData freed

/-- Where `me->data` points decides what deletion frees. -/
theorem freedOnce_iff {me : MeData} (hapart : me.Apart) {away : Bool}
    (hdata : me.data = if away then me.hist else me.curr) :
    FreedOnce me me.freed ↔ away = false := by
  cases away with
  | true =>
      have hdata' : me.data = me.hist := hdata
      refine ⟨fun honce => ?_, nofun⟩
      have hcurr := honce .curr
      rw [MeData.freed, hdata'] at hcurr
      have hnone : me.curr ∉ [me.hist, me.abs, me.hist] := by
        simp [hapart.hist, hapart.abs]
      rw [MeData.interval, List.count_eq_zero_of_not_mem hnone] at hcurr
      exact absurd hcurr (by decide)
  | false =>
      have hdata' : me.data = me.curr := hdata
      refine ⟨fun _ => rfl, fun _ interval => ?_⟩
      rw [MeData.freed, hdata']
      cases interval with
      | curr => simp [MeData.interval, hapart.hist.symm, hapart.abs.symm]
      | hist => simp [MeData.interval, hapart.hist, hapart.histAbs.symm]
      | abs => simp [MeData.interval, hapart.abs, hapart.histAbs]

theorem PmDataHolds.kept {cls : PmDataClass ω} {run : PmDataRun} (h : PmDataHolds cls run) :
    PmDataKept cls run where
  pointer := by
    rw [h.data]
    cases run.away with
    | true => exact ⟨fun hsame => absurd hsame.symm h.apart.hist, nofun⟩
    | false => exact ⟨fun _ => rfl, fun _ => rfl⟩
  value := h.value
  freed := h.freed
  delete := freedOnce_iff h.apart h.data

section Counters

variable {cls : PmClass ω} {me : PmMe}

/-- The counters do not touch `struct pm_me_data`. -/
theorem foldl_counterUpdate_header (absData oldData : Buffer) {i : Nat} (hi : i < pmMeDataSize)
    (attrs : List Attr) (hattrs : ∀ attr ∈ attrs, attr ∈ pmCounters) (data : Buffer) :
    attrs.foldl (counterUpdate cls.toMeClass absData oldData) data i = data i := by
  induction attrs generalizing data with
  | nil => rfl
  | cons attr attrs ih =>
      rw [List.foldl_cons, ih fun other hother => hattrs other (List.mem_cons_of_mem _ hother),
        counterUpdate]
      split
      · rename_i hexist
        exact cls.layout.attrDataSet_header data _ ⟨hattrs attr List.mem_cons_self, hexist⟩ hi
      · rfl

/-- The value of a writable attribute depends on `struct pm_me_data` only. -/
theorem PmDataClass.attrValue_congr {cls : PmDataClass ω} {attr : Attr} (hattr : cls.Writable attr)
    {data data' : Buffer} (h : ∀ i < pmMeDataSize, data i = data' i) :
    cls.attrValue attr data = cls.attrValue attr data' := by
  have hbound := (cls.writable attr hattr).2.2
  rw [MeClass.attrValue, MeClass.attrValue, slice_eq_iff]
  exact fun i hi => h _ (by omega)

/-- The alarms of the table can all be set, so the check succeeds. -/
theorem meThrFill_success (rows : List MeTca) (hrows : ∀ row ∈ rows, row.thrNum < omciAlarmsNum)
    (tcaBitmap : AlarmBitmap) : (meThrFill cls me rows tcaBitmap).1 = .success := by
  induction rows generalizing tcaBitmap with
  | nil => rfl
  | cons row rows ih =>
      have hrest : ∀ row ∈ rows, row.thrNum < omciAlarmsNum := fun other hother =>
        hrows other (List.mem_cons_of_mem _ hother)
      have hset : alarmSet tcaBitmap row.thrNum true =
          (.success, tcaBitmap ||| alarmBit row.thrNum) := by
        have hlt := hrows row List.mem_cons_self
        rw [alarmSet, if_neg (by omega), if_pos rfl]
      rw [meThrFill]
      split
      · rfl
      · dsimp only
        split
        · exact ih hrest tcaBitmap
        · split
          · rw [hset]
            exact ih hrest _
          · exact ih hrest tcaBitmap

theorem pmMeCountersGet_success (halarms : ∀ row ∈ cls.tcaTable, row.thrNum < omciAlarmsNum)
    (interval : OmciPmInterval) (countersGet : Buffer → Buffer) :
    (pmMeCountersGet cls interval countersGet me).2 = .success := by
  rw [pmMeCountersGet]
  split
  · have hsuccess := @meThrFill_success ω cls
      (me.countersRefresh cls interval countersGet) cls.tcaTable halarms 0
    rw [meThrCheck]
    generalize meThrFill cls _ cls.tcaTable 0 = filled at hsuccess ⊢
    obtain ⟨err, crossed⟩ := filled
    obtain rfl : err = .success := hsuccess
    rfl
  · rfl

/-- Where `pm_me_counters_get` leaves `me->data`. -/
theorem pmMeCountersGet_data {cls : PmDataClass ω} (interval : OmciPmInterval)
    (countersGet : Buffer → Buffer) :
    (pmMeCountersGet cls.toPmClass interval countersGet me).1.data =
      me.interval interval.shown := by
  have hdata : (me.countersRefresh cls.toPmClass interval countersGet).data =
      me.interval interval.shown := by
    rw [PmMe.countersRefresh, if_pos cls.counted]
    cases interval.shown <;> rfl
  rw [pmMeCountersGet]
  split
  · rw [meThrCheck_toMeData]
    exact hdata
  · exact hdata

theorem attrValue_pmMeCountersGet {cls : PmDataClass ω} (hapart : me.Apart)
    (interval : OmciPmInterval) (countersGet : Buffer → Buffer) {attr : Attr}
    (hattr : cls.Writable attr) :
    cls.attrValue attr ((pmMeCountersGet cls.toPmClass interval countersGet me).1.buffer me.curr) =
      cls.attrValue attr (me.buffer me.curr) := by
  rw [(pmMeCountersGet_taken cls.toPmClass interval countersGet hapart).currData,
    if_pos cls.counted]
  apply PmDataClass.attrValue_congr hattr
  exact fun i hi => foldl_counterUpdate_header _ _ hi pmCounters (fun _ => id) _

end Counters

section Step

variable {table : ClassTable ω} {cls : PmDataClass ω} {run : PmDataRun}

/-- The counters are read, and `me->data` is left at an interval. -/
theorem PmDataHolds.counters (h : PmDataHolds cls run) (hlive : run.freed = none)
    (interval : OmciPmInterval) (countersGet : Buffer → Buffer) {away : Bool}
    (haway : run.me.interval interval.shown = if away then run.me.hist else run.me.curr) :
    PmDataHolds cls { run with
      me := (pmMeCountersGet cls.toPmClass interval countersGet run.me).1
      away := away } := by
  have htaken := pmMeCountersGet_taken cls.toPmClass interval countersGet h.apart
  refine ⟨⟨?_, ?_, ?_⟩, ?_, fun attr hattr => ?_, fun freed hfreed => ?_⟩
  · rw [htaken.curr, htaken.hist]
    exact h.apart.hist
  · rw [htaken.curr, htaken.abs]
    exact h.apart.abs
  · rw [htaken.hist, htaken.abs]
    exact h.apart.histAbs
  · dsimp only
    rw [pmMeCountersGet_data, haway, htaken.hist, htaken.curr]
  · dsimp only
    rw [htaken.curr, attrValue_pmMeCountersGet h.apart interval countersGet hattr]
    exact h.value attr hattr
  · exact absurd (hlive.symm.trans hfreed) nofun

/-- What a GET does and answers. -/
theorem pmGet_spec (cls : PmDataClass ω) (host : PmHost ω) (countersGet : Buffer → Buffer)
    (msg : OmciMsg) {me : PmMe} (hapart : me.Apart) :
    ∃ data, (pmGet cls.toPmClass host countersGet msg me).state.store.me host.entry.ref =
        (pmMeCountersGet cls.toPmClass (.of (getInterval msg)) countersGet me).1.toMeData ∧
      GetAnswered ⟨cls.toMeClass, none⟩ (msg.field16 0) data
        (pmGet cls.toPmClass host countersGet msg me) ∧
      (getInterval msg = .curr → ∀ attr, cls.Writable attr →
        cls.attrValue attr data = cls.attrValue attr (me.buffer me.curr)) := by
  have htaken := pmMeCountersGet_taken cls.toPmClass (.of (getInterval msg)) countersGet hapart
  have hdata := @pmMeCountersGet_data ω me cls (.of (getInterval msg)) countersGet
  generalize hcounted : pmMeCountersGet cls.toPmClass (.of (getInterval msg)) countersGet me =
    counted at htaken hdata
  obtain ⟨me', err⟩ := counted
  have herr : err = .success := by
    have hsuccess := @pmMeCountersGet_success ω cls.toPmClass me cls.alarms
      (.of (getInterval msg)) countersGet
    rw [hcounted] at hsuccess
    exact hsuccess
  subst herr
  generalize hstore : (host.withMe me.toMeData).handlerStore = store₀
  have hme : store₀.me host.entry.ref = me.toMeData := by
    rw [← hstore]
    exact Store.setMe_me_self _ _ _
  have hcounters : getCounters cls.toMeClass (getInterval msg)
      (pmGetEnv cls.toPmClass host countersGet me) store₀ =
        (store₀.setMe host.entry.ref me'.toMeData, .success) := by
    rw [getCounters, if_pos (by simp [cls.internal.1, cls.internal.2]), pmGetEnv]
    dsimp only
    rw [hme, hcounted]
  have hpoint : ((store₀.setMe host.entry.ref me'.toMeData).me host.entry.ref).data =
      ((store₀.setMe host.entry.ref me'.toMeData).me host.entry.ref).interval
        (getInterval msg) := by
    rw [Store.setMe_me_self, hdata, getInterval]
    split
    · exact htaken.curr.symm
    · exact htaken.hist.symm
  obtain ⟨data, hread, hvalues⟩ :=
    meDataRead_interval cls.internal.2 cls.laidOut cls.getHandlers hpoint
  obtain ⟨hstate, hanswered⟩ := @getActionHandle_answered ω ⟨cls.toMeClass, none⟩ host.entry.ref
    (pmGetEnv cls.toPmClass host countersGet me) ⟨store₀, host.copies⟩ msg _ data hcounters hread
    cls.packed host.entry.instanceId (rspCreate msg)
  refine ⟨data, ?_, ?_, fun hcurr attr hattr => ?_⟩
  · rw [pmGet, hstore, hstate]
    exact Store.setMe_me_self _ _ _
  · rw [pmGet, hstore]
    exact hanswered
  · obtain ⟨hget, hexist, _⟩ := cls.writable attr hattr
    have hbytes : me'.bytes = me'.buffer me.curr := by
      rw [hcurr] at hdata
      exact congrArg me'.buffer hdata
    have hkept := @attrValue_pmMeCountersGet ω me cls hapart (.of (getInterval msg)) countersGet
      attr hattr
    rw [hcounted] at hkept
    rw [hvalues attr hexist, currentValue, Option.isNone_iff_eq_none.mp hget,
      Store.setMe_me_self, hbytes]
    exact hkept

/-- The end of an interval takes `struct pm_me_data` over into the new one. -/
theorem PmDataHolds.swapped (h : PmDataHolds cls run) (hlive : run.freed = none)
    (hcurr : run.away = false) :
    PmDataHolds cls { run with me := run.me.intervalSwap cls.dataSize, away := true } := by
  have hdata : run.me.data = run.me.curr := by
    rw [h.data, hcurr]
    rfl
  refine ⟨⟨h.apart.hist.symm, h.apart.histAbs, h.apart.abs⟩, hdata, fun attr hattr => ?_,
    fun freed hfreed => absurd (hlive.symm.trans hfreed) nofun⟩
  show cls.attrValue attr ((run.me.intervalSwap cls.dataSize).buffer run.me.hist) = _
  rw [PmMe.intervalSwap]
  dsimp only
  rw [Function.update_self, ← h.value attr hattr]
  apply PmDataClass.attrValue_congr hattr
  intro i hi
  simp [patch, slice, hi]

/-- A SET is stored in the current interval. -/
theorem PmDataHolds.set (h : PmDataHolds cls run) (hlive : run.freed = none)
    (hplain : table.PlainThresholds) (hcurr : run.away = false) {host : PmHost ω} {msg : OmciMsg}
    {result : ActionResult (Context ω)}
    (hset : pmSet table cls.toPmClass host msg run.me = some result) (thr : Nat → BitVec 32) :
    PmDataHolds cls { run with
      me := { run.me with
        toMeData := result.state.store.me host.entry.ref
        thr := thr }
      written := fun attr =>
        if result.rsp.result = mrCmdSuccess ∧ (setAttrMask msg).has attr = true then
          setValue cls.toMeClass msg attr
        else run.written attr } := by
  have hdata : run.me.data = run.me.curr := by
    rw [h.data, hcurr]
    rfl
  have hstored : (host.withMe run.me.toMeData).store.me host.entry.ref = run.me.toMeData :=
    Store.setMe_me_self _ _ _
  have hpoint : ((host.withMe run.me.toMeData).store.me host.entry.ref).data =
      ((host.withMe run.me.toMeData).store.me host.entry.ref).curr := by
    rw [hstored]
    exact hdata
  obtain ⟨buffer, hpointers⟩ := setActionHandle_pointers hplain hpoint hset
  rw [hstored] at hpointers
  have hcorrect := setActionHandle_correct cls.accepted (setSafe_of_curr hplain hpoint) hset
  have hafter : ∀ attr, cls.attrValue attr (buffer run.me.curr) =
      cls.attrValue attr (result.state.store.me host.entry.ref).bytes := by
    intro attr
    rw [hpointers]
    show _ = cls.attrValue attr (buffer run.me.data)
    rw [hdata]
  have hbefore : ∀ attr, cls.Writable attr → cls.attrValue attr
      ((host.withMe run.me.toMeData).store.me host.entry.ref).bytes = run.written attr := by
    intro attr hattr
    rw [hstored]
    show cls.attrValue attr (run.me.buffer run.me.data) = _
    rw [hdata]
    exact h.value attr hattr
  refine ⟨?_, ?_, fun attr hattr => ?_, fun freed hfreed => absurd (hlive.symm.trans hfreed) nofun⟩
  · show (result.state.store.me host.entry.ref).Apart
    rw [hpointers]
    exact ⟨h.apart.hist, h.apart.abs, h.apart.histAbs⟩
  · show (result.state.store.me host.entry.ref).data = _
    dsimp only
    rw [hpointers]
    exact h.data
  · dsimp only
    rw [hpointers]
    show cls.attrValue attr (buffer run.me.curr) = _
    rw [hafter]
    by_cases hsuccess : result.rsp.result = mrCmdSuccess
    · rw [hcorrect.success hsuccess attr, setExpected]
      simp only [hsuccess, true_and]
      split
      · rfl
      · exact hbefore attr hattr
    · rw [hcorrect.failure hsuccess attr, if_neg fun hboth => hsuccess hboth.1]
      exact hbefore attr hattr

/-- The alarms of the entity do not matter. -/
theorem PmDataHolds.congr (h : PmDataHolds cls run) {me : PmMe}
    (hme : me.toMeData = run.me.toMeData) : PmDataHolds cls { run with me := me } where
  apart := by
    show me.Apart
    rw [hme]
    exact h.apart
  data := by
    show me.data = if run.away then me.hist else me.curr
    rw [hme]
    exact h.data
  value attr hattr := by
    show cls.attrValue attr (me.buffer me.curr) = _
    rw [hme]
    exact h.value attr hattr
  freed freed hfreed := by
    show FreedOnce me.toMeData freed
    rw [hme]
    exact h.freed freed hfreed

/-- Every step keeps what holds. -/
theorem PmDataHolds.step (h : PmDataHolds cls run) (hplain : table.PlainThresholds)
    {event : PmDataEvent ω} (hguard : PmDataGuard run event) {run' : PmDataRun}
    (hstep : pmDataStep table cls.toPmClass run event = some run') : PmDataHolds cls run' := by
  unfold pmDataStep at hstep
  split at hstep
  · cases hstep
  · rename_i hfreed
    have hlive : run.freed = none := by simpa using hfreed
    cases event with
    | poll countersGet =>
        obtain rfl := Option.some.inj hstep
        exact h.counters hlive (.of .abs) countersGet rfl
    | get host countersGet msg =>
        obtain rfl := Option.some.inj hstep
        obtain ⟨data, hme, _⟩ := pmGet_spec cls host countersGet msg h.apart
        have hinterval : getInterval msg = .curr ∨ getInterval msg = .hist := by
          rw [getInterval]
          split
          · exact .inl rfl
          · exact .inr rfl
        have haway : run.me.interval (OmciPmInterval.of (getInterval msg)).shown =
            if decide (getInterval msg = .hist) then run.me.hist else run.me.curr := by
          rcases hinterval with hcurr | hhist
          · rw [hcurr]
            rfl
          · rw [hhist]
            rfl
        exact (h.counters hlive (.of (getInterval msg)) countersGet haway).congr hme
    | set host msg thr =>
        dsimp only at hstep
        cases hset : pmSet table cls.toPmClass host msg run.me with
        | none =>
            rw [hset] at hstep
            cases hstep
        | some result =>
            rw [hset] at hstep
            obtain rfl := Option.some.inj hstep
            exact h.set hlive hplain hguard hset thr
    | intervalEnd countersGet =>
        obtain rfl := Option.some.inj hstep
        have hsent := h.congr (alarmBitmapEnd_toMeData run.me)
        have hread := hsent.counters hlive .intervalEnd countersGet
          (show _ = if false then _ else _ from rfl)
        exact hread.swapped hlive rfl
    | syncTime =>
        obtain rfl := Option.some.inj hstep
        exact h.congr rfl
    | delete =>
        obtain rfl := Option.some.inj hstep
        refine ⟨h.apart, h.data, h.value, fun freed hfreed => ?_⟩
        obtain rfl := Option.some.inj hfreed
        exact (freedOnce_iff h.apart h.data).mpr hguard

theorem PmDataHolds.answer (h : PmDataHolds cls run) (event : PmDataEvent ω) :
    PmDataAnswer cls run event := by
  cases event with
  | get host countersGet msg =>
      intro hcurr attr hattr
      obtain ⟨data, _, hanswered, hvalue⟩ := pmGet_spec cls host countersGet msg h.apart
      refine ⟨fun hsuccess hhas => ?_, fun hreadable hhas hroom => ?_⟩
      · rw [← h.value attr hattr, ← hvalue hcurr attr hattr]
        exact hanswered.value hsuccess attr hhas
      · obtain ⟨hsuccess, hcomplete⟩ := hanswered.complete hreadable
        exact ⟨hsuccess, hcomplete attr hhas hroom⟩
  | _ => trivial

end Step

theorem PmDataHolds.created (cls : PmDataClass ω) (memory : PmMeContext)
    (initData : List Byte) : PmDataHolds cls (.created cls.toPmClass memory initData) where
  apart := ⟨apart_blank.hist, apart_blank.abs, apart_blank.histAbs⟩
  data := rfl
  value attr _ := by
    show cls.attrValue attr (MeData.blank.write (patch MeData.blank.bytes 0 initData)).bytes = _
    rw [MeData.write_bytes]
    rfl
  freed _ hfreed := absurd hfreed nofun

/-- In every run in which each SET and DELETE comes while `me->data` points to the current
interval, and so after no GET of history data or end of an interval without a poll or GET of
current data since, what was set stays in the current interval, GETs of current data return
it and deletion frees every block once. Between operations `me->data` points there just
then. -/
theorem pmDataKept_of_guard {table : ClassTable ω} (hplain : table.PlainThresholds)
    (cls : PmDataClass ω) (memory : PmMeContext) (initData : List Byte) (run : PmDataRun)
    (hreach : ReachOn (pmDataStep table cls.toPmClass) PmDataGuard
      (.created cls.toPmClass memory initData) run) :
    PmDataKept cls run ∧ ∀ event, PmDataAnswer cls run event := by
  have hholds : PmDataHolds cls run := hreach.invariant (.created cls memory initData)
    fun _ _ _ h hguard hstep => h.step hplain hguard hstep
  exact ⟨hholds.kept, hholds.answer⟩

/-! ## IP host monitoring -/

/-- `me_ip_host_monitoring_data_class`. -/
def ipHostMonitoringPmData : PmDataClass Unit where
  toPmClass := ipHostMonitoringData
  accepted := by decide
  laidOut := by decide
  counted := rfl
  packed := by decide
  writable := by decide
  disjoint := by decide
  getHandlers attr get hget ref store buff := by
    obtain rfl := @packedAttrs_get _ _ .upToDate (by simp) _ _ hget
    rfl
  updateKeeps handler hhandler ref store updData attrMask := by
    cases hhandler
    exact ⟨rfl, rfl⟩
  thrSetKeeps handler hhandler ref thr store := by
    cases hhandler
    rfl
  alarms := by decide

theorem sampleTable_plainThresholds : sampleTable.PlainThresholds := by
  intro classId cls hclass hfind
  have hnone : sampleTable.classEntryFind classId = none := by
    rcases hclass with rfl | rfl
    · decide
    · decide
  rw [hnone] at hfind
  cases hfind

def monitoringRun : PmDataRun := .created ipHostMonitoringData ⟨0, fun _ => 0⟩ [0, 0, 5]

/-- Its threshold data is kept over the end of an interval. -/
theorem pmDataKept_ipHostMonitoring : ∃ run,
    ReachOn (pmDataStep sampleTable ipHostMonitoringData) PmDataGuard monitoringRun run ∧
      PmDataKept ipHostMonitoringPmData run ∧ run.written 1 = [0, 5] := by
  have hend : pmDataStep sampleTable ipHostMonitoringData monitoringRun
      (.intervalEnd fun data => data) = some _ := rfl
  have hguard : PmDataGuard monitoringRun
      (.intervalEnd fun data => data : PmDataEvent Unit) := trivial
  have hreach := ReachOn.tail .refl hguard hend
  exact ⟨_, hreach, (pmDataKept_of_guard sampleTable_plainThresholds ipHostMonitoringPmData
    ⟨0, fun _ => 0⟩ [0, 0, 5] _ hreach).1, by decide⟩

/-- After the end of an interval `me->data` points to the history, which deletion then frees
twice. -/
theorem ipHostMonitoring_not_freedOnce : ¬ ∀ run,
    Reach (pmDataStep sampleTable ipHostMonitoringData) monitoringRun run →
      run.me.data = run.me.curr ∧
        ∀ freed, run.freed = some freed → FreedOnce run.me.toMeData freed := by
  intro hclaim
  have hfreed : ∀ ended, pmDataStep sampleTable ipHostMonitoringData monitoringRun
      (.intervalEnd fun data => data) = some ended →
        FreedOnce ended.me.toMeData ended.me.freed := by
    intro ended hend
    have hlive : ended.freed = none := by
      obtain rfl := Option.some.inj hend
      rfl
    have hdelete : pmDataStep sampleTable ipHostMonitoringData ended .delete =
        some { ended with freed := some ended.me.freed } := by
      rw [pmDataStep, hlive]
      rfl
    exact (hclaim _ (.tail (.tail .refl trivial hend) trivial hdelete)).2 _ rfl
  have honce := hfreed _ rfl .hist
  revert honce
  decide

end FalconGpon.Omci
