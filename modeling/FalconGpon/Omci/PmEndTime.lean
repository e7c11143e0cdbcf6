/-
# The interval end time of PM entities

All PM classes have `pm_interval_end_time_get` for their first attribute. It is called
whenever `me_data_read` reads an entity, and takes the byte that the entity stores over into
`context->pm.interval_end_time`; the answer to a GET has that byte. Nothing takes the number
of an ended interval over into the entities, which store what they were created with.

So a GET is right only where the byte is the number anyway (`intervalEndTime_iff`).
`context->pm` is carried beside the store, as get handlers here do not write.
-/

import FalconGpon.Omci.GetPacking
import FalconGpon.Omci.PmData

namespace FalconGpon.Omci

open FalconGpon.Lib

variable {ω : Type}

/-! ## Classes -/

/-- `omci_me_pm_interval_end_time`, the first attribute of all PM entities. -/
def omciMePmIntervalEndTime : Attr := 0

/-- What the classes of PM entities have in common, whether the daemon handles their counters
itself or not: their attributes lie in order and are no tables, get handlers succeed, and
`counters_get` handlers leave the interval end time alone. -/
structure PmEndClass (ω : Type) extends MeClass ω where
  tcaTable : List MeTca
  isPm : hasProp prop MeProp.pm = true
  layout : PmLayout toMeClass
  laidOut : toMeClass.laidOut = true
  packed : ∀ attr, hasProp (attrs attr).prop AttrProp.table = false ∧
    (attrs attr).size ≤ getRspValuesSize
  alarms : ∀ row ∈ tcaTable, row.thrNum < omciAlarmsNum
  getHandlers : ∀ attr get, (attrs attr).get = some get → ∀ ref store buff,
    buff.length = (attrs attr).size → (get.run ref store buff).1 = .success
  endTime : toMeClass.isMeAttrExist omciMePmIntervalEndTime = true ∧
    (attrs omciMePmIntervalEndTime).size = 1 ∧
      hasProp (attrs omciMePmIntervalEndTime).prop AttrProp.rd = true
  /-- As far as the attribute data goes, `pm_interval_end_time_get` does nothing. -/
  endTimeGet : ∃ get, (attrs omciMePmIntervalEndTime).get = some get ∧
    ∀ ref store number, get.run ref store [number] = (.success, [number])
  countersKeep : ∀ handler, countersGet = some handler → ∀ ref interval store,
    ((handler ref interval store).me ref).bytes 0 = (store.me ref).bytes 0

namespace PmEndClass

variable (cls : PmEndClass ω)

/-- `OMCI_ME_PROP_PM_INTERNAL`. -/
def isInternal : Bool := hasProp cls.prop MeProp.pmInternal

/-- The class of entities that the daemon handles itself. -/
def toPmClass (hinternal : cls.isInternal = true) : PmClass ω where
  toMeClass := cls.toMeClass
  tcaTable := cls.tcaTable
  internal := ⟨cls.isPm, hinternal⟩
  layout := cls.layout

abbrev toTblClass : TblClass ω := ⟨cls.toMeClass, none⟩

end PmEndClass

/-! ## The number in the PM context -/

/-- `pm_interval_end_time_get`: the error, and the number in the PM context. -/
def pmIntervalEndTimeGet (intervalEndTime : Byte) : List Byte → OmciError × Byte
  | [] => (.bounds, intervalEndTime)
  | number :: _ => (.success, number)

/-- The number after `me_data_read`, which calls the get handler of the first attribute before
all others. -/
def meDataReadEndTime (cls : MeClass ω) (ref : MeRef) (interval : PmInterval) (store : Store ω)
    (intervalEndTime : Byte) : Byte :=
  if cls.invAttrMask ||| cls.optAttrMask = 0xffff#16 then intervalEndTime
  else
    (pmIntervalEndTimeGet intervalEndTime (cls.attrValue omciMePmIntervalEndTime
      ((pmMeIntervalSet cls ref interval store).me ref).bytes)).2

/-- The number after the loop of `get_action_handle`. -/
def getAttrsEndTime (cls : TblClass ω) (ref : MeRef) (attrMask : AttrMask)
    (interval : PmInterval) : List Attr → Nat → Store ω → Byte → Byte
  | [], _, _, intervalEndTime => intervalEndTime
  | attr :: attrs, attrSizeSum, store, intervalEndTime =>
      let size := (cls.attrs attr).size
      let prop := (cls.attrs attr).prop
      if !attrMask.has attr || !cls.isMeAttrExist attr || !hasProp prop AttrProp.rd then
        getAttrsEndTime cls ref attrMask interval attrs attrSizeSum store intervalEndTime
      else if getRspValuesSize < size || hasProp prop AttrProp.table then intervalEndTime
      else if getRspValuesSize < attrSizeSum + size then intervalEndTime
      else
        getAttrsEndTime cls ref attrMask interval attrs (attrSizeSum + size)
          (meDataRead cls.toMeClass ref interval store).1
          (meDataReadEndTime cls.toMeClass ref interval store intervalEndTime)

/-- The number after `get_action_handle`. -/
def getEndTime (cls : TblClass ω) (ref : MeRef) (env : GetEnv ω) (store : Store ω)
    (msg : OmciMsg) (intervalEndTime : Byte) : Byte :=
  match getCounters cls.toMeClass (getInterval msg) env store with
  | (store, .success) =>
      getAttrsEndTime cls ref (msg.field16 0) (getInterval msg) (List.finRange 16) 0 store
        intervalEndTime
  | _ => intervalEndTime

/-! ## Operations on one entity -/

section Entity

variable (cls : PmEndClass ω) (countersGet : Buffer → Buffer)

/-- What `get_action_handle` calls for the entity. -/
def pmEndGetEnv (host : PmHost ω) (me : PmMe) : GetEnv ω :=
  if hinternal : cls.isInternal = true then
    pmGetEnv (cls.toPmClass hinternal) host countersGet me
  else ⟨fun _ store => (store, .success), true⟩

def PmHost.getStore (host : PmHost ω) (me : PmMe) : Store ω :=
  (host.withMe me.toMeData).handlerStore

def pmEndGet (host : PmHost ω) (msg : OmciMsg) (me : PmMe) : ActionResult (GetState ω) :=
  getActionHandle cls.toTblClass host.entry.ref host.entry.instanceId
    (pmEndGetEnv cls countersGet host me) ⟨host.getStore me, host.copies⟩ msg (rspCreate msg)

/-- The entity after its counters were read. -/
def pmEndCounters (interval : OmciPmInterval) (me : PmMe) : PmMe :=
  if hinternal : cls.isInternal = true then
    (pmMeCountersGet (cls.toPmClass hinternal) interval countersGet me).1
  else me

/-- `interval_end_walker`. -/
def pmEndWalker (me : PmMe) : PmMe :=
  if hinternal : cls.isInternal = true then
    intervalEndWalker (cls.toPmClass hinternal) countersGet me
  else me.alarmBitmapEnd

def MeData.endTimeByte (me : MeData) (interval : PmInterval) : Byte :=
  if cls.isInternal then me.buffer (me.interval interval) 0 else me.bytes 0

end Entity

/-! ## Runs -/

/-- The PM entities and the PM context. -/
structure PmEndState where
  me : MeRef → PmMe
  /-- `context->pm.interval_end_time`. -/
  intervalEndTime : Byte
  /-- The number of the interval that ended last; zero after time was synchronised. -/
  ended : Byte
  /-- What a GET has returned since. -/
  read : Option Byte

/-- What can happen. The counters that the driver shows come with it. -/
inductive PmEndEvent (ω : Type)
  | poll (countersGet : MeRef → Buffer → Buffer)
  | get (host : PmHost ω) (countersGet : Buffer → Buffer) (msg : OmciMsg)
  | intervalEnd (number : Nat) (countersGet : MeRef → Buffer → Buffer)
  | syncTime

/-- Do something to every PM entity. -/
def PmEndState.walk (state : PmEndState) (classes : MeRef → Option (PmEndClass ω))
    (walker : MeRef → PmEndClass ω → PmMe → PmMe) : PmEndState :=
  { state with
    me := fun ref =>
      match classes ref with
      | some cls => walker ref cls (state.me ref)
      | none => state.me ref }

/-- What the answer to a GET says of the interval end time. -/
def endTimeAnswer (result : ActionResult (GetState ω)) : Option Byte :=
  if result.error = .success ∧
      AttrMask.has (result.rsp.field16 1) omciMePmIntervalEndTime = true then
    some (result.rsp.octet 3)
  else none

/-- One step. `pm_interval_end` stores its number before it walks over the entities. -/
def pmEndStep (classes : MeRef → Option (PmEndClass ω)) (state : PmEndState) :
    PmEndEvent ω → Option PmEndState
  | .poll countersGet =>
      some (state.walk classes fun ref cls => pmEndCounters cls (countersGet ref) (.of .abs))
  | .get host countersGet msg =>
      match classes host.entry.ref with
      | none => none
      | some cls =>
          let me := state.me host.entry.ref
          let result := pmEndGet cls countersGet host msg me
          some { state with
            me := Function.update state.me host.entry.ref
              { pmEndCounters cls countersGet (.of (getInterval msg)) me with
                toMeData := result.state.store.me host.entry.ref }
            intervalEndTime := getEndTime cls.toTblClass host.entry.ref
              (pmEndGetEnv cls countersGet host me) (host.getStore me) msg state.intervalEndTime
            read := (endTimeAnswer result).or state.read }
  | .intervalEnd number countersGet =>
      some { state.walk classes fun ref cls => pmEndWalker cls (countersGet ref) with
        intervalEndTime := BitVec.ofNat 8 number
        ended := BitVec.ofNat 8 number
        read := none }
  | .syncTime =>
      some { state.walk classes fun _ _ => syncTimeWalker with
        intervalEndTime := 0
        ended := 0
        read := none }

/-- The interval end time is read as it should be: no GET changes the number in the PM context,
a GET of attributes that can be read returns it if asked, and what is returned is the number
of the last interval and the same as before. -/
def EndTimeRight (classes : MeRef → Option (PmEndClass ω)) (before : PmEndState)
    (event : PmEndEvent ω) (after : PmEndState) : Prop :=
  match event with
  | .get host countersGet msg => ∀ cls, classes host.entry.ref = some cls →
      let answer := endTimeAnswer (pmEndGet cls countersGet host msg (before.me host.entry.ref))
      after.intervalEndTime = before.intervalEndTime ∧
        (cls.toTblClass.Readable (msg.field16 0) →
          AttrMask.has (msg.field16 0) omciMePmIntervalEndTime = true → answer.isSome = true) ∧
        ∀ number, answer = some number →
          number = before.ended ∧ ∀ earlier, before.read = some earlier → number = earlier
  | _ => True

/-- A GET of these attributes succeeds: all can be read, up to the end of the response. -/
def MeClass.answers (cls : MeClass ω) (attrMask : AttrMask) : List Attr → Nat → Bool
  | [], _ => true
  | attr :: attrs, attrSizeSum =>
      let sum := attrSizeSum + (cls.attrs attr).size
      if !attrMask.has attr then cls.answers attrMask attrs attrSizeSum
      else if !cls.isMeAttrExist attr || !hasProp (cls.attrs attr).prop AttrProp.rd then false
      else decide (getRspValuesSize < sum) || cls.answers attrMask attrs sum

/-- A GET that reads anything comes while the entity stores the number of the PM context, and
one that returns the interval end time while it stores the number of the last interval. -/
def EndTimeGuard (classes : MeRef → Option (PmEndClass ω)) (state : PmEndState) :
    PmEndEvent ω → Prop
  | .get host _ msg => ∀ cls, classes host.entry.ref = some cls →
      let stored := (state.me host.entry.ref).toMeData.endTimeByte cls (getInterval msg)
      (requestedReadable cls.toMeClass (msg.field16 0) (List.finRange 16) ≠ [] →
        stored = state.intervalEndTime) ∧
        (AttrMask.has (msg.field16 0) omciMePmIntervalEndTime = true →
          cls.toMeClass.answers (msg.field16 0) (List.finRange 16) 0 = true →
            stored = state.ended)
  | _ => True

/-! ## Reading an entity -/

section Read

variable {cls : PmEndClass ω} {ref : MeRef} {interval : PmInterval} {store : Store ω}

theorem PmEndClass.attrs_ne_all (cls : PmEndClass ω) :
    cls.invAttrMask ||| cls.optAttrMask ≠ 0xffff#16 := by
  intro hall
  have hexist := cls.endTime.1
  rw [← has_readMask, hall] at hexist
  exact absurd hexist (by decide)

theorem PmEndClass.attrValue_endTime (cls : PmEndClass ω) (data : Buffer) :
    cls.attrValue omciMePmIntervalEndTime data = [data 0] := by
  have hlaid := cls.laidOut
  have hall : List.finRange 16 = omciMePmIntervalEndTime :: (List.finRange 16).drop 1 := by decide
  rw [MeClass.laidOut, hall, MeClass.laidOutFrom, Bool.and_eq_true, has_readMask,
    cls.endTime.1] at hlaid
  have hoffset : (cls.attrs omciMePmIntervalEndTime).offset = 0 := by
    have hfirst := hlaid.1
    simp only [Bool.not_true, Bool.false_or, Bool.and_eq_true, beq_iff_eq] at hfirst
    exact hfirst.1
  rw [MeClass.attrValue, hoffset, cls.endTime.2.1]
  rfl

def endTimeOf (cls : PmEndClass ω) (ref : MeRef) (interval : PmInterval) (store : Store ω) : Byte :=
  ((pmMeIntervalSet cls.toMeClass ref interval store).me ref).bytes 0

theorem meDataRead_store : (meDataRead cls.toMeClass ref interval store).1 =
      pmMeIntervalSet cls.toMeClass ref interval store := by
  rw [meDataRead, if_neg cls.attrs_ne_all]

theorem meDataRead_pmEnd : (meDataRead cls.toMeClass ref interval store).2.1 = .success :=
  (meDataRead_success_iff cls.laidOut).mpr <| not_getFails fun attr get hget =>
    cls.getHandlers attr get hget _ _ _ (length_slice _ _ _)

theorem readValue_endTime :
    readValue cls.toMeClass ref interval store omciMePmIntervalEndTime =
      [endTimeOf cls ref interval store] := by
  obtain ⟨get, hget, hrun⟩ := cls.endTimeGet
  rw [readValue, meDataRead_laidOut cls.laidOut
    ((meDataRead_success_iff cls.laidOut).mp meDataRead_pmEnd) cls.endTime.1,
    currentValue, cls.attrValue_endTime, hget, meDataRead_store]
  exact congrArg Prod.snd (hrun _ _ _)

theorem meDataReadEndTime_eq (intervalEndTime : Byte) :
    meDataReadEndTime cls.toMeClass ref interval store intervalEndTime =
      endTimeOf cls ref interval store := by
  rw [meDataReadEndTime, if_neg cls.attrs_ne_all, cls.attrValue_endTime]
  rfl

/-- It is the byte of the interval. -/
theorem endTimeOf_eq : endTimeOf cls ref interval store = (store.me ref).endTimeByte cls interval := by
  rw [endTimeOf, MeData.endTimeByte, pmMeIntervalSet]
  cases hinternal : cls.isInternal with
  | true =>
      have hset : hasProp cls.prop MeProp.pmInternal = true := hinternal
      rw [if_pos hset, if_pos rfl]
      dsimp only
      rw [Store.setMe_me_self]
      rfl
  | false =>
      have hset : ¬ hasProp cls.prop MeProp.pmInternal = true := Bool.not_eq_true _ ▸ hinternal
      rw [if_neg hset, if_pos cls.isPm, if_neg Bool.false_ne_true]
      cases hcounters : cls.countersGet with
      | none => rfl
      | some handler => exact cls.countersKeep handler hcounters ref interval store

/-- What an operation leaves of an entity. -/
structure EndTimeKept (cls : PmEndClass ω) (me me' : MeData) : Prop where
  apart : cls.isInternal = true → me.Apart → me'.Apart
  byte : ∀ interval, interval ≠ .abs → me'.endTimeByte cls interval = me.endTimeByte cls interval

theorem EndTimeKept.rfl {me : MeData} : EndTimeKept cls me me := ⟨fun _ => id, fun _ _ => Eq.refl _⟩

theorem EndTimeKept.trans {me me' me'' : MeData} (h : EndTimeKept cls me me')
    (h' : EndTimeKept cls me' me'') : EndTimeKept cls me me'' where
  apart hinternal hapart := h'.apart hinternal (h.apart hinternal hapart)
  byte interval hinterval := (h'.byte interval hinterval).trans (h.byte interval hinterval)

/-- Reading keeps the bytes. -/
theorem endTimeByte_meDataRead (other : PmInterval) :
    ((meDataRead cls.toMeClass ref interval store).1.me ref).endTimeByte cls other =
      (store.me ref).endTimeByte cls other := by
  rw [meDataRead_store]
  cases hinternal : cls.isInternal with
  | true =>
      have hset : hasProp cls.prop MeProp.pmInternal = true := hinternal
      rw [pmMeIntervalSet, if_pos hset]
      dsimp only
      rw [Store.setMe_me_self, MeData.endTimeByte, MeData.endTimeByte, if_pos hinternal,
        if_pos hinternal]
      cases other <;> rfl
  | false =>
      have hbyte := @endTimeOf_eq ω cls ref interval store
      rw [endTimeOf, MeData.endTimeByte, if_neg (Bool.not_eq_true _ ▸ hinternal)] at hbyte
      rw [MeData.endTimeByte, MeData.endTimeByte, if_neg (Bool.not_eq_true _ ▸ hinternal),
        if_neg (Bool.not_eq_true _ ▸ hinternal)]
      exact hbyte

theorem endTimeOf_meDataRead :
    endTimeOf cls ref interval (meDataRead cls.toMeClass ref interval store).1 =
      endTimeOf cls ref interval store := by
  rw [endTimeOf_eq, endTimeOf_eq]
  exact endTimeByte_meDataRead interval

theorem meDataRead_kept :
    EndTimeKept cls (store.me ref) ((meDataRead cls.toMeClass ref interval store).1.me ref) where
  apart hinternal hapart := by
    have hset : hasProp cls.prop MeProp.pmInternal = true := hinternal
    rw [meDataRead_store, pmMeIntervalSet, if_pos hset]
    dsimp only
    rw [Store.setMe_me_self]
    exact ⟨hapart.hist, hapart.abs, hapart.histAbs⟩
  byte other _ := endTimeByte_meDataRead other

end Read

/-! ## The loop of a GET -/

section Loop

variable {cls : PmEndClass ω} {ref : MeRef} {attrMask : AttrMask} {interval : PmInterval}

theorem requestedReadable_cons (cls : MeClass ω) (attrMask : AttrMask) (attr : Attr)
    (attrs : List Attr) :
    requestedReadable cls attrMask (attr :: attrs) =
      if attrMask.has attr = true ∧ cls.isMeAttrExist attr = true ∧
          hasProp (cls.attrs attr).prop AttrProp.rd = true then
        attr :: requestedReadable cls attrMask attrs
      else requestedReadable cls attrMask attrs := by
  rw [requestedReadable, List.filter_cons]
  simp only [Bool.and_eq_true, and_assoc]
  rfl

/-- A number that the entity stores anyway stays in the PM context. -/
theorem getAttrsEndTime_self (attrs : List Attr) (attrSizeSum : Nat) (store : Store ω) :
    getAttrsEndTime cls.toTblClass ref attrMask interval attrs attrSizeSum store
      (endTimeOf cls ref interval store) = endTimeOf cls ref interval store := by
  induction attrs generalizing attrSizeSum store with
  | nil => rfl
  | cons attr attrs ih =>
      rw [getAttrsEndTime]
      split
      · exact ih attrSizeSum store
      · split
        · rfl
        · split
          · rfl
          · have hread : meDataReadEndTime cls.toMeClass ref interval store
                (endTimeOf cls ref interval store) =
                  endTimeOf cls ref interval (meDataRead cls.toMeClass ref interval store).1 :=
              (meDataReadEndTime_eq _).trans endTimeOf_meDataRead.symm
            rw [hread, ih]
            exact endTimeOf_meDataRead

/-- The loop takes the byte over if it reads anything. -/
theorem getAttrsEndTime_eq (attrs : List Attr) (store : Store ω) (intervalEndTime : Byte) :
    getAttrsEndTime cls.toTblClass ref attrMask interval attrs 0 store intervalEndTime =
      if requestedReadable cls.toMeClass attrMask attrs = [] then intervalEndTime
      else endTimeOf cls ref interval store := by
  induction attrs with
  | nil => rfl
  | cons attr attrs ih =>
      rw [getAttrsEndTime, requestedReadable_cons]
      by_cases hread : attrMask.has attr = true ∧ cls.isMeAttrExist attr = true ∧
          hasProp (cls.attrs attr).prop AttrProp.rd = true
      · obtain ⟨htable, hsize⟩ := cls.packed attr
        have hroom : ¬ getRspValuesSize < 0 + (cls.attrs attr).size := by
          rw [Nat.zero_add]
          exact Nat.not_lt.mpr hsize
        rw [if_neg (by simp [hread.1, hread.2.1, hread.2.2]),
          if_neg (by simp [htable, Nat.not_lt.mpr hsize]), if_neg hroom, if_pos hread,
          if_neg (List.cons_ne_nil _ _)]
        have htaken : meDataReadEndTime cls.toMeClass ref interval store intervalEndTime =
            endTimeOf cls ref interval (meDataRead cls.toMeClass ref interval store).1 :=
          (meDataReadEndTime_eq _).trans endTimeOf_meDataRead.symm
        rw [htaken, getAttrsEndTime_self]
        exact endTimeOf_meDataRead
      · have hskip : (!attrMask.has attr || !cls.isMeAttrExist attr ||
            !hasProp (cls.attrs attr).prop AttrProp.rd) = true := by
          by_contra hgo
          simp only [Bool.or_eq_true, Bool.not_eq_true', not_or, Bool.not_eq_false] at hgo
          exact hread ⟨hgo.1.1, hgo.1.2, hgo.2⟩
        rw [if_pos hskip, if_neg hread]
        exact ih

/-- The loop comes to no table, and has nothing in the execution mask exactly if the request
can be answered. It does to the store what reading the entity does. -/
theorem getAttrs_pmEnd {instanceId : InstanceId} {env : GetEnv ω} {Q : Store ω → Prop}
    (hkeeps : ∀ store, Q store → Q (meDataRead cls.toMeClass ref interval store).1)
    (attrs : List Attr) (state : GetState ω) (acc : GetAttrs) (hstore : Q state.store) :
    ∃ state' acc', getAttrs cls.toTblClass ref instanceId attrMask interval env attrs state acc =
        .finished state' acc' ∧ Q state'.store ∧ acc'.optAttrMask = acc.optAttrMask ∧
      (acc'.attrExecMask = 0 ↔
        acc.attrExecMask = 0 ∧ cls.answers attrMask attrs acc.attrSizeSum = true) := by
  induction attrs generalizing state acc with
  | nil => exact ⟨state, acc, rfl, hstore, rfl, (and_iff_left rfl).symm⟩
  | cons attr attrs ih =>
      rw [getAttrs, MeClass.answers]
      dsimp only
      split
      · exact ih state acc hstore
      · -- an attribute that is put into the execution mask
        have hfailed : ∀ {acc' : GetAttrs}, acc'.attrExecMask =
            acc.attrExecMask ||| omciAttr2mask attr → acc'.attrExecMask ≠ 0 := by
          intro acc' hmask hzero
          have hhas : AttrMask.has (acc.attrExecMask ||| omciAttr2mask attr) attr = true := by simp
          rw [← hmask, hzero] at hhas
          exact Bool.false_ne_true ((AttrMask.has_zero attr).symm.trans hhas)
        have hrefused : ∀ {acc' : GetAttrs}, acc'.attrExecMask =
            acc.attrExecMask ||| omciAttr2mask attr → acc'.optAttrMask = acc.optAttrMask →
            ∃ state' acc'', getAttrs cls.toTblClass ref instanceId attrMask interval env attrs
                state acc' = .finished state' acc'' ∧ Q state'.store ∧
              acc''.optAttrMask = acc.optAttrMask ∧
              (acc''.attrExecMask = 0 ↔ acc.attrExecMask = 0 ∧ false = true) := by
          intro acc' hmask hopt
          obtain ⟨state', acc'', hloop, hstore', hopt', hexec⟩ := ih state acc' hstore
          refine ⟨state', acc'', hloop, hstore', hopt'.trans hopt, ?_⟩
          simp only [Bool.false_eq_true, and_false, iff_false]
          exact fun hzero => hfailed hmask (hexec.mp hzero).1
        by_cases hexist : cls.isMeAttrExist attr = true
        · have hsupported := MeClass.supported_of_isMeAttrExist _ hexist
          rw [if_neg (by simp [hexist]), if_neg (by simp [hsupported])]
          by_cases hrd : hasProp (cls.attrs attr).prop AttrProp.rd = true
          · obtain ⟨htable, hsize⟩ := cls.packed attr
            rw [if_neg (by simp [hrd]), if_neg (by simp [htable, Nat.not_lt.mpr hsize])]
            by_cases hfull : getRspValuesSize < acc.attrSizeSum + (cls.attrs attr).size
            · rw [if_pos hfull, if_neg (by simp [hexist, hrd]), decide_eq_true hfull, Bool.true_or]
              exact ⟨state, _, rfl, hstore, rfl, (and_iff_left rfl).symm⟩
            · rw [if_neg hfull, if_neg (by simp [hexist, hrd]), decide_eq_false hfull,
                Bool.false_or]
              have hread := @meDataRead_pmEnd ω cls ref interval state.store
              have hnext := hkeeps state.store hstore
              generalize hdata : meDataRead cls.toMeClass ref interval state.store = read
                at hread hnext ⊢
              obtain ⟨store, err, data⟩ := read
              obtain rfl : err = .success := hread
              exact ih { state with store := store } _ hnext
          · rw [if_pos (by simpa using hrd), if_pos (by simp [hrd])]
            exact hrefused rfl rfl
        · rw [if_pos (by simpa using hexist), if_pos (by simp [hexist])]
          exact hrefused rfl rfl

end Loop

/-! ## A GET -/

section Get

variable {cls : PmEndClass ω} {countersGet : Buffer → Buffer} {host : PmHost ω} {msg : OmciMsg}
  {me : PmMe}

theorem getInterval_ne_abs (msg : OmciMsg) : getInterval msg ≠ .abs := by
  rw [getInterval]
  split <;> decide

/-- Counting keeps the bytes of these. -/
theorem pmEndCounters_kept (hapart : cls.isInternal = true → me.Apart) (interval : OmciPmInterval) :
    EndTimeKept cls me.toMeData (pmEndCounters cls countersGet interval me).toMeData := by
  rw [pmEndCounters]
  split
  · rename_i hinternal
    have htaken := pmMeCountersGet_taken (cls.toPmClass hinternal) interval countersGet
      (hapart hinternal)
    refine ⟨fun _ hbefore => ⟨?_, ?_, ?_⟩, fun shown hshown => ?_⟩
    · rw [htaken.curr, htaken.hist]
      exact hbefore.hist
    · rw [htaken.curr, htaken.abs]
      exact hbefore.abs
    · rw [htaken.hist, htaken.abs]
      exact hbefore.histAbs
    · rw [MeData.endTimeByte, MeData.endTimeByte, if_pos hinternal, if_pos hinternal]
      cases shown with
      | curr =>
          rw [MeData.interval, MeData.interval, htaken.curr, htaken.currData]
          split
          · exact foldl_counterUpdate_header _ _ (by decide) pmCounters (fun _ => id) _
          · rfl
      | hist =>
          rw [MeData.interval, MeData.interval, htaken.hist, htaken.histData]
      | abs => exact absurd rfl hshown
  · exact EndTimeKept.rfl

/-- The counters are read first. -/
theorem getCounters_pmEnd : ∃ store, getCounters cls.toMeClass (getInterval msg)
      (pmEndGetEnv cls countersGet host me) (host.getStore me) = (store, .success) ∧
    store.me host.entry.ref =
      (pmEndCounters cls countersGet (.of (getInterval msg)) me).toMeData := by
  have hstored : (host.getStore me).me host.entry.ref = me.toMeData := Store.setMe_me_self _ _ _
  rw [getCounters, pmEndGetEnv, pmEndCounters]
  by_cases hinternal : cls.isInternal = true
  · have hprops : (hasProp cls.prop MeProp.pm && hasProp cls.prop MeProp.pmInternal) = true := by
      rw [cls.isPm, Bool.true_and]
      exact hinternal
    rw [if_pos hprops, dif_pos hinternal, dif_pos hinternal, pmGetEnv]
    dsimp only
    rw [hstored]
    have hsuccess := @pmMeCountersGet_success ω (cls.toPmClass hinternal) me cls.alarms
      (.of (getInterval msg)) countersGet
    refine ⟨_, Prod.ext rfl hsuccess, ?_⟩
    exact Store.setMe_me_self _ _ _
  · have hprops : ¬ (hasProp cls.prop MeProp.pm && hasProp cls.prop MeProp.pmInternal) = true := by
      rw [cls.isPm, Bool.true_and]
      exact hinternal
    rw [if_neg hprops, dif_neg hinternal]
    exact ⟨_, rfl, hstored⟩

theorem getEndTime_eq (hapart : cls.isInternal = true → me.Apart) (intervalEndTime : Byte) :
    getEndTime cls.toTblClass host.entry.ref (pmEndGetEnv cls countersGet host me)
        (host.getStore me) msg intervalEndTime =
      if requestedReadable cls.toMeClass (msg.field16 0) (List.finRange 16) = [] then
        intervalEndTime
      else me.toMeData.endTimeByte cls (getInterval msg) := by
  obtain ⟨store, hcounters, hstore⟩ := @getCounters_pmEnd ω cls countersGet host msg me
  rw [getEndTime, hcounters]
  dsimp only
  rw [getAttrsEndTime_eq, endTimeOf_eq, hstore,
    (pmEndCounters_kept hapart _).byte _ (getInterval_ne_abs msg)]

/-- How a GET ends. -/
theorem pmEndGet_spec : ((pmEndGet cls countersGet host msg me).error = .success ↔
        cls.answers (msg.field16 0) (List.finRange 16) 0 = true) ∧
      EndTimeKept cls (pmEndCounters cls countersGet (.of (getInterval msg)) me).toMeData
        ((pmEndGet cls countersGet host msg me).state.store.me host.entry.ref) := by
  obtain ⟨store, hcounters, hstore⟩ := @getCounters_pmEnd ω cls countersGet host msg me
  obtain ⟨state, acc, hloop, hkept, hopt, hexec⟩ := @getAttrs_pmEnd ω cls host.entry.ref
    (msg.field16 0) (getInterval msg) host.entry.instanceId
    (pmEndGetEnv cls countersGet host me)
    (fun later => EndTimeKept cls (store.me host.entry.ref) (later.me host.entry.ref))
    (fun _ hkept => hkept.trans meDataRead_kept) (List.finRange 16) ⟨store, host.copies⟩
    ⟨0, 0, 0, 0, 0, (rspCreate msg).write 1 (octets16 (msg.field16 0))⟩ EndTimeKept.rfl
  rw [← hstore, pmEndGet, getActionHandle]
  dsimp only
  rw [hcounters]
  dsimp only
  rw [hloop]
  dsimp only
  have hopt' : acc.optAttrMask = 0 := hopt
  rw [getFinish, hopt']
  by_cases hfailed : acc.attrExecMask = 0
  · rw [if_neg (by simp [hfailed])]
    exact ⟨iff_of_true rfl (hexec.mp hfailed).2, hkept⟩
  · rw [if_pos (by simpa using hfailed)]
    have hanswers : ¬ cls.answers (msg.field16 0) (List.finRange 16) 0 = true :=
      fun hanswers => hfailed (hexec.mpr ⟨rfl, hanswers⟩)
    split
    · exact ⟨iff_of_false (fun h => by cases h) hanswers, hkept⟩
    · exact ⟨iff_of_false (fun h => by cases h) hanswers, hkept⟩

theorem answers_of_readable {attrMask : AttrMask} (hreadable : cls.toTblClass.Readable attrMask)
    (attrs : List Attr) (attrSizeSum : Nat) : cls.answers attrMask attrs attrSizeSum = true := by
  induction attrs generalizing attrSizeSum with
  | nil => rfl
  | cons attr attrs ih =>
      rw [MeClass.answers]
      split
      · exact ih attrSizeSum
      · rename_i hhas
        obtain ⟨hexist, hrd⟩ := hreadable attr (by simpa using hhas)
        rw [if_neg (by simp [hexist, hrd]), ih, Bool.or_true]

/-- The answer has the byte of the entity if it has the interval end time. -/
theorem endTimeAnswer_pmEndGet (hapart : cls.isInternal = true → me.Apart) :
    endTimeAnswer (pmEndGet cls countersGet host msg me) =
      if AttrMask.has (msg.field16 0) omciMePmIntervalEndTime = true ∧
          cls.answers (msg.field16 0) (List.finRange 16) 0 = true then
        some (me.toMeData.endTimeByte cls (getInterval msg))
      else none := by
  obtain ⟨hsuccess, _⟩ := @pmEndGet_spec ω cls countersGet host msg me
  rw [endTimeAnswer]
  by_cases hanswers : cls.answers (msg.field16 0) (List.finRange 16) 0 = true
  · have herror := hsuccess.mpr hanswers
    obtain ⟨store, hcounters, hstore⟩ := @getCounters_pmEnd ω cls countersGet host msg me
    have htable : getTableAttr cls.toTblClass host.entry.ref (pmEndGetEnv cls countersGet host me)
        ⟨host.getStore me, host.copies⟩ msg = none :=
      tableAttr_eq_none (fun attr _ => cls.packed attr) _ _
    obtain ⟨names, hpacking, _⟩ := getActionHandle_packs herror htable
    have hfirst : List.finRange 16 =
        omciMePmIntervalEndTime :: (List.finRange 16).drop 1 := by decide
    by_cases hhas : AttrMask.has (msg.field16 0) omciMePmIntervalEndTime = true
    · -- the first attribute fits, and so comes first in the answer
      have hrequested := requestedReadable_cons cls.toMeClass (msg.field16 0)
        omciMePmIntervalEndTime ((List.finRange 16).drop 1)
      rw [← hfirst, if_pos ⟨hhas, cls.endTime.1, cls.endTime.2.2⟩] at hrequested
      have hfront : [omciMePmIntervalEndTime] <+: names := by
        apply hpacking.longest
        · rw [hrequested]
          exact List.cons_prefix_cons.mpr ⟨rfl, List.nil_prefix⟩
        · rw [MeClass.totalSize, List.map_singleton, List.sum_singleton, cls.endTime.2.1]
          decide
      obtain ⟨behind, rfl⟩ := hfront
      have hnamed := (hpacking.mask omciMePmIntervalEndTime).mpr List.mem_cons_self
      have hvalue : (pmEndGet cls countersGet host msg me).rsp.octet 3 =
          me.toMeData.endTimeByte cls (getInterval msg) := by
        have hvalues := congrArg (fun octets => octets[0]?) hpacking.values
        simp only [slice, List.getElem?_map, List.cons_append, List.nil_append, valuesOf,
          readValue_endTime] at hvalues
        rw [hcounters, endTimeOf_eq, hstore,
          (pmEndCounters_kept hapart _).byte _ (getInterval_ne_abs msg)] at hvalues
        exact Option.some.inj hvalues
      rw [if_pos ⟨herror, hnamed⟩, if_pos ⟨hhas, hanswers⟩, hvalue]
    · rw [if_neg fun hboth => hhas (hpacking.requested hboth.2),
        if_neg fun hboth => hhas hboth.1]
  · rw [if_neg fun hboth => hanswers (hsuccess.mp hboth.1), if_neg fun hboth => hanswers hboth.2]

end Get

/-! ## The runs in which it is right -/

section Run

variable {classes : MeRef → Option (PmEndClass ω)} {state : PmEndState}

def PmEndState.Apart (state : PmEndState) (classes : MeRef → Option (PmEndClass ω)) : Prop :=
  ∀ ref cls, classes ref = some cls → cls.isInternal = true → (state.me ref).Apart

/-- What holds throughout a run that is right so far. -/
structure PmEndHolds (classes : MeRef → Option (PmEndClass ω)) (state : PmEndState) : Prop where
  apart : state.Apart classes
  read : ∀ number, state.read = some number → number = state.ended

theorem PmEndState.walk_me (state : PmEndState) {ref : MeRef} {cls : PmEndClass ω}
    (hcls : classes ref = some cls) (walker : MeRef → PmEndClass ω → PmMe → PmMe) :
    (state.walk classes walker).me ref = walker ref cls (state.me ref) := by
  rw [PmEndState.walk]
  dsimp only
  rw [hcls]

theorem PmEndState.Apart.walk (h : state.Apart classes)
    {walker : MeRef → PmEndClass ω → PmMe → PmMe}
    (hwalker : ∀ ref cls me, cls.isInternal = true → me.Apart → (walker ref cls me).Apart) :
    (state.walk classes walker).Apart classes := by
  intro ref cls hcls hinternal
  rw [state.walk_me hcls]
  exact hwalker ref cls _ hinternal (h ref cls hcls hinternal)

theorem apart_pmEndWalker {cls : PmEndClass ω} {countersGet : Buffer → Buffer} {me : PmMe}
    (hinternal : cls.isInternal = true) (hapart : me.Apart) :
    (pmEndWalker cls countersGet me).Apart := by
  have hsent : me.alarmBitmapEnd.Apart := by
    rw [alarmBitmapEnd_toMeData]
    exact hapart
  have hcounted := (@pmEndCounters_kept ω cls countersGet _ (fun _ => hsent)
    .intervalEnd).apart hinternal hsent
  rw [pmEndCounters, dif_pos hinternal] at hcounted
  rw [pmEndWalker, dif_pos hinternal]
  exact ⟨hcounted.hist.symm, hcounted.histAbs, hcounted.abs⟩

theorem pmEndGet_kept {cls : PmEndClass ω} {countersGet : Buffer → Buffer} {host : PmHost ω}
    {msg : OmciMsg} {me : PmMe} (hapart : cls.isInternal = true → me.Apart) :
    EndTimeKept cls me.toMeData
      ((pmEndGet cls countersGet host msg me).state.store.me host.entry.ref) :=
  (pmEndCounters_kept hapart _).trans pmEndGet_spec.2

/-- Every step keeps the buffers apart. -/
theorem PmEndState.Apart.step (h : state.Apart classes) {event : PmEndEvent ω}
    {after : PmEndState} (hstep : pmEndStep classes state event = some after) :
    after.Apart classes := by
  cases event with
  | poll countersGet =>
      obtain rfl := Option.some.inj hstep
      exact h.walk fun ref cls me hinternal hapart =>
        (pmEndCounters_kept (fun _ => hapart) (.of .abs)).apart hinternal hapart
  | intervalEnd number countersGet =>
      obtain rfl := Option.some.inj hstep
      exact h.walk fun _ _ _ => apart_pmEndWalker
  | syncTime =>
      obtain rfl := Option.some.inj hstep
      exact h.walk fun _ _ _ _ => id
  | get host countersGet msg =>
      rw [pmEndStep] at hstep
      split at hstep
      · cases hstep
      · rename_i cls hcls
        obtain rfl := Option.some.inj hstep
        intro ref cls' hcls' hinternal
        dsimp only
        by_cases hsame : ref = host.entry.ref
        · subst hsame
          obtain rfl := Option.some.inj (hcls.symm.trans hcls')
          rw [Function.update_self]
          have hapart := h host.entry.ref cls hcls
          exact (pmEndGet_kept hapart).apart hinternal (hapart hinternal)
        · rw [Function.update_of_ne hsame]
          exact h ref cls' hcls' hinternal

/-- A step is right exactly if it comes while what the entity stores is the number. -/
theorem PmEndHolds.step_iff (h : PmEndHolds classes state) {event : PmEndEvent ω}
    {after : PmEndState} (hstep : pmEndStep classes state event = some after) :
    (EndTimeRight classes state event after ↔ EndTimeGuard classes state event) ∧
      (EndTimeGuard classes state event → PmEndHolds classes after) := by
  have hafter := h.apart.step hstep
  cases event with
  | poll countersGet =>
      obtain rfl := Option.some.inj hstep
      exact ⟨Iff.rfl, fun _ => ⟨hafter, h.read⟩⟩
  | intervalEnd number countersGet | syncTime =>
      obtain rfl := Option.some.inj hstep
      exact ⟨Iff.rfl, fun _ => ⟨hafter, nofun⟩⟩
  | get host countersGet msg =>
      rw [pmEndStep] at hstep
      split at hstep
      · cases hstep
      · rename_i cls hcls
        obtain rfl := Option.some.inj hstep
        have hapart := h.apart host.entry.ref cls hcls
        have hanswer := @endTimeAnswer_pmEndGet ω cls countersGet host msg _ hapart
        generalize hbyte : (state.me host.entry.ref).toMeData.endTimeByte cls (getInterval msg) =
          byte at hanswer
        constructor
        · rw [EndTimeRight, EndTimeGuard]
          dsimp only
          rw [hcls]
          simp only [Option.some.injEq, forall_eq']
          rw [getEndTime_eq hapart, hanswer, hbyte]
          constructor
          · rintro ⟨hsame, _, hreturned⟩
            refine ⟨fun hreads => ?_, fun hhas hanswers => ?_⟩
            · rw [if_neg hreads] at hsame
              exact hsame
            · exact (hreturned byte (if_pos ⟨hhas, hanswers⟩)).1
          · rintro ⟨hreads, hreturns⟩
            refine ⟨?_, fun hreadable hhas => ?_, fun number hnumber => ?_⟩
            · split
              · rfl
              · rename_i hsome
                exact hreads hsome
            · rw [if_pos ⟨hhas, answers_of_readable hreadable _ _⟩]
              rfl
            · rw [Option.ite_none_right_eq_some] at hnumber
              obtain ⟨⟨hhas, hanswers⟩, hsome⟩ := hnumber
              obtain rfl := Option.some.inj hsome
              have hended := hreturns hhas hanswers
              exact ⟨hended, fun earlier hearlier => hended.trans (h.read earlier hearlier).symm⟩
        · intro hguard
          refine ⟨hafter, fun number hnumber => ?_⟩
          dsimp only at hnumber
          rw [hanswer] at hnumber
          split at hnumber
          · rename_i hboth
            obtain rfl := Option.some.inj hnumber
            rw [← hbyte]
            exact (hguard cls hcls).2 hboth.1 hboth.2
          · exact h.read number hnumber

end Run

/-- Throughout a run the interval end time is read as it should be exactly if every GET comes
while the byte that the entity stores is the number that the GET is to return and to leave in
the PM context. -/
theorem intervalEndTime_iff (classes : MeRef → Option (PmEndClass ω)) (start : PmEndState)
    (hapart : start.Apart classes) (hread : start.read = none) (events : List (PmEndEvent ω)) :
    Along (pmEndStep classes) (EndTimeRight classes) start events ↔
      Along (pmEndStep classes) (fun before event _ => EndTimeGuard classes before event) start
        events := by
  have hstart : PmEndHolds classes start :=
    ⟨hapart, fun number hnumber => absurd (hread.symm.trans hnumber) nofun⟩
  exact along_iff_guard (fun _ _ _ h hstep => h.step_iff hstep) hstart events

/-! ## IP host monitoring -/

/-- `me_ip_host_monitoring_data_class`. -/
def ipHostMonitoringPmEnd : PmEndClass Unit where
  toMeClass := meIpHostMonitoringDataClass
  tcaTable := ipHostMonitoringData.tcaTable
  isPm := ipHostMonitoringData.internal.1
  layout := ipHostMonitoringData.layout
  laidOut := ipHostMonitoringPmData.laidOut
  packed attr := (ipHostMonitoringPmData.packed attr).symm
  alarms := ipHostMonitoringPmData.alarms
  getHandlers attr get hget ref store buff _ :=
    ipHostMonitoringPmData.getHandlers attr get hget ref store buff
  endTime := by decide
  endTimeGet := ⟨.upToDate, rfl, fun _ _ _ => rfl⟩
  countersKeep handler hhandler ref interval store := by
    cases hhandler
    rfl

def monitoringClasses (ref : MeRef) : Option (PmEndClass Unit) :=
  if ref = 0 then some ipHostMonitoringPmEnd else none

def monitoringState : PmEndState where
  me _ := pmMeNew ipHostMonitoringData ⟨0, fun _ => 0⟩
  intervalEndTime := 0
  ended := 0
  read := none

/-- An interval ends, and its number is read. -/
def monitoringEvents (number : Nat) : List (PmEndEvent Unit) :=
  [.intervalEnd number fun _ data => data,
    .get ⟨⟨0, 0, true, true⟩, singleMe true 135 0, tblCopyInit⟩ (fun data => data)
      (getMsg 135 0 0x8000)]

theorem monitoringState_apart : monitoringState.Apart monitoringClasses :=
  fun _ _ _ _ => apart_blank

/-- The number 256 is stored as zero. -/
theorem intervalEndTime_wrapped : Along (pmEndStep monitoringClasses)
    (EndTimeRight monitoringClasses) monitoringState (monitoringEvents 256) := by
  apply (intervalEndTime_iff monitoringClasses monitoringState monitoringState_apart rfl _).mpr
  refine ⟨trivial, ?_, trivial⟩
  intro cls hcls
  obtain rfl := Option.some.inj hcls
  exact ⟨fun _ => by decide +kernel, fun _ _ => by decide +kernel⟩

/-- After interval 5 zero is returned. -/
theorem intervalEndTime_zero : ¬ ∀ (classes : MeRef → Option (PmEndClass Unit))
    (start : PmEndState) (events : List (PmEndEvent Unit)), start.Apart classes →
      start.read = none →
        Along (pmEndStep classes) (EndTimeRight classes) start events := by
  intro hclaim
  obtain ⟨_, hget, _⟩ := hclaim monitoringClasses monitoringState (monitoringEvents 5)
    monitoringState_apart rfl
  have hsame := (hget ipHostMonitoringPmEnd rfl).1
  revert hsame
  decide +kernel

end FalconGpon.Omci
