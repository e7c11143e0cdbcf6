/-
# The thresholds of PM entities

A PM entity names the threshold data entities that hold its thresholds. The vector handed
to its `thr_set` handler is put together in four places: by `default_me_update`, by
`pm_me_thr_set` after it, and by the update handlers of both threshold data classes for all
PM entities that name them. It is to consist of the values of Threshold Data 1, followed by
those of Threshold Data 2 (`ThrAgrees`).

`pm_me_thr_set` leaves a gap between the two and, during a SET, still reads the old name.
`thrAgrees_of_guard`: in every run where that makes no difference all PM entities have the
right thresholds after every step.
-/

import FalconGpon.Omci.PmData

namespace FalconGpon.Omci

open FalconGpon.Lib

/-! ## Vectors -/

/-- `thr_data1` to `thr_data7` of a `struct omci_me_threshold_data1`, or the like. -/
abbrev ThrData := Fin 7 → BitVec 32

/-- `uint32_t thr[PM_THR_NUM]`. -/
abbrev ThrVector := Nat → BitVec 32

/-- The threshold data classes. -/
inductive ThrDataClass
  | thr1
  | thr2
deriving DecidableEq

abbrev ThrDataMes := ThrDataClass → InstanceId → Option ThrData

def ThrDataMes.set (thrData : ThrDataMes) (cls : ThrDataClass) (instanceId : InstanceId)
    (data : Option ThrData) : ThrDataMes := fun other id =>
  if other = cls ∧ id = instanceId then data else thrData other id

@[simp]
theorem ThrDataMes.set_self (thrData : ThrDataMes) (cls : ThrDataClass) (instanceId : InstanceId)
    (data : Option ThrData) : thrData.set cls instanceId data cls instanceId = data :=
  if_pos ⟨rfl, rfl⟩

theorem ThrDataMes.set_of_ne (thrData : ThrDataMes) {cls other : ThrDataClass}
    {instanceId id : InstanceId} (data : Option ThrData) (h : other ≠ cls ∨ id ≠ instanceId) :
    thrData.set cls instanceId data other id = thrData other id :=
  if_neg (not_and_or.mpr h)

/-- Seven assignments to `thr`. -/
def thrFill (start : Nat) (data : ThrData) (thr : ThrVector) : ThrVector := fun i =>
  if h : start ≤ i ∧ i - start < 7 then data ⟨i - start, h.2⟩ else thr i

theorem thrFill_add (start : Nat) (data : ThrData) (thr : ThrVector) (i : Fin 7) :
    thrFill start data thr (start + i) = data i := by
  have hsub : start + i.val - start = i.val := Nat.add_sub_cancel_left _ _
  have hrange : start ≤ start + i.val ∧ start + i.val - start < 7 := by omega
  rw [thrFill, dif_pos hrange]
  exact congrArg data (Fin.ext hsub)

theorem thrFill_of_lt {start i : Nat} (data : ThrData) (thr : ThrVector) (h : i < start) :
    thrFill start data thr i = thr i := by
  rw [thrFill, dif_neg (by omega)]

theorem thrFill_of_le {start i : Nat} (data : ThrData) (thr : ThrVector) (h : start + 7 ≤ i) :
    thrFill start data thr i = thr i := by
  rw [thrFill, dif_neg (by omega)]

def noThresholds : ThrData := fun _ => 0xffffffff

/-! ## Entities -/

/-- What matters of the classes of PM entities. -/
structure PmThrClass where
  classId : ClassId
  /-- How many thresholds its `thr_set` handler takes; none does nothing. -/
  thrNum : Nat
  /-- The handler hands them to the driver, which can refuse them. -/
  driver : Bool
  /-- Its init handler calls `default_me_init`. -/
  initWrites : Bool
deriving DecidableEq

/-- A PM entity, with the thresholds it has. -/
structure PmThrMe where
  cls : PmThrClass
  instanceId : InstanceId
  /-- `thr_data_id` of its `struct pm_me_data`. -/
  thrDataId : InstanceId
  thr : ThrVector

/-- The place of an entity in `mib_walk`. -/
def PmThrMe.key (me : PmThrMe) : Nat := me.cls.classId.toNat * 2 ^ 16 + me.instanceId.toNat

/-- The threshold data and the PM entities in the MIB. -/
structure ThrMib where
  thrData : ThrDataMes
  pm : List PmThrMe

/-- What the calls of one request meet with. -/
structure ThrEnv where
  /-- What an uninitialised `thr` holds. -/
  memory : ThrVector
  /-- `me_attr_read` of an entity succeeds. -/
  attrRead : Nat → Bool
  /-- The driver takes the thresholds of an entity from an update handler. -/
  thrSet : Nat → Bool
  /-- The driver takes them from `pm_me_thr_set`. -/
  thrSetAgain : Bool

namespace PmThrMe

/-- The `thr_set` handler of the class, and whether it succeeds. -/
def thrSet (me : PmThrMe) (accepted : Bool) (thr : ThrVector) : PmThrMe × Bool :=
  if me.cls.driver && !accepted then (me, false)
  else ({ me with thr := fun i => if i < me.cls.thrNum then thr i else me.thr i }, true)

end PmThrMe

/-! ## The four vectors -/

section Vectors

variable (thrData : ThrDataMes)

/-- The vector of `default_me_update`. -/
def defaultMeUpdateThr (memory : ThrVector) (thrDataId : InstanceId) : ThrVector :=
  let thr :=
    match thrData .thr1 thrDataId with
    | some data => thrFill 0 data memory
    | none => memory
  match thrData .thr2 thrDataId with
  | some data => thrFill 7 data thr
  | none => thrFill 7 noThresholds thr

/-- The vector of `pm_me_thr_set`; the eighth threshold is never filled in. -/
def pmMeThrSetThr (thrDataId : InstanceId) : ThrVector :=
  let thr : ThrVector := fun _ => 0
  let thr :=
    match thrData .thr1 thrDataId with
    | some data => thrFill 0 data thr
    | none => thr
  match thrData .thr2 thrDataId with
  | some data => thrFill 8 data thr
  | none => thr

/-- The vector of `me_update` in `omci_threshold_data1.c`. -/
def thresholdData1Thr (memory : ThrVector) (instanceId : InstanceId) (updData : ThrData) :
    ThrVector :=
  let thr := thrFill 0 updData memory
  match thrData .thr2 instanceId with
  | some data => thrFill 7 data thr
  | none => thrFill 7 noThresholds thr

/-- The vector of `me_update` in `omci_threshold_data2.c`. -/
def thresholdData2Thr (memory : ThrVector) (instanceId : InstanceId) (updData : ThrData) :
    ThrVector :=
  let thr := thrFill 7 updData memory
  match thrData .thr1 instanceId with
  | some data => thrFill 0 data thr
  | none => thrFill 0 noThresholds thr

end Vectors

/-! ## PM entities -/

namespace PmThrMe

variable (thrData : ThrDataMes) (env : ThrEnv) (me : PmThrMe)

/-- `default_me_update` with new data. -/
def defaultMeUpdate (thrDataId : InstanceId) : PmThrMe × Bool :=
  me.thrSet (env.thrSet me.key) (defaultMeUpdateThr thrData env.memory thrDataId)

/-- `pm_me_thr_set`; the result of the handler is not looked at. -/
def pmMeThrSet : PmThrMe :=
  if env.attrRead me.key then (me.thrSet env.thrSetAgain (pmMeThrSetThr thrData me.thrDataId)).1
  else me

/-- `default_me_init`: `me_data_write` of the initial data. -/
def defaultMeInit (thrDataId : InstanceId) : Option PmThrMe :=
  match me.defaultMeUpdate thrData env thrDataId with
  | (me, true) => some (pmMeThrSet thrData env { me with thrDataId := thrDataId })
  | (_, false) => none

/-- `set_action_handle`, for a SET of `thr_data_id` to a value, if it is in the attribute mask,
and perhaps a change of something else. -/
def setActionHandle (thrDataId : Option InstanceId) (other : Bool) : PmThrMe :=
  let newId := thrDataId.getD me.thrDataId
  if !other && newId == me.thrDataId then me
  else
    let (me, success) := me.defaultMeUpdate thrData env newId
    -- the new data is not yet copied
    let me := if thrDataId.isSome then me.pmMeThrSet thrData env else me
    if success then { me with thrDataId := newId } else me

end PmThrMe

/-! ## Threshold data entities -/

/-- `thr_data_walker`. -/
def thrDataWalker (env : ThrEnv) (instanceId : InstanceId) (thr : ThrVector) (me : PmThrMe) :
    PmThrMe × Bool :=
  if !env.attrRead me.key then (me, false)
  else if me.thrDataId ≠ instanceId then (me, true)
  else me.thrSet (env.thrSet me.key) thr

/-- `mib_walk`, which ends with the first error. -/
def thrMibWalk (walker : PmThrMe → PmThrMe × Bool) : List PmThrMe → List PmThrMe × Bool
  | [] => ([], true)
  | me :: rest =>
      match walker me with
      | (me, true) =>
          let (rest, success) := thrMibWalk walker rest
          (me :: rest, success)
      | (me, false) => (me :: rest, false)

/-- The vector of `me_update` of a threshold data class. -/
def thresholdDataThr (thrData : ThrDataMes) (cls : ThrDataClass) (memory : ThrVector)
    (instanceId : InstanceId) (updData : ThrData) : ThrVector :=
  match cls with
  | .thr1 => thresholdData1Thr thrData memory instanceId updData
  | .thr2 => thresholdData2Thr thrData memory instanceId updData

/-- `me_update` of a threshold data class, and the new data if it succeeds. -/
def ThrMib.thrDataUpdate (mib : ThrMib) (env : ThrEnv) (cls : ThrDataClass)
    (instanceId : InstanceId) (updData : ThrData) : ThrMib :=
  let thr := thresholdDataThr mib.thrData cls env.memory instanceId updData
  match thrMibWalk (thrDataWalker env instanceId thr) mib.pm with
  | (pm, true) => ⟨mib.thrData.set cls instanceId (some updData), pm⟩
  | (pm, false) => { mib with pm := pm }

/-! ## Runs -/

/-- A request of the OLT. -/
inductive ThrEvent
  /-- `context` is what the new `pm_me_context`, or the driver, holds. -/
  | createPm (cls : PmThrClass) (instanceId thrDataId : InstanceId) (context : ThrVector)
      (env : ThrEnv)
  | setPm (key : Nat) (thrDataId : Option InstanceId) (other : Bool) (env : ThrEnv)
  | deletePm (key : Nat)
  | createThr (cls : ThrDataClass) (instanceId : InstanceId) (values : ThrData) (env : ThrEnv)
  | setThr (cls : ThrDataClass) (instanceId : InstanceId) (values : ThrData) (env : ThrEnv)
  | deleteThr (cls : ThrDataClass) (instanceId : InstanceId)

def ThrMib.add (mib : ThrMib) (me : PmThrMe) : ThrMib :=
  { mib with pm := mib.pm.orderedInsert (fun first second => first.key ≤ second.key) me }

/-- A CREATE of a PM entity that is not there yet. -/
def ThrMib.createPm (mib : ThrMib) (me : PmThrMe) (thrDataId : InstanceId) (env : ThrEnv) :
    ThrMib :=
  if me.cls.initWrites then
    match me.defaultMeInit mib.thrData env thrDataId with
    | some me => mib.add me
    | none => mib
  else mib.add { me with thrDataId := thrDataId }

/-- One step. -/
def thrStep (mib : ThrMib) : ThrEvent → Option ThrMib
  | .createPm cls instanceId thrDataId context env =>
      let me : PmThrMe := ⟨cls, instanceId, 0, context⟩
      if mib.pm.any fun other => other.key == me.key then some mib
      else some (mib.createPm me thrDataId env)
  | .setPm key thrDataId other env =>
      some { mib with
        pm := mib.pm.map fun me =>
          if me.key = key then me.setActionHandle mib.thrData env thrDataId other else me }
  | .deletePm key => some { mib with pm := mib.pm.filter fun me => me.key != key }
  | .createThr cls instanceId values env =>
      match mib.thrData cls instanceId with
      | some _ => some mib
      | none => some (mib.thrDataUpdate env cls instanceId values)
  | .setThr cls instanceId values env =>
      match mib.thrData cls instanceId with
      | some data =>
          if data = values then some mib else some (mib.thrDataUpdate env cls instanceId values)
      | none => some mib
  | .deleteThr cls instanceId =>
      some { mib with thrData := mib.thrData.set cls instanceId none }

/-- The first thresholds are those of the threshold data entities with this name. -/
structure ThrAgrees (thrData : ThrDataMes) (thrNum : Nat) (thrDataId : InstanceId) (thr : ThrVector) :
    Prop where
  thr1 : ∀ data ∈ thrData .thr1 thrDataId, ∀ i : Fin 7, i.val < thrNum → thr i = data i
  thr2 : ∀ data ∈ thrData .thr2 thrDataId, ∀ i : Fin 7, 7 + i.val < thrNum →
    thr (7 + i) = data i

def ThrMib.Agrees (mib : ThrMib) : Prop :=
  ∀ me ∈ mib.pm, ThrAgrees mib.thrData me.cls.thrNum me.thrDataId me.thr

/-- The thresholds with the new name happen to be those with the old one, if the latter of
Threshold Data 2 are moved up by one. -/
structure ThrMoved (thrData : ThrDataMes) (thrNum : Nat) (oldId newId : InstanceId) : Prop where
  thr1 : ∀ data ∈ thrData .thr1 newId, ∀ i : Fin 7, i.val < thrNum →
    data i = (thrData .thr1 oldId).elim 0 fun old => old i
  thr2 : ∀ data ∈ thrData .thr2 newId, ∀ i : Fin 7, 7 + i.val < thrNum →
    data i = if i = 0 then 0 else (thrData .thr2 oldId).elim 0 fun old => old (i - 1)

/-- `pm_me_thr_set` gets as far as the handler, which succeeds. -/
def PmThrMe.setAgain (env : ThrEnv) (me : PmThrMe) : Prop :=
  env.attrRead me.key = true ∧ (me.cls.driver = true → env.thrSetAgain = true)

def PmThrMe.setAccepted (env : ThrEnv) (me : PmThrMe) : Prop :=
  me.cls.driver = true → env.thrSet me.key = true

def ThrMib.WalkAccepted (mib : ThrMib) (env : ThrEnv) (instanceId : InstanceId) : Prop :=
  ∀ me ∈ mib.pm, env.attrRead me.key = true ∧ (me.thrDataId = instanceId → me.setAccepted env)

/-- The condition on a step. -/
def ThrGuard (mib : ThrMib) : ThrEvent → Prop
  | .createPm cls instanceId thrDataId context env =>
      let me : PmThrMe := ⟨cls, instanceId, 0, context⟩
      (∀ other ∈ mib.pm, other.key ≠ me.key) →
        if cls.initWrites then
          me.setAccepted env → me.setAgain env → ThrMoved mib.thrData cls.thrNum thrDataId thrDataId
        else ThrAgrees mib.thrData cls.thrNum thrDataId context
  | .setPm key thrDataId other env =>
      ∀ me ∈ mib.pm, me.key = key → ∀ newId ∈ thrDataId,
        other = true ∨ newId ≠ me.thrDataId → me.setAgain env →
          (me.setAccepted env → ThrMoved mib.thrData me.cls.thrNum me.thrDataId newId) ∧
            (¬ me.setAccepted env → ThrMoved mib.thrData me.cls.thrNum me.thrDataId me.thrDataId)
  | .createThr cls instanceId _ env =>
      mib.thrData cls instanceId = none → mib.WalkAccepted env instanceId
  | .setThr cls instanceId values env =>
      ∀ data ∈ mib.thrData cls instanceId, data ≠ values → mib.WalkAccepted env instanceId
  | .deletePm _ | .deleteThr _ _ => True

/-! ## Which vectors agree -/

section Agree

variable {thrData : ThrDataMes} {thrNum : Nat} {oldId newId : InstanceId}

theorem ThrAgrees.congr {thr thr' : ThrVector} (h : ThrAgrees thrData thrNum newId thr)
    (hsame : ∀ i < thrNum, thr' i = thr i) : ThrAgrees thrData thrNum newId thr' where
  thr1 data hdata i hi := (hsame _ hi).trans (h.thr1 data hdata i hi)
  thr2 data hdata i hi := (hsame _ hi).trans (h.thr2 data hdata i hi)

theorem thrFill_zero (data : ThrData) (thr : ThrVector) (i : Fin 7) :
    thrFill 0 data thr i = data i := by
  have hfill := thrFill_add 0 data thr i
  rw [Nat.zero_add] at hfill
  exact hfill

/-- The vector of `default_me_update` agrees. -/
theorem thrAgrees_defaultMeUpdateThr (memory : ThrVector) :
    ThrAgrees thrData thrNum newId (defaultMeUpdateThr thrData memory newId) where
  thr1 data hdata i _ := by
    rw [Option.mem_def] at hdata
    rw [defaultMeUpdateThr, hdata]
    cases thrData .thr2 newId with
    | none | some data2 => exact (thrFill_of_lt _ _ i.isLt).trans (thrFill_zero data memory i)
  thr2 data hdata i _ := by
    rw [Option.mem_def] at hdata
    rw [defaultMeUpdateThr, hdata]
    exact thrFill_add 7 data _ i

/-- The first seven thresholds of `pm_me_thr_set`. -/
theorem pmMeThrSetThr_first (thrData : ThrDataMes) (oldId : InstanceId) (i : Fin 7) :
    pmMeThrSetThr thrData oldId i = (thrData .thr1 oldId).elim 0 fun old => old i := by
  rw [pmMeThrSetThr]
  have hlt : i.val < 8 := by omega
  cases thrData .thr1 oldId with
  | none =>
      cases thrData .thr2 oldId with
      | none => rfl
      | some data2 => exact thrFill_of_lt _ _ hlt
  | some data1 =>
      cases thrData .thr2 oldId with
      | none => exact thrFill_zero data1 _ i
      | some data2 => exact (thrFill_of_lt _ _ hlt).trans (thrFill_zero data1 _ i)

theorem thrFill_zeros_of_le (data : Option ThrData) {i : Nat} (h : 7 ≤ i) :
    (match data with
      | some data => thrFill 0 data fun _ => 0
      | none => (fun _ => 0 : ThrVector)) i = 0 := by
  cases data with
  | none => rfl
  | some data => exact thrFill_of_le _ _ (by omega)

theorem pmMeThrSetThr_seven (thrData : ThrDataMes) (oldId : InstanceId) :
    pmMeThrSetThr thrData oldId 7 = 0 := by
  rw [pmMeThrSetThr]
  cases thrData .thr2 oldId with
  | none => exact thrFill_zeros_of_le _ (by decide)
  | some data2 =>
      exact (thrFill_of_lt _ _ (by decide)).trans (thrFill_zeros_of_le _ (by decide))

theorem pmMeThrSetThr_eight (thrData : ThrDataMes) (oldId : InstanceId) (i : Fin 7) :
    pmMeThrSetThr thrData oldId (8 + i) = (thrData .thr2 oldId).elim 0 fun old => old i := by
  rw [pmMeThrSetThr]
  cases thrData .thr2 oldId with
  | none => exact thrFill_zeros_of_le _ (by omega)
  | some data2 => exact thrFill_add 8 data2 _ i

theorem pmMeThrSetThr_second (thrData : ThrDataMes) (oldId : InstanceId) (i : Fin 7) :
    pmMeThrSetThr thrData oldId (7 + i) =
      if i = 0 then 0 else (thrData .thr2 oldId).elim 0 fun old => old (i - 1) := by
  by_cases hzero : i = 0
  · subst hzero
    exact pmMeThrSetThr_seven thrData oldId
  · rw [if_neg hzero, ← pmMeThrSetThr_eight]
    have hpos : i.val ≠ 0 := fun h => hzero (Fin.ext h)
    have hpred : (i - 1).val = i.val - 1 := by
      rw [Fin.sub_val_of_le (Fin.le_def.mpr (Nat.one_le_iff_ne_zero.mpr hpos))]
      rfl
    have hindex : 7 + i.val = 8 + (i - 1).val := by omega
    rw [hindex]

/-- When the vector of `pm_me_thr_set` agrees. -/
theorem thrAgrees_pmMeThrSetThr_iff :
    ThrAgrees thrData thrNum newId (pmMeThrSetThr thrData oldId) ↔
      ThrMoved thrData thrNum oldId newId := by
  constructor
  · intro h
    exact ⟨fun data hdata i hi =>
        (h.thr1 data hdata i hi).symm.trans (pmMeThrSetThr_first thrData oldId i),
      fun data hdata i hi =>
        (h.thr2 data hdata i hi).symm.trans (pmMeThrSetThr_second thrData oldId i)⟩
  · intro h
    exact ⟨fun data hdata i hi =>
        (pmMeThrSetThr_first thrData oldId i).trans (h.thr1 data hdata i hi).symm,
      fun data hdata i hi =>
        (pmMeThrSetThr_second thrData oldId i).trans (h.thr2 data hdata i hi).symm⟩

/-- The vector of a threshold data class agrees with the new values. -/
theorem thrAgrees_thresholdDataThr (cls : ThrDataClass) (memory : ThrVector) (values : ThrData) :
    ThrAgrees (thrData.set cls newId (some values)) thrNum newId
      (thresholdDataThr thrData cls memory newId values) := by
  cases cls with
  | thr1 =>
      refine ⟨fun data hdata i _ => ?_, fun data hdata i _ => ?_⟩
      · rw [ThrDataMes.set_self] at hdata
        obtain rfl := Option.some.inj hdata
        rw [thresholdDataThr, thresholdData1Thr]
        cases thrData .thr2 newId with
        | none | some data2 => exact (thrFill_of_lt _ _ i.isLt).trans (thrFill_zero values memory i)
      · have hother : ThrDataClass.thr2 ≠ .thr1 := nofun
        rw [ThrDataMes.set_of_ne _ _ (.inl hother), Option.mem_def] at hdata
        rw [thresholdDataThr, thresholdData1Thr, hdata]
        exact thrFill_add 7 data _ i
  | thr2 =>
      refine ⟨fun data hdata i _ => ?_, fun data hdata i _ => ?_⟩
      · have hother : ThrDataClass.thr1 ≠ .thr2 := nofun
        rw [ThrDataMes.set_of_ne _ _ (.inl hother), Option.mem_def] at hdata
        rw [thresholdDataThr, thresholdData2Thr, hdata]
        exact thrFill_zero data _ i
      · rw [ThrDataMes.set_self] at hdata
        obtain rfl := Option.some.inj hdata
        have hsecond := thrFill_add 7 values memory i
        rw [thresholdDataThr, thresholdData2Thr]
        cases thrData .thr1 newId with
        | none => exact (thrFill_of_le _ _ (by omega)).trans hsecond
        | some data1 => exact (thrFill_of_le _ _ (by omega)).trans hsecond

end Agree

/-! ## Steps -/

namespace PmThrMe

variable {thrData : ThrDataMes} {env : ThrEnv} {me : PmThrMe}

def programmed (me : PmThrMe) (thr : ThrVector) : PmThrMe :=
  { me with thr := fun i => if i < me.cls.thrNum then thr i else me.thr i }

def Agrees (thrData : ThrDataMes) (me : PmThrMe) : Prop :=
  ThrAgrees thrData me.cls.thrNum me.thrDataId me.thr

theorem thrAgrees_programmed {thr : ThrVector} {id : InstanceId}
    (h : ThrAgrees thrData me.cls.thrNum id thr) :
    ThrAgrees thrData me.cls.thrNum id (me.programmed thr).thr :=
  h.congr fun _ hi => if_pos hi

theorem thrSet_refused {accepted : Bool} (h : ¬ (me.cls.driver = true → accepted = true))
    (thr : ThrVector) : me.thrSet accepted thr = (me, false) := by
  obtain ⟨hdriver, haccepted⟩ := Classical.not_imp.mp h
  rw [thrSet, hdriver, Bool.eq_false_of_not_eq_true haccepted]
  rfl

theorem thrSet_accepted {accepted : Bool} (h : me.cls.driver = true → accepted = true)
    (thr : ThrVector) : me.thrSet accepted thr = (me.programmed thr, true) := by
  have hnot : ¬ (me.cls.driver && !accepted) = true := by
    simp only [Bool.and_eq_true, Bool.not_eq_true', not_and, Bool.not_eq_false]
    exact h
  rw [thrSet, if_neg hnot]
  rfl

/-- `pm_me_thr_set` changes nothing if it does not get to the handler. -/
theorem pmMeThrSet_of_not (h : ¬ me.setAgain env) : me.pmMeThrSet thrData env = me := by
  rw [pmMeThrSet]
  split
  · rename_i hread
    have hrefused : ¬ (me.cls.driver = true → env.thrSetAgain = true) := fun haccepted =>
      h ⟨hread, haccepted⟩
    rw [thrSet_refused hrefused]
  · rfl

theorem pmMeThrSet_of (h : me.setAgain env) :
    me.pmMeThrSet thrData env = me.programmed (pmMeThrSetThr thrData me.thrDataId) := by
  rw [pmMeThrSet, if_pos h.1, thrSet_accepted h.2]

/-- `pm_me_thr_set` keeps an entity right if it makes no difference that it moves the
thresholds with the stored name. -/
theorem thrAgrees_pmMeThrSet {id : InstanceId} (h : ThrAgrees thrData me.cls.thrNum id me.thr)
    (hmoved : me.setAgain env → ThrMoved thrData me.cls.thrNum me.thrDataId id) :
    ThrAgrees thrData me.cls.thrNum id (me.pmMeThrSet thrData env).thr := by
  by_cases hagain : me.setAgain env
  · rw [pmMeThrSet_of hagain]
    exact thrAgrees_programmed (thrAgrees_pmMeThrSetThr_iff.mpr (hmoved hagain))
  · rw [pmMeThrSet_of_not hagain]
    exact h

/-- `pm_me_thr_set` changes the thresholds only. -/
theorem pmMeThrSet_kept (thrData : ThrDataMes) (env : ThrEnv) (me : PmThrMe) :
    (me.pmMeThrSet thrData env).cls = me.cls ∧
      (me.pmMeThrSet thrData env).thrDataId = me.thrDataId := by
  by_cases hagain : me.setAgain env
  · rw [pmMeThrSet_of hagain]
    exact ⟨rfl, rfl⟩
  · rw [pmMeThrSet_of_not hagain]
    exact ⟨rfl, rfl⟩

/-- A new entity is right. -/
theorem agrees_defaultMeInit {thrDataId : InstanceId} {me' : PmThrMe}
    (hmoved : me.setAccepted env → me.setAgain env →
      ThrMoved thrData me.cls.thrNum thrDataId thrDataId)
    (hinit : me.defaultMeInit thrData env thrDataId = some me') : me'.Agrees thrData := by
  rw [defaultMeInit, defaultMeUpdate] at hinit
  by_cases haccepted : me.setAccepted env
  · rw [thrSet_accepted haccepted] at hinit
    obtain rfl := Option.some.inj hinit
    have hupdate := @thrAgrees_programmed thrData me _ thrDataId
      (thrAgrees_defaultMeUpdateThr env.memory)
    obtain ⟨hcls, hname⟩ := pmMeThrSet_kept thrData env
      { me.programmed (defaultMeUpdateThr thrData env.memory thrDataId) with
        thrDataId := thrDataId }
    rw [Agrees, hcls, hname]
    apply thrAgrees_pmMeThrSet hupdate
    exact fun hagain => hmoved haccepted hagain
  · rw [thrSet_refused haccepted] at hinit
    cases hinit

/-- A SET keeps an entity right. -/
theorem agrees_setActionHandle {thrDataId : Option InstanceId} {other : Bool}
    (h : me.Agrees thrData)
    (hmoved : ∀ newId ∈ thrDataId, other = true ∨ newId ≠ me.thrDataId → me.setAgain env →
      (me.setAccepted env → ThrMoved thrData me.cls.thrNum me.thrDataId newId) ∧
        (¬ me.setAccepted env → ThrMoved thrData me.cls.thrNum me.thrDataId me.thrDataId)) :
    (me.setActionHandle thrData env thrDataId other).Agrees thrData := by
  rw [setActionHandle]
  dsimp only
  split
  · exact h
  · rename_i hchanged
    have hupdated : ∀ newId ∈ thrDataId, other = true ∨ newId ≠ me.thrDataId := by
      intro newId hnew
      obtain rfl := Option.mem_def.mp hnew
      simpa [imp_iff_not_or] using hchanged
    rw [defaultMeUpdate]
    by_cases haccepted : me.setAccepted env
    · rw [thrSet_accepted haccepted]
      have hupdate (newId : InstanceId) := @thrAgrees_programmed thrData me _ newId
        (thrAgrees_defaultMeUpdateThr env.memory)
      cases thrDataId with
      | none => exact hupdate me.thrDataId
      | some newId =>
          show ThrAgrees thrData (pmMeThrSet thrData env (me.programmed _)).cls.thrNum newId
            (pmMeThrSet thrData env (me.programmed _)).thr
          rw [(pmMeThrSet_kept _ _ _).1]
          apply thrAgrees_pmMeThrSet (hupdate newId)
          exact fun hagain => (hmoved newId rfl (hupdated newId rfl) hagain).1 haccepted
    · rw [thrSet_refused haccepted]
      cases thrDataId with
      | none => exact h
      | some newId =>
          show Agrees thrData (pmMeThrSet thrData env me)
          rw [Agrees, (pmMeThrSet_kept _ _ _).1, (pmMeThrSet_kept _ _ _).2]
          apply thrAgrees_pmMeThrSet h
          exact fun hagain => (hmoved newId rfl (hupdated newId rfl) hagain).2 haccepted

/-- New threshold data makes the entities right that name it, and leaves the others so. -/
theorem agrees_walked {cls : ThrDataClass} {instanceId : InstanceId} (h : me.Agrees thrData)
    (memory : ThrVector) (values : ThrData) : (if me.thrDataId = instanceId then
        me.programmed (thresholdDataThr thrData cls memory instanceId values)
      else me).Agrees (thrData.set cls instanceId (some values)) := by
  by_cases hname : me.thrDataId = instanceId
  · subst hname
    rw [if_pos rfl]
    exact @thrAgrees_programmed _ me _ _ (thrAgrees_thresholdDataThr cls memory values)
  · rw [if_neg hname]
    refine ⟨fun data hdata => ?_, fun data hdata => ?_⟩
    · rw [ThrDataMes.set_of_ne _ _ (.inr hname)] at hdata
      exact h.thr1 data hdata
    · rw [ThrDataMes.set_of_ne _ _ (.inr hname)] at hdata
      exact h.thr2 data hdata

end PmThrMe

theorem thrMibWalk_eq {walker : PmThrMe → PmThrMe × Bool} {pm : List PmThrMe}
    (hwalker : ∀ me ∈ pm, (walker me).2 = true) :
    thrMibWalk walker pm = (pm.map fun me => (walker me).1, true) := by
  induction pm with
  | nil => rfl
  | cons me rest ih =>
      have hme := hwalker me List.mem_cons_self
      have hrest := ih fun other hother => hwalker other (List.mem_cons_of_mem _ hother)
      rw [thrMibWalk, hrest]
      generalize hresult : walker me = result at hme
      obtain ⟨me', success⟩ := result
      obtain rfl : success = true := hme
      rw [List.map_cons, hresult]

theorem thrDataWalker_eq {env : ThrEnv} {instanceId : InstanceId} {me : PmThrMe}
    (hread : env.attrRead me.key = true)
    (hset : me.thrDataId = instanceId → me.setAccepted env) (thr : ThrVector) :
    thrDataWalker env instanceId thr me =
      (if me.thrDataId = instanceId then me.programmed thr else me, true) := by
  rw [thrDataWalker, hread]
  by_cases hname : me.thrDataId = instanceId
  · rw [if_pos hname, if_neg (by simp), if_neg (not_not.mpr hname)]
    exact PmThrMe.thrSet_accepted (hset hname) thr
  · rw [if_neg hname, if_neg (by simp), if_pos hname]

/-- New threshold data reaches all entities that name it. -/
theorem ThrMib.agrees_thrDataUpdate {mib : ThrMib} {env : ThrEnv} {cls : ThrDataClass}
    {instanceId : InstanceId} {values : ThrData} (h : mib.Agrees)
    (haccepted : mib.WalkAccepted env instanceId) :
    (mib.thrDataUpdate env cls instanceId values).Agrees := by
  have hwalker (thr : ThrVector) (me : PmThrMe) (hme : me ∈ mib.pm) :=
    thrDataWalker_eq (haccepted me hme).1 (haccepted me hme).2 thr
  have hupdate : mib.thrDataUpdate env cls instanceId values =
      ⟨mib.thrData.set cls instanceId (some values), mib.pm.map fun me =>
        (thrDataWalker env instanceId
          (thresholdDataThr mib.thrData cls env.memory instanceId values) me).1⟩ := by
    rw [thrDataUpdate, thrMibWalk_eq fun me hme => by rw [hwalker _ me hme]]
  rw [hupdate]
  intro me' hme'
  obtain ⟨me, hme, rfl⟩ := List.mem_map.mp hme'
  rw [hwalker _ me hme]
  exact PmThrMe.agrees_walked (h me hme) env.memory values

/-- Every step keeps all entities right. -/
theorem thrStep_agrees {mib mib' : ThrMib} {event : ThrEvent} (h : mib.Agrees)
    (hguard : ThrGuard mib event) (hstep : thrStep mib event = some mib') : mib'.Agrees := by
  have hadd {me : PmThrMe} (hme : me.Agrees mib.thrData) : (mib.add me).Agrees := by
    intro other hother
    rcases (List.mem_orderedInsert _).mp hother with rfl | hmem
    · exact hme
    · exact h other hmem
  cases event with
  | createPm cls instanceId thrDataId context env =>
      rw [thrStep] at hstep
      split at hstep
      · obtain rfl := Option.some.inj hstep
        exact h
      · rename_i hnew
        have hcreate := hguard (by simpa using hnew)
        obtain rfl := Option.some.inj hstep
        rw [ThrMib.createPm]
        split at hcreate
        · rename_i hwrites
          rw [if_pos hwrites]
          split
          · rename_i me hinit
            exact hadd (PmThrMe.agrees_defaultMeInit hcreate hinit)
          · exact h
        · rename_i hwrites
          rw [if_neg hwrites]
          exact hadd hcreate
  | setPm key thrDataId other env =>
      obtain rfl := Option.some.inj hstep
      intro me' hme'
      obtain ⟨me, hme, rfl⟩ := List.mem_map.mp hme'
      split
      · rename_i hkey
        exact PmThrMe.agrees_setActionHandle (h me hme) (hguard me hme hkey)
      · exact h me hme
  | deletePm key =>
      obtain rfl := Option.some.inj hstep
      intro me hme
      exact h me (List.mem_filter.mp hme).1
  | createThr cls instanceId values env =>
      rw [thrStep] at hstep
      split at hstep
      · obtain rfl := Option.some.inj hstep
        exact h
      · rename_i hnone
        obtain rfl := Option.some.inj hstep
        exact ThrMib.agrees_thrDataUpdate h (hguard hnone)
  | setThr cls instanceId values env =>
      rw [thrStep] at hstep
      split at hstep
      · rename_i data hdata
        split at hstep
        · obtain rfl := Option.some.inj hstep
          exact h
        · rename_i hchanged
          obtain rfl := Option.some.inj hstep
          exact ThrMib.agrees_thrDataUpdate h (hguard data hdata hchanged)
      · obtain rfl := Option.some.inj hstep
        exact h
  | deleteThr cls instanceId =>
      obtain rfl := Option.some.inj hstep
      intro me hme
      have hkept : ∀ {other : ThrDataClass} {data : ThrData},
          data ∈ mib.thrData.set cls instanceId none other me.thrDataId →
            data ∈ mib.thrData other me.thrDataId := by
        intro other data hdata
        rw [ThrDataMes.set] at hdata
        split at hdata
        · cases hdata
        · exact hdata
      have hagrees := h me hme
      exact ⟨fun data hdata => hagrees.thr1 data (hkept hdata),
        fun data hdata => hagrees.thr2 data (hkept hdata)⟩

def ThrMib.start (thrData : ThrDataMes) : ThrMib where
  thrData := thrData
  pm := []

/-- In every run that meets the condition all PM entities have the thresholds they name after
every step. -/
theorem thrAgrees_of_guard (thrData : ThrDataMes) {mib : ThrMib}
    (hreach : ReachOn thrStep ThrGuard (.start thrData) mib) : mib.Agrees :=
  hreach.invariant (fun _ hme => by cases hme)
    fun _ _ _ hbefore hguard hstep => thrStep_agrees hbefore hguard hstep

/-! ## The bytes behind it -/

section Bytes

variable {ω : Type}

def ThrDataClass.classId : ThrDataClass → ClassId
  | .thr1 => omciMeThresholdData1
  | .thr2 => omciMeThresholdData2

/-- The class has seven words one after the other. -/
structure ThresholdLayout (cls : MeClass ω) : Prop where
  size : cls.dataSize = thresholdDataSize
  laidOut : cls.laidOut = true
  exist : ∀ i < 7, cls.isMeAttrExist (Fin.ofNat 16 i) = true
  get : ∀ attr, (cls.attrs attr).get.isNone = true
  words : ∀ i < 7, (cls.attrs (Fin.ofNat 16 i)).offset = 4 * i ∧
    (cls.attrs (Fin.ofNat 16 i)).size = 4

/-- The threshold data that the MIB holds. -/
def thrDataOf (table : ClassTable ω) (ctx : Context ω) (store : Store ω) : ThrDataMes :=
  fun cls instanceId =>
    match mibMeFind table ctx cls.classId instanceId with
    | .ok ref => some fun i => word32 (store.me ref).bytes (4 * i)
    | .error _ => none

def thrDataIdOf (cls : MeClass ω) (ref : MeRef) (store : Store ω) : InstanceId :=
  let offset := (cls.attrs omciMePmThrDataId).offset
  (store.me ref).bytes offset ++ (store.me ref).bytes (offset + 1)

theorem currentValue_of_none {cls : MeClass ω} {ref : MeRef} {store : Store ω} {attr : Attr}
    (hget : (cls.attrs attr).get.isNone = true) :
    currentValue cls ref store attr = cls.attrValue attr (store.me ref).bytes := by
  rw [currentValue, Option.isNone_iff_eq_none.mp hget]

/-- `me_data_read` of threshold data. -/
theorem meDataRead_threshold {cls : MeClass ω} (h : ThresholdLayout cls)
    (hpm : hasProp cls.prop (MeProp.pm ||| MeProp.pmInternal) = false) (ref : MeRef)
    (store : Store ω) : ∃ data, meDataRead cls ref .curr store = (store, .success, data) ∧
      ∀ i < 7, word32 data (4 * i) = word32 (store.me ref).bytes (4 * i) := by
  have hget : ∀ attr get, (cls.attrs attr).get = some get →
      (get.run ref store (cls.attrValue attr (store.me ref).bytes)).1 = .success := by
    intro attr get hsome
    have hnone := h.get attr
    rw [hsome] at hnone
    cases hnone
  have hstore := @meDataRead_store_of_not_pm _ cls ref store hpm .curr
  have hnone : ∀ attr, ¬ cls.GetFails ref (meDataRead cls ref .curr store).1 attr :=
    hstore.symm ▸ not_getFails hget
  refine ⟨(meDataRead cls ref .curr store).2.2,
    Prod.ext hstore (Prod.ext ((meDataRead_success_iff h.laidOut).mpr hnone) rfl), fun i hi => ?_⟩
  have hvalue := meDataRead_laidOut h.laidOut hnone (h.exist i hi)
  rw [hstore] at hvalue
  generalize (meDataRead cls ref .curr store).2.2 = data at hvalue ⊢
  rw [currentValue_of_none (h.get _), MeClass.attrValue, MeClass.attrValue, (h.words i hi).1,
    (h.words i hi).2, slice_eq_iff] at hvalue
  have hfirst := hvalue 0 (by decide)
  rw [Nat.add_zero] at hfirst
  rw [word32, word32, hfirst, hvalue 1 (by decide), hvalue 2 (by decide), hvalue 3 (by decide)]

/-- What `pm_me_thr_set` reads of a threshold data entity. -/
theorem thresholdsRead_eq {table : ClassTable ω} {ctx : Context ω} (hplain : table.PlainThresholds)
    (which : ThrDataClass)
    (hlayout : ∀ cls, table.classEntryFind which.classId = some cls → ThresholdLayout cls)
    (instanceId : InstanceId) (store : Store ω) :
    thresholdsRead table ctx which.classId instanceId store =
      some (store, .success, (List.finRange 7).map fun i =>
        (thrDataOf table ctx store which instanceId).elim 0 fun data => data i) := by
  have hwhich : which.classId = omciMeThresholdData1 ∨ which.classId = omciMeThresholdData2 := by
    cases which with
    | thr1 => exact .inl rfl
    | thr2 => exact .inr rfl
  rw [thresholdsRead, thrDataOf]
  cases hfind : mibMeFind table ctx which.classId instanceId with
  | error err => rfl
  | ok ref =>
      cases hclass : table.classEntryFind which.classId with
      | none =>
          rw [mibMeFind, hclass] at hfind
          cases hfind
      | some cls =>
          have hcls := hlayout cls hclass
          obtain ⟨data, hread, hwords⟩ :=
            meDataRead_threshold hcls (hplain _ _ hwhich hclass) ref store
          have hfits : ¬ thresholdDataSize < cls.dataSize := by
            rw [hcls.size]
            exact lt_irrefl _
          simp only [if_neg hfits, hread]
          congr 3
          rw [← List.map_coe_finRange_eq_range, List.map_map]
          exact List.map_congr_left fun i _ => hwords i i.isLt

/-- `pm_me_thr_set` hands its vector to the `thr_set` handler. -/
theorem pmMeThrSet_eq {table : ClassTable ω} {ctx : Context ω} (hplain : table.PlainThresholds)
    (hlayout : ∀ which cls, table.classEntryFind (ThrDataClass.classId which) = some cls →
      ThresholdLayout cls) {cls : PmDataClass ω} (hsize : (cls.attrs omciMePmThrDataId).size = 2)
    (hwritable : cls.Writable omciMePmThrDataId) {ref : MeRef} {store : Store ω}
    (hdata : (store.me ref).data = (store.me ref).curr) :
    pmMeThrSet table ctx cls.toMeClass ref store =
      some (thrSetCall cls.toMeClass ref ((List.range pmThrNum).map
        (pmMeThrSetThr (thrDataOf table ctx store) (thrDataIdOf cls.toMeClass ref store))) store) := by
  obtain ⟨hnone, hexist, _⟩ := cls.writable omciMePmThrDataId hwritable
  obtain ⟨data, hread, hvalues⟩ := @meDataRead_interval _ cls.toMeClass ref store .curr
    cls.internal.2 cls.laidOut cls.getHandlers hdata
  have hvalue := hvalues omciMePmThrDataId hexist
  rw [currentValue_of_none hnone, MeClass.attrValue, MeClass.attrValue, hsize, slice_eq_iff]
    at hvalue
  have hname : data (cls.attrs omciMePmThrDataId).offset ++
      data ((cls.attrs omciMePmThrDataId).offset + 1) = thrDataIdOf cls.toMeClass ref store := by
    have hfirst := hvalue 0 (by decide)
    rw [Nat.add_zero] at hfirst
    rw [thrDataIdOf, hfirst, hvalue 1 (by decide)]
  have hfirst := @thresholdsRead_eq _ table ctx hplain .thr1 (hlayout .thr1)
    (thrDataIdOf cls.toMeClass ref store) store
  have hsecond := @thresholdsRead_eq _ table ctx hplain .thr2 (hlayout .thr2)
    (thrDataIdOf cls.toMeClass ref store) store
  simp only [ThrDataClass.classId] at hfirst hsecond
  rw [pmMeThrSet, if_neg (not_not.mpr hsize), hread]
  simp only [hname, hfirst, hsecond]
  have hindices : List.range pmThrNum = (List.finRange 7).map (fun i => i.val) ++ [7] ++
      (List.finRange 7).map (fun i => 8 + i.val) := by
    decide
  rw [hindices, List.map_append, List.map_append, List.map_map, List.map_map]
  simp only [Function.comp_def, pmMeThrSetThr_first, pmMeThrSetThr_eight, pmMeThrSetThr_seven,
    List.map_cons, List.map_nil]

end Bytes

/-! ## A run -/

/-- `me_ip_host_monitoring_data_class`. -/
def ipHostMonitoringThr : PmThrClass := ⟨135, pmThrNum, false, true⟩

def ThrEnv.granted : ThrEnv := ⟨fun _ => 0, fun _ => true, fun _ => true, true⟩

def ipHostMonitoringCreate : ThrEvent := .createPm ipHostMonitoringThr 5 1 (fun _ => 0) .granted

def ipHostMonitoringKey : Nat := 135 * 2 ^ 16 + 5

/-- Threshold data that is created after the PM entity reaches it. -/
theorem thrAgrees_ipHostMonitoring : ∃ mib mib' : ThrMib,
    thrStep (.start fun _ _ => none) ipHostMonitoringCreate = some mib ∧
      thrStep mib (.createThr .thr2 1 (fun i => i.val) .granted) = some mib' ∧
      mib'.pm.map (fun me => me.thr 9) = [2] ∧ mib'.Agrees := by
  have hcreate : ThrGuard (.start fun _ _ => none) ipHostMonitoringCreate :=
    fun _ _ _ => ⟨nofun, nofun⟩
  have hthr : ∀ mib, thrStep (.start fun _ _ => none) ipHostMonitoringCreate = some mib →
      ThrGuard mib (.createThr .thr2 1 (fun i => i.val) .granted) :=
    fun _ _ _ _ _ => ⟨rfl, fun _ _ => rfl⟩
  have hreach : ∀ mib mib', thrStep (.start fun _ _ => none) ipHostMonitoringCreate = some mib →
      thrStep mib (.createThr .thr2 1 (fun i => i.val) .granted) = some mib' →
        ReachOn thrStep ThrGuard (.start fun _ _ => none) mib' :=
    fun mib _ hfirst hsecond => (ReachOn.tail .refl hcreate hfirst).tail (hthr mib hfirst) hsecond
  exact ⟨_, _, rfl, rfl, by decide, thrAgrees_of_guard _ (hreach _ _ rfl rfl)⟩

/-- Threshold data 1 and 2 with different values. -/
def sampleThrData : ThrDataMes := fun cls id =>
  match cls with
  | .thr1 => if id = 1 then some fun _ => 10 else if id = 2 then some fun _ => 20 else none
  | .thr2 => none

/-- After a SET of `thr_data_id` the PM entity has the thresholds it named before. -/
theorem ipHostMonitoring_not_agrees :
    ¬ ∀ mib, Reach thrStep (.start sampleThrData) mib → mib.Agrees := by
  intro hagrees
  have hrun : ∃ mib, Reach thrStep (.start sampleThrData) mib ∧
      mib.thrData .thr1 2 = some (fun _ => 20) ∧
        ∃ me ∈ mib.pm, me.cls.thrNum = pmThrNum ∧ me.thrDataId = 2 ∧ me.thr 0 = 10 := by
    have htest : (execOn thrStep (fun _ _ => True) (.start sampleThrData)
        [ipHostMonitoringCreate, .setPm ipHostMonitoringKey (some 2) false .granted]).any
        (fun mib => decide (mib.thrData .thr1 2 = some (fun _ => 20) ∧
          ∃ me ∈ mib.pm, me.cls.thrNum = pmThrNum ∧ me.thrDataId = 2 ∧ me.thr 0 = 10)) = true := by
      decide
    exact exists_reachOn_of_execOn htest
  obtain ⟨mib, hreach, hthr, me, hme, hnum, hname, hold⟩ := hrun
  have hright := (hagrees mib hreach me hme).thr1 (fun _ => 20) (hname.symm ▸ hthr) 0
    (by rw [hnum]; decide)
  have hsame : (10 : BitVec 32) = 20 := hold.symm.trans hright
  revert hsame
  decide

end FalconGpon.Omci
