/-
# Performance monitoring

`omci_pm.c`: the counters, intervals and threshold crossing alerts of PM entities that
the daemon handles itself (`OMCI_ME_PROP_PM_INTERNAL`), with the alarm bitmaps of
`omci_alarm.c`. The three buffers of such an entity are those of `MeData`.

What the class's `counters_get` handler writes into the attribute data is handed to the
functions here; its error is overwritten in the source, too. `PmMe.sent` is history.
-/

import FalconGpon.Omci.SetAction

namespace FalconGpon.Omci

open FalconGpon.Lib

variable {ω : Type}

/-! ## Alarm bitmaps -/

/-- `OMCI_ALARMS_NUM`. -/
def omciAlarmsNum : Nat := 224

/-- `uint8_t alarm_bitmap[OMCI_ALARM_BITMAP_SIZE]`; the most significant bit of the first
byte is alarm 0. -/
abbrev AlarmBitmap := BitVec 224

def alarmBit (alarm : Nat) : AlarmBitmap := 1#224 <<< (omciAlarmsNum - 1 - alarm)

/-- `alarm_set`. -/
def alarmSet (alarmBitmap : AlarmBitmap) (alarm : Nat) (active : Bool) : OmciError × AlarmBitmap :=
  if omciAlarmsNum - 1 < alarm then (.bounds, alarmBitmap)
  else if active then (.success, alarmBitmap ||| alarmBit alarm)
  else (.success, alarmBitmap &&& ~~~alarmBit alarm)

/-- `is_alarm_bitmap_empty`. -/
def isAlarmBitmapEmpty : Option AlarmBitmap → Bool
  | some alarmBitmap => alarmBitmap == 0
  | none => true

/-! ## PM classes and entities -/

/-- `enum omci_pm_interval`, with `OMCI_PM_INTERVAL_END`. -/
inductive OmciPmInterval
  | of (interval : PmInterval)
  | intervalEnd
deriving DecidableEq

/-- `struct me_tca`. -/
structure MeTca where
  thrNum : Nat
  attrNum : Nat
  thrAttrNum : Nat
deriving DecidableEq

def attrOfNum (attrNum : Nat) : Attr := Fin.ofNat 16 (attrNum - 1)

/-- `omci_me_pm_counter_1` to `omci_me_pm_counter_max`. -/
def pmCounters : List Attr := (List.finRange 16).drop 2

/-- `sizeof(struct pm_me_data)`. -/
def pmMeDataSize : Nat := 3

/-- The counters of a class lie behind its `struct pm_me_data`, within the data and apart
from one another, and are of 8, 16 or 32 bits. -/
structure PmLayout (cls : MeClass ω) : Prop where
  within : ∀ attr ∈ pmCounters, cls.isMeAttrExist attr = true →
    pmMeDataSize ≤ (cls.attrs attr).offset ∧
      (cls.attrs attr).offset + (cls.attrs attr).size ≤ cls.dataSize
  size : ∀ attr ∈ pmCounters, cls.isMeAttrExist attr = true →
    (cls.attrs attr).size = 1 ∨ (cls.attrs attr).size = 2 ∨ (cls.attrs attr).size = 4
  apart : ∀ attr ∈ pmCounters, cls.isMeAttrExist attr = true →
    ∀ other ∈ pmCounters, cls.isMeAttrExist other = true → attr ≠ other →
      (cls.attrs attr).offset + (cls.attrs attr).size ≤ (cls.attrs other).offset ∨
        (cls.attrs other).offset + (cls.attrs other).size ≤ (cls.attrs attr).offset

/-- The class of PM entities that the daemon handles itself, with its `tca_table` up to the
end marker. -/
structure PmClass (ω : Type) extends MeClass ω where
  tcaTable : List MeTca
  internal : hasProp prop MeProp.pm = true ∧ hasProp prop MeProp.pmInternal = true
  layout : PmLayout toMeClass

/-- `PM_THR_NUM`. -/
def pmThrNum : Nat := 15

/-- `struct pm_me_context`, without the interval pointers. -/
structure PmMeContext where
  tcaBitmap : AlarmBitmap
  thr : Nat → BitVec 32

/-- A PM entity: its data, its PM context and its alarm bitmap. -/
structure PmMe extends MeData, PmMeContext where
  alarmBitmap : Option AlarmBitmap
  /-- The bitmaps of the TCA notifications that were sent, oldest first. -/
  sent : List AlarmBitmap

/-- A new entity. The allocated PM context is not cleared, its buffers are. -/
def pmMeNew (cls : PmClass ω) (memory : PmMeContext) : PmMe where
  toMeData := .blank
  toPmMeContext := memory
  alarmBitmap := if hasProp cls.prop MeProp.hasAlarms then some 0 else none
  sent := []

/-! ## Attribute values -/

/-- `attr_data_get`. -/
def attrDataGet (data : Buffer) (off size : Nat) : BitVec 64 :=
  match size with
  | 1 => (data off).setWidth 64
  | 2 => (data off ++ data (off + 1)).setWidth 64
  | 4 => (word32 data off).setWidth 64
  | _ => 0

/-- The bytes `attr_data_set` writes. -/
def attrOctets (size : Nat) (val : BitVec 64) : List Byte :=
  match size with
  | 1 => [val.setWidth 8]
  | 2 => [(val >>> 8).setWidth 8, val.setWidth 8]
  | 4 => [(val >>> 24).setWidth 8, (val >>> 16).setWidth 8, (val >>> 8).setWidth 8,
      val.setWidth 8]
  | _ => []

/-- `attr_data_set`. -/
def attrDataSet (data : Buffer) (off size : Nat) (val : BitVec 64) : Buffer :=
  patch data off (attrOctets size val)

/-- `attr_sub`. -/
def attrSub (lhs rhs : BitVec 64) (size : Nat) : BitVec 64 :=
  match size with
  | 1 => if lhs.setWidth 8 < rhs.setWidth 8 then 0xff - rhs + lhs + 1 else lhs - rhs
  | 2 => if lhs.setWidth 16 < rhs.setWidth 16 then 0xffff - rhs + lhs + 1 else lhs - rhs
  | 4 => if lhs.setWidth 32 < rhs.setWidth 32 then 0xffffffff - rhs + lhs + 1 else lhs - rhs
  | _ => 0

/-- `attr_add`. -/
def attrAdd (lhs rhs : BitVec 64) (size : Nat) : BitVec 64 :=
  match size with
  | 1 => if (lhs + rhs).setWidth 8 < lhs.setWidth 8 then 0xff else lhs + rhs
  | 2 => if (lhs + rhs).setWidth 16 < lhs.setWidth 16 then 0xffff else lhs + rhs
  | 4 => if (lhs + rhs).setWidth 32 < lhs.setWidth 32 then 0xffffffff else lhs + rhs
  | _ => 0

def MeClass.attrData (cls : MeClass ω) (data : Buffer) (attr : Attr) : BitVec 64 :=
  attrDataGet data (cls.attrs attr).offset (cls.attrs attr).size

/-! ## Threshold crossing alerts -/

/-- `tca_send`. -/
def PmMe.tcaSend (me : PmMe) (tcaBitmap : AlarmBitmap) : PmMe :=
  { me with sent := me.sent ++ [tcaBitmap] }

/-- `me_thr_fill` from one row of the table on. -/
def meThrFill (cls : PmClass ω) (me : PmMe) :
    List MeTca → AlarmBitmap → OmciError × AlarmBitmap
  | [], tcaBitmap => (.success, tcaBitmap)
  | row :: rows, tcaBitmap =>
      if row.thrNum = 0 ∨ row.attrNum = 0 ∨ row.thrAttrNum = 0 then (.success, tcaBitmap)
      else
        let attrData := cls.attrData (me.buffer me.curr) (attrOfNum row.attrNum)
        let thr := me.thr (row.thrAttrNum - 1)
        -- don't trigger TCA for zero
        if thr = 0 then meThrFill cls me rows tcaBitmap
        else if thr.setWidth 64 < attrData then
          match alarmSet tcaBitmap row.thrNum true with
          | (.success, tcaBitmap) => meThrFill cls me rows tcaBitmap
          | (err, tcaBitmap) => (err, tcaBitmap)
        else meThrFill cls me rows tcaBitmap

/-- `me_thr_check`. -/
def meThrCheck (cls : PmClass ω) (me : PmMe) : PmMe × OmciError :=
  match meThrFill cls me cls.tcaTable 0 with
  | (.success, crossed) =>
      let tcaBitmap := (crossed ^^^ me.tcaBitmap) &&& crossed
      let me := { me with tcaBitmap := me.tcaBitmap ||| tcaBitmap }
      (if tcaBitmap = 0 then me else me.tcaSend tcaBitmap, .success)
  | (err, _) => (me, err)

/-- `default_me_thr_set`. -/
def PmMe.thrSet (me : PmMe) (thr : Nat → BitVec 32) : PmMe :=
  { me with thr := fun i => if i < pmThrNum then thr i else me.thr i }

/-! ## Counters -/

/-- `counters_update` for one attribute. -/
def counterUpdate (cls : MeClass ω) (absData oldData curData : Buffer) (attr : Attr) : Buffer :=
  if cls.isMeAttrExist attr then
    let size := (cls.attrs attr).size
    let diff := attrSub (cls.attrData absData attr) (cls.attrData oldData attr) size
    attrDataSet curData (cls.attrs attr).offset size
      (attrAdd (cls.attrData curData attr) diff size)
  else curData

/-- `counters_update`. -/
def countersUpdate (cls : MeClass ω) (oldData : Buffer) (me : PmMe) : PmMe :=
  { me with
    buffer := Function.update me.buffer me.curr
      (pmCounters.foldl (counterUpdate cls (me.buffer me.abs) oldData) (me.buffer me.curr)) }

/-- `pm_me_interval_set` for an internal entity. -/
def PmMe.intervalSet (me : PmMe) (interval : PmInterval) : PmMe :=
  { me with data := me.toMeData.interval interval }

/-- The interval that `pm_me_counters_get` leaves `me->data` at. -/
def OmciPmInterval.shown : OmciPmInterval → PmInterval
  | .of .curr => .curr
  | .of .hist => .hist
  | .of .abs => .curr
  | .intervalEnd => .curr

/-- The `counters_get` handler is called, with `me->data` at the absolute counters. -/
def PmMe.countersGet (me : PmMe) (countersGet : Buffer → Buffer) : PmMe :=
  let me := me.intervalSet .abs
  { me with buffer := Function.update me.buffer me.data (countersGet (me.buffer me.data)) }

/-- The first half of `pm_me_counters_get`: the handler's absolute counters are added to the
current interval. -/
def PmMe.countersRefresh (cls : PmClass ω) (interval : OmciPmInterval)
    (countersGet : Buffer → Buffer) (me : PmMe) : PmMe :=
  if cls.countersGet.isSome then
    let oldData := me.buffer me.abs
    (countersUpdate cls.toMeClass oldData (me.countersGet countersGet)).intervalSet interval.shown
  else me

/-- `pm_me_counters_get` for an internal entity; `countersGet` is what the handler does to
the bytes `me->data` points to. -/
def pmMeCountersGet (cls : PmClass ω) (interval : OmciPmInterval)
    (countersGet : Buffer → Buffer) (me : PmMe) : PmMe × OmciError :=
  let me := me.countersRefresh cls interval countersGet
  if cls.thrSet.isSome then meThrCheck cls me else (me, .success)

/-! ## The end of an interval -/

/-- The PM part of the walker: what is pending in the alarm bitmap is sent and cleared. -/
def PmMe.alarmBitmapEnd (me : PmMe) : PmMe :=
  match me.alarmBitmap with
  | some alarmBitmap =>
      if isAlarmBitmapEmpty (some alarmBitmap) then me
      else { me.tcaSend alarmBitmap with alarmBitmap := some 0 }
  | none => me

/-- The buffers of the current and the history interval change places. The new current
interval is cleared but for its `struct pm_me_data`. -/
def PmMe.intervalSwap (me : PmMe) (dataSize : Nat) : PmMe :=
  let cleared : Buffer := fun i => if i < dataSize then 0 else me.buffer me.hist i
  { me with
    curr := me.hist
    hist := me.curr
    buffer := Function.update me.buffer me.hist
      (patch cleared 0 (slice (me.buffer me.curr) 0 pmMeDataSize))
    tcaBitmap := 0 }

/-- `interval_end_walker` for an internal entity. -/
def intervalEndWalker (cls : PmClass ω) (countersGet : Buffer → Buffer) (me : PmMe) : PmMe :=
  let me := me.alarmBitmapEnd
  let me := (pmMeCountersGet cls .intervalEnd countersGet me).1
  me.intervalSwap cls.dataSize

/-- `sync_time_walker`. -/
def syncTimeWalker (me : PmMe) : PmMe := { me with alarmBitmap := me.alarmBitmap.map fun _ => 0 }

/-! ## Two classes with their tables -/

/-- `me_ethernet_ds_pmhd_class`. -/
def ethernetDsPmhd : PmClass Unit where
  toMeClass := meEthernetDsPmhdClass
  tcaTable := [⟨0, 3, 1⟩, ⟨1, 8, 2⟩, ⟨2, 9, 3⟩, ⟨3, 10, 4⟩]
  internal := by decide
  layout := ⟨by decide, by decide, by decide⟩

/-- `me_ip_host_monitoring_data_class`. -/
def ipHostMonitoringData : PmClass Unit where
  toMeClass := meIpHostMonitoringDataClass
  tcaTable := [⟨1, 3, 1⟩, ⟨2, 4, 2⟩, ⟨3, 5, 3⟩, ⟨4, 6, 4⟩, ⟨5, 7, 5⟩, ⟨6, 8, 6⟩]
  internal := by decide
  layout := ⟨by decide, by decide, by decide⟩

end FalconGpon.Omci
