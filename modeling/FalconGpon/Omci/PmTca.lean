/-
# Threshold crossing alerts

A row of the TCA table is to raise its alarm once in each interval in which its counter
exceeds its threshold, and not otherwise (`TcasReported`).

`tcasReported_iff`: over all runs of counter updates, threshold changes and interval ends,
that is so exactly if no row has the alarm number 0, which ends the walk over the table
early, and the PM context, which is allocated but not cleared, comes without the alarms of
the table.
-/

import FalconGpon.Omci.PmCounters

namespace FalconGpon.Omci

open FalconGpon.Lib

variable {ω : Type}

/-! ## Alarms in a bitmap -/

def AlarmBitmap.has (alarmBitmap : AlarmBitmap) (alarm : Nat) : Bool :=
  alarmBitmap.getLsbD (omciAlarmsNum - 1 - alarm)

namespace AlarmBitmap

@[simp]
theorem has_zero (alarm : Nat) : AlarmBitmap.has 0#224 alarm = false := by
  simp [has]

@[simp]
theorem has_or (first second : AlarmBitmap) (alarm : Nat) :
    AlarmBitmap.has (first ||| second) alarm = (first.has alarm || second.has alarm) := by
  simp [has]

@[simp]
theorem has_and (first second : AlarmBitmap) (alarm : Nat) :
    AlarmBitmap.has (first &&& second) alarm = (first.has alarm && second.has alarm) := by
  simp [has]

@[simp]
theorem has_xor (first second : AlarmBitmap) (alarm : Nat) :
    AlarmBitmap.has (first ^^^ second) alarm = (first.has alarm ^^ second.has alarm) := by
  simp [has]

theorem has_alarmBit {alarm other : Nat} (halarm : alarm < omciAlarmsNum)
    (hother : other < omciAlarmsNum) :
    AlarmBitmap.has (alarmBit alarm) other = decide (alarm = other) := by
  have hiff : omciAlarmsNum - 1 - other = omciAlarmsNum - 1 - alarm ↔ alarm = other := by omega
  simp only [omciAlarmsNum] at halarm hother hiff
  rw [Bool.eq_iff_iff]
  simp [has, alarmBit, omciAlarmsNum]
  omega

end AlarmBitmap

/-! ## What one check finds -/

def MeTca.exceeds (row : MeTca) (cls : PmClass ω) (me : PmMe) : Bool :=
  let thr := me.thr (row.thrAttrNum - 1)
  thr != 0 && decide (thr.setWidth 64 < cls.attrData (me.buffer me.curr) (attrOfNum row.attrNum))

/-- The table as all classes have it: the rows name different alarms, a counter of the class
and a threshold. -/
structure TcaTable (cls : PmClass ω) : Prop where
  alarm : ∀ row ∈ cls.tcaTable, row.thrNum < omciAlarmsNum
  attr : ∀ row ∈ cls.tcaTable, row.attrNum ≠ 0 ∧ cls.IsCounter (attrOfNum row.attrNum)
  thr : ∀ row ∈ cls.tcaTable, row.thrAttrNum ≠ 0 ∧ row.thrAttrNum ≤ pmThrNum
  nodup : (cls.tcaTable.map MeTca.thrNum).Nodup

/-- The walk over rows without an alarm 0 collects the alarms of the rows that exceed their
thresholds. -/
theorem meThrFill_has {cls : PmClass ω} {me : PmMe} {rows : List MeTca}
    (hrows : ∀ row ∈ rows, row.thrNum ≠ 0 ∧ row.attrNum ≠ 0 ∧ row.thrAttrNum ≠ 0 ∧
      row.thrNum < omciAlarmsNum) (tcaBitmap : AlarmBitmap) :
    ∃ crossed, meThrFill cls me rows tcaBitmap = (.success, crossed) ∧
      ∀ alarm < omciAlarmsNum, crossed.has alarm =
        (tcaBitmap.has alarm || rows.any fun row => row.exceeds cls me && row.thrNum == alarm) := by
  induction rows generalizing tcaBitmap with
  | nil => exact ⟨tcaBitmap, rfl, fun alarm _ => by simp⟩
  | cons row rows ih =>
      obtain ⟨hthrNum, hattrNum, hthrAttrNum, hlt⟩ := hrows row List.mem_cons_self
      have hrest : ∀ row ∈ rows, row.thrNum ≠ 0 ∧ row.attrNum ≠ 0 ∧ row.thrAttrNum ≠ 0 ∧
          row.thrNum < omciAlarmsNum := fun row hmem => hrows row (List.mem_cons_of_mem _ hmem)
      rw [meThrFill, if_neg (by simp [hthrNum, hattrNum, hthrAttrNum])]
      dsimp only
      by_cases hexceeds : row.exceeds cls me = true
      · have hparts := hexceeds
        simp only [MeTca.exceeds, Bool.and_eq_true, bne_iff_ne, ne_eq, decide_eq_true_eq] at hparts
        have hset : alarmSet tcaBitmap row.thrNum true =
            (.success, tcaBitmap ||| alarmBit row.thrNum) := by
          rw [alarmSet, if_neg (by omega), if_pos rfl]
        obtain ⟨crossed, hfill, hhas⟩ := ih hrest (tcaBitmap ||| alarmBit row.thrNum)
        rw [if_neg hparts.1, if_pos hparts.2, hset]
        refine ⟨crossed, hfill, fun alarm halarm => ?_⟩
        rw [hhas alarm halarm, AlarmBitmap.has_or, AlarmBitmap.has_alarmBit hlt halarm,
          List.any_cons, hexceeds, Bool.true_and, Bool.or_assoc]
        rfl
      · obtain ⟨crossed, hfill, hhas⟩ := ih hrest tcaBitmap
        refine ⟨crossed, ?_, fun alarm halarm => ?_⟩
        · split
          · exact hfill
          · rename_i hthr
            rw [if_neg]
            · exact hfill
            · intro hlarge
              exact hexceeds (by simpa [MeTca.exceeds, hlarge] using hthr)
        · rw [hhas alarm halarm, List.any_cons, Bool.eq_false_iff.mpr hexceeds, Bool.false_and,
            Bool.false_or]

def TcaTable.Walked (cls : PmClass ω) : Prop := ∀ row ∈ cls.tcaTable, row.thrNum ≠ 0

section Check

variable {cls : PmClass ω} (htable : TcaTable cls)
include htable

/-- Among the rows of the table one has the alarm of a row, so the alarm is raised by that
row. -/
theorem any_exceeds (me : PmMe) {row : MeTca} (hrow : row ∈ cls.tcaTable) :
    (cls.tcaTable.any fun other => other.exceeds cls me && other.thrNum == row.thrNum) =
      row.exceeds cls me := by
  rw [Bool.eq_iff_iff]
  simp only [List.any_eq_true, Bool.and_eq_true, beq_iff_eq]
  constructor
  · rintro ⟨other, hother, hexceeds, hsame⟩
    have heq : other = row := List.inj_on_of_nodup_map htable.nodup hother hrow hsame
    exact heq ▸ hexceeds
  · intro hexceeds
    exact ⟨row, hrow, hexceeds, rfl⟩

variable (hwalked : TcaTable.Walked cls)
include hwalked

/-- What `me_thr_check` does: it sends the alarms that were not raised before and remembers
them. -/
theorem meThrCheck_has (me : PmMe) :
    ∃ raised : AlarmBitmap, (∀ alarm < omciAlarmsNum, raised.has alarm =
        ((cls.tcaTable.any fun row => row.exceeds cls me && row.thrNum == alarm) &&
          !me.tcaBitmap.has alarm)) ∧ (meThrCheck cls me).1.tcaBitmap = me.tcaBitmap ||| raised ∧
      (meThrCheck cls me).1.sent = me.sent ++ (if raised = 0 then [] else [raised]) := by
  have hrows : ∀ row ∈ cls.tcaTable, row.thrNum ≠ 0 ∧ row.attrNum ≠ 0 ∧ row.thrAttrNum ≠ 0 ∧
      row.thrNum < omciAlarmsNum := fun row hrow =>
    ⟨hwalked row hrow, (htable.attr row hrow).1, (htable.thr row hrow).1, htable.alarm row hrow⟩
  obtain ⟨crossed, hfill, hhas⟩ := @meThrFill_has ω cls me _ hrows 0
  refine ⟨(crossed ^^^ me.tcaBitmap) &&& crossed, fun alarm halarm => ?_, ?_, ?_⟩
  · have hcrossed := hhas alarm halarm
    simp only [BitVec.ofNat_eq_ofNat, AlarmBitmap.has_zero, Bool.false_or] at hcrossed
    rw [← hcrossed, AlarmBitmap.has_and, AlarmBitmap.has_xor]
    cases crossed.has alarm <;> cases me.tcaBitmap.has alarm <;> rfl
  · rw [meThrCheck, hfill]
    dsimp only
    split <;> rfl
  · rw [meThrCheck, hfill]
    dsimp only
    split
    · rw [List.append_nil]
    · rfl

end Check

/-! ## Runs -/

/-- What happens in one interval: the rows whose counters were seen above their
thresholds, and the notifications. -/
structure TcaInterval where
  crossed : MeTca → Bool
  sent : List AlarmBitmap

/-- A PM entity with the intervals of the past, latest first. -/
structure TcaRun where
  me : PmMe
  /-- The rows that have crossed in this interval. -/
  crossed : MeTca → Bool
  /-- The number of notifications sent in earlier intervals. -/
  start : Nat
  past : List TcaInterval

def TcaRun.current (run : TcaRun) : TcaInterval := ⟨run.crossed, run.me.sent.drop run.start⟩

/-- What can happen. -/
inductive TcaEvent
  | thrSet (thr : Nat → BitVec 32)
  /-- The PM thread polls (`abs`) or the OLT reads current or history data. -/
  | countersGet (interval : PmInterval) (countersGet : Buffer → Buffer)
  | intervalEnd (countersGet : Buffer → Buffer)
  | syncTime

/-- A new entity. -/
def TcaRun.created (cls : PmClass ω) (memory : PmMeContext) : TcaRun where
  me := pmMeNew cls memory
  crossed _ := false
  start := 0
  past := []

def TcaRun.checked (run : TcaRun) (cls : PmClass ω) (me : PmMe) : TcaRun :=
  { run with me := me, crossed := fun row => run.crossed row || row.exceeds cls me }

/-- The interval is over. -/
def TcaRun.ended (run : TcaRun) (me : PmMe) : TcaRun where
  me := me
  crossed _ := false
  start := me.sent.length
  past := run.current :: run.past

/-- One step. -/
def tcaStep (cls : PmClass ω) (run : TcaRun) : TcaEvent → Option TcaRun
  | .thrSet thr => some { run with me := run.me.thrSet thr }
  | .countersGet interval countersGet =>
      some (run.checked cls (pmMeCountersGet cls (.of interval) countersGet run.me).1)
  | .intervalEnd countersGet =>
      let last := (pmMeCountersGet cls .intervalEnd countersGet run.me.alarmBitmapEnd).1
      some ((run.checked cls last).ended (intervalEndWalker cls countersGet run.me))
  | .syncTime => some { run with me := syncTimeWalker run.me }

/-- Each row that has crossed has raised its alarm once, no other row and no other alarm was
raised. -/
structure IntervalReported (cls : PmClass ω) (interval : TcaInterval) : Prop where
  row : ∀ row ∈ cls.tcaTable,
    interval.sent.countP (·.has row.thrNum) = if interval.crossed row then 1 else 0
  other : ∀ alarm < omciAlarmsNum, alarm ∉ cls.tcaTable.map MeTca.thrNum →
    interval.sent.countP (·.has alarm) = 0

/-- All intervals were reported, and what is remembered of a row is whether it has crossed in
the current one: the end of the interval before has cleared it. -/
structure TcasReported (cls : PmClass ω) (run : TcaRun) : Prop where
  current : IntervalReported cls run.current
  past : ∀ interval ∈ run.past, IntervalReported cls interval
  latched : ∀ row ∈ cls.tcaTable, run.me.tcaBitmap.has row.thrNum = run.crossed row

/-- What holds throughout a run: besides, no other alarms are pending. -/
structure TcaReporting (cls : PmClass ω) (run : TcaRun) : Prop extends TcasReported cls run where
  start : run.start ≤ run.me.sent.length
  noAlarms : isAlarmBitmapEmpty run.me.alarmBitmap = true

@[simp]
theorem countersRefresh_context (cls : PmClass ω) (interval : OmciPmInterval)
    (countersGet : Buffer → Buffer) (me : PmMe) :
    (me.countersRefresh cls interval countersGet).toPmMeContext = me.toPmMeContext := by
  rw [PmMe.countersRefresh]
  split <;> rfl

@[simp]
theorem countersRefresh_sent (cls : PmClass ω) (interval : OmciPmInterval)
    (countersGet : Buffer → Buffer) (me : PmMe) :
    (me.countersRefresh cls interval countersGet).sent = me.sent := by
  rw [PmMe.countersRefresh]
  split <;> rfl

@[simp]
theorem countersRefresh_alarmBitmap (cls : PmClass ω) (interval : OmciPmInterval)
    (countersGet : Buffer → Buffer) (me : PmMe) :
    (me.countersRefresh cls interval countersGet).alarmBitmap = me.alarmBitmap := by
  rw [PmMe.countersRefresh]
  split <;> rfl

theorem meThrCheck_thr (cls : PmClass ω) (me : PmMe) : (meThrCheck cls me).1.thr = me.thr := by
  rw [meThrCheck]
  split
  · dsimp only
    split <;> rfl
  · rfl

theorem meThrCheck_alarmBitmap (cls : PmClass ω) (me : PmMe) :
    (meThrCheck cls me).1.alarmBitmap = me.alarmBitmap := by
  rw [meThrCheck]
  split
  · dsimp only
    split <;> rfl
  · rfl

theorem exceeds_meThrCheck (cls : PmClass ω) (me : PmMe) (row : MeTca) :
    row.exceeds cls (meThrCheck cls me).1 = row.exceeds cls me := by
  rw [MeTca.exceeds, MeTca.exceeds, meThrCheck_thr, meThrCheck_toMeData]

section Step

variable {cls : PmClass ω} {run : TcaRun}

/-- A run goes on with a check of the counters. -/
theorem TcaReporting.checked (htable : TcaTable cls) (hwalked : TcaTable.Walked cls)
    (h : TcaReporting cls run) {me : PmMe} (hcontext : me.toPmMeContext = run.me.toPmMeContext)
    (hsent : me.sent = run.me.sent) (hbitmap : me.alarmBitmap = run.me.alarmBitmap) :
    TcaReporting cls (run.checked cls (meThrCheck cls me).1) := by
  obtain ⟨raised, hraised, htca, hlog⟩ := meThrCheck_has htable hwalked me
  rw [hcontext] at hraised htca
  rw [hsent] at hlog
  -- each notification is a raised alarm
  have hcount : ∀ alarm, (run.checked cls (meThrCheck cls me).1).current.sent.countP
      (·.has alarm) = run.current.sent.countP (·.has alarm) + if raised.has alarm then 1 else 0 := by
    intro alarm
    show ((meThrCheck cls me).1.sent.drop run.start).countP (·.has alarm) = _
    rw [hlog, List.drop_append_of_le_length h.start, List.countP_append]
    congr 1
    split
    · rename_i hnone
      rw [hnone]
      simp
    · simp
  have hrow : ∀ row ∈ cls.tcaTable, raised.has row.thrNum =
      (row.exceeds cls me && !run.crossed row) := by
    intro row hrow
    rw [hraised _ (htable.alarm row hrow), any_exceeds htable me hrow, h.latched row hrow]
  refine ⟨⟨⟨?_, ?_⟩, h.past, ?_⟩, ?_, ?_⟩
  · intro row hmem
    show _ = if (run.crossed row || row.exceeds cls (meThrCheck cls me).1) then 1 else 0
    rw [hcount, h.current.row row hmem, hrow row hmem, exceeds_meThrCheck]
    show (if run.crossed row = true then 1 else 0) + _ = _
    cases run.crossed row <;> cases row.exceeds cls me <;> rfl
  · intro alarm halarm hother
    have hany : (cls.tcaTable.any fun row => row.exceeds cls me && row.thrNum == alarm) = false := by
      rw [List.any_eq_false]
      intro row hmem hboth
      simp only [Bool.and_eq_true, beq_iff_eq] at hboth
      exact hother (List.mem_map.mpr ⟨row, hmem, hboth.2⟩)
    rw [hcount, h.current.other alarm halarm hother, hraised alarm halarm, hany]
    rfl
  · intro row hmem
    show (meThrCheck cls me).1.tcaBitmap.has row.thrNum =
      (run.crossed row || row.exceeds cls (meThrCheck cls me).1)
    rw [htca, AlarmBitmap.has_or, hrow row hmem, h.latched row hmem, exceeds_meThrCheck]
    cases run.crossed row <;> cases row.exceeds cls me <;> rfl
  · show run.start ≤ (meThrCheck cls me).1.sent.length
    rw [hlog, List.length_append]
    exact Nat.le_add_right_of_le h.start
  · show isAlarmBitmapEmpty (meThrCheck cls me).1.alarmBitmap = true
    rw [meThrCheck_alarmBitmap, hbitmap]
    exact h.noAlarms

theorem pmMeCountersGet_fst (hthrSet : cls.thrSet.isSome = true) (interval : OmciPmInterval)
    (countersGet : Buffer → Buffer) (me : PmMe) : (pmMeCountersGet cls interval countersGet me).1 =
      (meThrCheck cls (me.countersRefresh cls interval countersGet)).1 := by
  rw [pmMeCountersGet, if_pos hthrSet]

theorem alarmBitmapEnd_of_empty {me : PmMe} (h : isAlarmBitmapEmpty me.alarmBitmap = true) :
    me.alarmBitmapEnd = me := by
  rw [PmMe.alarmBitmapEnd]
  split
  · rename_i hbitmap
    rw [if_pos (hbitmap ▸ h)]
  · rfl

/-- An interval ends. -/
theorem TcaReporting.ended (h : TcaReporting cls run) {me : PmMe}
    (hcleared : me.tcaBitmap = 0) (hbitmap : me.alarmBitmap = run.me.alarmBitmap) :
    TcaReporting cls (run.ended me) := by
  have hempty : (run.ended me).current.sent = [] := List.drop_length
  refine ⟨⟨⟨?_, ?_⟩, ?_, ?_⟩, Nat.le_refl _, ?_⟩
  · intro row _
    rw [hempty]
    rfl
  · intro alarm _ _
    rw [hempty]
    rfl
  · intro interval hinterval
    rcases List.mem_cons.mp hinterval with rfl | hpast
    · exact h.current
    · exact h.past interval hpast
  · intro row _
    show me.tcaBitmap.has row.thrNum = false
    rw [hcleared]
    exact AlarmBitmap.has_zero _
  · show isAlarmBitmapEmpty me.alarmBitmap = true
    rw [hbitmap]
    exact h.noAlarms

/-- One step keeps what holds. -/
theorem TcaReporting.step (htable : TcaTable cls) (hwalked : TcaTable.Walked cls)
    (hthrSet : cls.thrSet.isSome = true) (h : TcaReporting cls run) {event : TcaEvent}
    {run' : TcaRun} (hstep : tcaStep cls run event = some run') : TcaReporting cls run' := by
  cases event with
  | thrSet thr =>
      obtain rfl := Option.some.inj hstep
      exact ⟨⟨h.current, h.past, h.latched⟩, h.start, h.noAlarms⟩
  | countersGet interval countersGet =>
      obtain rfl := Option.some.inj hstep
      rw [pmMeCountersGet_fst hthrSet]
      exact h.checked htable hwalked (by simp) (by simp) (by simp)
  | intervalEnd countersGet =>
      obtain rfl := Option.some.inj hstep
      have hsame := alarmBitmapEnd_of_empty h.noAlarms
      have hchecked : TcaReporting cls (run.checked cls
          (meThrCheck cls (run.me.countersRefresh cls .intervalEnd countersGet)).1) :=
        h.checked htable hwalked (by simp) (by simp) (by simp)
      rw [← pmMeCountersGet_fst hthrSet] at hchecked
      rw [hsame]
      exact hchecked.ended rfl (by rw [intervalEndWalker, hsame]; rfl)
  | syncTime =>
      obtain rfl := Option.some.inj hstep
      refine ⟨⟨h.current, h.past, h.latched⟩, h.start, ?_⟩
      show isAlarmBitmapEmpty (run.me.alarmBitmap.map fun _ => 0) = true
      cases run.me.alarmBitmap <;> rfl

end Step

theorem TcaReporting.created {cls : PmClass ω} {memory : PmMeContext}
    (hmemory : ∀ row ∈ cls.tcaTable, memory.tcaBitmap.has row.thrNum = false) :
    TcaReporting cls (.created cls memory) := by
  refine ⟨⟨⟨fun _ _ => rfl, fun _ _ _ => rfl⟩, nofun, hmemory⟩, Nat.le_refl _, ?_⟩
  show isAlarmBitmapEmpty (if hasProp cls.prop MeProp.hasAlarms then some 0 else none) = true
  split <;> rfl

/-! ## When a row is missed -/

/-- The walk never collects alarm 0. -/
theorem meThrFill_has_zero (cls : PmClass ω) (me : PmMe) (rows : List MeTca)
    (tcaBitmap : AlarmBitmap) : (meThrFill cls me rows tcaBitmap).2.has 0 = tcaBitmap.has 0 := by
  induction rows generalizing tcaBitmap with
  | nil => rfl
  | cons row rows ih =>
      rw [meThrFill]
      split
      · rfl
      · rename_i hfields
        dsimp only
        split
        · exact ih tcaBitmap
        · by_cases hbound : omciAlarmsNum - 1 < row.thrNum
          · have hset : alarmSet tcaBitmap row.thrNum true = (.bounds, tcaBitmap) := by
              rw [alarmSet, if_pos hbound]
            rw [hset]
            split
            · rfl
            · exact ih tcaBitmap
          · have hset : alarmSet tcaBitmap row.thrNum true =
                (.success, tcaBitmap ||| alarmBit row.thrNum) := by
              rw [alarmSet, if_neg hbound, if_pos rfl]
            have hzero : AlarmBitmap.has (alarmBit row.thrNum) 0 = false := by
              rw [AlarmBitmap.has_alarmBit (by omega) (by decide), decide_eq_false_iff_not]
              omega
            rw [hset]
            split
            · rw [ih, AlarmBitmap.has_or, hzero, Bool.or_false]
            · exact ih tcaBitmap

/-- An alarm that is not collected or is remembered from before is not raised. -/
theorem meThrCheck_not_raised {cls : PmClass ω} {me : PmMe} {alarm : Nat}
    (h : (meThrFill cls me cls.tcaTable 0).2.has alarm = false ∨
      me.tcaBitmap.has alarm = true) :
    (meThrCheck cls me).1.sent.countP (·.has alarm) = me.sent.countP (·.has alarm) := by
  rw [meThrCheck]
  split
  · rename_i crossed hfill
    rw [hfill] at h
    have hnone : AlarmBitmap.has ((crossed ^^^ me.tcaBitmap) &&& crossed) alarm = false := by
      rw [AlarmBitmap.has_and, AlarmBitmap.has_xor]
      rcases h with h | h
      · rw [show crossed.has alarm = false from h, Bool.and_false]
      · rw [h]
        cases crossed.has alarm <;> rfl
    dsimp only
    split
    · rfl
    · rw [PmMe.tcaSend, List.countP_append, List.countP_singleton, hnone]
      rfl
  · rfl

section Crossing

variable {cls : PmClass ω} {memory : PmMeContext} {row : MeTca}

/-- All thresholds are one and the counter of a row has been seen at two. -/
def crossingMe (cls : PmClass ω) (memory : PmMeContext) (row : MeTca) : PmMe :=
  let attr := cls.attrs (attrOfNum row.attrNum)
  ((pmMeNew cls memory).thrSet fun _ => 1).countersRefresh cls (.of .abs) fun data =>
    attrDataSet data attr.offset attr.size 2

theorem exceeds_crossingMe (htable : TcaTable cls) (hget : cls.countersGet.isSome = true)
    (hrow : row ∈ cls.tcaTable) : row.exceeds cls (crossingMe cls memory row) = true := by
  have hattr := (htable.attr row hrow).2
  have hthr := htable.thr row hrow
  have hapart : ((pmMeNew cls memory).thrSet fun _ => 1).Apart := apart_blank
  have htaken := countersRefresh_taken cls (.of .abs) (fun data => attrDataSet data
    (cls.attrs (attrOfNum row.attrNum)).offset (cls.attrs (attrOfNum row.attrNum)).size 2) hapart
  have hcurr := htaken.currData
  rw [if_pos hget] at hcurr
  have hvalues : 256 ≤ cls.values (attrOfNum row.attrNum) := by
    rw [MeClass.values]
    rcases cls.layout.isCounterSize hattr with hsize | hsize | hsize <;> rw [hsize] <;> decide
  have htwo : (2 : BitVec 64).toNat < cls.values (attrOfNum row.attrNum) :=
    Nat.lt_of_lt_of_le (by decide) hvalues
  have hdata : (cls.attrData ((crossingMe cls memory row).buffer (crossingMe cls memory row).curr)
      (attrOfNum row.attrNum)).toNat = 2 := by
    rw [crossingMe, htaken.curr, hcurr, cls.layout.attrData_counters _ _ _ hattr, counterSum,
      cls.layout.attrData_attrDataSet _ hattr hattr htwo, if_pos rfl]
    rw [show ((pmMeNew cls memory).thrSet fun _ => 1).toMeData = MeData.blank from rfl,
      attrData_blank, attrData_blank, wrapSub, Nat.sub_zero, Nat.add_mod_right,
      Nat.mod_eq_of_lt htwo, satAdd]
    show min _ (0 + 2) = 2
    omega
  have hone : (crossingMe cls memory row).thr (row.thrAttrNum - 1) = 1 := by
    have hcontext : (crossingMe cls memory row).toPmMeContext =
        ((pmMeNew cls memory).thrSet fun _ => 1).toPmMeContext := countersRefresh_context ..
    rw [hcontext]
    exact if_pos (by have := hthr.1; omega)
  simp only [MeTca.exceeds, hone, BitVec.lt_def, hdata]
  decide

/-- In a run that lets the counter of a row cross its threshold, its alarm is raised. -/
theorem countP_crossingMe (htable : TcaTable cls) (hget : cls.countersGet.isSome = true)
    (hthrSet : cls.thrSet.isSome = true)
    (hreported : ∀ run, Reach (tcaStep cls) (.created cls memory) run → TcasReported cls run)
    (hrow : row ∈ cls.tcaTable) :
    (meThrCheck cls (crossingMe cls memory row)).1.sent.countP (·.has row.thrNum) = 1 := by
  have hreach : Reach (tcaStep cls) (.created cls memory) _ :=
    let countersGet := fun data => attrDataSet data (cls.attrs (attrOfNum row.attrNum)).offset
      (cls.attrs (attrOfNum row.attrNum)).size 2
    have hthr : tcaStep cls (.created cls memory) (.thrSet fun _ => 1) = some _ := rfl
    have hcount : tcaStep cls _ (.countersGet .abs countersGet) = some _ := rfl
    .tail (.tail .refl trivial hthr) trivial hcount
  have hcount := (hreported _ hreach).current.row row hrow
  rw [pmMeCountersGet_fst hthrSet] at hcount
  have hexceeds : row.exceeds cls (meThrCheck cls (crossingMe cls memory row)).1 = true := by
    rw [exceeds_meThrCheck]
    exact exceeds_crossingMe htable hget hrow
  calc (meThrCheck cls (crossingMe cls memory row)).1.sent.countP (·.has row.thrNum)
      = if (false || row.exceeds cls (meThrCheck cls (crossingMe cls memory row)).1) = true
          then 1 else 0 := hcount
    _ = 1 := by rw [hexceeds]; rfl

theorem sent_crossingMe : (crossingMe cls memory row).sent = [] := countersRefresh_sent ..

theorem walked_of_reported (htable : TcaTable cls) (hget : cls.countersGet.isSome = true)
    (hthrSet : cls.thrSet.isSome = true)
    (hreported : ∀ run, Reach (tcaStep cls) (.created cls memory) run → TcasReported cls run) :
    TcaTable.Walked cls := by
  intro row hrow hzero
  have hcount := countP_crossingMe htable hget hthrSet hreported hrow
  rw [hzero, meThrCheck_not_raised, sent_crossingMe, List.countP_nil] at hcount
  · exact absurd hcount (by decide)
  · left
    rw [meThrFill_has_zero]
    exact AlarmBitmap.has_zero 0

theorem memory_of_reported (htable : TcaTable cls) (hget : cls.countersGet.isSome = true)
    (hthrSet : cls.thrSet.isSome = true)
    (hreported : ∀ run, Reach (tcaStep cls) (.created cls memory) run → TcasReported cls run)
    (hrow : row ∈ cls.tcaTable) : memory.tcaBitmap.has row.thrNum = false := by
  rw [← Bool.not_eq_true]
  intro hheld
  have hcount := countP_crossingMe htable hget hthrSet hreported hrow
  rw [meThrCheck_not_raised, sent_crossingMe, List.countP_nil] at hcount
  · exact absurd hcount (by decide)
  · right
    have hcontext : (crossingMe cls memory row).toPmMeContext =
        ((pmMeNew cls memory).thrSet fun _ => 1).toPmMeContext := countersRefresh_context ..
    rw [hcontext]
    exact hheld

end Crossing

/-- In every run each row that crosses its threshold raises its alarm once in the interval,
no row raises one otherwise and the interval end clears them, exactly if no row of the table
has the alarm number 0 and the memory of the PM context comes without the alarms of the
table. -/
theorem tcasReported_iff {cls : PmClass ω} (htable : TcaTable cls)
    (hget : cls.countersGet.isSome = true) (hthrSet : cls.thrSet.isSome = true)
    (memory : PmMeContext) :
    (∀ run, Reach (tcaStep cls) (.created cls memory) run → TcasReported cls run) ↔
      TcaTable.Walked cls ∧ ∀ row ∈ cls.tcaTable, memory.tcaBitmap.has row.thrNum = false := by
  constructor
  · intro hreported
    exact ⟨walked_of_reported htable hget hthrSet hreported,
      fun row hrow => memory_of_reported htable hget hthrSet hreported hrow⟩
  · rintro ⟨hwalked, hmemory⟩ run hreach
    have hreporting : TcaReporting cls run := hreach.invariant (.created hmemory)
      fun _ _ _ h _ hstep => h.step htable hwalked hthrSet hstep
    exact hreporting.toTcasReported

theorem tcaTable_ipHostMonitoringData : TcaTable ipHostMonitoringData where
  alarm := by decide
  attr := by
    unfold MeClass.IsCounter
    decide
  thr := by decide
  nodup := by decide

theorem tcaTable_ethernetDsPmhd : TcaTable ethernetDsPmhd where
  alarm := by decide
  attr := by
    unfold MeClass.IsCounter
    decide
  thr := by decide
  nodup := by decide

/-- IP host entities report their alarms if their PM context happens to come cleared. -/
theorem tcasReported_ipHostMonitoringData : (∀ run, Reach (tcaStep ipHostMonitoringData)
      (.created ipHostMonitoringData ⟨0, fun _ => 0⟩) run →
        TcasReported ipHostMonitoringData run) ∧
      TcaTable.Walked ipHostMonitoringData := by
  have hwalked : TcaTable.Walked ipHostMonitoringData := by
    unfold TcaTable.Walked
    decide
  exact ⟨(tcasReported_iff tcaTable_ipHostMonitoringData rfl rfl ⟨0, fun _ => 0⟩).mpr
    ⟨hwalked, fun _ _ => AlarmBitmap.has_zero _⟩, hwalked⟩

/-- The table of the Ethernet frame PM entities begins with alarm 0, so none of its rows is
ever looked at. -/
theorem ethernetDsPmhd_not_tcasReported :
    ¬ ∀ run, Reach (tcaStep ethernetDsPmhd) (.created ethernetDsPmhd ⟨0, fun _ => 0⟩) run →
        TcasReported ethernetDsPmhd run := by
  intro hreported
  have hwalked := walked_of_reported tcaTable_ethernetDsPmhd rfl rfl hreported
  exact hwalked ⟨0, 3, 1⟩ (by decide) rfl

end FalconGpon.Omci
