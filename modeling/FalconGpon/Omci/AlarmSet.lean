/-
# Alarm states and their notifications

`me_alarm_set` changes the bitmap of an entity before it looks at alarm reporting control
(ARC) and hands a notification over. What fails then leaves the bitmap changed, and a
repeated call finds the alarm in its state and succeeds without a notification. Of PM
entities it sends only the one alarm that changed, as set, also when it was cleared.

A failed call leaves the bitmap as it was, and an entity that is not under ARC has the
bitmap it has reported, exactly in the runs in which no call that changes something fails
and calls for PM entities set an alarm where none is set (`alarmKept_iff`).
-/

import FalconGpon.Omci.AlarmCopy
import FalconGpon.Omci.AlarmSeq
import FalconGpon.Omci.PmTca

namespace FalconGpon.Omci

open FalconGpon.Lib

/-! ## The code -/

/-- `alarm_get`. -/
def alarmGet (alarmBitmap : AlarmBitmap) (alarm : Nat) : Except OmciError Bool :=
  if omciAlarmsNum - 1 < alarm then .error .bounds
  else .ok (alarmBitmap &&& alarmBit alarm != 0)

/-- What `me_alarm_set` works on, and the bitmaps of the notifications handed over so far, the
latest first. -/
structure AlarmMe where
  alarmBitmap : AlarmBitmap
  /-- `context->mib.alarm_seq_num`. -/
  alarmSeqNum : Byte
  sent : List AlarmBitmap
deriving DecidableEq

/-- A call of `me_alarm_set`, with what it finds: what `me_attr_read` returns for the ARC
attributes, and how `me_attr_write` and `omci_msg_send` end. -/
structure AlarmSetCall where
  alarm : Byte
  active : Bool
  arc : OmciError × Byte
  arcInterval : OmciError × Byte
  arcWrite : OmciError
  send : OmciError

/-- The part about ARC: an error, and `avc_enabled`. -/
def AlarmSetCall.readArc (call : AlarmSetCall) : OmciError × Bool :=
  if call.arc.1 ≠ .success then (call.arc.1, false)
  else if call.arcInterval.1 ≠ .success then (call.arcInterval.1, false)
  else if call.arc.2 = omciArcEnabled then
    if call.arcInterval.2 = 0 then (call.arcWrite, true) else (.success, true)
  else (.success, false)

/-- `me_alarm_set`, of an entity whose class has some properties and that may have an
`arc_context`. -/
def meAlarmSet (prop : MeProp) (arcContext : Bool) (me : AlarmMe) (call : AlarmSetCall) :
    AlarmMe × OmciError :=
  match alarmGet me.alarmBitmap call.alarm.toNat with
  | .error err => (me, err)
  | .ok alarmCurrStatus =>
      if alarmCurrStatus = call.active then (me, .success)
      else
        let me := { me with
          alarmBitmap := (alarmSet me.alarmBitmap call.alarm.toNat call.active).2 }
        let (err, avcEnabled) :=
          if call.active && arcContext then call.readArc else (.success, false)
        if err ≠ .success then (me, err)
        else if hasProp prop MeProp.pm then
          if call.send ≠ .success then (me, call.send)
          else ({ me with sent := (alarmSet 0 call.alarm.toNat true).2 :: me.sent }, .success)
        else if !avcEnabled then
          let me := { me with alarmSeqNum := alarmSeqNext me.alarmSeqNum }
          if call.send ≠ .success then (me, call.send)
          else ({ me with sent := me.alarmBitmap :: me.sent }, .success)
        else (me, .success)

def alarmSetStep (prop : MeProp) (arcContext : Bool) (me : AlarmMe) (call : AlarmSetCall) :
    Option AlarmMe :=
  some (meAlarmSet prop arcContext me call).1

/-! ## What is to hold -/

def replay (known : AlarmBitmap) (sent : List AlarmBitmap) : AlarmBitmap := sent.headD known

def AlarmSetCall.UnderArc (arcContext : Bool) (call : AlarmSetCall) : Prop :=
  arcContext = true ∧ call.arc = (.success, omciArcEnabled)

def AlarmSetCall.Changes (call : AlarmSetCall) (me : AlarmMe) : Prop :=
  call.alarm.toNat < omciAlarmsNum ∧ me.alarmBitmap.has call.alarm.toNat ≠ call.active

instance (arcContext : Bool) (call : AlarmSetCall) : Decidable (call.UnderArc arcContext) :=
  inferInstanceAs (Decidable (_ ∧ _))

instance (call : AlarmSetCall) (me : AlarmMe) : Decidable (call.Changes me) :=
  inferInstanceAs (Decidable (_ ∧ _))

def AlarmSetCall.arcFound (arcContext : Bool) (call : AlarmSetCall) : OmciError × Bool :=
  if call.active && arcContext then call.readArc else (.success, false)

/-- Something the call needs fails: the ARC of an entity that is to raise an alarm, or the
notification that it is to hand over. -/
def AlarmSetCall.Fails (prop : MeProp) (arcContext : Bool) (call : AlarmSetCall) : Prop :=
  (call.arcFound arcContext).1 ≠ .success ∨
    (hasProp prop MeProp.pm = true ∨ (call.arcFound arcContext).2 = false) ∧ call.send ≠ .success

instance (prop : MeProp) (arcContext : Bool) (call : AlarmSetCall) :
    Decidable (call.Fails prop arcContext) :=
  inferInstanceAs (Decidable (_ ∨ _))

/-! ## One call -/

section Call

variable {prop : MeProp} {arcContext : Bool} {me : AlarmMe} {call : AlarmSetCall}

theorem AlarmBitmap.ext_has {first second : AlarmBitmap}
    (h : ∀ alarm < omciAlarmsNum, first.has alarm = second.has alarm) : first = second := by
  apply BitVec.eq_of_getLsbD_eq
  intro i hi
  have hbit := h (omciAlarmsNum - 1 - i) (by rw [omciAlarmsNum]; omega)
  have hindex : omciAlarmsNum - 1 - (omciAlarmsNum - 1 - i) = i := by
    rw [omciAlarmsNum]
    omega
  rw [AlarmBitmap.has, AlarmBitmap.has, hindex] at hbit
  exact hbit

/-- The test of `alarm_get`. -/
theorem and_alarmBit_ne_zero {alarm : Nat} (halarm : alarm < omciAlarmsNum)
    (alarmBitmap : AlarmBitmap) :
    (alarmBitmap &&& alarmBit alarm != 0) = alarmBitmap.has alarm := by
  by_cases hset : alarmBitmap.has alarm = true
  · rw [hset, bne_iff_ne]
    intro hzero
    have hbit : AlarmBitmap.has (alarmBitmap &&& alarmBit alarm) alarm = true := by
      rw [AlarmBitmap.has_and, AlarmBitmap.has_alarmBit halarm halarm, hset]
      simp
    rw [hzero] at hbit
    exact Bool.false_ne_true ((AlarmBitmap.has_zero alarm).symm.trans hbit)
  · rw [Bool.not_eq_true] at hset
    rw [hset, bne_eq_false_iff_eq]
    apply AlarmBitmap.ext_has
    intro other hother
    rw [AlarmBitmap.has_and, AlarmBitmap.has_alarmBit halarm hother]
    by_cases hsame : alarm = other
    · subst hsame
      simp [hset]
    · simp [hsame]

def AlarmSetCall.changed (call : AlarmSetCall) (me : AlarmMe) : AlarmBitmap :=
  (alarmSet me.alarmBitmap call.alarm.toNat call.active).2

theorem changed_eq (hlt : call.alarm.toNat < omciAlarmsNum) :
    call.changed me = if call.active then me.alarmBitmap ||| alarmBit call.alarm.toNat
      else me.alarmBitmap &&& ~~~alarmBit call.alarm.toNat := by
  rw [AlarmSetCall.changed, alarmSet, if_neg (by omega)]
  split <;> rfl

theorem has_changed (hlt : call.alarm.toNat < omciAlarmsNum) :
    (call.changed me).has call.alarm.toNat = call.active := by
  have hbit := AlarmBitmap.has_alarmBit hlt hlt
  rw [changed_eq hlt]
  by_cases hactive : call.active = true
  · rw [if_pos hactive, AlarmBitmap.has_or, hbit, hactive]
    simp
  · rw [Bool.not_eq_true] at hactive
    have hcomplement : AlarmBitmap.has (~~~alarmBit call.alarm.toNat) call.alarm.toNat = false := by
      rw [AlarmBitmap.has, BitVec.getLsbD_not]
      rw [AlarmBitmap.has] at hbit
      rw [hbit]
      simp
    rw [hactive, if_neg Bool.false_ne_true, AlarmBitmap.has_and, hcomplement, Bool.and_false]

theorem changed_ne (hchanges : call.Changes me) : call.changed me ≠ me.alarmBitmap := by
  intro hsame
  apply hchanges.2
  rw [← hsame]
  exact has_changed hchanges.1

theorem alarmGet_eq (hlt : call.alarm.toNat < omciAlarmsNum) :
    alarmGet me.alarmBitmap call.alarm.toNat =
      .ok (me.alarmBitmap.has call.alarm.toNat) := by
  rw [alarmGet, if_neg (by omega), and_alarmBit_ne_zero hlt]

theorem meAlarmSet_of_not_changes (hsame : ¬ call.Changes me) :
    (meAlarmSet prop arcContext me call).1 = me := by
  rw [meAlarmSet]
  by_cases hlt : call.alarm.toNat < omciAlarmsNum
  · have hstatus : me.alarmBitmap.has call.alarm.toNat = call.active := by
      by_contra hne
      exact hsame ⟨hlt, hne⟩
    rw [alarmGet_eq hlt]
    dsimp only
    rw [if_pos hstatus]
  · have hout : omciAlarmsNum - 1 < call.alarm.toNat := by
      simp only [omciAlarmsNum] at hlt ⊢
      omega
    rw [alarmGet, if_pos hout]

/-- What is left to do once the bitmap is changed. -/
theorem meAlarmSet_of_changes (hchanges : call.Changes me) :
    meAlarmSet prop arcContext me call =
      let changed := { me with alarmBitmap := call.changed me }
      if (call.arcFound arcContext).1 ≠ .success then (changed, (call.arcFound arcContext).1)
      else if hasProp prop MeProp.pm then
        if call.send ≠ .success then (changed, call.send)
        else ({ changed with sent := alarmBit call.alarm.toNat :: me.sent }, .success)
      else if !(call.arcFound arcContext).2 then
        let counted := { changed with alarmSeqNum := alarmSeqNext me.alarmSeqNum }
        if call.send ≠ .success then (counted, call.send)
        else ({ counted with sent := call.changed me :: me.sent }, .success)
      else (changed, .success) := by
  have htca : (alarmSet 0 call.alarm.toNat true).2 = alarmBit call.alarm.toNat := by
    have hlt := hchanges.1
    rw [alarmSet, if_neg (by omega), if_pos rfl]
    exact BitVec.zero_or
  rw [meAlarmSet, alarmGet_eq hchanges.1]
  dsimp only
  rw [if_neg hchanges.2, htca]
  rfl

/-- ARC is found enabled only where it is. -/
theorem underArc_of_arcFound (h : (call.arcFound arcContext).2 = true) :
    call.UnderArc arcContext := by
  rw [AlarmSetCall.arcFound] at h
  split at h
  · rename_i hread
    rw [Bool.and_eq_true] at hread
    rw [AlarmSetCall.readArc] at h
    split at h
    · cases h
    · rename_i hsuccess
      split at h
      · cases h
      · split at h
        · rename_i henabled
          exact ⟨hread.2, Prod.ext (not_not.mp hsuccess) henabled⟩
        · cases h
  · cases h

/-- Where something fails, the bitmap is changed all the same. -/
theorem meAlarmSet_of_fails (hchanges : call.Changes me) (hfails : call.Fails prop arcContext) :
    (meAlarmSet prop arcContext me call).2 ≠ .success ∧
      (meAlarmSet prop arcContext me call).1.alarmBitmap = call.changed me := by
  rw [meAlarmSet_of_changes hchanges]
  dsimp only
  by_cases harc : (call.arcFound arcContext).1 ≠ .success
  · rw [if_pos harc]
    exact ⟨harc, rfl⟩
  · obtain ⟨hsends, hsend⟩ := hfails.resolve_left harc
    rw [if_neg harc, if_pos hsend, if_pos hsend]
    by_cases hpm : hasProp prop MeProp.pm = true
    · rw [if_pos hpm]
      exact ⟨hsend, rfl⟩
    · rw [if_neg hpm, if_pos (by simp [hsends.resolve_left hpm])]
      exact ⟨hsend, rfl⟩

/-- A change without failure; what it sends if ARC is not enabled. -/
theorem meAlarmSet_of_not_fails (hchanges : call.Changes me)
    (hfine : ¬ call.Fails prop arcContext) : (meAlarmSet prop arcContext me call).2 = .success ∧
      (meAlarmSet prop arcContext me call).1.alarmBitmap = call.changed me ∧
      (¬ call.UnderArc arcContext → (meAlarmSet prop arcContext me call).1.sent =
        (if hasProp prop MeProp.pm then alarmBit call.alarm.toNat else call.changed me) ::
          me.sent) := by
  rw [AlarmSetCall.Fails, not_or] at hfine
  obtain ⟨harc, hsend⟩ := hfine
  rw [meAlarmSet_of_changes hchanges]
  dsimp only
  rw [if_neg harc]
  by_cases hpm : hasProp prop MeProp.pm = true
  · have hsent : ¬ call.send ≠ .success := fun hne => hsend ⟨Or.inl hpm, hne⟩
    rw [if_pos hpm, if_neg hsent]
    exact ⟨rfl, rfl, fun _ => by rw [if_pos hpm]⟩
  · rw [if_neg hpm]
    by_cases henabled : (call.arcFound arcContext).2 = true
    · rw [if_neg (by simp [henabled])]
      exact ⟨rfl, rfl, fun hnot => absurd (underArc_of_arcFound henabled) hnot⟩
    · rw [Bool.not_eq_true] at henabled
      have hsent : ¬ call.send ≠ .success := fun hne => hsend ⟨Or.inr henabled, hne⟩
      rw [if_pos (by simp [henabled]), if_neg hsent]
      exact ⟨rfl, rfl, fun _ => by rw [if_neg hpm]⟩

end Call

/-! ## Runs -/

def ErrorKeeps (prop : MeProp) (arcContext : Bool) (before : AlarmMe) (call : AlarmSetCall)
    (after : AlarmMe) : Prop :=
  (meAlarmSet prop arcContext before call).2 ≠ .success → after.alarmBitmap = before.alarmBitmap

def InStep (known : AlarmBitmap) (me : AlarmMe) : Prop := replay known me.sent = me.alarmBitmap

def NoFailure (prop : MeProp) (arcContext : Bool) (me : AlarmMe) (call : AlarmSetCall) : Prop :=
  call.Changes me → ¬ call.Fails prop arcContext

def OnlyAlarm (prop : MeProp) (me : AlarmMe) (call : AlarmSetCall) : Prop :=
  hasProp prop MeProp.pm = true → call.Changes me → call.active = true ∧ me.alarmBitmap = 0

instance (prop : MeProp) (arcContext : Bool) (before : AlarmMe) (call : AlarmSetCall)
    (after : AlarmMe) : Decidable (ErrorKeeps prop arcContext before call after) :=
  inferInstanceAs (Decidable (_ → _))

instance (known : AlarmBitmap) (me : AlarmMe) : Decidable (InStep known me) :=
  inferInstanceAs (Decidable (_ = _))

instance (prop : MeProp) (arcContext : Bool) (me : AlarmMe) (call : AlarmSetCall) :
    Decidable (NoFailure prop arcContext me call) :=
  inferInstanceAs (Decidable (_ → _))

instance (prop : MeProp) (me : AlarmMe) (call : AlarmSetCall) :
    Decidable (OnlyAlarm prop me call) :=
  inferInstanceAs (Decidable (_ → _ → _))

section Runs

variable {prop : MeProp} {arcContext : Bool} {me : AlarmMe} {call : AlarmSetCall}

theorem errorKeeps_iff :
    ErrorKeeps prop arcContext me call (meAlarmSet prop arcContext me call).1 ↔
      NoFailure prop arcContext me call := by
  constructor
  · intro hkeeps hchanges hfails
    obtain ⟨herror, hbitmap⟩ := meAlarmSet_of_fails hchanges hfails
    exact changed_ne hchanges (hbitmap.symm.trans (hkeeps herror))
  · intro hfine herror
    by_cases hchanges : call.Changes me
    · exact absurd (meAlarmSet_of_not_fails hchanges (hfine hchanges)).1 herror
    · rw [meAlarmSet_of_not_changes hchanges]

/-- The alarm alone is the whole bitmap if it was set in an empty one. -/
theorem alarmBit_eq_changed_iff (hchanges : call.Changes me) :
    alarmBit call.alarm.toNat = call.changed me ↔
      call.active = true ∧ me.alarmBitmap = 0 := by
  obtain ⟨hlt, hne⟩ := hchanges
  have hbit := AlarmBitmap.has_alarmBit hlt hlt
  constructor
  · intro hsame
    have hactive : call.active = true := by
      rw [← has_changed hlt, ← hsame, hbit]
      simp
    refine ⟨hactive, ?_⟩
    rw [hactive, ne_eq, Bool.not_eq_true] at hne
    rw [changed_eq hlt, if_pos hactive] at hsame
    apply AlarmBitmap.ext_has
    intro other hother
    have hhas := congrArg (AlarmBitmap.has · other) hsame
    rw [AlarmBitmap.has_or, AlarmBitmap.has_alarmBit hlt hother] at hhas
    by_cases hsame : call.alarm.toNat = other
    · rw [← hsame, hne]
      exact (AlarmBitmap.has_zero _).symm
    · rw [decide_eq_false hsame, Bool.or_false] at hhas
      exact hhas.symm.trans (AlarmBitmap.has_zero other).symm
  · rintro ⟨hactive, hempty⟩
    rw [changed_eq hlt, if_pos hactive, hempty]
    exact BitVec.zero_or.symm

theorem inStep_iff (hfree : ¬ call.UnderArc arcContext) (hfine : NoFailure prop arcContext me call)
    {known : AlarmBitmap} (hinStep : InStep known me) :
    InStep known (meAlarmSet prop arcContext me call).1 ↔ OnlyAlarm prop me call := by
  by_cases hchanges : call.Changes me
  · obtain ⟨_, hbitmap, hsent⟩ := meAlarmSet_of_not_fails hchanges (hfine hchanges)
    rw [InStep, hbitmap, hsent hfree, replay, List.headD_cons]
    by_cases hpm : hasProp prop MeProp.pm = true
    · rw [if_pos hpm, alarmBit_eq_changed_iff hchanges]
      exact ⟨fun h _ _ => h, fun h => h hpm hchanges⟩
    · rw [if_neg hpm]
      exact iff_of_true rfl fun h => absurd h hpm
  · rw [meAlarmSet_of_not_changes hchanges]
    exact iff_of_true hinStep fun _ h => absurd h hchanges

end Runs

/-- A failed call leaves the bitmap as it was, and as long as the entity is not under ARC the
notifications tell its bitmap, exactly in the runs in which no call that changes something
fails and calls that change a PM entity not under ARC set an alarm where none is set. -/
theorem alarmKept_iff (prop : MeProp) (arcContext : Bool) {start : AlarmMe}
    (hstart : start.sent = []) (calls : List AlarmSetCall) :
    (Along (alarmSetStep prop arcContext) (ErrorKeeps prop arcContext) start calls ∧
      ((∀ call ∈ calls, ¬ call.UnderArc arcContext) →
        Along (alarmSetStep prop arcContext) (fun _ _ after => InStep start.alarmBitmap after)
          start calls)) ↔
      Along (alarmSetStep prop arcContext) (fun before call _ =>
        NoFailure prop arcContext before call) start calls ∧
      ((∀ call ∈ calls, ¬ call.UnderArc arcContext) →
        Along (alarmSetStep prop arcContext) (fun before call _ => OnlyAlarm prop before call)
          start calls) := by
  have hkeeps : Along (alarmSetStep prop arcContext) (ErrorKeeps prop arcContext) start calls ↔
      Along (alarmSetStep prop arcContext) (fun before call _ =>
        NoFailure prop arcContext before call) start calls := by
    refine along_congr (fun _ _ _ (_ : True) _ => trivial) (fun before call after _ hnext => ?_)
      trivial calls
    cases hnext
    exact errorKeeps_iff
  rw [hkeeps]
  apply and_congr_right
  intro hfine
  apply forall_congr'
  intro hfree
  have hboth : Along (alarmSetStep prop arcContext) (fun before call after =>
        NoFailure prop arcContext before call ∧ InStep start.alarmBitmap after) start calls ↔
      Along (alarmSetStep prop arcContext) (fun before call _ =>
        NoFailure prop arcContext before call ∧ OnlyAlarm prop before call) start calls := by
    have hknown : InStep start.alarmBitmap start := by
      rw [InStep, hstart]
      rfl
    refine along_iff_guard_on (fun before call after hcall hbefore hnext => ?_) hknown hfree
    cases hnext
    have hiff : NoFailure prop arcContext before call →
        (InStep start.alarmBitmap (meAlarmSet prop arcContext before call).1 ↔
          OnlyAlarm prop before call) := fun hfine => inStep_iff hcall hfine hbefore
    exact ⟨and_congr_right hiff, fun hguard => (hiff hguard.1).mpr hguard.2⟩
  rw [along_and, along_and] at hboth
  exact ⟨fun hkept => (hboth.mp ⟨hfine, hkept⟩).2, fun honly => (hboth.mpr ⟨hfine, honly⟩).2⟩

/-- A call for alarm 3 of an entity without ARC. -/
def portCall (active : Bool) (send : OmciError) : AlarmSetCall where
  alarm := 3
  active := active
  arc := (.success, 0)
  arcInterval := (.success, 0)
  arcWrite := .success
  send := send

def quietMe : AlarmMe := ⟨0, 0, []⟩

/-- An alarm that is set and cleared, and reported each time. -/
theorem alarmKept_port :
    Along (alarmSetStep MeProp.hasAlarms false) (ErrorKeeps MeProp.hasAlarms false) quietMe
        [portCall true .success, portCall false .success] ∧
      Along (alarmSetStep MeProp.hasAlarms false) (fun _ _ after => InStep 0 after) quietMe
        [portCall true .success, portCall false .success] := by
  have hkept := (alarmKept_iff MeProp.hasAlarms false (show quietMe.sent = [] from rfl)
    [portCall true .success, portCall false .success]).mpr
      ⟨by decide +kernel, fun _ => by decide +kernel⟩
  exact ⟨hkept.1, hkept.2 (by decide)⟩

/-- The notification cannot be handed over: the bitmap has the alarm after the error, and the
repeated call succeeds without a notification. -/
theorem alarmKept_sendFailed :
    (meAlarmSet MeProp.hasAlarms false quietMe (portCall true .error)).2 = .error ∧
      (meAlarmSet MeProp.hasAlarms false quietMe (portCall true .error)).1 =
        ⟨alarmBit 3, 1, []⟩ ∧
      meAlarmSet MeProp.hasAlarms false ⟨alarmBit 3, 1, []⟩ (portCall true .success) =
        (⟨alarmBit 3, 1, []⟩, .success) ∧
      ¬ Along (alarmSetStep MeProp.hasAlarms false) (ErrorKeeps MeProp.hasAlarms false) quietMe
        [portCall true .error] ∧
      ¬ Along (alarmSetStep MeProp.hasAlarms false) (fun _ _ after => InStep 0 after) quietMe
        [portCall true .error, portCall true .success] := by
  decide +kernel

end FalconGpon.Omci
