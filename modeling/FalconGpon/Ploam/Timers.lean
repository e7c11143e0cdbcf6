/-
# The timers TO1 and TO2

TO1 is for the ranging states, TO2 for the POPUP state. Their handlers do not look at the
state: a timer that is still scheduled when the ONU has left its states ends a later visit, or
another state altogether. `TimerRun` keeps, beside the context, the states the ONU has been in
since a timer was armed.

`timers_in_visit_iff`: a run leaves no such timer behind if and only if no timer acts outside of
the visit that has armed it, however the run goes on.
-/

import FalconGpon.Ploam.Transceiver

namespace FalconGpon.Ploam

open FalconGpon.Lib

/-! ## Timers -/

/-- `to1_timer`, `to2_timer`. -/
inductive PloamTimer
  | to1
  | to2
deriving DecidableEq

namespace PloamTimer

def Guards : PloamTimer → PloamState → Prop
  | to1, state => state = .o3SerialNum ∨ state = .o4Ranging
  | to2, state => state = .o6Popup

instance Guards.decidable : ∀ timer state, Decidable (Guards timer state)
  | to1, state => inferInstanceAs (Decidable (state = .o3SerialNum ∨ state = .o4Ranging))
  | to2, state => inferInstanceAs (Decidable (state = .o6Popup))

def expiry : PloamTimer → PloamEvent
  | to1 => .to1Expiry
  | to2 => .to2Expiry

def expired : PloamTimer → PloamState
  | to1 => .o2Standby
  | to2 => .o1InitialRun

def Arms : PloamTimer → PloamState → Prop
  | to1, state => state = .o3SerialNum
  | to2, state => state = .o6Popup

instance Arms.decidable : ∀ timer state, Decidable (Arms timer state)
  | to1, state => inferInstanceAs (Decidable (state = .o3SerialNum))
  | to2, state => inferInstanceAs (Decidable (state = .o6Popup))

def Cancels : PloamTimer → PloamState → Prop
  | to1, state => state = .o4Ranging ∨ state = .o5Operation
  | to2, state => state = .o5Operation

instance Cancels.decidable : ∀ timer state, Decidable (Cancels timer state)
  | to1, state => inferInstanceAs (Decidable (state = .o4Ranging ∨ state = .o5Operation))
  | to2, state => inferInstanceAs (Decidable (state = .o5Operation))

end PloamTimer

open PloamTimer

namespace FalconPloamCtx

variable (ctx : FalconPloamCtx)

def scheduled : PloamTimer → Bool
  | .to1 => ctx.to1Timer
  | .to2 => ctx.to2Timer

/-- What is scheduled after a change to a state. -/
def scheduledIn (newState : PloamState) (timer : PloamTimer) : Bool :=
  if ctx.state = newState then ctx.scheduled timer
  else if timer.Arms newState then true
  else if timer.Cancels newState then false
  else ctx.scheduled timer

/-- What is scheduled after a message that leads to a state. -/
def scheduledAfter (target : Option PloamState) (timer : PloamTimer) : Bool :=
  match target with
  | some newState => ctx.scheduledIn newState timer
  | none => ctx.scheduled timer

def scheduledAt (event : PloamEvent) (timer : PloamTimer) : Bool :=
  ctx.scheduled timer && decide (event ≠ timer.expiry)

/-- The event takes the ONU out of the states of a timer that stays scheduled: a signal alarm or
one of these messages in O3 or O6. -/
def Strands : PloamEvent → Prop
  | .work => ∃ msg ∈ ctx.nextMsg,
      (msg.msgId = dsDeactivateOnuId ∨ msg.msgId = dsDisableSerialNum) ∧
          (ctx.to1Timer ∧ ctx.state = .o3SerialNum ∨ ctx.to2Timer ∧ ctx.state = .o6Popup) ∨
        msg.msgId = dsAssignOnuId ∧ ctx.ownSerialNumber msg ∧ ctx.to2Timer ∧ ctx.state = .o6Popup
  | .los los =>
      los ∧ (ctx.to1Timer ∧ ctx.state = .o3SerialNum ∨ ctx.to2Timer ∧ ctx.state = .o6Popup)
  | .lof lof =>
      lof ∧ (ctx.to1Timer ∧ ctx.state = .o3SerialNum ∨ ctx.to2Timer ∧ ctx.state = .o6Popup)
  | .rxIrq _ | .to1Expiry | .to2Expiry => False

end FalconPloamCtx

open FalconPloamCtx

/-! ## What a step does to the timers -/

section Scheduled

variable (ctx : FalconPloamCtx)

@[simp]
theorem scheduled_laserSetEnable (enable : Bool) :
    (ctx.laserSetEnable enable).scheduled = ctx.scheduled := by
  unfold laserSetEnable
  split
  · funext timer
    cases timer <;> rfl
  · rfl

@[simp]
theorem scheduled_carrierSet (linkUp : Bool) :
    (ctx.carrierSet linkUp).scheduled = ctx.scheduled := by
  unfold carrierSet
  split
  · funext timer
    cases timer <;> rfl
  · rfl

@[simp]
theorem scheduled_stateChangeCb (newState oldState : PloamState) :
    (ctx.stateChangeCb newState oldState).scheduled = ctx.scheduled := by
  unfold stateChangeCb
  split
  · funext timer
    cases timer <;> rfl
  · rfl

@[simp]
theorem scheduled_setOnuId (onuId : U8) : (ctx.setOnuId onuId).scheduled = ctx.scheduled := by
  funext timer
  cases timer <;> rfl

@[simp]
theorem scheduled_gtcPloamSend (msg : PloamMsg) :
    (ctx.gtcPloamSend msg).scheduled = ctx.scheduled := by
  funext timer
  cases timer <;> rfl

@[simp]
theorem scheduled_sendPassword (seqNum : U8) :
    (ctx.sendPassword seqNum).scheduled = ctx.scheduled :=
  scheduled_gtcPloamSend ctx _

@[simp]
theorem scheduled_sendSerialNumberOnu : ctx.sendSerialNumberOnu.scheduled = ctx.scheduled :=
  scheduled_gtcPloamSend ctx _

@[simp]
theorem scheduled_setEqd (eqd : U32) : (ctx.setEqd eqd).scheduled = ctx.scheduled := by
  funext timer
  cases timer <;> rfl

/-- Entering a state arms and cancels timers. -/
theorem scheduled_enter (newState : PloamState) (timer : PloamTimer) :
    (ctx.enter newState).scheduled timer =
      if timer.Arms newState then true
      else if timer.Cancels newState then false
      else ctx.scheduled timer := by
  cases newState with
  | o1InitialRun | o2Standby | o7Emergency => cases timer <;> simp [enter, Arms, Cancels]
  | o3SerialNum =>
      have hlaser := congrFun (scheduled_laserSetEnable ctx true) timer
      cases timer
      · rfl
      · exact hlaser
  | o4Ranging => cases timer <;> rfl
  | o5Operation =>
      rw [enter, scheduled_carrierSet]
      cases timer <;> rfl
  | o6Popup =>
      have hlaser := congrFun (scheduled_laserSetEnable ctx false) timer
      cases timer
      · exact hlaser
      · rfl

@[simp]
theorem scheduled_ploamStateTransition (newState : PloamState) :
    (ctx.ploamStateTransition newState).scheduled = ctx.scheduledIn newState := by
  funext timer
  unfold ploamStateTransition scheduledIn
  split
  · rfl
  · rw [scheduled_enter, scheduled_stateChangeCb]
    cases timer <;> rfl

end Scheduled

/-- A message arms and cancels timers through the state it leads to. -/
theorem scheduled_handleMsg (ctx : FalconPloamCtx) (msg : PloamMsg) :
    (ctx.handleMsg msg).scheduled = ctx.scheduledAfter (ctx.msgTarget msg) := by
  unfold handleMsg msgTarget
  by_cases hoverhead : msg.msgId = dsUpstreamOverhead
  · simp only [if_pos hoverhead, upstreamOverhead]
    split
    · rw [scheduled_sendSerialNumberOnu, scheduled_ploamStateTransition]
      funext timer
      cases timer <;> rfl
    · funext timer
      cases timer <;> rfl
  by_cases hassign : msg.msgId = dsAssignOnuId
  · simp only [if_neg hoverhead, if_pos hassign, assignOnuId]
    split
    · rw [scheduled_ploamStateTransition]
      funext timer
      cases timer <;> rfl
    · rfl
  by_cases hranging : msg.msgId = dsRangingTime
  · simp only [if_neg hoverhead, if_neg hassign, if_pos hranging, rangingTime]
    split
    · rw [scheduled_ploamStateTransition]
      funext timer
      cases timer <;> rfl
    · rfl
  simp only [if_neg hoverhead, if_neg hassign, if_neg hranging]
  split
  · exact scheduled_sendPassword ctx msg.seqNum
  · split
    · exact scheduled_ploamStateTransition ctx _
    · split
      · exact scheduled_ploamStateTransition ctx _
      · rfl

variable {event : PloamEvent}

/-- A step arms a timer when it leads to a state that does, cancels it when it leads to one that
does that, and leaves it as it is otherwise. -/
theorem scheduled_ploamStep {ctx after : FalconPloamCtx}
    (h : ploamStep ctx event = some after) (timer : PloamTimer) :
    after.scheduled timer =
      if ctx.state = after.state then ctx.scheduledAt event timer
      else if timer.Arms after.state then true
      else if timer.Cancels after.state then false
      else ctx.scheduledAt event timer := by
  rw [ploamStep_state h]
  cases ploamStep_cases h with
  | rxIrq arrived =>
      cases timer <;> simp [target, scheduledAt, expiry, scheduled, falconPloamRxIrqHandler]
  | @work msg rest hpop =>
      have htarget : ctx.target .work = ctx.msgTarget msg := by
        simp [target, nextMsg, hpop]
      have hpopped : ({ ctx with rxQueue := rest } : FalconPloamCtx).msgTarget msg =
          ctx.msgTarget msg := rfl
      rw [htarget, scheduled_handleMsg, hpopped]
      cases ctx.msgTarget msg with
      | none => cases timer <;> simp [scheduledAfter, scheduledAt, expiry, scheduled]
      | some newState =>
          cases timer <;> simp [scheduledAfter, scheduledIn, scheduledAt, expiry, scheduled]
  | to1Expiry hto1 | to2Expiry hto2 =>
      rw [scheduled_ploamStateTransition]
      cases timer <;> simp [target, scheduledIn, scheduledAt, expiry, scheduled]
  | signal hsignal htarget =>
      rw [htarget, scheduled_ploamStateTransition]
      cases hsignal <;> cases timer <;> simp [scheduledIn, scheduledAt, expiry]
  | quiet hsignal htarget =>
      rw [htarget]
      cases hsignal <;> cases timer <;> simp [scheduledAt, expiry]

/-! ## Runs -/

/-- A context, and the states the ONU has been in since a timer was armed, none while it is not
scheduled. -/
structure TimerRun where
  ctx : FalconPloamCtx
  since : PloamTimer → List PloamState

namespace TimerRun

def start (ctx : FalconPloamCtx) : TimerRun where
  ctx := ctx
  since _ := []

/-- A step of the context. A timer that is armed again while it is scheduled goes on as it was
armed before. -/
def step (run : TimerRun) (event : PloamEvent) : Option TimerRun :=
  (ploamStep run.ctx event).map fun ctx =>
    { ctx
      since := fun timer =>
        if ctx.scheduled timer then
          if run.ctx.scheduledAt event timer then run.since timer ++ [ctx.state] else [ctx.state]
        else [] }

/-- The expiry of a timer that changes the state finds the ONU in the visit that has armed the
timer. -/
def ActsInVisit (before : TimerRun) (event : PloamEvent) (after : TimerRun) : Prop :=
  ∀ timer : PloamTimer, event = timer.expiry → after.ctx.state ≠ before.ctx.state →
    ∀ state ∈ before.since timer, timer.Guards state

instance ActsInVisit.decidable (before : TimerRun) (event : PloamEvent) (after : TimerRun) :
    Decidable (before.ActsInVisit event after) :=
  decidable_of_iff (∀ timer ∈ [PloamTimer.to1, .to2], event = timer.expiry →
      after.ctx.state ≠ before.ctx.state → ∀ state ∈ before.since timer, timer.Guards state) <| by
    constructor
    · intro h timer
      exact h timer (by cases timer <;> simp)
    · exact fun h timer _ => h timer

def Fresh (run : TimerRun) : Prop :=
  ∀ timer : PloamTimer, run.ctx.scheduled timer = true →
    timer.Arms run.ctx.state ∧ ∀ state ∈ run.since timer, timer.Guards state

def Stale (run : TimerRun) (timer : PloamTimer) : Prop :=
  run.ctx.scheduled timer = true ∧ ∃ state ∈ run.since timer, ¬ timer.Guards state

end TimerRun

open TimerRun

variable {timer : PloamTimer}

theorem PloamTimer.Arms.guards {state : PloamState} (h : timer.Arms state) :
    timer.Guards state := by
  cases timer with
  | to1 => exact .inl h
  | to2 => exact h

theorem PloamTimer.Arms.timer_eq {other : PloamTimer} {state : PloamState}
    (h : timer.Arms state) (hother : other.Arms state) : timer = other := by
  cases timer <;> cases other <;> simp_all [Arms]

theorem pending_iff (ctx : FalconPloamCtx) :
    (ctx.to1Timer = true ∧ ctx.state = .o3SerialNum ∨ ctx.to2Timer = true ∧ ctx.state = .o6Popup) ↔
      ∃ timer : PloamTimer, ctx.scheduled timer = true ∧ timer.Arms ctx.state := by
  constructor
  · rintro (h | h)
    · exact ⟨.to1, h⟩
    · exact ⟨.to2, h⟩
  · rintro ⟨timer, h⟩
    cases timer with
    | to1 => exact .inl h
    | to2 => exact .inr h

theorem PloamTimer.Arms.left {state newState : PloamState} (h : timer.Arms state)
    (hnew : newState = .o1InitialRun ∨ newState = .o2Standby ∨ newState = .o7Emergency) :
    newState ≠ state ∧ ¬ timer.Arms newState ∧ ¬ timer.Cancels newState := by
  cases timer <;> rcases hnew with rfl | rfl | rfl <;> simp_all [Arms, Cancels]

section Step

variable {run : TimerRun} (hfresh : run.Fresh) {after : FalconPloamCtx}
include hfresh

/-- In a fresh run the messages that strand a timer lead to a state that neither arms nor
cancels it. -/
theorem strands_work_iff (h : ploamStep run.ctx .work = some after) :
    run.ctx.Strands .work ↔ ∃ timer : PloamTimer, run.ctx.scheduled timer = true ∧
      after.state ≠ run.ctx.state ∧ ¬ timer.Arms after.state ∧ ¬ timer.Cancels after.state := by
  have hstate := ploamStep_state h
  rw [Strands, pending_iff]
  constructor
  · rintro ⟨msg, hmsg, ⟨hid, timer, hscheduled, harms⟩ | ⟨hid, hown, hscheduled, hpopup⟩⟩
    · refine ⟨timer, hscheduled, harms.left ?_⟩
      have hmsg : run.ctx.nextMsg = some msg := hmsg
      rcases hid with hid | hid
      · have hmove : run.ctx.MsgMove msg .o2Standby := .deactivate hid
        rw [hstate, target, hmsg, Option.bind_some, msgTarget_eq_some_iff.mpr hmove]
        exact .inr (.inl rfl)
      · have hmove : run.ctx.MsgMove msg .o7Emergency := .disable hid
        rw [hstate, target, hmsg, Option.bind_some, msgTarget_eq_some_iff.mpr hmove]
        exact .inr (.inr rfl)
    · have hmsg : run.ctx.nextMsg = some msg := hmsg
      have hmove : run.ctx.MsgMove msg .o4Ranging := .assign hid hown
      refine ⟨.to2, hscheduled, ?_⟩
      rw [hstate, target, hmsg, Option.bind_some, msgTarget_eq_some_iff.mpr hmove, hpopup]
      simp [Arms, Cancels]
  · rintro ⟨timer, hscheduled, hne, hnarms, hncancels⟩
    have harms := (hfresh timer hscheduled).1
    cases hmsg : run.ctx.nextMsg with
    | none => simp [hstate, target, hmsg] at hne
    | some msg =>
        rw [target, hmsg, Option.bind_some] at hstate
        cases htarget : run.ctx.msgTarget msg with
        | none => simp [hstate, htarget] at hne
        | some newState =>
            rw [htarget, Option.getD_some] at hstate
            refine ⟨msg, rfl, ?_⟩
            cases msgTarget_eq_some_iff.mp htarget with
            | overhead hid hstart => cases timer <;> simp_all [Arms]
            | assign hid hown =>
                right
                cases timer with
                | to1 => simp [hstate, Cancels] at hncancels
                | to2 => exact ⟨hid, hown, hscheduled, harms⟩
            | ranging hid hstart => cases timer <;> simp_all [Arms]
            | deactivate hid => exact .inl ⟨.inl hid, timer, hscheduled, harms⟩
            | disable hid => exact .inl ⟨.inr hid, timer, hscheduled, harms⟩

/-- In a fresh run the events that strand a timer lead to a state that neither arms nor cancels
it. -/
theorem strands_iff {event : PloamEvent} (h : ploamStep run.ctx event = some after) :
    run.ctx.Strands event ↔ ∃ timer : PloamTimer, run.ctx.scheduledAt event timer = true ∧
      after.state ≠ run.ctx.state ∧ ¬ timer.Arms after.state ∧ ¬ timer.Cancels after.state := by
  have hstate := ploamStep_state h
  cases event with
  | rxIrq arrived => simp [Strands, hstate, target]
  | work =>
      rw [strands_work_iff hfresh h]
      refine exists_congr fun timer => and_congr_left fun _ => ?_
      cases timer <;> simp [scheduledAt, expiry]
  | to1Expiry =>
      have hto1 : run.ctx.scheduled .to1 = true := (Option.ite_none_right_eq_some.mp h).1
      refine iff_of_false id ?_
      rintro ⟨timer, hat, -⟩
      obtain ⟨hscheduled, hother⟩ : run.ctx.scheduled timer = true ∧ _ := by
        simpa [scheduledAt] using hat
      obtain rfl := (hfresh timer hscheduled).1.timer_eq (hfresh .to1 hto1).1
      exact hother rfl
  | to2Expiry =>
      have hto2 : run.ctx.scheduled .to2 = true := (Option.ite_none_right_eq_some.mp h).1
      refine iff_of_false id ?_
      rintro ⟨timer, hat, -⟩
      obtain ⟨hscheduled, hother⟩ : run.ctx.scheduled timer = true ∧ _ := by
        simpa [scheduledAt] using hat
      obtain rfl := (hfresh timer hscheduled).1.timer_eq (hfresh .to2 hto2).1
      exact hother rfl
  | los los =>
      rw [Strands, pending_iff]
      cases los with
      | false => simp [hstate, target]
      | true =>
          constructor
          · rintro ⟨-, timer, hscheduled, harms⟩
            refine ⟨timer, ?_, harms.left (.inl hstate)⟩
            cases timer <;> simpa [scheduledAt, expiry] using hscheduled
          · rintro ⟨timer, hat, -⟩
            have hscheduled := (Bool.and_eq_true_iff.mp hat).1
            exact ⟨rfl, timer, hscheduled, (hfresh timer hscheduled).1⟩
  | lof lof =>
      rw [Strands, pending_iff]
      cases lof with
      | false =>
          refine iff_of_false (fun h => Bool.false_ne_true h.1) ?_
          rintro ⟨timer, hat, hne, -⟩
          have harms := (hfresh timer (Bool.and_eq_true_iff.mp hat).1).1
          have hstart : run.ctx.state ≠ .o1InitialRun := by
            intro hstart
            cases timer <;> simp [Arms, hstart] at harms
          simp [hstate, target, hstart] at hne
      | true =>
          constructor
          · rintro ⟨-, timer, hscheduled, harms⟩
            have hoperation : run.ctx.state ≠ .o5Operation := by
              intro hoperation
              cases timer <;> simp [Arms, hoperation] at harms
            have hinitial : after.state = .o1InitialRun := by
              simpa [target, hoperation] using hstate
            refine ⟨timer, ?_, harms.left (.inl hinitial)⟩
            cases timer <;> simpa [scheduledAt, expiry] using hscheduled
          · rintro ⟨timer, hat, -⟩
            have hscheduled := (Bool.and_eq_true_iff.mp hat).1
            exact ⟨rfl, timer, hscheduled, (hfresh timer hscheduled).1⟩

end Step

variable {run after : TimerRun}

theorem TimerRun.step_eq_some
    (h : run.step event = some after) : ploamStep run.ctx event = some after.ctx ∧
      ∀ timer, after.since timer =
        if after.ctx.scheduled timer then
          if run.ctx.scheduledAt event timer then run.since timer ++ [after.ctx.state]
          else [after.ctx.state]
        else [] := by
  obtain ⟨ctx, hstep, rfl⟩ := Option.map_eq_some_iff.mp h
  exact ⟨hstep, fun timer => rfl⟩

/-- A step that strands no timer leaves none behind, and what expires acts in its visit. -/
theorem TimerRun.Fresh.step (hfresh : run.Fresh)
    (hguard : ¬ run.ctx.Strands event) (h : run.step event = some after) :
    run.ActsInVisit event after ∧ after.Fresh := by
  obtain ⟨hstep, hsince⟩ := TimerRun.step_eq_some h
  constructor
  · rintro timer rfl - state hstate
    refine (hfresh timer ?_).2 state hstate
    cases timer with
    | to1 => exact (Option.ite_none_right_eq_some.mp hstep).1
    | to2 => exact (Option.ite_none_right_eq_some.mp hstep).1
  · intro timer hscheduled
    rw [strands_iff hfresh hstep] at hguard
    have hafter := hscheduled
    rw [scheduled_ploamStep hstep] at hafter
    have harms : timer.Arms after.ctx.state := by
      by_contra hnarms
      by_cases hsame : run.ctx.state = after.ctx.state
      · rw [if_pos hsame] at hafter
        exact hnarms (hsame ▸ (hfresh timer (Bool.and_eq_true_iff.mp hafter).1).1)
      · rw [if_neg hsame, if_neg hnarms] at hafter
        split at hafter
        · cases hafter
        · rename_i hncancels
          exact hguard ⟨timer, hafter, Ne.symm hsame, hnarms, hncancels⟩
    refine ⟨harms, ?_⟩
    rw [hsince, if_pos hscheduled]
    split
    · rename_i hat
      intro state hstate
      rcases List.mem_append.mp hstate with hbefore | hnew
      · exact (hfresh timer (Bool.and_eq_true_iff.mp hat).1).2 state hbefore
      · exact List.mem_singleton.mp hnew ▸ harms.guards
    · intro state hstate
      exact List.mem_singleton.mp hstate ▸ harms.guards

/-- A step that strands a timer leaves it behind. -/
theorem TimerRun.Fresh.stale (hfresh : run.Fresh)
    (hstrands : run.ctx.Strands event) (h : run.step event = some after) :
    ∃ timer, after.Stale timer := by
  obtain ⟨hstep, hsince⟩ := TimerRun.step_eq_some h
  obtain ⟨timer, hat, hne, hnarms, hncancels⟩ := (strands_iff hfresh hstep).mp hstrands
  have hscheduled : after.ctx.scheduled timer = true := by
    rw [scheduled_ploamStep hstep, if_neg (Ne.symm hne), if_neg hnarms, if_neg hncancels, hat]
  refine ⟨timer, hscheduled, after.ctx.state, ?_, ?_⟩
  · rw [hsince, if_pos hscheduled, if_pos hat]
    exact List.mem_append.mpr (.inr List.mem_cons_self)
  · intro hguards
    cases timer with
    | to1 =>
        rcases hguards with hserial | hranging
        · exact hnarms hserial
        · exact hncancels (.inl hranging)
    | to2 => exact hnarms hguards

theorem exists_expiry {run : TimerRun} (hscheduled : run.ctx.scheduled timer = true) :
    ∃ after, run.step timer.expiry = some after ∧ after.ctx.state = timer.expired := by
  have hstep : ∃ after, ploamStep run.ctx timer.expiry = some after := by
    cases timer with
    | to1 => exact ⟨_, if_pos hscheduled⟩
    | to2 => exact ⟨_, if_pos hscheduled⟩
  obtain ⟨after, hstep⟩ := hstep
  refine ⟨_, Option.map_eq_some_iff.mpr ⟨after, hstep, rfl⟩, ?_⟩
  rw [ploamStep_state hstep]
  cases timer <;> rfl

theorem not_strands_expiry (ctx : FalconPloamCtx) (timer : PloamTimer) :
    ¬ ctx.Strands timer.expiry := by
  cases timer <;> exact id

theorem TimerRun.Stale.expiry {run : TimerRun} (hstale : run.Stale timer)
    (hstate : run.ctx.state ≠ timer.expired) :
    Along TimerRun.step (fun before event _ => ¬ before.ctx.Strands event) run [timer.expiry] ∧
      ¬ Along TimerRun.step ActsInVisit run [timer.expiry] := by
  obtain ⟨hscheduled, state, hmem, hnguards⟩ := hstale
  obtain ⟨after, hstep, hafter⟩ := exists_expiry hscheduled
  rw [Along, Along, hstep]
  refine ⟨⟨not_strands_expiry _ _, trivial⟩, fun h => ?_⟩
  have hne : after.ctx.state ≠ run.ctx.state := by
    rw [hafter]
    exact Ne.symm hstate
  exact hnguards (h.1 timer rfl hne state hmem)

/-- A signal event that leads to a state which neither arms nor cancels a timer leaves it
stale. -/
theorem TimerRun.Stale.signal (hstale : run.Stale timer)
    (h : run.step event = some after) (hevent : event ≠ timer.expiry)
    (hne : after.ctx.state ≠ run.ctx.state) (hnarms : ¬ timer.Arms after.ctx.state)
    (hncancels : ¬ timer.Cancels after.ctx.state) : after.Stale timer := by
  obtain ⟨hscheduled, state, hmem, hnguards⟩ := hstale
  obtain ⟨hstep, hsince⟩ := TimerRun.step_eq_some h
  have hat : run.ctx.scheduledAt event timer = true :=
    Bool.and_eq_true_iff.mpr ⟨hscheduled, decide_eq_true hevent⟩
  have hafter : after.ctx.scheduled timer = true := by
    rw [scheduled_ploamStep hstep, if_neg (Ne.symm hne), if_neg hnarms, if_neg hncancels, hat]
  refine ⟨hafter, state, ?_, hnguards⟩
  rw [hsince, if_pos hafter, if_pos hat]
  exact List.mem_append.mpr (.inl hmem)

def PloamTimer.signal : PloamTimer → PloamEvent
  | .to1 => .los true
  | .to2 => .lof false

theorem exists_signal {run : TimerRun} (hstate : run.ctx.state = timer.expired) :
    ∃ after, run.step timer.signal = some after ∧ ¬ run.ctx.Strands timer.signal ∧
      after.ctx.state ≠ timer.expired ∧ ¬ timer.Arms after.ctx.state ∧
        ¬ timer.Cancels after.ctx.state := by
  cases timer with
  | to1 =>
      refine ⟨_, rfl, ?_, ?_⟩
      · have hstandby : run.ctx.state = .o2Standby := hstate
        simp [PloamTimer.signal, Strands, hstandby]
      · have hstep : ploamStep run.ctx (.los true) = some (run.ctx.falconPloamEventLos true) := rfl
        have hnew : (run.ctx.falconPloamEventLos true).state = .o1InitialRun := ploamStep_state hstep
        dsimp only
        rw [hnew]
        decide
  | to2 =>
      refine ⟨_, rfl, fun h => Bool.false_ne_true h.1, ?_⟩
      have hinitial : run.ctx.state = .o1InitialRun := hstate
      have hstep : ploamStep run.ctx (.lof false) = some (run.ctx.falconPloamEventLof false) := rfl
      have hnew : (run.ctx.falconPloamEventLof false).state = .o2Standby := by
        rw [ploamStep_state hstep]
        simp [target, hinitial]
      dsimp only
      rw [hnew]
      decide

theorem TimerRun.Stale.breaks {run : TimerRun} (hstale : run.Stale timer) :
    ∃ more, Along TimerRun.step (fun before event _ => ¬ before.ctx.Strands event) run more ∧
      ¬ Along TimerRun.step ActsInVisit run more := by
  by_cases hstate : run.ctx.state = timer.expired
  · obtain ⟨after, hstep, hguard, hne, hnarms, hncancels⟩ := exists_signal hstate
    have hother : timer.signal ≠ timer.expiry := by cases timer <;> exact nofun
    have hafter := hstale.signal hstep hother (hstate ▸ hne) hnarms hncancels
    obtain ⟨hquiet, hbroken⟩ := hafter.expiry hne
    refine ⟨[timer.signal, timer.expiry], ?_, ?_⟩
    · rw [Along, hstep]
      exact ⟨hguard, hquiet⟩
    · rw [Along, hstep]
      exact fun h => hbroken h.2
  · exact ⟨_, hstale.expiry hstate⟩

theorem fresh_start (callbacks : Callbacks) (sn : Option (Vector U8 8))
    (pwd : Option (Vector U8 10)) : (TimerRun.start (startCtx callbacks sn pwd)).Fresh := by
  intro timer hscheduled
  cases timer <;> cases hscheduled

/-- A run never takes the ONU out of the states of a timer that stays scheduled if and only if,
however its beginnings go on without that, an expiry of TO1 or TO2 that changes the state finds
the ONU in the visit that has armed the timer. -/
theorem timers_in_visit_iff (callbacks : Callbacks) (sn : Option (Vector U8 8))
    (pwd : Option (Vector U8 10)) (events : List PloamEvent) :
    Along TimerRun.step (fun before event _ => ¬ before.ctx.Strands event)
        (.start (startCtx callbacks sn pwd)) events ↔
      ∀ done rest more, events = done ++ rest →
        (∀ run, execOn TimerRun.step (fun _ _ => True) (.start (startCtx callbacks sn pwd)) done =
          some run →
            Along TimerRun.step (fun before event _ => ¬ before.ctx.Strands event) run more) →
        Along TimerRun.step ActsInVisit (.start (startCtx callbacks sn pwd)) (done ++ more) := by
  constructor
  · rintro hguard done rest more rfl hmore
    exact Along.of_guard (fun before event after hfresh hquiet h => hfresh.step hquiet h)
      (fresh_start callbacks sn pwd) (hguard.of_append.append hmore)
  · intro hall
    have hfresh := fresh_start callbacks sn pwd
    generalize TimerRun.start (startCtx callbacks sn pwd) = run at hfresh hall ⊢
    -- along the run, as long as it is fresh
    induction events generalizing run with
    | nil => exact trivial
    | cons event events ih =>
        rw [Along]
        cases hstep : run.step event with
        | none => exact trivial
        | some after =>
            have hquiet : ¬ run.ctx.Strands event := by
              intro hstrands
              obtain ⟨timer, hstale⟩ := hfresh.stale hstrands hstep
              obtain ⟨more, hguard, hbroken⟩ := hstale.breaks
              have hrun := hall [event] events more rfl fun state hexec => by
                rw [execOn, if_pos trivial, hstep] at hexec
                exact Option.some.inj hexec ▸ hguard
              rw [List.cons_append, List.nil_append, Along, hstep] at hrun
              exact hbroken hrun.2
            refine ⟨hquiet, ih after (hfresh.step hquiet hstep).2 fun done rest more hsplit hmore => ?_⟩
            have hrun := hall (event :: done) rest more (congrArg (event :: ·) hsplit)
              fun state hexec => by
                rw [execOn, if_pos trivial, hstep] at hexec
                exact hmore state hexec
            rw [List.cons_append, Along, hstep] at hrun
            exact hrun.2

/-- Upstream_Overhead and Deactivate_ONU-ID, both broadcast, and Upstream_Overhead again. -/
def secondVisitMsgs : List PloamWords :=
  let overhead := { PloamMsg.zero with onuId := broadcastOnuId, msgId := dsUpstreamOverhead }
  let deactivate := { PloamMsg.zero with onuId := broadcastOnuId, msgId := dsDeactivateOnuId }
  [overhead.words, deactivate.words, overhead.words]

/-- The timer that the first visit to O3 has armed ends the second one. -/
theorem timers_not_in_visit :
    ¬ ∀ events, Along TimerRun.step ActsInVisit (.start (startCtx probedCtx.callbacks none none))
      events := by
  intro hall
  have hrun := hall [.rxIrq secondVisitMsgs, .work, .work, .work, .to1Expiry]
  revert hrun
  decide +kernel

end FalconGpon.Ploam
