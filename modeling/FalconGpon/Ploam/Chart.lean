/-
# The state chart of the PLOAM engine

What one step does to the PLOAM state is a function of the state before it and of the
event: `FalconPloamCtx.target` names the state that `ploam_state_transition` is called
with, if it is called. `ploamStep_state` connects the chart to the code, and
`ploamStep_effect` says what the same step does to the transmitter, the carrier and the
assigned ONU-ID. The results about runs are derived from these two.
-/

import FalconGpon.Ploam.Fsm

namespace FalconGpon.Ploam

open FalconGpon.Lib

namespace FalconPloamCtx

def nextMsg (ctx : FalconPloamCtx) : Option PloamMsg := ctx.rxQueue.pop.map Prod.fst

/-- The state a message moves the context to. -/
def msgTarget (ctx : FalconPloamCtx) (msg : PloamMsg) : Option PloamState :=
  if msg.msgId = dsUpstreamOverhead then
    if ctx.state = .o1InitialRun ∨ ctx.state = .o2Standby then some .o3SerialNum else none
  else if msg.msgId = dsAssignOnuId then
    if ctx.ownSerialNumber msg then some .o4Ranging else none
  else if msg.msgId = dsRangingTime then
    if ctx.state = .o4Ranging ∨ ctx.state = .o5Operation then some .o5Operation else none
  else if msg.msgId = dsRequestPassword then none
  else if msg.msgId = dsDeactivateOnuId then some .o2Standby
  else if msg.msgId = dsDisableSerialNum then some .o7Emergency
  else none

/-- The state an event moves the context to. -/
def target (ctx : FalconPloamCtx) : PloamEvent → Option PloamState
  | .rxIrq _ => none
  | .work => ctx.nextMsg.bind ctx.msgTarget
  | .to1Expiry => some .o2Standby
  | .to2Expiry => some .o1InitialRun
  | .los los => if los then some .o1InitialRun else none
  | .lof lof =>
      if lof then
        if ctx.state = .o5Operation then some .o6Popup else some .o1InitialRun
      else
        if ctx.state = .o1InitialRun then some .o2Standby else none

/-- The ways in which a message moves the context. -/
inductive MsgMove (ctx : FalconPloamCtx) (msg : PloamMsg) : PloamState → Prop
  | overhead (hid : msg.msgId = dsUpstreamOverhead)
      (hstate : ctx.state = .o1InitialRun ∨ ctx.state = .o2Standby) : MsgMove ctx msg .o3SerialNum
  | assign (hid : msg.msgId = dsAssignOnuId) (hown : ctx.ownSerialNumber msg) :
      MsgMove ctx msg .o4Ranging
  | ranging (hid : msg.msgId = dsRangingTime)
      (hstate : ctx.state = .o4Ranging ∨ ctx.state = .o5Operation) : MsgMove ctx msg .o5Operation
  | deactivate (hid : msg.msgId = dsDeactivateOnuId) : MsgMove ctx msg .o2Standby
  | disable (hid : msg.msgId = dsDisableSerialNum) : MsgMove ctx msg .o7Emergency

/-- The table of the ways is the function. -/
theorem msgTarget_eq_some_iff {ctx : FalconPloamCtx} {msg : PloamMsg} {newState : PloamState} :
    ctx.msgTarget msg = some newState ↔ ctx.MsgMove msg newState := by
  constructor
  · intro h
    unfold msgTarget at h
    split at h
    · rename_i hid
      split at h
      · rename_i hstate
        obtain rfl := Option.some.inj h
        exact .overhead hid hstate
      · cases h
    · split at h
      · rename_i hid
        split at h
        · rename_i hown
          obtain rfl := Option.some.inj h
          exact .assign hid hown
        · cases h
      · split at h
        · rename_i hid
          split at h
          · rename_i hstate
            obtain rfl := Option.some.inj h
            exact .ranging hid hstate
          · cases h
        · split at h
          · cases h
          · split at h
            · rename_i hid
              obtain rfl := Option.some.inj h
              exact .deactivate hid
            · split at h
              · rename_i hid
                obtain rfl := Option.some.inj h
                exact .disable hid
              · cases h
  · intro h
    cases h with
    | overhead hid hstate => simp [msgTarget, hid, hstate]
    | assign hid hown => simp [msgTarget, hid, hown, dsAssignOnuId, dsUpstreamOverhead]
    | ranging hid hstate =>
        simp [msgTarget, hid, hstate, dsRangingTime, dsAssignOnuId, dsUpstreamOverhead]
    | deactivate hid =>
        simp [msgTarget, hid, dsDeactivateOnuId, dsRequestPassword, dsRangingTime, dsAssignOnuId,
          dsUpstreamOverhead]
    | disable hid =>
        simp [msgTarget, hid, dsDisableSerialNum, dsDeactivateOnuId, dsRequestPassword,
          dsRangingTime, dsAssignOnuId, dsUpstreamOverhead]

/-- What the chart is about: the state, the transmitter, the carrier, the ONU-ID and the
callbacks that are set. -/
structure Chart where
  state : PloamState
  laser : Bool
  carrier : Bool
  onuId : U8
  callbacks : Callbacks
deriving DecidableEq

def chart (ctx : FalconPloamCtx) : Chart where
  state := ctx.state
  laser := ctx.line.laser
  carrier := ctx.line.carrier
  onuId := ctx.assignedOnuId
  callbacks := ctx.callbacks

end FalconPloamCtx

open FalconPloamCtx

namespace FalconPloamCtx.Chart

def setLaser (chart : Chart) (enable : Bool) : Chart :=
  if chart.callbacks.laserSetEnable then { chart with laser := enable } else chart

def setCarrier (chart : Chart) (linkUp : Bool) : Chart :=
  if chart.callbacks.carrierSet then { chart with carrier := linkUp } else chart

/-- The effects of a change to a state. -/
def enter (chart : Chart) : PloamState → Chart
  | .o1InitialRun => { (chart.setLaser false).setCarrier false with onuId := 0 }
  | .o2Standby => { (chart.setLaser false).setCarrier false with onuId := 0 }
  | .o3SerialNum => chart.setLaser true
  | .o4Ranging => chart
  | .o5Operation => chart.setCarrier true
  | .o6Popup => chart.setLaser false
  | .o7Emergency => (chart.setLaser false).setCarrier false

def moveTo (chart : Chart) (newState : PloamState) : Chart :=
  if chart.state = newState then chart else { chart with state := newState }.enter newState

@[simp]
theorem setLaser_state (chart : Chart) (enable : Bool) :
    (chart.setLaser enable).state = chart.state := by
  unfold setLaser
  split <;> rfl

@[simp]
theorem setLaser_callbacks (chart : Chart) (enable : Bool) :
    (chart.setLaser enable).callbacks = chart.callbacks := by
  unfold setLaser
  split <;> rfl

@[simp]
theorem setCarrier_state (chart : Chart) (linkUp : Bool) :
    (chart.setCarrier linkUp).state = chart.state := by
  unfold setCarrier
  split <;> rfl

@[simp]
theorem setCarrier_callbacks (chart : Chart) (linkUp : Bool) :
    (chart.setCarrier linkUp).callbacks = chart.callbacks := by
  unfold setCarrier
  split <;> rfl

@[simp]
theorem enter_state (chart : Chart) (newState : PloamState) :
    (chart.enter newState).state = chart.state := by
  cases newState <;> simp [enter]

@[simp]
theorem moveTo_state (chart : Chart) (newState : PloamState) :
    (chart.moveTo newState).state = newState := by
  unfold moveTo
  split
  · assumption
  · simp

end FalconPloamCtx.Chart

/-! What the operations of the code do to the chart. -/

@[simp]
theorem chart_sendAck (ctx : FalconPloamCtx) (seqNum : U8) :
    (ctx.sendAck seqNum).chart = ctx.chart := rfl

@[simp]
theorem chart_sendSerialNumberOnu (ctx : FalconPloamCtx) :
    ctx.sendSerialNumberOnu.chart = ctx.chart := rfl

@[simp]
theorem chart_setEqd (ctx : FalconPloamCtx) (eqd : U32) :
    (ctx.setEqd eqd).chart = ctx.chart := rfl

@[simp]
theorem chart_setOnuId (ctx : FalconPloamCtx) (onuId : U8) :
    (ctx.setOnuId onuId).chart = { ctx.chart with onuId } := rfl

@[simp]
theorem chart_laserSetEnable (ctx : FalconPloamCtx) (enable : Bool) :
    (ctx.laserSetEnable enable).chart = ctx.chart.setLaser enable := by
  unfold FalconPloamCtx.laserSetEnable Chart.setLaser
  split <;> simp_all [chart]

@[simp]
theorem chart_carrierSet (ctx : FalconPloamCtx) (linkUp : Bool) :
    (ctx.carrierSet linkUp).chart = ctx.chart.setCarrier linkUp := by
  unfold FalconPloamCtx.carrierSet Chart.setCarrier
  split <;> simp_all [chart]

@[simp]
theorem chart_stateChangeCb (ctx : FalconPloamCtx) (newState oldState : PloamState) :
    (ctx.stateChangeCb newState oldState).chart = ctx.chart := by
  unfold FalconPloamCtx.stateChangeCb
  split <;> rfl

theorem chart_enter (ctx : FalconPloamCtx) (newState : PloamState) :
    (ctx.enter newState).chart = ctx.chart.enter newState := by
  cases newState with
  | o1InitialRun | o2Standby | o7Emergency => simp [FalconPloamCtx.enter, Chart.enter]
  | o3SerialNum => exact chart_laserSetEnable ctx true
  | o4Ranging => rfl
  | o5Operation => exact chart_carrierSet _ true
  | o6Popup => exact chart_laserSetEnable ctx false

@[simp]
theorem chart_ploamStateTransition (ctx : FalconPloamCtx) (newState : PloamState) :
    (ctx.ploamStateTransition newState).chart = ctx.chart.moveTo newState := by
  unfold ploamStateTransition Chart.moveTo
  by_cases hsame : ctx.state = newState
  · simp [hsame, chart]
  · have hchart : ¬ ctx.chart.state = newState := hsame
    rw [if_neg hsame, if_neg hchart, chart_enter, chart_stateChangeCb]
    rfl

namespace FalconPloamCtx.Chart

/-- A chart as the code leaves it: unchanged, or moved to the target. Only the move to
O4 comes with a new ONU-ID. -/
inductive Moved (before : Chart) : Option PloamState → Chart → Prop
  | stay : Moved before none before
  | move (newState : PloamState) (onuId : U8)
      (honuId : newState ≠ .o4Ranging → onuId = before.onuId) :
      Moved before (some newState) ({ before with onuId }.moveTo newState)

theorem Moved.state {before after : Chart} {target : Option PloamState}
    (h : Moved before target after) : after.state = target.getD before.state := by
  cases h with
  | stay => rfl
  | move newState onuId honuId => simp

theorem Moved.plain (before : Chart) (newState : PloamState) :
    Moved before (some newState) (before.moveTo newState) :=
  .move newState before.onuId fun _ => rfl

end FalconPloamCtx.Chart

theorem upstreamOverhead_moved (ctx : FalconPloamCtx) (msg : PloamMsg) :
    ctx.chart.Moved
      (if ctx.state = .o1InitialRun ∨ ctx.state = .o2Standby then some .o3SerialNum else none)
      (ctx.upstreamOverhead msg).chart := by
  unfold upstreamOverhead
  dsimp only
  split
  · rw [chart_sendSerialNumberOnu, chart_ploamStateTransition]
    exact .plain _ _
  · exact .stay

theorem assignOnuId_moved (ctx : FalconPloamCtx) (msg : PloamMsg) :
    ctx.chart.Moved (if ctx.ownSerialNumber msg then some .o4Ranging else none)
      (ctx.assignOnuId msg).chart := by
  unfold assignOnuId
  split
  · rw [chart_ploamStateTransition, chart_sendAck, chart_setOnuId]
    exact .move _ _ fun hne => absurd rfl hne
  · exact .stay

theorem rangingTime_moved (ctx : FalconPloamCtx) (msg : PloamMsg) :
    ctx.chart.Moved
      (if ctx.state = .o4Ranging ∨ ctx.state = .o5Operation then some .o5Operation else none)
      (ctx.rangingTime msg).chart := by
  unfold rangingTime
  dsimp only
  split
  · rw [chart_ploamStateTransition, chart_sendAck, chart_setEqd]
    exact .plain _ _
  · exact .stay

/-- A plain call of `ploam_state_transition`. -/
theorem ploamStateTransition_moved (ctx : FalconPloamCtx) (newState : PloamState) :
    ctx.chart.Moved (some newState) (ctx.ploamStateTransition newState).chart := by
  rw [chart_ploamStateTransition]
  exact .plain _ _

/-- A message moves the chart to its target. -/
theorem handleMsg_moved (ctx : FalconPloamCtx) (msg : PloamMsg) :
    ctx.chart.Moved (ctx.msgTarget msg) (ctx.handleMsg msg).chart := by
  unfold msgTarget handleMsg
  by_cases hoverhead : msg.msgId = dsUpstreamOverhead
  · simpa only [if_pos hoverhead] using upstreamOverhead_moved ctx msg
  by_cases hassign : msg.msgId = dsAssignOnuId
  · simpa only [if_neg hoverhead, if_pos hassign] using assignOnuId_moved ctx msg
  by_cases hranging : msg.msgId = dsRangingTime
  · simpa only [if_neg hoverhead, if_neg hassign, if_pos hranging] using rangingTime_moved ctx msg
  simp only [if_neg hoverhead, if_neg hassign, if_neg hranging]
  split
  · exact .stay
  · split
    · exact ploamStateTransition_moved ctx _
    · split
      · exact ploamStateTransition_moved ctx _
      · exact .stay

/-- The events that a signal alarm raises. -/
inductive PloamEvent.Signal : PloamEvent → Prop
  | los (los : Bool) : Signal (.los los)
  | lof (lof : Bool) : Signal (.lof lof)

/-- What a step does: a signal event changes to its target, if it has one. -/
inductive PloamStepped (ctx : FalconPloamCtx) : PloamEvent → FalconPloamCtx → Prop
  | rxIrq (arrived : List PloamWords) :
      PloamStepped ctx (.rxIrq arrived) { ctx with gtc :=
        { ctx.gtc with dsFifo := ctx.gtc.dsFifo ++ arrived } }.falconPloamRxIrqHandler
  | work {msg : PloamMsg} {rest : Ring 64 PloamMsg} (hpop : ctx.rxQueue.pop = some (msg, rest)) :
      PloamStepped ctx .work ({ ctx with rxQueue := rest }.handleMsg msg)
  | to1Expiry (hto1 : ctx.to1Timer = true) :
      PloamStepped ctx .to1Expiry ({ ctx with to1Timer := false }.ploamStateTransition .o2Standby)
  | to2Expiry (hto2 : ctx.to2Timer = true) :
      PloamStepped ctx .to2Expiry
        ({ ctx with to2Timer := false }.ploamStateTransition .o1InitialRun)
  | signal {event : PloamEvent} {newState : PloamState} (hsignal : event.Signal)
      (htarget : ctx.target event = some newState) :
      PloamStepped ctx event (ctx.ploamStateTransition newState)
  | quiet {event : PloamEvent} (hsignal : event.Signal) (htarget : ctx.target event = none) :
      PloamStepped ctx event ctx

theorem ploamStep_cases {ctx after : FalconPloamCtx} {event : PloamEvent}
    (h : ploamStep ctx event = some after) : PloamStepped ctx event after := by
  cases event with
  | rxIrq arrived =>
      obtain rfl := Option.some.inj h
      exact .rxIrq arrived
  | work =>
      simp only [ploamStep, falconPloamFsmWorker] at h
      split at h
      · cases h
      · rename_i msg rest hpop
        obtain rfl := Option.some.inj h
        exact .work hpop
  | to1Expiry =>
      obtain ⟨hto1, hafter⟩ := Option.ite_none_right_eq_some.mp h
      obtain rfl := Option.some.inj hafter
      exact .to1Expiry hto1
  | to2Expiry =>
      obtain ⟨hto2, hafter⟩ := Option.ite_none_right_eq_some.mp h
      obtain rfl := Option.some.inj hafter
      exact .to2Expiry hto2
  | los los =>
      obtain rfl := Option.some.inj h
      cases los with
      | false => exact .quiet (.los false) rfl
      | true => exact .signal (.los true) rfl
  | lof lof =>
      obtain rfl := Option.some.inj h
      unfold falconPloamEventLof
      split
      · rename_i hlof
        split
        · rename_i hstate
          exact .signal (.lof lof) (by simp [target, hlof, hstate])
        · rename_i hstate
          exact .signal (.lof lof) (by simp [target, hlof, hstate])
      · rename_i hlof
        split
        · rename_i hstate
          exact .signal (.lof lof) (by simp [target, hlof, hstate])
        · rename_i hstate
          exact .quiet (.lof lof) (by simp [target, hlof, hstate])

/-- A step moves the chart to its target. -/
theorem ploamStep_moved {ctx after : FalconPloamCtx} {event : PloamEvent}
    (h : ploamStep ctx event = some after) : ctx.chart.Moved (ctx.target event) after.chart := by
  cases ploamStep_cases h with
  | rxIrq arrived => exact .stay
  | @work msg rest hpop =>
      have htarget : ctx.target .work = ctx.msgTarget msg := by
        simp [target, nextMsg, hpop]
      rw [htarget]
      exact handleMsg_moved { ctx with rxQueue := rest } msg
  | to1Expiry hto1 => exact ploamStateTransition_moved { ctx with to1Timer := false } _
  | to2Expiry hto2 => exact ploamStateTransition_moved { ctx with to2Timer := false } _
  | signal hsignal htarget =>
      rw [htarget]
      exact ploamStateTransition_moved ctx _
  | quiet hsignal htarget =>
      rw [htarget]
      exact .stay

theorem ploamStep_state {ctx after : FalconPloamCtx} {event : PloamEvent}
    (h : ploamStep ctx event = some after) : after.state = (ctx.target event).getD ctx.state :=
  (ploamStep_moved h).state

end FalconGpon.Ploam
