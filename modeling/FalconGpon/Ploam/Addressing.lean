/-
# Messages for other ONUs

A downstream message is for another ONU by its ONU-ID, which the receive interrupt looks at, or
by its serial number, which only the handler of Assign_ONU-ID looks at. Without an ONU-ID
assigned the interrupt lets everything through.

`PairedRun` runs the machine beside itself without the messages for other ONUs.
`addressing_view` says which of these messages change what the ONU does, and that a run with
none of them is like the run beside it.
-/

import FalconGpon.Ploam.RxQueue
import FalconGpon.Ploam.Timers

namespace FalconGpon.Ploam

open FalconGpon.Lib

namespace FalconPloamCtx

variable (ctx : FalconPloamCtx) (msg : PloamMsg)

def NamesOther : Prop := msg.payload.get 0 ≠ 0x0F ∧ msg.payload.tail ≠ ctx.serialNumber

def ForOther : Prop :=
  msg.msgId = dsAssignOnuId ∧ ¬ ctx.ownSerialNumber msg ∨
    msg.msgId = dsDisableSerialNum ∧ ctx.NamesOther msg

def Foreign : Prop := ¬ msg.Addressed ctx.assignedOnuId ∨ ctx.ForOther msg

instance : Decidable (ctx.NamesOther msg) := inferInstanceAs (Decidable (_ ∧ _))

instance : Decidable (ctx.ForOther msg) := inferInstanceAs (Decidable (_ ∨ _))

instance : Decidable (ctx.Foreign msg) := inferInstanceAs (Decidable (_ ∨ _))

def receive : FalconPloamCtx :=
  if msg.Passes ctx.assignedOnuId then ctx.handleMsg msg else ctx

def view : PloamState × U8 × Bool × Bool × Bool :=
  (ctx.state, ctx.assignedOnuId, ctx.to1Timer, ctx.to2Timer, ctx.line.laser)

/-- The handler has something to change. -/
def Acts : Prop :=
  msg.msgId = dsUpstreamOverhead ∧ (ctx.state = .o1InitialRun ∨ ctx.state = .o2Standby) ∨
    msg.msgId = dsAssignOnuId ∧ ctx.ownSerialNumber msg ∧
      (ctx.state ≠ .o4Ranging ∨ msg.payload.get 8 ≠ ctx.assignedOnuId) ∨
    msg.msgId = dsRangingTime ∧ ctx.state = .o4Ranging ∨
    msg.msgId = dsDeactivateOnuId ∧ ctx.state ≠ .o2Standby ∨
    msg.msgId = dsDisableSerialNum ∧ ctx.state ≠ .o7Emergency

end FalconPloamCtx

open FalconPloamCtx

/-! ## One message -/

theorem ploamStateTransition_self {ctx : FalconPloamCtx} {newState : PloamState}
    (h : ctx.state = newState) : ctx.ploamStateTransition newState = ctx := if_pos h

section Message

variable {ctx : FalconPloamCtx} {msg : PloamMsg}

theorem view_ne_of_target {newState : PloamState} (htarget : ctx.msgTarget msg = some newState)
    (hne : newState ≠ ctx.state) : (ctx.handleMsg msg).view ≠ ctx.view := by
  intro hview
  have hstate : (ctx.handleMsg msg).state = newState := by
    have hmoved : (ctx.handleMsg msg).chart.state = _ := (handleMsg_moved ctx msg).state
    rw [htarget] at hmoved
    exact hmoved
  exact hne (hstate.symm.trans (congrArg Prod.fst hview))

/-- The handler changes what it has something to change of. -/
theorem view_ne_of_acts (hacts : ctx.Acts msg) : (ctx.handleMsg msg).view ≠ ctx.view := by
  rcases hacts with ⟨hid, hstate⟩ | ⟨hid, hown, hnew⟩ | ⟨hid, hstate⟩ | ⟨hid, hne⟩ | ⟨hid, hne⟩
  · have hmove : ctx.MsgMove msg .o3SerialNum := .overhead hid hstate
    refine view_ne_of_target (msgTarget_eq_some_iff.mpr hmove) fun hsame => ?_
    simp [← hsame] at hstate
  · have hmove : ctx.MsgMove msg .o4Ranging := .assign hid hown
    by_cases hstate : ctx.state = .o4Ranging
    · have honuId : msg.payload[8] ≠ ctx.assignedOnuId := hnew.resolve_left (not_not_intro hstate)
      have hhandled : (ctx.handleMsg msg).assignedOnuId = msg.payload[8] := by
        simp [handleMsg, hid, dsAssignOnuId, dsUpstreamOverhead, assignOnuId, hown,
          ploamStateTransition, setOnuId, sendAck, gtcPloamSend, hstate]
      intro hview
      exact honuId (hhandled.symm.trans (congrArg (fun view => view.2.1) hview))
    · exact view_ne_of_target (msgTarget_eq_some_iff.mpr hmove) (Ne.symm hstate)
  · have hmove : ctx.MsgMove msg .o5Operation := .ranging hid (.inl hstate)
    refine view_ne_of_target (msgTarget_eq_some_iff.mpr hmove) ?_
    rw [hstate]
    decide
  · have hmove : ctx.MsgMove msg .o2Standby := .deactivate hid
    exact view_ne_of_target (msgTarget_eq_some_iff.mpr hmove) (Ne.symm hne)
  · have hmove : ctx.MsgMove msg .o7Emergency := .disable hid
    exact view_ne_of_target (msgTarget_eq_some_iff.mpr hmove) (Ne.symm hne)

/-- And nothing else. -/
theorem view_eq_of_not_acts (hacts : ¬ ctx.Acts msg) : (ctx.handleMsg msg).view = ctx.view := by
  simp only [Acts, not_or, not_and, not_not] at hacts
  obtain ⟨hoverhead, hassign, hranging, hdeactivate, hdisable⟩ := hacts
  unfold handleMsg
  split
  · rename_i hid
    rw [upstreamOverhead]
    dsimp only
    rw [if_neg (fun hstate => hstate.elim (hoverhead hid).1 (hoverhead hid).2)]
    rfl
  split
  · rename_i hid
    rw [assignOnuId]
    split
    · rename_i hown
      have hstate := (hassign hid hown).1
      have honuId : msg.payload[8] = ctx.assignedOnuId := (hassign hid hown).2
      have hacked : ((ctx.setOnuId msg.payload[8]).sendAck msg.seqNum).state = .o4Ranging := hstate
      rw [ploamStateTransition_self hacked, honuId]
      rfl
    · rfl
  split
  · rename_i hid
    rw [rangingTime]
    split
    · rename_i hstate
      have hoperation : ctx.state = .o5Operation := hstate.resolve_left (hranging hid)
      rw [ploamStateTransition_self (by exact hoperation)]
      rfl
    · rfl
  split
  · rfl
  split
  · rename_i hid
    rw [ploamStateTransition_self (hdeactivate hid)]
  split
  · rename_i hid
    rw [ploamStateTransition_self (hdisable hid)]
  · rfl

theorem receive_view_iff (ctx : FalconPloamCtx) (msg : PloamMsg) :
    (ctx.receive msg).view = ctx.view ↔ ¬ (msg.Passes ctx.assignedOnuId ∧ ctx.Acts msg) := by
  rw [receive]
  split
  · rename_i hpasses
    constructor
    · exact fun hview hacts => view_ne_of_acts hacts.2 hview
    · exact fun hquiet => view_eq_of_not_acts fun hacts => hquiet ⟨hpasses, hacts⟩
  · rename_i hrejected
    exact iff_of_true rfl fun hacts => hrejected hacts.1

end Message

/-! ## Two contexts -/

/-- What decides over the view: the chart, the serial number and the timers. -/
structure Same (ctx other : FalconPloamCtx) : Prop where
  chart : ctx.chart = other.chart
  serialNumber : ctx.serialNumber = other.serialNumber
  scheduled : ctx.scheduled = other.scheduled

theorem serialNumber_ploamStateTransition (ctx : FalconPloamCtx) (newState : PloamState) :
    (ctx.ploamStateTransition newState).serialNumber = ctx.serialNumber :=
  congrArg Prod.fst (frame_ploamStateTransition ctx newState)

theorem filter_forOther_congr {ctx other : FalconPloamCtx}
    (h : ctx.serialNumber = other.serialNumber) (msgs : List PloamMsg) :
    msgs.filter (fun msg => ¬ ctx.ForOther msg) = msgs.filter fun msg => ¬ other.ForOther msg := by
  refine List.filter_congr fun msg _ => decide_eq_decide.mpr ?_
  rw [ForOther, ForOther, ownSerialNumber, ownSerialNumber, NamesOther, NamesOther, h]

theorem serialNumber_ploamStep {ctx after : FalconPloamCtx} {event : PloamEvent}
    (h : ploamStep ctx event = some after) : after.serialNumber = ctx.serialNumber := by
  cases ploamStep_cases h with
  | rxIrq arrived => rfl
  | @work msg rest hpop => exact congrArg Prod.fst (frame_handleMsg { ctx with rxQueue := rest } msg)
  | to1Expiry hto1 | to2Expiry hto2 | signal hsignal htarget =>
      exact serialNumber_ploamStateTransition _ _
  | quiet hsignal htarget => rfl

namespace Same

variable {ctx other : FalconPloamCtx}

section Steps

variable (h : Same ctx other)
include h

theorem state : ctx.state = other.state := congrArg Chart.state h.chart

theorem onuId : ctx.assignedOnuId = other.assignedOnuId :=
  congrArg Chart.onuId h.chart

theorem view : ctx.view = other.view := by
  have hto1 : ctx.to1Timer = other.to1Timer := congrFun h.scheduled .to1
  have hto2 : ctx.to2Timer = other.to2Timer := congrFun h.scheduled .to2
  have hlaser : ctx.line.laser = other.line.laser := congrArg Chart.laser h.chart
  rw [FalconPloamCtx.view, h.state, h.onuId, hto1, hto2, hlaser]
  rfl

theorem ploamStateTransition (newState : PloamState) :
    Same (ctx.ploamStateTransition newState) (other.ploamStateTransition newState) where
  chart := by rw [chart_ploamStateTransition, chart_ploamStateTransition, h.chart]
  serialNumber := by
    rw [serialNumber_ploamStateTransition, serialNumber_ploamStateTransition, h.serialNumber]
  scheduled := by
    funext timer
    rw [scheduled_ploamStateTransition, scheduled_ploamStateTransition, scheduledIn, scheduledIn,
      h.state, h.scheduled]

theorem setOnuId (onuId : U8) :
    Same (ctx.setOnuId onuId) (other.setOnuId onuId) where
  chart := by rw [chart_setOnuId, chart_setOnuId, h.chart]
  serialNumber := h.serialNumber
  scheduled := by rw [scheduled_setOnuId, scheduled_setOnuId, h.scheduled]

theorem gtcPloamSend (msg msg' : PloamMsg) :
    Same (ctx.gtcPloamSend msg) (other.gtcPloamSend msg') where
  chart := h.chart
  serialNumber := h.serialNumber
  scheduled := by rw [scheduled_gtcPloamSend, scheduled_gtcPloamSend, h.scheduled]

theorem upstreamOverhead (msg : PloamMsg) :
    Same (ctx.upstreamOverhead msg) (other.upstreamOverhead msg) := by
  have hoverhead (overhead : GponUsOverhead) :
      Same { ctx with overhead } { other with overhead } := ⟨h.chart, h.serialNumber, h.scheduled⟩
  have hstate := h.state
  unfold FalconPloamCtx.upstreamOverhead
  by_cases hstart : ctx.state = .o1InitialRun ∨ ctx.state = .o2Standby
  · have hother : other.state = .o1InitialRun ∨ other.state = .o2Standby := hstate ▸ hstart
    simp only [if_pos hstart, if_pos hother]
    exact ((hoverhead _).ploamStateTransition _).gtcPloamSend _ _
  · have hother : ¬ (other.state = .o1InitialRun ∨ other.state = .o2Standby) := hstate ▸ hstart
    simp only [if_neg hstart, if_neg hother]
    exact hoverhead _

theorem ownSerialNumber (msg : PloamMsg) :
    ctx.ownSerialNumber msg ↔ other.ownSerialNumber msg := by
  rw [FalconPloamCtx.ownSerialNumber, FalconPloamCtx.ownSerialNumber, h.serialNumber]

theorem assignOnuId (msg : PloamMsg) :
    Same (ctx.assignOnuId msg) (other.assignOnuId msg) := by
  unfold FalconPloamCtx.assignOnuId
  by_cases hown : ctx.ownSerialNumber msg
  · rw [if_pos hown, if_pos ((h.ownSerialNumber msg).mp hown)]
    exact ((h.setOnuId _).gtcPloamSend _ _).ploamStateTransition _
  · rw [if_neg hown, if_neg (mt (h.ownSerialNumber msg).mpr hown)]
    exact h

theorem rangingTime (msg : PloamMsg) :
    Same (ctx.rangingTime msg) (other.rangingTime msg) := by
  have heqd (eqd : U32) : Same (ctx.setEqd eqd) (other.setEqd eqd) :=
    ⟨h.chart, h.serialNumber, by rw [scheduled_setEqd, scheduled_setEqd, h.scheduled]⟩
  have hstate := h.state
  unfold FalconPloamCtx.rangingTime
  by_cases hranged : ctx.state = .o4Ranging ∨ ctx.state = .o5Operation
  · have hother : other.state = .o4Ranging ∨ other.state = .o5Operation := hstate ▸ hranged
    rw [if_pos hranged, if_pos hother]
    exact ((heqd _).gtcPloamSend _ _).ploamStateTransition _
  · have hother : ¬ (other.state = .o4Ranging ∨ other.state = .o5Operation) := hstate ▸ hranged
    rw [if_neg hranged, if_neg hother]
    exact h

/-- A message is handled in the same way. -/
theorem handleMsg (msg : PloamMsg) :
    Same (ctx.handleMsg msg) (other.handleMsg msg) := by
  unfold FalconPloamCtx.handleMsg
  split
  · exact h.upstreamOverhead msg
  split
  · exact h.assignOnuId msg
  split
  · exact h.rangingTime msg
  split
  · exact h.gtcPloamSend _ _
  split
  · exact h.ploamStateTransition _
  split
  · exact h.ploamStateTransition _
  · exact h

/-- A step without messages is the same. -/
theorem ploamStep {event : PloamEvent} {after : FalconPloamCtx}
    (hrxIrq : ∀ arrived, event ≠ .rxIrq arrived) (hwork : event ≠ .work)
    (hstep : ploamStep ctx event = some after) :
    ∃ after', Ploam.ploamStep other event = some after' ∧ Same after after' := by
  have hstate := h.state
  cases event with
  | rxIrq arrived => exact absurd rfl (hrxIrq arrived)
  | work => exact absurd rfl hwork
  | to1Expiry =>
      obtain ⟨hscheduled, hafter⟩ := Option.ite_none_right_eq_some.mp hstep
      obtain rfl := Option.some.inj hafter
      have hother : other.to1Timer = true := (congrFun h.scheduled .to1).symm.trans hscheduled
      have hcancelled : Same { ctx with to1Timer := false } { other with to1Timer := false } := by
        refine ⟨h.chart, h.serialNumber, ?_⟩
        funext timer
        cases timer with
        | to1 => rfl
        | to2 => exact congrFun h.scheduled .to2
      exact ⟨_, if_pos hother, hcancelled.ploamStateTransition _⟩
  | to2Expiry =>
      obtain ⟨hscheduled, hafter⟩ := Option.ite_none_right_eq_some.mp hstep
      obtain rfl := Option.some.inj hafter
      have hother : other.to2Timer = true := (congrFun h.scheduled .to2).symm.trans hscheduled
      have hcancelled : Same { ctx with to2Timer := false } { other with to2Timer := false } := by
        refine ⟨h.chart, h.serialNumber, ?_⟩
        funext timer
        cases timer with
        | to1 => exact congrFun h.scheduled .to1
        | to2 => rfl
      exact ⟨_, if_pos hother, hcancelled.ploamStateTransition _⟩
  | los los =>
      obtain rfl := Option.some.inj hstep
      refine ⟨_, rfl, ?_⟩
      cases los with
      | false => exact h
      | true => exact h.ploamStateTransition _
  | lof lof =>
      obtain rfl := Option.some.inj hstep
      refine ⟨_, rfl, ?_⟩
      unfold falconPloamEventLof
      rw [← hstate]
      split
      · split
        · exact h.ploamStateTransition _
        · exact h.ploamStateTransition _
      · split
        · exact h.ploamStateTransition _
        · exact h

end Steps

end Same

/-! ## Two runs -/

/-- A context, and what it would be without the messages for other ONUs. -/
structure PairedRun where
  full : FalconPloamCtx
  own : FalconPloamCtx

namespace PairedRun

/-- The messages for other ONUs do not arrive, and a message is handled in the round that
handles it in the full run. -/
def ownEvent (run : PairedRun) : PloamEvent → Option PloamEvent
  | .rxIrq arrived => some (.rxIrq (arrived.filter fun words => ¬ run.full.Foreign words.msg))
  | .work => if run.own.nextMsg = run.full.nextMsg then some .work else none
  | .to1Expiry => some .to1Expiry
  | .to2Expiry => some .to2Expiry
  | .los los => some (.los los)
  | .lof lof => some (.lof lof)

def ownStep (run : PairedRun) (event : PloamEvent) : FalconPloamCtx :=
  ((run.ownEvent event).bind (ploamStep run.own)).getD run.own

def step (run : PairedRun) (event : PloamEvent) : Option PairedRun :=
  (ploamStep run.full event).map fun full => ⟨full, run.ownStep event⟩

def Agrees (run : PairedRun) : Prop := run.full.view = run.own.view

instance (run : PairedRun) : Decidable run.Agrees := inferInstanceAs (Decidable (_ = _))

/-- The steps at which messages for other ONUs do no harm: the interrupt can cope with what has
arrived, and no Disable_Serial_Number that names another ONU is handled outside of O7. -/
def Harmless (run : PairedRun) : PloamEvent → Prop
  | .rxIrq arrived => Fits run.full arrived
  | .work => ∀ msg ∈ run.full.nextMsg, msg.msgId = dsDisableSerialNum → run.full.NamesOther msg →
      run.full.state = .o7Emergency
  | _ => True

instance (run : PairedRun) : DecidablePred run.Harmless
  | .rxIrq arrived => inferInstanceAs (Decidable (Fits run.full arrived))
  | .work => inferInstanceAs (Decidable (∀ msg ∈ run.full.nextMsg, _))
  | .to1Expiry | .to2Expiry | .los _ | .lof _ => isTrue trivial

/-- Both contexts are the same but for the messages for other serial numbers that wait in the
ring. -/
structure Sound (run : PairedRun) : Prop where
  same : Same run.full run.own
  drained : run.full.gtc.dsFifo = [] ∧ run.own.gtc.dsFifo = []
  ring : run.own.rxQueue.contents =
    run.full.rxQueue.contents.filter fun msg => ¬ run.full.ForOther msg

namespace Sound

variable {run after : PairedRun}

/-- The interrupt puts the same messages into both rings, but for those for other serial
numbers. -/
theorem rxIrq (h : run.Sound) {arrived : List PloamWords} (hfits : Fits run.full arrived)
    (hstep : run.step (.rxIrq arrived) = some after) : after.Sound := by
  obtain ⟨full, hfull, hfullFifo, hfullRing⟩ := ploamStep_rxIrq h.drained.1 arrived
  obtain ⟨own, hown, hownFifo, hownRing⟩ := ploamStep_rxIrq h.drained.2
    (arrived.filter fun words => ¬ run.full.Foreign words.msg)
  have hafter : after = ⟨full, own⟩ := by
    rw [step, hfull, ownStep, ownEvent, Option.bind_some, hown] at hstep
    exact (Option.some.inj hstep).symm
  subst hafter
  have honuId : run.own.assignedOnuId = run.full.assignedOnuId := h.same.onuId.symm
  -- what is for this ONU is in both runs
  have hmsgs : addressedMsgs run.own.assignedOnuId
      (arrived.filter fun words => ¬ run.full.Foreign words.msg) =
        (addressedMsgs run.full.assignedOnuId arrived).filter fun msg => ¬ run.full.ForOther msg := by
    rw [addressedMsgs, addressedMsgs, honuId, List.filter_map, List.filter_map, List.filter_map,
      List.filter_filter, List.filter_filter]
    congr 1
    refine List.filter_congr fun words _ => ?_
    simp [Foreign, Bool.and_comm]
  have hown' : ∀ words ∈ arrived.filter (fun words => ¬ run.full.Foreign words.msg),
      words.msg.Addressed run.own.assignedOnuId := by
    intro words hwords
    have hkept := of_decide_eq_true (List.mem_filter.mp hwords).2
    rw [honuId]
    exact not_not.mp (not_or.mp hkept).1
  have hroom : run.own.rxQueue.length + (addressedMsgs run.own.assignedOnuId
      (arrived.filter fun words => ¬ run.full.Foreign words.msg)).length < 64 := by
    have hring := congrArg List.length h.ring
    have hle := List.length_filter_le (fun msg => ¬ run.full.ForOther msg) run.full.rxQueue.contents
    have hle' := List.length_filter_le (fun msg => ¬ run.full.ForOther msg)
      (addressedMsgs run.full.assignedOnuId arrived)
    rw [Ring.length_contents] at hring hle
    have hfull' := hfits.room
    rw [hmsgs]
    omega
  have hpassing : ∀ words ∈ (arrived.filter fun words => ¬ run.full.Foreign words.msg).dropLast,
      words.msg.Passes run.own.assignedOnuId :=
    fun words hwords => (hown' words (List.dropLast_subset _ hwords)).passes
  rw [takeWhile_msgs hfits.unfiltered hfits.addressed] at hfullRing
  rw [takeWhile_msgs hpassing fun words hwords _ => hown' words hwords] at hownRing
  have hfullContents := Ring.contents_pushAll _ hfits.room
  have hownContents := Ring.contents_pushAll _ hroom
  rw [← hfullRing] at hfullContents
  rw [← hownRing] at hownContents
  have hnumber := serialNumber_ploamStep hfull
  refine ⟨?_, ⟨?_, ?_⟩, ?_⟩
  · obtain rfl := Option.some.inj hfull
    obtain rfl := Option.some.inj hown
    exact ⟨h.same.chart, h.same.serialNumber, h.same.scheduled⟩
  · dsimp only
    rw [hfullFifo, tail_dropWhile_eq_nil_iff]
    simpa using hfits.unfiltered
  · dsimp only
    rw [hownFifo, tail_dropWhile_eq_nil_iff]
    simpa using hpassing
  · dsimp only
    rw [hownContents, hfullContents, List.filter_append, h.ring, hmsgs, filter_forOther_congr hnumber,
      filter_forOther_congr hnumber]

/-- A message for another serial number changes nothing, and any other is next in both rings. -/
theorem work (h : run.Sound) (hharmless : run.Harmless .work)
    (hstep : run.step .work = some after) : after.Sound := by
  obtain ⟨full, hfull, rfl⟩ := Option.map_eq_some_iff.mp hstep
  obtain ⟨msg, rest, hpop, hring, hfifo⟩ := ploamStep_work hfull
  have hnext : run.full.nextMsg = some msg := by rw [nextMsg, hpop]; rfl
  have hcontents := Ring.contents_pop hpop
  have hnumber := serialNumber_ploamStep hfull
  have hhandled : full = { run.full with rxQueue := rest }.handleMsg msg := by
    rw [ploamStep, falconPloamFsmWorker, hpop] at hfull
    exact (Option.some.inj hfull).symm
  have hownRing := h.ring
  rw [hcontents, List.filter_cons] at hownRing
  by_cases hother : run.full.ForOther msg
  · -- the other run has no such message
    have hown : run.ownEvent .work = none := by
      refine if_neg fun hsame => ?_
      have hmem : msg ∈ run.own.rxQueue.contents := by
        rw [hnext, nextMsg] at hsame
        obtain ⟨⟨_, rest'⟩, hpop', rfl⟩ := Option.map_eq_some_iff.mp hsame
        rw [Ring.contents_pop hpop']
        exact List.mem_cons_self
      rw [h.ring] at hmem
      simp [hother] at hmem
    rw [ownStep, hown]
    have hquiet : full = { run.full with rxQueue := rest } := by
      rw [hhandled]
      rcases hother with ⟨hid, hnotOwn⟩ | ⟨hid, hnames⟩
      · have hassign : ({ run.full with rxQueue := rest } : FalconPloamCtx).assignOnuId msg =
            { run.full with rxQueue := rest } := if_neg hnotOwn
        rw [handleMsg, hid]
        simpa [dsAssignOnuId, dsUpstreamOverhead] using hassign
      · have hstate := hharmless msg hnext hid hnames
        have hstay : ({ run.full with rxQueue := rest } : FalconPloamCtx).ploamStateTransition
            .o7Emergency = { run.full with rxQueue := rest } := ploamStateTransition_self hstate
        rw [handleMsg, hid]
        simpa [dsDisableSerialNum, dsDeactivateOnuId, dsRequestPassword, dsRangingTime,
          dsAssignOnuId, dsUpstreamOverhead] using hstay
    refine ⟨?_, ⟨hfifo.trans h.drained.1, h.drained.2⟩, ?_⟩
    · rw [hquiet]
      exact ⟨h.same.chart, h.same.serialNumber, h.same.scheduled⟩
    · dsimp only [Option.bind_none, Option.getD_none]
      rw [hring, filter_forOther_congr hnumber, hownRing, if_neg (by simpa using hother)]
  · rw [if_pos (by simpa using hother)] at hownRing
    -- it is the next message there, too
    cases hpop' : run.own.rxQueue.pop with
    | none =>
        rw [(Ring.pop_eq_none_iff _).mp hpop'] at hownRing
        cases hownRing
    | some entry =>
        obtain ⟨msg', rest'⟩ := entry
        rw [Ring.contents_pop hpop'] at hownRing
        obtain ⟨rfl, hrest⟩ := List.cons.inj hownRing
        have hown : run.ownEvent .work = some .work := by
          refine if_pos ?_
          rw [hnext, nextMsg, hpop']
          rfl
        have hownStep : ploamStep run.own .work =
            some (({ run.own with rxQueue := rest' } : FalconPloamCtx).handleMsg msg') := by
          rw [ploamStep, falconPloamFsmWorker, hpop']
        obtain ⟨_, _, hpop'', hring', hfifo'⟩ := ploamStep_work hownStep
        rw [hpop'] at hpop''
        obtain ⟨rfl, rfl⟩ := Prod.mk.inj (Option.some.inj hpop'')
        rw [ownStep, hown, Option.bind_some, hownStep]
        refine ⟨?_, ⟨hfifo.trans h.drained.1, hfifo'.trans h.drained.2⟩, ?_⟩
        · have hpopped : Same { run.full with rxQueue := rest } { run.own with rxQueue := rest' } :=
            ⟨h.same.chart, h.same.serialNumber, h.same.scheduled⟩
          dsimp only [Option.getD_some]
          rw [hhandled]
          exact hpopped.handleMsg _
        · dsimp only [Option.getD_some]
          rw [hring, hring', filter_forOther_congr hnumber, hrest]

/-- The other events. -/
theorem other (h : run.Sound) {event : PloamEvent} (hrxIrq : ∀ arrived, event ≠ .rxIrq arrived)
    (hwork : event ≠ .work) (hstep : run.step event = some after) : after.Sound := by
  obtain ⟨full, hfull, rfl⟩ := Option.map_eq_some_iff.mp hstep
  obtain ⟨own, hown, hsame⟩ := h.same.ploamStep hrxIrq hwork hfull
  have hownEvent : run.ownEvent event = some event := by
    cases event with
    | rxIrq arrived => exact absurd rfl (hrxIrq arrived)
    | work => exact absurd rfl hwork
    | to1Expiry | to2Expiry | los los | lof lof => rfl
  have hnumber := serialNumber_ploamStep hfull
  have hfullRx := rx_ploamStep hfull hrxIrq hwork
  have hownRx := rx_ploamStep hown hrxIrq hwork
  rw [ownStep, hownEvent, Option.bind_some, hown]
  refine ⟨hsame, ⟨?_, ?_⟩, ?_⟩
  · exact (congrArg Prod.snd hfullRx).trans h.drained.1
  · exact (congrArg Prod.snd hownRx).trans h.drained.2
  · have hfullRing : full.rxQueue = run.full.rxQueue := congrArg Prod.fst hfullRx
    have hownRing : own.rxQueue = run.own.rxQueue := congrArg Prod.fst hownRx
    dsimp only [Option.getD_some]
    rw [hfullRing, hownRing, filter_forOther_congr hnumber]
    exact h.ring

theorem step (h : run.Sound) {event : PloamEvent} (hharmless : run.Harmless event)
    (hstep : run.step event = some after) : after.Sound := by
  cases event with
  | rxIrq arrived => exact h.rxIrq hharmless hstep
  | work => exact h.work hharmless hstep
  | to1Expiry | to2Expiry | los los | lof lof => exact h.other (by simp) (by simp) hstep

end Sound

/-- Both contexts right after `falcon_ploam_init`. -/
def start (callbacks : Callbacks) (sn : Option (Vector U8 8)) (pwd : Option (Vector U8 10)) :
    PairedRun where
  full := startCtx callbacks sn pwd
  own := startCtx callbacks sn pwd

theorem sound_start (callbacks : Callbacks) (sn : Option (Vector U8 8))
    (pwd : Option (Vector U8 10)) : (start callbacks sn pwd).Sound :=
  ⟨⟨rfl, rfl, rfl⟩, ⟨rfl, rfl⟩, rfl⟩

end PairedRun

open PairedRun

/-- Whatever the state, a message for another ONU leaves state, ONU-ID, timers and laser as they
are if and only if it does not both pass the filter and act; and along a run whose steps are
harmless they are what they would be if the messages for other ONUs had not arrived. -/
theorem addressing_view (callbacks : Callbacks) (sn : Option (Vector U8 8))
    (pwd : Option (Vector U8 10)) : (∀ ctx : FalconPloamCtx, ∀ msg : PloamMsg,
      (ctx.Foreign msg → (ctx.receive msg).view = ctx.view) ↔
        ¬ (ctx.Foreign msg ∧ msg.Passes ctx.assignedOnuId ∧ ctx.Acts msg)) ∧
      ∀ events,
        Along PairedRun.step (fun before event _ => before.Harmless event)
          (.start callbacks sn pwd) events →
        Along PairedRun.step (fun _ _ after => after.Agrees) (.start callbacks sn pwd) events := by
  constructor
  · intro ctx msg
    rw [receive_view_iff]
    exact not_and.symm
  · intro events hharmless
    exact Along.of_guard
      (fun before event after hsound hguard hstep =>
        ⟨(hsound.step hguard hstep).same.view, hsound.step hguard hstep⟩)
      (sound_start callbacks sn pwd) hharmless

def mixedMsgs : List PloamWords :=
  let assign := { PloamMsg.zero with onuId := broadcastOnuId, msgId := dsAssignOnuId }
  [PloamMsg.words { assign with payload := defaultSerialNumber.push 1 }, assign.words]

theorem addressing_view_mixed :
    Along PairedRun.step (fun _ _ after => after.Agrees)
      (.start probedCtx.callbacks none none)
      [.rxIrq mixedMsgs, .work, .work, .rxIrq [sampleMsg 2 dsDeactivateOnuId], .lof true] :=
  (addressing_view _ _ _).2 _ (by decide +kernel)

/-- A Disable_Serial_Number that names another ONU stops this one. -/
def disableOther : PloamMsg :=
  { PloamMsg.zero with
    onuId := broadcastOnuId
    msgId := dsDisableSerialNum
    payload := #v[0xFF, 1, 2, 3, 4, 5, 6, 7, 8] }

theorem addressing_not_view : (¬ ∀ ctx : FalconPloamCtx, ∀ msg : PloamMsg,
        ctx.Foreign msg → (ctx.receive msg).view = ctx.view) ∧
      ¬ ∀ events, Along PairedRun.step (fun _ _ after => after.Agrees)
        (.start probedCtx.callbacks none none) events := by
  constructor
  · intro hall
    have hmsg := hall (startCtx probedCtx.callbacks none none) disableOther
    revert hmsg
    decide +kernel
  · intro hall
    have hrun := hall [.rxIrq [disableOther.words], .work]
    revert hrun
    decide +kernel

end FalconGpon.Ploam
